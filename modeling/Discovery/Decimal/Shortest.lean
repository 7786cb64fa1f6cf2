import Discovery.Decimal.Binary
/-!
# The shortest decimal of a binary64 value, written out

The reals that round to a binary value `m * 2 ^ q` lie between the halfway points to its
two neighbours, the ends included exactly when `m` is even. Below a power of two the
neighbour under the value is half as far as the one above (`narrowBelow`). A decimal
stands for the value when it lies in that interval (`readsBack`).

`shortest` finds the decimal with the fewest digits that stands for the value. It tries
the grids `10 ^ k` from coarse to fine; on each, the two grid points next to the value
are the only candidates, and the first grid with one of them inside wins. When both are
inside, the nearer wins, and on an exact tie the upper one. Trailing zeros go into the
exponent.

`plainText` writes a decimal out without an exponent: the digits with the point inside,
after them with zeros, or before them behind `0.` and zeros.
-/

namespace Discovery.Decimal

/-- A decimal `digits * 10 ^ exponent`. -/
structure Dec where
  digits : Nat
  exponent : Int
  deriving DecidableEq, Repr

/-- The gap to the value below is half the gap to the value above. -/
def Binary.narrowBelow (x : Binary) : Bool :=
  x.mantissa = 4503599627370496 && decide (x.exponent > -1074)

/-- Compare `a * 10 ^ i` with `n * 2 ^ j`, exactly. -/
def cmpScaled (a : Nat) (i : Int) (n : Nat) (j : Int) : Ordering :=
  compare (a * Nat.pow 10 i.toNat * Nat.pow 2 (-j).toNat) (n * Nat.pow 2 j.toNat * Nat.pow 10 (-i).toNat)

/-- The decimal lies among the reals that round to the value. -/
def Binary.readsBack (x : Binary) (d : Dec) : Bool :=
  let lo := if x.narrowBelow then 4 * x.mantissa - 1 else 4 * x.mantissa - 2
  let hi := 4 * x.mantissa + 2
  let incl := x.mantissa % 2 == 0
  let cl := cmpScaled d.digits d.exponent lo (x.exponent - 2)
  let ch := cmpScaled d.digits d.exponent hi (x.exponent - 2)
  (cl == .gt || (incl && cl == .eq)) && (ch == .lt || (incl && ch == .eq))

/-- The number of binary digits of the mantissa. -/
def Binary.bits (x : Binary) : Nat := Nat.log2 x.mantissa + 1

/-- A decimal exponent `k` with the value below `10 ^ k`: `log10 2` is a little over
`1233 / 4096`, and two more cover the error of that estimate. -/
def Binary.scaleBound (x : Binary) : Int :=
  ((x.exponent + x.bits) * 1233) / 4096 + 2

/-- The grid point at or below the value on the grid `10 ^ k`, as a count of steps. -/
def Binary.floorOnGrid (x : Binary) (k : Int) : Nat :=
  (x.mantissa * Nat.pow 2 x.exponent.toNat * Nat.pow 10 (-k).toNat) /
    (Nat.pow 2 (-x.exponent).toNat * Nat.pow 10 k.toNat)

/-- The upper of two grid points is at least as near to the value as the lower one. -/
def Binary.upperIsNearer (x : Binary) (t : Nat) (k : Int) : Bool :=
  cmpScaled (2 * t + 1) k (2 * x.mantissa) x.exponent != .gt

/-- On the grid `10 ^ k`, the grid point next to the value that stands for it, the nearer
of two, the upper one on a tie. -/
def Binary.onGrid (x : Binary) (k : Int) : Option Dec :=
  let t := x.floorOnGrid k
  let low : Dec := ⟨t, k⟩
  let high : Dec := ⟨t + 1, k⟩
  match x.readsBack low, x.readsBack high with
  | true, true => some (if x.upperIsNearer t k then high else low)
  | true, false => some low
  | false, true => some high
  | false, false => none

/-- Trailing zeros of the digits moved into the exponent. -/
def Dec.strip (d : Dec) : Dec :=
  go d.digits d.exponent (d.digits + 1)
where
  go (n : Nat) (e : Int) : Nat → Dec
    | 0 => ⟨n, e⟩
    | fuel + 1 => if n ≠ 0 && n % 10 = 0 then go (n / 10) (e + 1) fuel else ⟨n, e⟩

/-- The exact decimal of a value: `m * 2 ^ q` is `m * 5 ^ (-q) * 10 ^ q` for a negative `q`. -/
def Binary.exact (x : Binary) : Dec :=
  if x.exponent ≥ 0 then ⟨x.mantissa * Nat.pow 2 x.exponent.toNat, 0⟩
  else ⟨x.mantissa * Nat.pow 5 x.exponent.natAbs, x.exponent⟩

/-- The grids tried, from coarse to fine: twenty-four of them reach past the seventeenth
digit. -/
def Binary.grids (x : Binary) : List Int :=
  (List.range 24).map fun (i : Nat) => x.scaleBound - (i : Int)

/-- The decimal with the fewest digits that stands for a non-zero value. -/
def Binary.shortest (x : Binary) : Dec :=
  match x.grids.findSome? x.onGrid with
  | some d => d.strip
  | none => x.exact.strip

/-- The decimal digits of a natural number. -/
def digitText (n : Nat) : String := toString n

/-- A decimal written without an exponent; a whole number has no point. -/
def Dec.plainText (d : Dec) : String :=
  let ds := digitText d.digits
  let n : Int := ds.length
  let lead := d.exponent + n
  if d.exponent ≥ 0 then ds ++ String.ofList (List.replicate d.exponent.toNat '0')
  else if lead ≤ 0 then "0." ++ String.ofList (List.replicate lead.natAbs '0') ++ ds
  else
    String.ofList (ds.toList.take lead.toNat) ++ "." ++ String.ofList (ds.toList.drop lead.toNat)

/-- A value written without an exponent: zero as `0`, any other by its shortest decimal. -/
def Binary.plainText (x : Binary) : String :=
  if x.isZero then "0" else x.shortest.plainText

end Discovery.Decimal
