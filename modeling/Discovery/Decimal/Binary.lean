/-!
# Binary64 values and rounding to them

A finite non-negative binary64 value is `m * 2 ^ q` with a mantissa below `2 ^ 53` and
an exponent of at least `-1074`; a normal value has a mantissa of at least `2 ^ 52`,
and only the exponent `-1074` takes smaller ones. The sign is kept apart by whoever
needs it.

`round n d` gives the value nearest to the quotient `n / d`, a tie going to the even
mantissa. Products and quotients of values are rounded the same way, from their exact
results, which is what binary64 arithmetic does. A value whose exponent passes `971`
stands for a result beyond the finite range.
-/

namespace Discovery.Decimal

/-- A non-negative binary64 value `mantissa * 2 ^ exponent`. -/
structure Binary where
  mantissa : Nat
  exponent : Int
  deriving DecidableEq, Repr

/-- `n * 2 ^ e` as a quotient of two naturals. -/
def scaledPair (n : Nat) (e : Int) : Nat × Nat :=
  if e ≥ 0 then (n * Nat.pow 2 e.toNat, 1) else (n, Nat.pow 2 e.natAbs)

/-- `n / d ≥ 2 ^ e`, compared exactly. -/
def atLeastPow (n d : Nat) (e : Int) : Bool :=
  if e ≥ 0 then decide (n ≥ d * Nat.pow 2 e.toNat) else decide (n * Nat.pow 2 e.natAbs ≥ d)

/-- The exponent of the binary value nearest to `n / d`, before rounding: the leading
bit's place less 52, and never below `-1074`. -/
def roundingExponent (n d : Nat) : Int :=
  let e0 : Int := (Nat.log2 n : Int) - (Nat.log2 d : Int)
  let lead := if atLeastPow n d e0 then e0 else e0 - 1
  max (lead - 52) (-1074)

/-- The binary value nearest to `n / d`; a tie goes to the even mantissa. -/
def round (n d : Nat) : Binary :=
  if n = 0 then ⟨0, -1074⟩
  else
    let q := roundingExponent n d
    let (a, b) := if q ≥ 0 then (n, d * Nat.pow 2 q.toNat) else (n * Nat.pow 2 q.natAbs, d)
    let m := a / b
    let r := a % b
    let m := if 2 * r > b || (2 * r = b && m % 2 = 1) then m + 1 else m
    if m = 9007199254740992 then ⟨4503599627370496, q + 1⟩ else ⟨m, q⟩

/-- A natural number, rounded. -/
def ofNat (n : Nat) : Binary := round n 1

/-- Ten to the power `k`, rounded. -/
def powTen (k : Nat) : Binary := ofNat (Nat.pow 10 k)

/-- The value is zero. -/
def Binary.isZero (x : Binary) : Bool := x.mantissa = 0

/-- The value lies in the finite range. -/
def Binary.isFinite (x : Binary) : Bool := decide (x.exponent ≤ 971)

/-- The rounded product. -/
def Binary.mul (x y : Binary) : Binary :=
  let (n, d) := scaledPair (x.mantissa * y.mantissa) (x.exponent + y.exponent)
  round n d

/-- The rounded quotient; `y` is not zero. -/
def Binary.div (x y : Binary) : Binary :=
  let (n1, d1) := scaledPair x.mantissa x.exponent
  let (n2, d2) := scaledPair y.mantissa y.exponent
  round (n1 * d2) (d1 * n2)

end Discovery.Decimal
