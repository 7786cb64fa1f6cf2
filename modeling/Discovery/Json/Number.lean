import Discovery.Json.Value
import Discovery.Decimal.Binary
/-!
# What a number of a document stands for

A number written as an integer stands for a 64-bit integer when it fits one: an unsigned
one from zero up, a signed one below zero. Every other number stands for a binary64
value, computed from its digits in a fixed way:

* the digits, those before the point and then those after it, are gathered into a 64-bit
  significand while it does not overflow; the first digit that would overflow it and all
  after it are dropped, except that the digits dropped before the point each raise the
  exponent by one, and the digits gathered after the point each lower it by one;
* the exponent written is added, the sum held within 32 bits;
* the significand, rounded, is multiplied by the rounded power of ten, or divided by it
  for a negative exponent; a power beyond `10 ^ 308` is divided out in steps of
  `10 ^ 308` until the rest is in range or the value is zero.

A product beyond the finite range, and an exponent written with more than 32 bits on a
non-zero value that it would raise, give no value. Minus zero is a binary value, not an
integer.
-/

namespace Discovery.Json

open Decimal

/-- What a number stands for. -/
inductive Numeric where
  | unsigned (n : Nat)
  | signed (n : Int)
  /-- A binary64 value and its sign; `none` beyond the finite range. -/
  | binary (negative : Bool) (value : Option Binary)
  deriving Repr

/-- The largest 64-bit significand. -/
def significandLimit : Nat := 18446744073709551615

/-- The largest exponent magnitude of 32 bits. -/
def exponentLimit : Nat := 2147483647

/-- Digits gathered into the significand `s` from the front while it fits 64 bits: the
significand and how many digits went in. -/
def gather (s : Nat) : List Nat → Nat × Nat
  | [] => (s, 0)
  | d :: ds =>
    if s * 10 + d > significandLimit then (s, 0)
    else
      let r := gather (s * 10 + d) ds
      (r.1, r.2 + 1)

/-- An exponent held within 32 bits. -/
def clampExponent (e : Int) : Int :=
  max (min e exponentLimit) (-(exponentLimit : Int) - 1)

/-- The value `f * 10 ^ e`, dividing out powers beyond `10 ^ 308` in steps. -/
def scaleStep (f : Binary) (e : Int) : Nat → Option Binary
  | 0 => some f
  | fuel + 1 =>
    if e.natAbs ≤ 308 then
      if e ≥ 0 then
        let r := f.mul (powTen e.toNat)
        if r.isFinite then some r else none
      else some (f.div (powTen e.natAbs))
    else if f.isZero then some f
    else if e ≥ 0 then none
    else scaleStep (f.div (powTen 308)) (e + 308) fuel

/-- The significand `s` times ten to the exponent `e`. -/
def scaleByTen (s : Nat) (e : Int) : Option Binary :=
  scaleStep (ofNat s) e (e.natAbs / 308 + 1)

/-- The binary value of a number with these digits before and after the point and this
written exponent. -/
def binaryOf (whole fraction : List Nat) (exponent : Int) : Option Binary :=
  let (s1, k1) := gather 0 whole
  let (s, k2) := gather s1 fraction
  let start : Int := ((whole.length - k1 : Nat) : Int) - (k2 : Int)
  if exponent.natAbs > exponentLimit then
    if s = 0 || exponent < 0 then some (ofNat 0) else none
  else scaleByTen s (clampExponent (start + exponent))

/-- The decimal digits of a natural number, most significant first. -/
def digitsOf (n : Nat) : List Nat := (Nat.toDigits 10 n).map fun c => c.toNat - 48

/-- What a number stands for; `none` for a value that is no number. -/
def numeric? : Json → Option Numeric
  | .num n =>
    if 0 ≤ n ∧ n ≤ (significandLimit : Int) then some (.unsigned n.toNat)
    else if -9223372036854775808 ≤ n ∧ n < 0 then some (.signed n)
    else some (.binary (decide (n < 0)) (binaryOf (digitsOf n.natAbs) [] 0))
  | .dec neg whole fraction e => some (.binary neg (binaryOf whole fraction e))
  | _ => none

end Discovery.Json
