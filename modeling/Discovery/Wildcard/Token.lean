/-!
# Probe names

Calibration probes paths that surely do not exist: names of lowercase hexadecimal
digits drawn at random. A name is the first digits of the 32-digit writing of a
128-bit number, so it has at most 32 characters.

`length_token` gives the length of a name.
-/

namespace Discovery.Wildcard

/-- A lowercase hexadecimal digit. -/
def lowerHexDigit (n : Nat) : Char :=
  if n < 10 then Char.ofNat (48 + n) else Char.ofNat (87 + n)

/-- The `k` lowest hexadecimal digits of `r`, most significant first. -/
def hexDigits : Nat → Nat → List Char
  | 0, _ => []
  | k + 1, r => hexDigits k (r / 16) ++ [lowerHexDigit (r % 16)]

/-- A probe name of `len` characters, at most 32, from the number `r`. -/
def token (r len : Nat) : String := String.ofList ((hexDigits 32 r).take len)

theorem length_hexDigits : ∀ k r, (hexDigits k r).length = k
  | 0, _ => rfl
  | k + 1, r => by simp [hexDigits, length_hexDigits k]

theorem length_token (r len : Nat) : (token r len).length = min len 32 := by
  simp [token, length_hexDigits]

end Discovery.Wildcard
