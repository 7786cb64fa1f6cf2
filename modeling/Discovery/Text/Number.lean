import Discovery.Text.Digit
/-!
# Reading unsigned numbers

An unsigned number is written as an optional plus sign and one or more ASCII digits,
and its value must fit in the given number of bits. Digits are read from the left;
at each digit it is first checked that it is a digit, then that the value so far still
fits, so a text that overflows before its first stray character is too large and one
that has a stray character before overflowing has an invalid digit.
-/

namespace Discovery.Text

/-- Why a text is not an unsigned number. -/
inductive NumberError where
  | empty
  | invalidDigit
  | tooLarge
  deriving DecidableEq, Repr

/-- The wording of each reason. -/
def NumberError.message : NumberError → String
  | .empty => "cannot parse integer from empty string"
  | .invalidDigit => "invalid digit found in string"
  | .tooLarge => "number too large to fit in target type"

/-- Fold the digits into `acc`, below `2 ^ bits`. -/
def readDigits (bits : Nat) : Nat → List Char → Except NumberError Nat
  | acc, [] => .ok acc
  | acc, c :: cs =>
    match asciiDigit? c with
    | none => .error .invalidDigit
    | some d =>
      if acc * 10 + d < Nat.pow 2 bits then readDigits bits (acc * 10 + d) cs else .error .tooLarge

/-- An unsigned number of `bits` bits. -/
def readUnsignedChars (bits : Nat) : List Char → Except NumberError Nat
  | [] => .error .empty
  | ['+'] => .error .invalidDigit
  | '+' :: cs => readDigits bits 0 cs
  | cs => readDigits bits 0 cs

/-- An unsigned number of `bits` bits. -/
def readUnsigned (bits : Nat) (s : String) : Except NumberError Nat :=
  readUnsignedChars bits s.toList

end Discovery.Text
