/-!
# Quoted text in messages

Messages quote a text between double quotes, escaping the backslash, the double quote,
tab, carriage return, line feed and NUL with a backslash, and writing the other
control characters, and the invisible formatting characters, as `\u` with the
hexadecimal code point in braces. Everything else stands for itself.
-/

namespace Discovery.Text

/-- Lowercase hexadecimal digits of a number. -/
def lowerHex (n : Nat) : String := String.ofList (Nat.toDigits 16 n)

/-- Characters that are written as code points: controls and invisible formatting. -/
def isUnprintable (c : Char) : Bool :=
  let n := c.toNat
  n < 0x20 || (0x7F ≤ n && n ≤ 0x9F) || n = 0xAD || (0x200B ≤ n && n ≤ 0x200F) ||
    (0x2028 ≤ n && n ≤ 0x202E) || (0x2060 ≤ n && n ≤ 0x2064) || n = 0xFEFF

/-- How a character is written inside a quoted text. -/
def quoteChar (c : Char) : String :=
  if c = '\\' then "\\\\"
  else if c = '"' then "\\\""
  else if c = '\t' then "\\t"
  else if c = '\r' then "\\r"
  else if c = '\n' then "\\n"
  else if c.toNat = 0 then "\\0"
  else if isUnprintable c then "\\u\x7b" ++ lowerHex c.toNat ++ "\x7d"
  else c.toString

/-- A text between double quotes, escaped. -/
def quoted (s : String) : String := "\"" ++ String.join (s.toList.map quoteChar) ++ "\""

end Discovery.Text
