import Discovery.Text.Utf8
/-!
# Percent-encoding

Parts of a web address escape some characters as `%` and two uppercase hexadecimal
digits per UTF-8 byte. Every part escapes the controls, the delete character and
everything beyond ASCII; each part adds its own printable characters: the fragment
adds space, `"`, `<`, `>` and the backquote; the query space, `"`, `#`, `<` and `>`,
and the query of a special scheme also the apostrophe; the path takes the fragment's
and `#`, `?`, braces; user names and passwords add `/ : ; = @ [ \ ] ^ |` to the path's.
Decoding turns each `%` with two hexadecimal digits back into its byte.
-/

namespace Discovery.Web

open Discovery.Text

/-- Which printable ASCII characters a part of an address escapes. -/
inductive EncodeSet where
  | control
  | fragment
  | query
  | specialQuery
  | path
  | userinfo
  deriving DecidableEq, Repr

/-- The printable ASCII characters each part escapes. -/
def EncodeSet.extra : EncodeSet → List Char
  | .control => []
  | .fragment => [' ', '"', '<', '>', '`']
  | .query => [' ', '"', '#', '<', '>']
  | .specialQuery => [' ', '"', '#', '<', '>', '\'']
  | .path => [' ', '"', '<', '>', '`', '#', '?', '{', '}']
  | .userinfo => [' ', '"', '<', '>', '`', '#', '?', '{', '}', '/', ':', ';', '=', '@', '[', '\\',
      ']', '^', '|']

/-- The byte is escaped in this part. -/
def EncodeSet.escapes (set : EncodeSet) (b : UInt8) : Bool :=
  b < 0x20 || b ≥ 0x7F || set.extra.contains (Char.ofNat b.toNat)

/-- An uppercase hexadecimal digit. -/
def upperHexDigit (n : Nat) : Char :=
  if n < 10 then Char.ofNat (48 + n) else Char.ofNat (55 + n)

/-- `%` and the two digits of a byte. -/
def escapeByte (b : UInt8) : List Char :=
  ['%', upperHexDigit (b.toNat / 16), upperHexDigit (b.toNat % 16)]

/-- One character as it stands in a part. -/
def encodeChar (set : EncodeSet) (c : Char) : List Char :=
  (Text.encodeChar c).flatMap fun b => if set.escapes b then escapeByte b else [Char.ofNat b.toNat]

/-- Characters as they stand in a part. -/
def encodeChars (set : EncodeSet) (cs : List Char) : List Char := cs.flatMap (encodeChar set)

/-- A text as it stands in a part. -/
def encode (set : EncodeSet) (s : String) : String := String.ofList (encodeChars set s.toList)

/-- The value of a hexadecimal digit. -/
def hexDigitValue? (c : Char) : Option Nat :=
  if '0' ≤ c && c ≤ '9' then some (c.toNat - 48)
  else if 'a' ≤ c && c ≤ 'f' then some (c.toNat - 87)
  else if 'A' ≤ c && c ≤ 'F' then some (c.toNat - 55)
  else none

/-- The bytes of a text with every `%` and two hexadecimal digits decoded. -/
def decodeBytes : List Char → List UInt8
  | [] => []
  | '%' :: a :: b :: rest =>
    match hexDigitValue? a, hexDigitValue? b with
    | some x, some y => (x * 16 + y).toUInt8 :: decodeBytes rest
    | _, _ => Text.encodeChar '%' ++ decodeBytes (a :: b :: rest)
  | c :: rest => Text.encodeChar c ++ decodeBytes rest

end Discovery.Web
