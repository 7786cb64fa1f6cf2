import Discovery.Json.Value
/-!
# Writing JSON

Values are written compactly: no blank between tokens, members in the order held.
In a string, the quote and the backslash are escaped, the line feed, carriage return,
tab, backspace and form feed get their short escapes, the other control characters a
four-digit lowercase `\u` escape, and every other character stands for itself.
-/

namespace Discovery.Json

/-- A lowercase hexadecimal digit. -/
def hexDigit (n : Nat) : Char :=
  if n < 10 then Char.ofNat (48 + n) else Char.ofNat (87 + n)

/-- How one character is written inside a string. -/
def escapeChar (c : Char) : List Char :=
  if c = '"' then ['\\', '"']
  else if c = '\\' then ['\\', '\\']
  else if c = '\n' then ['\\', 'n']
  else if c = '\r' then ['\\', 'r']
  else if c = '\t' then ['\\', 't']
  else if c = '\x08' then ['\\', 'b']
  else if c = '\x0c' then ['\\', 'f']
  else if c.toNat < 0x20 then ['\\', 'u', '0', '0', hexDigit (c.toNat / 16), hexDigit (c.toNat % 16)]
  else [c]

/-- A string written with quotes and escapes. -/
def quote (s : String) : String :=
  "\"" ++ String.ofList (s.toList.flatMap escapeChar) ++ "\""

/-- The compact text of a value. -/
def render : Json → String
  | .null => "null"
  | .bool b => if b then "true" else "false"
  | .num n => toString n
  | .dec neg w f e =>
    let digits := fun (ds : List Nat) => String.ofList (ds.map fun d => Char.ofNat (48 + d))
    (if neg then "-" else "") ++ digits w ++ (if f.isEmpty then "" else "." ++ digits f) ++
      (if e = 0 then "" else "e" ++ toString e)
  | .str s => quote s
  | .arr xs => "[" ++ ",".intercalate (xs.attach.map fun ⟨x, _⟩ => render x) ++ "]"
  | .obj fs =>
    "\x7b" ++ ",".intercalate (fs.attach.map fun ⟨f, _⟩ => quote f.1 ++ ":" ++ render f.2) ++ "\x7d"
termination_by j => sizeOf j
decreasing_by
  · have := List.sizeOf_lt_of_mem (by assumption : _ ∈ xs)
    simp only [Json.arr.sizeOf_spec]
    omega
  · have := List.sizeOf_lt_of_mem (by assumption : _ ∈ fs)
    obtain ⟨a, b⟩ := f
    simp only [Json.obj.sizeOf_spec, Prod.mk.sizeOf_spec] at this ⊢
    omega

end Discovery.Json
