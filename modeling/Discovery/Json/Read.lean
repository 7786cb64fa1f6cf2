import Discovery.Json.Value
/-!
# Reading JSON

A JSON text is one value between optional blanks (space, tab, line feed, carriage
return). Strings take the escapes of the standard; a `\u` escape of a surrogate pair
gives one character and a surrogate without its partner the replacement character.
A number without fraction and exponent is an integer; any other, and minus zero, is kept
as written.
Nesting is bounded by the length of the text, which bounds the reading.
-/

namespace Discovery.Json

/-- Blanks between tokens. -/
def isJsonBlank (c : Char) : Bool := c = ' ' || c = '\t' || c = '\n' || c = '\r'

/-- The value of a hexadecimal digit. -/
def hexValue? (c : Char) : Option Nat :=
  if '0' ≤ c && c ≤ '9' then some (c.toNat - 48)
  else if 'a' ≤ c && c ≤ 'f' then some (c.toNat - 87)
  else if 'A' ≤ c && c ≤ 'F' then some (c.toNat - 55)
  else none

/-- Four hexadecimal digits at the front. -/
def hex4? : List Char → Option Nat
  | a :: b :: c :: d :: _ =>
    match hexValue? a, hexValue? b, hexValue? c, hexValue? d with
    | some w, some x, some y, some z => some (((w * 16 + x) * 16 + y) * 16 + z)
    | _, _, _, _ => none
  | _ => none

/-- The character of a `\u` escape (after the `u`), reading a low surrogate after a high
one, and how many characters it took. -/
def unicodeEscape? (cs : List Char) : Option (Char × Nat) :=
  match hex4? cs with
  | none => none
  | some hi =>
    if 0xD800 ≤ hi && hi < 0xDC00 then
      match cs.drop 4 with
      | '\\' :: 'u' :: more =>
        match hex4? more with
        | some lo =>
          if 0xDC00 ≤ lo && lo < 0xE000 then
            some (Char.ofNat (0x10000 + (hi - 0xD800) * 0x400 + (lo - 0xDC00)), 10)
          else some ('�', 4)
        | none => none
      | _ => some ('�', 4)
    else if 0xDC00 ≤ hi && hi < 0xE000 then some ('�', 4)
    else some (Char.ofNat hi, 4)

/-- The character of a one-letter escape. -/
def shortEscape? (c : Char) : Option Char :=
  if c = '"' then some '"' else if c = '\\' then some '\\' else if c = '/' then some '/'
  else if c = 'b' then some '\x08' else if c = 'f' then some '\x0c'
  else if c = 'n' then some '\n' else if c = 'r' then some '\r'
  else if c = 't' then some '\t' else none

/-- The characters of a string up to its closing quote, and what follows it. -/
def readString : List Char → Option (List Char × List Char)
  | [] => none
  | '"' :: rest => some ([], rest)
  | '\\' :: c :: rest =>
    match shortEscape? c with
    | some d => (readString rest).map fun r => (d :: r.1, r.2)
    | none =>
      if c = 'u' then
        match unicodeEscape? rest with
        | some (d, n) => (readString (rest.drop n)).map fun r => (d :: r.1, r.2)
        | none => none
      else none
  | c :: rest => (readString rest).map fun r => (c :: r.1, r.2)
termination_by cs => cs.length
decreasing_by
  all_goals simp only [List.length_drop, List.length_cons]
  all_goals omega

/-- Decimal digits at the front, and what follows them. -/
def digits (cs : List Char) : List Char × List Char :=
  (cs.takeWhile Char.isDigit, cs.dropWhile Char.isDigit)

/-- The value of one decimal digit. -/
def digitValue (d : Char) : Nat := d.toNat - 48

/-- The value of decimal digits. -/
def digitsValue (ds : List Char) : Nat := ds.foldl (fun n d => n * 10 + digitValue d) 0

/-- A number: sign, integer digits, optional fraction and exponent. -/
def readNumber (cs : List Char) : Option (Json × List Char) :=
  let (neg, cs) := match cs with
    | '-' :: r => (true, r)
    | r => (false, r)
  let (whole, cs) := digits cs
  if whole.isEmpty then none
  else
    let (frac, cs, hasFrac) := match cs with
      | '.' :: r => let d := digits r; (d.1, d.2, true)
      | r => ([], r, false)
    if hasFrac && frac.isEmpty then none
    else
      let (exp, cs, hasExp) : Option Int × List Char × Bool := match cs with
        | e :: r =>
          if e = 'e' || e = 'E' then
            let (eneg, r) := match r with
              | '-' :: r => (true, r)
              | '+' :: r => (false, r)
              | r => (false, r)
            let d := digits r
            if d.1.isEmpty then (none, d.2, true)
            else (some (if eneg then -(digitsValue d.1 : Int) else digitsValue d.1), d.2, true)
          else (some 0, e :: r, false)
        | [] => (some 0, [], false)
      match exp with
      | none => none
      | some e =>
        let m : Int := digitsValue whole
        if hasFrac || hasExp || (neg && m = 0) then
          some (.dec neg (whole.map digitValue) (frac.map digitValue) e, cs)
        else some (.num (if neg then -m else m), cs)

mutual
/-- One value after optional blanks, within `fuel` nested steps. -/
def readValue : Nat → List Char → Option (Json × List Char)
  | 0, _ => none
  | fuel + 1, cs =>
    match cs.dropWhile isJsonBlank with
    | 'n' :: 'u' :: 'l' :: 'l' :: r => some (.null, r)
    | 't' :: 'r' :: 'u' :: 'e' :: r => some (.bool true, r)
    | 'f' :: 'a' :: 'l' :: 's' :: 'e' :: r => some (.bool false, r)
    | '"' :: r => (readString r).map fun p => (.str (String.ofList p.1), p.2)
    | '[' :: r =>
      match r.dropWhile isJsonBlank with
      | ']' :: r' => some (.arr [], r')
      | _ => (readItems fuel r []).map fun p => (.arr p.1, p.2)
    | '{' :: r =>
      match r.dropWhile isJsonBlank with
      | '}' :: r' => some (.obj [], r')
      | _ => (readMembers fuel r []).map fun p => (.obj p.1, p.2)
    | r => readNumber r
/-- The items of an array after its first, up to the closing bracket. -/
def readItems : Nat → List Char → List Json → Option (List Json × List Char)
  | 0, _, _ => none
  | fuel + 1, cs, acc =>
    match readValue fuel cs with
    | none => none
    | some (v, r) =>
      match r.dropWhile isJsonBlank with
      | ',' :: r' => readItems fuel r' (v :: acc)
      | ']' :: r' => some ((v :: acc).reverse, r')
      | _ => none
/-- The members of an object, up to the closing brace. -/
def readMembers : Nat → List Char → List (String × Json) →
    Option (List (String × Json) × List Char)
  | 0, _, _ => none
  | fuel + 1, cs, acc =>
    match cs.dropWhile isJsonBlank with
    | '"' :: r =>
      match readString r with
      | none => none
      | some (k, r) =>
        match r.dropWhile isJsonBlank with
        | ':' :: r =>
          match readValue fuel r with
          | none => none
          | some (v, r) =>
            match r.dropWhile isJsonBlank with
            | ',' :: r' => readMembers fuel r' ((String.ofList k, v) :: acc)
            | '}' :: r' => some (((String.ofList k, v) :: acc).reverse, r')
            | _ => none
        | _ => none
    | _ => none
end

/-- A whole text as one JSON value. -/
def parse? (s : String) : Option Json :=
  let cs := s.toList
  match readValue (2 * cs.length + 2) cs with
  | some (v, rest) => if (rest.dropWhile isJsonBlank).isEmpty then some v else none
  | none => none

end Discovery.Json
