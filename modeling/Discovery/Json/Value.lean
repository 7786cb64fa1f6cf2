/-!
# JSON values

Options documents, result lines and the records a scan exchanges are JSON values. A
number is kept exactly: an integer as an `Int`, and one written with a fraction, an
exponent or a minus before zero as its sign, digits and exponent. An object keeps its members in the order
written; when a key is repeated, the last member with it counts.
-/

namespace Discovery

/-- A JSON value. -/
inductive Json where
  | null
  | bool (b : Bool)
  | num (n : Int)
  /-- A number kept as written, because it has a fraction, an exponent or a minus before
  zero: its sign, the digits before and after the point, and the exponent. -/
  | dec (negative : Bool) (whole fraction : List Nat) (exponent : Int)
  | str (s : String)
  | arr (items : List Json)
  | obj (fields : List (String × Json))
  deriving Repr, Inhabited

namespace Json

/-- The value of the last member with this key. -/
def lookup (key : String) : List (String × Json) → Option Json
  | [] => none
  | (k, v) :: rest =>
    match lookup key rest with
    | some w => some w
    | none => if k = key then some v else none

/-- The member `key` of an object. -/
def get? (j : Json) (key : String) : Option Json :=
  match j with
  | .obj fields => lookup key fields
  | _ => none

/-- A member that is present and not null. -/
def field? (j : Json) (key : String) : Option Json :=
  match j.get? key with
  | some .null => none
  | v => v

/-- A text value. -/
def str? : Json → Option String
  | .str s => some s
  | _ => none

/-- An integer value. -/
def int? : Json → Option Int
  | .num n => some n
  | _ => none

/-- A natural number value. -/
def nat? : Json → Option Nat
  | .num (.ofNat n) => some n
  | _ => none

/-- A truth value. -/
def bool? : Json → Option Bool
  | .bool b => some b
  | _ => none

/-- The items of an array. -/
def arr? : Json → Option (List Json)
  | .arr xs => some xs
  | _ => none

/-- The members of an object, each key once, in ascending key order, the last of
repeated keys counting. -/
def members : List (String × Json) → List (String × Json)
  | [] => []
  | (k, v) :: rest =>
    let later := members rest
    if later.any (·.1 = k) then later else insertByKey (k, v) later
where
  /-- Insert a member into a list ordered by key. -/
  insertByKey (m : String × Json) : List (String × Json) → List (String × Json)
    | [] => [m]
    | n :: ns => if m.1 < n.1 then m :: n :: ns else n :: insertByKey m ns

/-- Text member, empty when absent. -/
def text (j : Json) (key : String) : String := ((j.field? key).bind str?).getD ""

/-- Truth member, false when absent. -/
def flag (j : Json) (key : String) : Bool := ((j.field? key).bind bool?).getD false

/-- Array member, empty when absent. -/
def list (j : Json) (key : String) : List Json := ((j.field? key).bind arr?).getD []

end Json

end Discovery
