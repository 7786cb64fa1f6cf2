import Discovery.Web.Percent
/-!
# Form-encoded queries

A query in form encoding is a list of `name=value` pairs joined by `&`. Empty pieces
are skipped, a piece without `=` is a name with an empty value, a plus sign stands for a
space, and escapes are decoded before the bytes are read as UTF-8 with bad bytes
replaced. Only the names matter here.

`formNames_nil` says that an empty query names nothing.
-/

namespace Discovery.Web

/-- A name or value of a form: plus signs to spaces, then escapes decoded. -/
def formDecode (cs : List Char) : String :=
  Text.decodeLossyString (decodeBytes (cs.map fun c => if c = '+' then ' ' else c))

/-- The names of a form-encoded query, in order, repeats kept. -/
def formNames (query : String) : List String :=
  ((query.toList.splitOn '&').filter (!·.isEmpty)).map fun piece =>
    formDecode (piece.takeWhile (· ≠ '='))

theorem formNames_nil : formNames "" = [] := by decide

end Discovery.Web
