import Discovery.Order
import Discovery.Text.Blank
import Discovery.Text.Number
/-!
# Comma-separated option lists

Extensions and excluded status codes are given as comma-separated lists. Each piece is
trimmed. An extension also loses every leading dot, and empty extensions are dropped;
the result is the sorted set of what is left. A status code is a sixteen-bit unsigned
number; the first piece that is not one makes the whole list invalid and is named in
the error, so an empty list names an empty piece.
-/

namespace Discovery.Options

open Discovery.Text

/-- One extension: trimmed, without leading dots. -/
def extensionOf (piece : String) : String :=
  String.ofList ((trimChars piece.toList).dropWhile (· = '.'))

/-- The sorted set of extensions named by a comma-separated list. -/
def extensionSet (raw : String) : List String :=
  sortedSet (((raw.splitOn ",").map extensionOf).filter (!·.isEmpty))

/-- Read every trimmed piece as a status code, stopping at the first that is none. -/
def readCodes : List String → Except String (List Nat)
  | [] => .ok []
  | p :: ps =>
    match readUnsigned 16 (trim p) with
    | .error _ => .error ("invalid status code given: " ++ trim p)
    | .ok n => (readCodes ps).map (n :: ·)

/-- The sorted set of status codes of a comma-separated list, or the error naming
its first bad piece. -/
def statusCodeSet (raw : String) : Except String (List Nat) :=
  (readCodes (raw.splitOn ",")).map sortedSet

end Discovery.Options
