/-!
# Candidates, findings and their rendering

A candidate is one unit of work: a word to be joined to the target, or an address taken
whole from the archive corpus. A finding is what probing one candidate gave: the entity
probed, the status (zero for name lookups), the size and body when known, whether the
entity is an address, the redirect target and any extra text such as addresses. A
rendered finding has the line shown to the user, the line kept in the archive and the
status; an empty shown line means the finding was filtered out.
-/

namespace Discovery

/-- One unit of work. -/
structure Candidate where
  /-- The value is a whole address rather than a word. -/
  preResolved : Bool
  value : String
  deriving DecidableEq, Repr

/-- A word to join to the target. -/
def Candidate.word (w : String) : Candidate := ⟨false, w⟩

/-- A whole address. -/
def Candidate.address (u : String) : Candidate := ⟨true, u⟩

/-- What probing one candidate gave. -/
structure Finding where
  entity : String
  status : Nat := 0
  size : Option Nat := none
  content : Option String := none
  isEntityUrl : Bool := false
  redirect : Option String := none
  extra : Option String := none
  deriving DecidableEq, Repr

/-- A finding of a name lookup: only the entity is set. -/
def Finding.ofEntity (e : String) : Finding := { entity := e }

/-- The rendered form of a finding. -/
structure Rendered where
  display : String := ""
  archive : String := ""
  status : Nat := 0
  deriving DecidableEq, Repr

/-- A rendered finding that is shown. -/
def Rendered.isReported (r : Rendered) : Bool := !r.display.isEmpty

end Discovery
