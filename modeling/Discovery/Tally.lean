/-!
# Run counters

A run counts the probes issued, the candidates expected and the errors seen. A failed
probe counts as an error instead of an issued probe, and the issued count never goes
below zero.

`recordError_issued` and `recordError_errors` say what recording an error does.
-/

namespace Discovery

/-- The counters of a run. -/
structure Tally where
  issued : Nat := 0
  /-- Zero when the number of candidates is not known. -/
  expected : Nat := 0
  errors : Nat := 0
  deriving DecidableEq, Repr

namespace Tally

/-- More candidates are expected. -/
def addExpected (t : Tally) (n : Nat) : Tally := { t with expected := t.expected + n }

/-- One more probe was issued. -/
def issue (t : Tally) : Tally := { t with issued := t.issued + 1 }

/-- A probe failed: it counts as an error, not as issued. -/
def recordError (t : Tally) : Tally := { t with errors := t.errors + 1, issued := t.issued - 1 }

@[simp] theorem recordError_issued (t : Tally) : t.recordError.issued = t.issued - 1 := rfl

@[simp] theorem recordError_errors (t : Tally) : t.recordError.errors = t.errors + 1 := rfl

@[simp] theorem issue_issued (t : Tally) : t.issue.issued = t.issued + 1 := rfl

end Tally

end Discovery
