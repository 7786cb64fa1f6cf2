import Discovery.Finding
import Discovery.Error
import Discovery.Tally
/-!
# A run in candidate order

A run hands every candidate of its stream to the plugin, collects the findings and the
errors, and keeps the counters: one issued probe per candidate taken, moved to the
errors when it fails. Before taking the next candidate it checks whether the run was
cancelled, so a cancelled run stops between two candidates, after the one in flight has
been handled. This is the run of a single worker; with more workers the order differs,
but not what is collected. `Discovery.Proofs.Pool.Sequential` proves that an uncancelled
run in order collects what the pool machine of `Discovery.Pool.Machine` collects with one
worker, so what is proved of the machine holds of this run.

Main statements: `errors_eq_length` (the error counter counts the errors collected) and
`issued_add_errors` (issued and failed probes together are the candidates taken), which
hold also of a cancelled run.
-/

namespace Discovery.Pool

/-- What a run collected. -/
structure Outcome where
  results : List Finding := []
  errors : List ScanError := []
  tally : Tally := {}
  /-- How many candidates were taken from the stream. -/
  taken : Nat := 0
  deriving Repr

/-- Take one candidate's answer into an outcome. -/
def Outcome.record (o : Outcome) : Except ScanError (List Finding) → Outcome
  | .ok rs => { o with results := o.results ++ rs, tally := o.tally.issue, taken := o.taken + 1 }
  | .error e =>
    { o with errors := o.errors ++ [e], tally := o.tally.issue.recordError, taken := o.taken + 1 }

section InOrder

variable {σ : Type}

/-- Process candidates in order until the stream ends or the run is cancelled. -/
def runInOrder (process : Candidate → σ → Except ScanError (List Finding) × σ)
    (cancelled : σ → Bool) : List Candidate → σ → Outcome → Outcome × σ
  | [], s, o => (o, s)
  | c :: cs, s, o =>
    if cancelled s then (o, s)
    else
      let (r, s) := process c s
      runInOrder process cancelled cs s (o.record r)

theorem record_errors (o : Outcome) (r : Except ScanError (List Finding))
    (h : o.tally.errors = o.errors.length) : (o.record r).tally.errors = (o.record r).errors.length := by
  cases r <;> simp [Outcome.record, Tally.issue, Tally.recordError, h]

theorem record_issued (o : Outcome) (r : Except ScanError (List Finding))
    (h : o.tally.issued + o.tally.errors = o.taken) :
    (o.record r).tally.issued + (o.record r).tally.errors = (o.record r).taken := by
  cases r <;> simp [Outcome.record, Tally.issue, Tally.recordError] <;> omega

/-- The error counter counts the errors collected. -/
theorem errors_eq_length (process : Candidate → σ → Except ScanError (List Finding) × σ)
    (cancelled : σ → Bool) :
    ∀ (cs : List Candidate) (s : σ) (o : Outcome), o.tally.errors = o.errors.length →
      (runInOrder process cancelled cs s o).1.tally.errors =
        (runInOrder process cancelled cs s o).1.errors.length
  | [], _, _, h => h
  | c :: cs, s, o, h => by
    simp only [runInOrder]
    split
    · exact h
    · exact errors_eq_length process cancelled cs _ _ (record_errors o _ h)

/-- Issued and failed probes together are the candidates taken. -/
theorem issued_add_errors (process : Candidate → σ → Except ScanError (List Finding) × σ)
    (cancelled : σ → Bool) :
    ∀ (cs : List Candidate) (s : σ) (o : Outcome), o.tally.issued + o.tally.errors = o.taken →
      (runInOrder process cancelled cs s o).1.tally.issued +
        (runInOrder process cancelled cs s o).1.tally.errors =
        (runInOrder process cancelled cs s o).1.taken
  | [], _, _, h => h
  | c :: cs, s, o, h => by
    simp only [runInOrder]
    split
    · exact h
    · exact issued_add_errors process cancelled cs _ _ (record_issued o _ h)

end InOrder

end Discovery.Pool
