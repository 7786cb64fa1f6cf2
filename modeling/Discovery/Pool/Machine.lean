import Discovery.Pool.Run
/-!
# A pool run, step by step

A pool run has one producer, `w` workers (at least one) and the two consumers of its
streams. The producer pulls candidates from the stream and queues them in the intake,
which has `w` places; the workers take turns at the intake under one lock, hand each
candidate to the plugin, and send what the plugin gives back into the result stream or
the error stream, each of `w` places. A task runs on its own until it waits, so one step
of a run is the code of one task between two waits; the steps here are finer still where
a cancellation may fall in between, which keeps every order a real run can take.

A cancellation can come at any moment. A task that waits looks at it first: the producer
stops pulling and stops waiting for a place in the intake, a worker stops waiting for the
lock and for the intake, and a worker that has just taken a candidate looks once more and
drops it. A probe that has started is finished in any case, and what it gave is sent.

The intake closes when the producer stops; a worker that finds it closed and empty stops.
The streams close when the last worker has stopped and the consumers have received what
was left in them. The consumers keep their ends of the streams for the whole run.

Every candidate carries its place in the stream, and so does everything it gives, so that
statements can follow one candidate through a run; the run itself never reads the places.
-/

namespace Discovery.Pool

/-- A candidate with its place in the stream. -/
abbrev Job := Candidate × Nat

/-- The findings of a plugin answer: all of them, or none for an error. -/
def findingsOf : Except ScanError (List Finding) → List Finding
  | .ok rs => rs
  | .error _ => []

/-- The error of a plugin answer, if it is one. -/
def failuresOf : Except ScanError (List Finding) → List ScanError
  | .ok _ => []
  | .error e => [e]

/-- Where the producer stands. -/
inductive Feeder where
  /-- Waiting for the next candidate of the stream. -/
  | pulling
  /-- Holding a candidate, waiting for a place in the intake. -/
  | holding (j : Job)
  /-- Stopped, with the intake closed behind it. -/
  | closed
  deriving DecidableEq, Repr

/-- Where a worker stands. -/
inductive Stage where
  /-- At the top of its loop, waiting for the lock. -/
  | idle
  /-- Holding the lock, waiting for the intake. -/
  | locked
  /-- Has just taken a candidate from the intake. -/
  | taken (j : Job)
  /-- Waiting for the plugin's answer on a candidate. -/
  | probing (j : Job)
  /-- Sending the findings of a candidate that are still to go. -/
  | sending (j : Job) (rs : List Finding)
  /-- Sending the error of a candidate. -/
  | reporting (j : Job) (e : ScanError)
  /-- Left its loop. -/
  | exited
  deriving DecidableEq, Repr

/-- A pool run at one moment. -/
structure State where
  /-- The places of the intake and of each stream. -/
  width : Nat
  /-- The candidates not yet pulled. -/
  stream : List Job
  feeder : Feeder
  intake : List Job
  workers : List Stage
  /-- Findings sent and not yet received. -/
  results : List (Finding × Nat)
  /-- Errors sent and not yet received. -/
  errors : List (ScanError × Nat)
  /-- The findings the consumer has received, in order. -/
  received : List (Finding × Nat)
  /-- The errors the consumer has received, in order. -/
  failures : List (ScanError × Nat)
  tally : Tally
  cancelled : Bool
  /-- The candidates handed to the plugin, in order. -/
  started : List Job
  /-- The candidates pulled from the stream and never handed to the plugin. -/
  dropped : List Job
  deriving Repr

/-- What a list of items, each tagged with a place, holds from place `i`, in order. -/
def atPlace {α : Type} (i : Nat) : List (α × Nat) → List α
  | [] => []
  | (a, p) :: rest => if p = i then a :: atPlace i rest else atPlace i rest

@[simp] theorem atPlace_nil {α : Type} (i : Nat) : atPlace i ([] : List (α × Nat)) = [] := rfl

@[simp] theorem atPlace_cons {α : Type} (i : Nat) (x : α × Nat) (rest : List (α × Nat)) :
    atPlace i (x :: rest) = if x.2 = i then x.1 :: atPlace i rest else atPlace i rest := rfl

@[simp] theorem atPlace_append {α : Type} (i : Nat) (l l' : List (α × Nat)) :
    atPlace i (l ++ l') = atPlace i l ++ atPlace i l' := by
  induction l with
  | nil => rfl
  | cons x rest ih =>
    by_cases hx : x.2 = i
    · simp [hx, ih]
    · simp [hx, ih]

/-- Who moves next. -/
inductive Action where
  | feed
  | work (k : Nat)
  | receiveResult
  | receiveError
  | cancel
  deriving DecidableEq, Repr

/-- A run of `w` workers (at least one) over a stream, with the counters as given. -/
def State.start (cs : List Candidate) (w : Nat) (t : Tally) : State where
  width := max w 1
  stream := cs.zipIdx
  feeder := .pulling
  intake := []
  workers := List.replicate (max w 1) .idle
  results := []
  errors := []
  received := []
  failures := []
  tally := t
  cancelled := false
  started := []
  dropped := []

namespace State

/-- Worker `k` moves to a stage. -/
def setStage (m : State) (k : Nat) (st : Stage) : State := { m with workers := m.workers.set k st }

/-- The producer's step: pull the next candidate, or queue the one it holds. -/
def feed (m : State) : Option State :=
  match m.feeder with
  | .pulling =>
    if m.cancelled then some { m with feeder := .closed }
    else
      match m.stream with
      | [] => some { m with feeder := .closed }
      | j :: rest => some { m with stream := rest, feeder := .holding j }
  | .holding j =>
    if m.cancelled then some { m with feeder := .closed, dropped := m.dropped ++ [j] }
    -- with every worker gone the intake has no reader, and queueing fails
    else if ∀ st ∈ m.workers, st = .exited then
      some { m with feeder := .closed, dropped := m.dropped ++ [j] }
    else if m.intake.length < m.width then
      some { m with feeder := .pulling, intake := m.intake ++ [j] }
    else none
  | .closed => none

/-- The step of worker `k`. -/
def work (process : Candidate → Except ScanError (List Finding)) (k : Nat) (m : State) :
    Option State :=
  match m.workers[k]? with
  | none => none
  | some .idle =>
    if m.cancelled then some (m.setStage k .exited)
    else if .locked ∈ m.workers then none
    else some (m.setStage k .locked)
  | some .locked =>
    if m.cancelled then some (m.setStage k .exited)
    else
      match m.intake with
      | j :: rest => some { m.setStage k (.taken j) with intake := rest }
      | [] => if m.feeder = .closed then some (m.setStage k .exited) else none
  | some (.taken j) =>
    if m.cancelled then some { m.setStage k .exited with dropped := m.dropped ++ [j] }
    else some { m.setStage k (.probing j) with tally := m.tally.issue, started := m.started ++ [j] }
  | some (.probing j) =>
    match process j.1 with
    | .ok rs => some (m.setStage k (.sending j rs))
    | .error e => some { m.setStage k (.reporting j e) with tally := m.tally.recordError }
  | some (.sending _ []) => some (m.setStage k .idle)
  | some (.sending j (r :: rs)) =>
    if m.results.length < m.width then
      some { m.setStage k (.sending j rs) with results := m.results ++ [(r, j.2)] }
    else none
  | some (.reporting j e) =>
    if m.errors.length < m.width then
      some { m.setStage k .idle with errors := m.errors ++ [(e, j.2)] }
    else none
  | some .exited => none

/-- The consumer of the result stream receives one finding. -/
def receiveResult (m : State) : Option State :=
  match m.results with
  | [] => none
  | r :: rest => some { m with results := rest, received := m.received ++ [r] }

/-- The consumer of the error stream receives one error. -/
def receiveError (m : State) : Option State :=
  match m.errors with
  | [] => none
  | e :: rest => some { m with errors := rest, failures := m.failures ++ [e] }

/-- The run is cancelled. -/
def cancel (m : State) : Option State :=
  if m.cancelled then none else some { m with cancelled := true }

/-- One step of the run; `none` when that task cannot move. -/
def step (process : Candidate → Except ScanError (List Finding)) : Action → State → Option State
  | .feed, m => m.feed
  | .work k, m => m.work process k
  | .receiveResult, m => m.receiveResult
  | .receiveError, m => m.receiveError
  | .cancel, m => m.cancel

/-- The steps of a schedule, one after another; `none` when one of them cannot be taken. -/
def run (process : Candidate → Except ScanError (List Finding)) : List Action → State → Option State
  | [], m => some m
  | a :: as, m => (m.step process a).bind (run process as)

/-- Both streams are closed: every worker has left its loop, and everything sent was
received. -/
def StreamsClosed (m : State) : Prop :=
  (∀ st ∈ m.workers, st = .exited) ∧ m.results = [] ∧ m.errors = []

/-- Every task of the run has finished. -/
def Finished (m : State) : Prop := m.feeder = .closed ∧ m.StreamsClosed

instance (m : State) : Decidable m.StreamsClosed := inferInstanceAs (Decidable (_ ∧ _))

instance (m : State) : Decidable m.Finished := inferInstanceAs (Decidable (_ ∧ _))

@[simp] theorem run_nil (process : Candidate → Except ScanError (List Finding)) (m : State) :
    m.run process [] = some m := rfl

theorem run_cons (process : Candidate → Except ScanError (List Finding)) (a : Action)
    (as : List Action) (m : State) :
    m.run process (a :: as) = (m.step process a).bind (run process as) := rfl

theorem run_append (process : Candidate → Except ScanError (List Finding)) :
    ∀ (as bs : List Action) (m : State),
      m.run process (as ++ bs) = (m.run process as).bind (run process bs)
  | [], _, _ => rfl
  | a :: as, bs, m => by
    rw [List.cons_append, run_cons, run_cons, Option.bind_assoc]
    congr 1
    funext m'
    exact run_append process as bs m'

@[simp] theorem setStage_workers (m : State) (k : Nat) (st : Stage) :
    (m.setStage k st).workers = m.workers.set k st := rfl

end State

end Discovery.Pool
