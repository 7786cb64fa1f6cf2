import Discovery.Pool.Machine
import Discovery.Plugin
/-!
# The run in candidate order is a pool run with one worker

A scan takes its candidates one after another (`runInOrder`), while the statements about
a pool run are proved of the machine of `Discovery.Pool.Machine`. The two meet here: an
uncancelled run in candidate order collects what a pool of width one collects when it
moves by `inOrderSchedule`, and that schedule takes the pool to its end, never cancelled,
every candidate handed to the plugin in order and none dropped (`runInOrder_refines`).

The schedule takes one candidate at a time (`candidateMoves`): the producer pulls it and
queues it, the worker locks the intake, takes the candidate, starts its probe and gets the
answer, and every finding it sends, or its error, is received at once. Between two
candidates the pool is back where it started, one candidate further down the stream
(`single`), so the run lemma `run_candidates` is an induction over the candidates on the
per-candidate step `run_candidateMoves`; what the consumers hold is read as an outcome by
`State.collected`, and it grows as `Outcome.record` grows the outcome of the run in order.

The machine's plugin is a function of the candidate, while a scan's plugin may carry a
state from one candidate to the next. The statement asks that the answers of the run in
order be those of one function (`answersInOrder`); a plugin that leaves its state alone
gives them (`answersInOrder_of_stateless`, and so a name scan, `nameScan_refines`), and so
does every plugin on candidates that are all different (`runInOrder_refines_of_nodup`).
-/

namespace Discovery.Pool

/-- The moves that deliver one answer: each finding is sent and received at once, then the
worker goes back to the top of its loop; an error is sent and received. -/
def deliveryMoves : Except ScanError (List Finding) → List Action
  | .ok rs => rs.flatMap (fun _ => [.work 0, .receiveResult]) ++ [.work 0]
  | .error _ => [.work 0, .receiveError]

/-- The moves that take one candidate through a pool with one worker: the producer pulls the
candidate and queues it, the worker locks the intake, takes the candidate, starts the probe,
gets the answer and delivers it. -/
def candidateMoves (a : Except ScanError (List Finding)) : List Action :=
  [.feed, .feed, .work 0, .work 0, .work 0] ++ .work 0 :: deliveryMoves a

/-- The moves that end the run: the producer finds the stream empty and closes the intake,
and the worker finds it closed and leaves. -/
def closingMoves : List Action := [.feed, .work 0, .work 0]

/-- The schedule of a pool with one worker that takes the candidates in order. -/
def inOrderSchedule (answer : Candidate → Except ScanError (List Finding))
    (cs : List Candidate) : List Action :=
  cs.flatMap (fun c => candidateMoves (answer c)) ++ closingMoves

/-- What the consumers of a pool run have collected, kept as the run in order keeps it. -/
def State.collected (m : State) : Outcome :=
  { results := m.received.map Prod.fst, errors := m.failures.map Prod.fst, tally := m.tally,
    taken := m.started.length }

/-- A pool with one worker at stage `st`, the producer waiting for the next candidate of
`stream`, and the intake and both streams empty. -/
def single (st : Stage) (stream : List Job) (received : List (Finding × Nat))
    (failures : List (ScanError × Nat)) (tally : Tally) (started : List Job) : State where
  width := 1
  stream := stream
  feeder := .pulling
  intake := []
  workers := [st]
  results := []
  errors := []
  received := received
  failures := failures
  tally := tally
  cancelled := false
  started := started
  dropped := []

/-- `o` is what a pool of width one collects when it moves by `inOrderSchedule` and
finishes, never cancelled, having handed every candidate to the plugin in order and dropped
none. -/
def OneWorkerOutcome (answer : Candidate → Except ScanError (List Finding))
    (cs : List Candidate) (t : Tally) (o : Outcome) : Prop :=
  ∃ m, (State.start cs 1 t).run answer (inOrderSchedule answer cs) = some m ∧ m.Finished ∧
    m.cancelled = false ∧ m.started = cs.zipIdx ∧ m.dropped = [] ∧ o = m.collected

section OneWorker

variable (answer : Candidate → Except ScanError (List Finding)) (rest : List Job)
  (R : List (Finding × Nat)) (F : List (ScanError × Nat)) (t : Tally) (S : List Job)

@[simp] theorem collected_single (st : Stage) :
    (single st rest R F t S).collected =
      { results := R.map Prod.fst, errors := F.map Prod.fst, tally := t, taken := S.length } :=
  rfl

theorem start_one (cs : List Candidate) : State.start cs 1 t = single .idle cs.zipIdx [] [] t [] :=
  rfl

theorem run_pull (j : Job) :
    (single .idle (j :: rest) R F t S).run answer [.feed, .feed, .work 0, .work 0, .work 0] =
      some (single (.probing j) rest R F t.issue (S ++ [j])) := rfl

theorem run_found {j : Job} {rs : List Finding} (h : answer j.1 = .ok rs) :
    (single (.probing j) rest R F t S).run answer [.work 0] =
      some (single (.sending j rs) rest R F t S) := by
  simp [State.run, State.step, State.work, single, State.setStage, h]

theorem run_sendOne (j : Job) (r : Finding) (rs : List Finding) :
    (single (.sending j (r :: rs)) rest R F t S).run answer [.work 0, .receiveResult] =
      some (single (.sending j rs) rest (R ++ [(r, j.2)]) F t S) := rfl

theorem run_sent (j : Job) :
    (single (.sending j []) rest R F t S).run answer [.work 0] =
      some (single .idle rest R F t S) := rfl

theorem run_failed {j : Job} {e : ScanError} (h : answer j.1 = .error e) :
    (single (.probing j) rest R F t S).run answer [.work 0, .work 0, .receiveError] =
      some (single .idle rest R (F ++ [(e, j.2)]) t.recordError S) := by
  simp [State.run, State.step, State.work, State.receiveError, single, State.setStage, h]

theorem run_close :
    (single .idle [] R F t S).run answer closingMoves =
      some { single .exited [] R F t S with feeder := .closed } := rfl

/-- Every finding is sent and received at once. -/
theorem run_sendAll (j : Job) (rs : List Finding) :
    (single (.sending j rs) rest R F t S).run answer
        (rs.flatMap fun _ => [.work 0, .receiveResult]) =
      some (single (.sending j []) rest (R ++ rs.map (·, j.2)) F t S) := by
  -- on the findings still to go, the received ones growing at the end
  induction rs generalizing R with
  | nil => simp
  | cons r rs ih =>
    rw [List.flatMap_cons, State.run_append, run_sendOne, Option.bind_some, ih]
    simp

/-- **One candidate.** The pool takes the next candidate through its probe and back to the
top of the loop, and its consumers gain what the run in order records of the answer. -/
theorem run_candidateMoves (c : Candidate) (i : Nat) :
    ∃ R' F' t', (single .idle ((c, i) :: rest) R F t S).run answer (candidateMoves (answer c)) =
        some (single .idle rest R' F' t' (S ++ [(c, i)])) ∧
      (single .idle rest R' F' t' (S ++ [(c, i)])).collected =
        (single .idle rest R F t S).collected.record (answer c) := by
  unfold candidateMoves
  rw [State.run_append, run_pull, Option.bind_some]
  rcases ha : answer c with e | rs
  · refine ⟨R, F ++ [(e, i)], t.issue.recordError, ?_, ?_⟩
    · exact run_failed answer rest R F t.issue (S ++ [(c, i)]) ha
    · simp [Outcome.record]
  · refine ⟨R ++ rs.map (·, i), F, t.issue, ?_, ?_⟩
    · rw [deliveryMoves, ← List.singleton_append, State.run_append,
        run_found answer rest R F t.issue _ ha, Option.bind_some, State.run_append, run_sendAll,
        Option.bind_some, run_sent]
    · simp [Outcome.record, Function.comp_def]

end OneWorker

/-- **All candidates.** Candidate after candidate, the pool empties its stream, and its
consumers hold what the run in order records of the answers. -/
theorem run_candidates (answer : Candidate → Except ScanError (List Finding)) :
    ∀ (cs : List Candidate) (i : Nat) (R : List (Finding × Nat)) (F : List (ScanError × Nat))
      (t : Tally) (S : List Job), ∃ R' F' t',
      (single .idle (cs.zipIdx i) R F t S).run answer
          (cs.flatMap fun c => candidateMoves (answer c)) =
        some (single .idle [] R' F' t' (S ++ cs.zipIdx i)) ∧
      (single .idle [] R' F' t' (S ++ cs.zipIdx i)).collected =
        (cs.map answer).foldl Outcome.record (single .idle [] R F t S).collected
  | [], _, R, F, t, S => ⟨R, F, t, by simp, by simp⟩
  | c :: cs, i, R, F, t, S => by
    obtain ⟨R₁, F₁, t₁, hrun₁, hcol₁⟩ := run_candidateMoves answer (cs.zipIdx (i + 1)) R F t S c i
    obtain ⟨R₂, F₂, t₂, hrun₂, hcol₂⟩ := run_candidates answer cs (i + 1) R₁ F₁ t₁ (S ++ [(c, i)])
    refine ⟨R₂, F₂, t₂, ?_, ?_⟩
    · rw [List.zipIdx_cons, List.flatMap_cons, State.run_append, hrun₁, Option.bind_some, hrun₂,
        List.append_assoc, List.singleton_append]
    · rw [List.zipIdx_cons, List.map_cons, List.foldl_cons]
      simp only [collected_single] at hcol₁ hcol₂ ⊢
      rw [← hcol₁, ← hcol₂, List.append_assoc, List.singleton_append]

/-- The pool moved by `inOrderSchedule` collects the answers one after another. -/
theorem oneWorkerOutcome_foldl (answer : Candidate → Except ScanError (List Finding))
    (cs : List Candidate) (t : Tally) :
    OneWorkerOutcome answer cs t ((cs.map answer).foldl Outcome.record { tally := t }) := by
  obtain ⟨R, F, t', hrun, hcol⟩ := run_candidates answer cs 0 [] [] t []
  refine ⟨{ single .exited [] R F t' cs.zipIdx with feeder := .closed }, ?_, ?_, rfl, rfl, rfl, ?_⟩
  · rw [start_one, inOrderSchedule, State.run_append, hrun, Option.bind_some, List.nil_append]
    exact run_close answer R F t' _
  · simp [State.Finished, State.StreamsClosed, single]
  · exact hcol.symm

section InOrder

variable {σ : Type}

/-- The answers the plugin gives in a run that takes every candidate in order. -/
def answersInOrder (process : Candidate → σ → Except ScanError (List Finding) × σ) :
    List Candidate → σ → List (Except ScanError (List Finding))
  | [], _ => []
  | c :: cs, s => (process c s).1 :: answersInOrder process cs (process c s).2

/-- An uncancelled run in candidate order records the plugin's answers one after another. -/
theorem runInOrder_eq_foldl (process : Candidate → σ → Except ScanError (List Finding) × σ) :
    ∀ (cs : List Candidate) (s : σ) (o : Outcome),
      (runInOrder process (fun _ => false) cs s o).1 =
        (answersInOrder process cs s).foldl Outcome.record o
  | [], _, _ => rfl
  | c :: cs, s, o => by
    simp only [runInOrder, answersInOrder, Bool.false_eq_true, if_false, List.foldl_cons]
    exact runInOrder_eq_foldl process cs _ _

/-- **Refinement.** When the plugin's answers in candidate order are those of `answer`, the
uncancelled run in candidate order collects what the pool with one worker collects, moved
by `inOrderSchedule` to its end. -/
theorem runInOrder_refines (process : Candidate → σ → Except ScanError (List Finding) × σ)
    (answer : Candidate → Except ScanError (List Finding)) (cs : List Candidate) (s : σ)
    (t : Tally) (hans : answersInOrder process cs s = cs.map answer) :
    OneWorkerOutcome answer cs t (runInOrder process (fun _ => false) cs s { tally := t }).1 := by
  rw [runInOrder_eq_foldl, hans]
  exact oneWorkerOutcome_foldl answer cs t

/-- A plugin whose answer does not depend on its state answers as one function. -/
theorem answersInOrder_of_stateless (process : Candidate → σ → Except ScanError (List Finding) × σ)
    (answer : Candidate → Except ScanError (List Finding)) (h : ∀ c s, (process c s).1 = answer c) :
    ∀ (cs : List Candidate) (s : σ), answersInOrder process cs s = cs.map answer
  | [], _ => rfl
  | c :: cs, s => by
    rw [answersInOrder, h, answersInOrder_of_stateless process answer h cs, List.map_cons]

/-- On candidates that are all different, the answers of any plugin in candidate order are
those of one function. -/
theorem exists_answers_of_nodup (process : Candidate → σ → Except ScanError (List Finding) × σ) :
    ∀ (cs : List Candidate), cs.Nodup → ∀ s : σ,
      ∃ answer, answersInOrder process cs s = cs.map answer
  | [], _, _ => ⟨fun _ => .ok [], rfl⟩
  | c :: cs, hnd, s => by
    obtain ⟨hc, hcs⟩ := List.nodup_cons.mp hnd
    obtain ⟨answer, h⟩ := exists_answers_of_nodup process cs hcs (process c s).2
    -- the first candidate's answer is set apart; it comes nowhere else in the list
    refine ⟨fun x => if x = c then (process c s).1 else answer x, ?_⟩
    have hrest : cs.map (fun x => if x = c then (process c s).1 else answer x) = cs.map answer :=
      List.map_congr_left fun x hx => if_neg fun (hxc : x = c) => hc (hxc ▸ hx)
    rw [answersInOrder, List.map_cons, if_pos rfl, hrest, h]

/-- On candidates that are all different, every uncancelled run in candidate order is a run
of the pool with one worker. -/
theorem runInOrder_refines_of_nodup (process : Candidate → σ → Except ScanError (List Finding) × σ)
    (cs : List Candidate) (hnd : cs.Nodup) (s : σ) (t : Tally) :
    ∃ answer, OneWorkerOutcome answer cs t
      (runInOrder process (fun _ => false) cs s { tally := t }).1 := by
  obtain ⟨answer, hans⟩ := exists_answers_of_nodup process cs hnd s
  exact ⟨answer, runInOrder_refines process answer cs s t hans⟩

/-- A name scan, which leaves the transport's state alone, runs as the pool with one worker
on any candidates. -/
theorem nameScan_refines (sc : Dns.Scanner) (tr : Transport σ) (cs : List Candidate) (s : σ)
    (t : Tally) :
    OneWorkerOutcome sc.process cs t
      (runInOrder ((Plugin.dns sc).process tr) (fun _ => false) cs s { tally := t }).1 :=
  runInOrder_refines _ _ cs s t
    (answersInOrder_of_stateless ((Plugin.dns sc).process tr) sc.process (fun _ _ => rfl) cs s)

end InOrder

end Discovery.Pool
