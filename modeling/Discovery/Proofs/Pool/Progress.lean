import Discovery.Proofs.Pool.Ledger
/-!
# Progress of a pool run

A pool run never gets stuck: in every state where some task has not finished, some task
other than the canceller can move (`exists_move`). The one place where a task can wait for
another that waits in turn is the lock: a worker waits for the lock only while another
holds it, and the holder can always move, by taking a candidate, by finding the intake
closed, or because the producer can fill the intake or close it.

A run is also finite: every move lowers the run's potential, so no schedule has more steps
than the potential of the state it starts from (`length_le_potential`). The potential
weighs every candidate by the moves still ahead of it, two for each finding it will send,
and every worker by the moves it can make before it next needs a candidate.
-/

namespace Discovery.Pool

open State

variable {process : Candidate → Except ScanError (List Finding)}

/-! ## No deadlock -/

section Deadlock

variable {m : State}

/-- A producer waiting for the stream can always move. -/
theorem feed_of_pulling (hf : m.feeder = .pulling) : ∃ m', m.feed = some m' := by
  unfold State.feed
  rw [hf]
  dsimp only
  by_cases hc : m.cancelled = true
  · simp [hc]
  · cases m.stream <;> simp [hc]

/-- A worker holding the lock can move, or else the producer can. -/
theorem locked_can_move (hw : 0 < m.width) {k : Nat} (hk : m.workers[k]? = some .locked) :
    (∃ m', m.work process k = some m') ∨ ∃ m', m.feed = some m' := by
  by_cases hc : m.cancelled = true
  · left
    simp [State.work, hk, hc]
  cases hi : m.intake with
  | cons j rest =>
    left
    simp [State.work, hk, hc, hi]
  | nil =>
    cases hf : m.feeder with
    | closed =>
      left
      simp [State.work, hk, hc, hi, hf]
    | pulling => exact .inr (feed_of_pulling hf)
    | holding j =>
      -- the holder of the lock has not left, so the producer can queue into the empty intake
      right
      have hnot : ¬ ∀ st ∈ m.workers, st = .exited := by
        intro hall
        have := hall _ (List.mem_of_getElem? hk)
        cases this
      simp [State.feed, hf, hc, hnot, hi, hw]

/-- A worker that has not left can move, or the producer can, when both streams have
room. -/
theorem worker_can_move (hw : 0 < m.width) (hres : m.results = []) (herr : m.errors = [])
    {k : Nat} {st : Stage} (hk : m.workers[k]? = some st) (hst : st ≠ .exited) :
    ∃ a m', a ≠ .cancel ∧ m.step process a = some m' := by
  have hmove : ∀ k' : Nat, (∃ m', m.work process k' = some m') →
      ∃ a m', a ≠ .cancel ∧ m.step process a = some m' := by
    rintro k' ⟨m', h⟩
    exact ⟨.work k', m', by simp, h⟩
  have hlocked : ∀ {k' : Nat}, m.workers[k']? = some .locked →
      ∃ a m', a ≠ .cancel ∧ m.step process a = some m' := by
    intro k' hk'
    rcases locked_can_move hw hk' with h | ⟨m', h⟩
    · exact hmove k' h
    · exact ⟨.feed, m', by simp, h⟩
  cases st with
  | idle =>
    by_cases hc : m.cancelled = true
    · exact hmove k (by simp [State.work, hk, hc])
    by_cases hl : Stage.locked ∈ m.workers
    · -- another worker holds the lock, and that worker can move
      obtain ⟨k', hk'⟩ := List.getElem?_of_mem hl
      exact hlocked hk'
    · exact hmove k (by simp [State.work, hk, hc, hl])
  | locked => exact hlocked hk
  | taken j => exact hmove k (by cases hc : m.cancelled <;> simp [State.work, hk, hc])
  | probing j => exact hmove k (by cases hp : process j.1 <;> simp [State.work, hk, hp])
  | sending j rs =>
    cases rs with
    | nil => exact hmove k (by simp [State.work, hk])
    | cons r rs => exact hmove k (by simp [State.work, hk, hres, hw])
  | reporting j e => exact hmove k (by simp [State.work, hk, herr, hw])
  | exited => exact absurd rfl hst

/-- A run never gets stuck: while some task has not finished, a task other than the
canceller can move. -/
theorem exists_move (hw : 0 < m.width) (h : ¬ m.Finished) :
    ∃ a m', a ≠ .cancel ∧ m.step process a = some m' := by
  cases hres : m.results with
  | cons r rest =>
    obtain ⟨m', h'⟩ : ∃ m', m.step process .receiveResult = some m' := by
      simp [State.step, State.receiveResult, hres]
    exact ⟨.receiveResult, m', by simp, h'⟩
  | nil =>
  cases herr : m.errors with
  | cons e rest =>
    obtain ⟨m', h'⟩ : ∃ m', m.step process .receiveError = some m' := by
      simp [State.step, State.receiveError, herr]
    exact ⟨.receiveError, m', by simp, h'⟩
  | nil =>
  by_cases hall : ∀ st ∈ m.workers, st = .exited
  · -- every worker has left: only the producer can be unfinished, and it can always move
    have hf : m.feeder ≠ .closed := fun hf => h ⟨hf, hall, hres, herr⟩
    refine ⟨.feed, ?_⟩
    cases hfe : m.feeder with
    | closed => exact absurd hfe hf
    | pulling =>
      obtain ⟨m', h'⟩ := feed_of_pulling hfe
      exact ⟨m', by simp, h'⟩
    | holding j =>
      obtain ⟨m', h'⟩ : ∃ m', m.step process .feed = some m' := by
        cases hc : m.cancelled <;> simp [State.step, State.feed, hfe, hc, if_pos hall]
      exact ⟨m', by simp, h'⟩
  · push Not at hall
    obtain ⟨st, hst, hne⟩ := hall
    obtain ⟨k, hk⟩ := List.getElem?_of_mem hst
    exact worker_can_move hw hres herr hk hne

end Deadlock

/-! ## Every run is finite -/

section Potential

/-- The moves still ahead of a candidate that a worker has taken, before the worker needs
a new one: two for each finding it will send, and five more. -/
def Job.weight (process : Candidate → Except ScanError (List Finding)) (j : Job) : Nat :=
  2 * (findingsOf (process j.1)).length + 5

/-- The moves a worker can still make before it needs a new candidate. -/
def Stage.potential (process : Candidate → Except ScanError (List Finding)) : Stage → Nat
  | .idle => 2
  | .locked => 1
  | .taken j => j.weight process + 1
  | .probing j => j.weight process
  | .sending _ rs => 2 * rs.length + 3
  | .reporting _ _ => 4
  | .exited => 0

/-- The moves the producer can still make with the candidate it holds. -/
def Feeder.potential (process : Candidate → Except ScanError (List Finding)) : Feeder → Nat
  | .pulling => 1
  | .holding j => j.weight process + 4
  | .closed => 0

/-- More than the number of moves a run can still make. -/
def State.potential (process : Candidate → Except ScanError (List Finding)) (m : State) : Nat :=
  (m.stream.map fun j => j.weight process + 4).sum + m.feeder.potential process +
    (m.intake.map fun j => j.weight process + 2).sum +
    (m.workers.map (Stage.potential process)).sum +
    m.results.length + m.errors.length + (!m.cancelled).toNat

variable {m m' : State}

theorem potential_setStage (process : Candidate → Except ScanError (List Finding)) {k : Nat}
    {st : Stage} (hk : m.workers[k]? = some st) (st' : Stage) :
    ((m.workers.set k st').map (Stage.potential process)).sum + st.potential process =
      (m.workers.map (Stage.potential process)).sum + st'.potential process :=
  sum_map_set hk st' (Stage.potential process)

/-- Every move lowers the potential. -/
theorem potential_move (h : Moves process m m') : m'.potential process < m.potential process := by
  cases h with
  | close hf hc => simp [State.potential, hf, Feeder.potential]
  | pull hf hc hs =>
    simp only [State.potential, hf, hs, Feeder.potential, List.map_cons, List.sum_cons]
    omega
  | abandon hf hc =>
    simp only [State.potential, hf, Feeder.potential]
    omega
  | push hf hc hw hl =>
    simp only [State.potential, hf, Feeder.potential, List.map_append, List.sum_append,
      List.map_cons, List.map_nil, List.sum_cons, List.sum_nil]
    omega
  | quit hk hc =>
    rcases hk with hk | hk <;>
    · have := potential_setStage process hk .exited
      simp only [Stage.potential] at this
      simp only [State.potential, State.setStage]
      omega
  | lock hk hc hl =>
    have := potential_setStage process hk .locked
    simp only [Stage.potential] at this
    simp only [State.potential, State.setStage]
    omega
  | @take _ j _ hk hc hi =>
    have := potential_setStage process hk (.taken j)
    simp only [Stage.potential] at this
    simp only [State.potential, State.setStage, hi, List.map_cons, List.sum_cons]
    omega
  | leave hk hc hi hf =>
    have := potential_setStage process hk .exited
    simp only [Stage.potential] at this
    simp only [State.potential, State.setStage]
    omega
  | drop hk hc =>
    have := potential_setStage process hk .exited
    simp only [Stage.potential] at this
    simp only [State.potential, State.setStage]
    omega
  | @begin _ j hk hc =>
    have := potential_setStage process hk (.probing j)
    simp only [Stage.potential] at this
    simp only [State.potential, State.setStage]
    omega
  | @answer _ j rs hk hp =>
    have := potential_setStage process hk (.sending j rs)
    simp only [Stage.potential, Job.weight, hp, findingsOf] at this
    simp only [State.potential, State.setStage]
    omega
  | @fail _ j e hk hp =>
    have := potential_setStage process hk (.reporting j e)
    simp only [Stage.potential, Job.weight, hp, findingsOf, List.length_nil] at this
    simp only [State.potential, State.setStage]
    omega
  | @send _ j _ rs hk hl =>
    have := potential_setStage process hk (.sending j rs)
    simp only [Stage.potential, List.length_cons] at this
    simp only [State.potential, State.setStage, List.length_append, List.length_singleton]
    omega
  | sent hk =>
    have := potential_setStage process hk .idle
    simp only [Stage.potential, List.length_nil] at this
    simp only [State.potential, State.setStage]
    omega
  | report hk hl =>
    have := potential_setStage process hk .idle
    simp only [Stage.potential] at this
    simp only [State.potential, State.setStage, List.length_append, List.length_singleton]
    omega
  | receiveResult hr =>
    simp only [State.potential, hr, List.length_cons]
    omega
  | receiveError he =>
    simp only [State.potential, he, List.length_cons]
    omega
  | cancel hc => simp [State.potential, hc]

/-- No schedule has more steps than the potential of the state it starts from. -/
theorem length_le_potential :
    ∀ (as : List Action) (m m' : State), m.run process as = some m' →
      as.length + m'.potential process ≤ m.potential process
  | [], m, m', h => by
    cases h
    simp
  | a :: as, m, m', h => by
    rw [State.run_cons] at h
    cases hs : m.step process a with
    | none => rw [hs] at h; cases h
    | some m₁ =>
      rw [hs] at h
      have hlt := potential_move (step_moves hs)
      have ih := length_le_potential as m₁ m' h
      simp only [List.length_cons]
      omega

end Potential

end Discovery.Pool
