import Discovery.Proofs.Pool.Outcome
/-!
# Cancelling a pool run

Once a run is cancelled no task starts anything new: no worker hands a candidate to the
plugin, the producer pulls nothing more from the stream, and no worker takes a candidate from
the intake (`Moves.frozen`, and `frozen_of_run` for every schedule that follows). What was
started is finished: a probe in flight still answers, its findings or its error are still
sent, and once the consumers have received everything they hold all of it. A candidate that a
worker has taken and not yet handed to the plugin is dropped instead.

Main statement: `cancelled_run_safety`, for a run cancelled at any moment, the start
included.
-/

namespace Discovery.Pool

open State

variable {process : Candidate → Except ScanError (List Finding)}

section Frozen

variable {m m' m'' : State}

/-- A run that was cancelled at `m` and has since reached `m'`: still cancelled, with no
candidate started, pulled from the stream or taken from the intake in between. -/
structure Frozen (m m' : State) : Prop where
  cancelled : m'.cancelled = true
  started : m'.started = m.started
  stream : m'.stream = m.stream
  intake : m'.intake = m.intake

theorem Frozen.trans (h : Frozen m m') (h' : Frozen m' m'') : Frozen m m'' :=
  ⟨h'.cancelled, h'.started.trans h.started, h'.stream.trans h.stream, h'.intake.trans h.intake⟩

/-- No move of a cancelled run starts a probe, pulls a candidate or takes one from the
intake: every move that would checks the cancellation first. -/
theorem Moves.frozen (h : Moves process m m') (hc : m.cancelled = true) : Frozen m m' := by
  cases h with
  | pull _ hc' _ | push _ hc' _ _ | lock _ hc' _ | take _ hc' _ | leave _ hc' _ _
  | begin _ hc' | cancel hc' => simp [hc] at hc'
  | _ => exact ⟨hc, rfl, rfl, rfl⟩

/-- Every schedule that follows a cancellation keeps the run frozen. -/
theorem frozen_of_run (hc : m.cancelled = true) {bs : List Action}
    (h : m.run process bs = some m') : Frozen m m' :=
  run_induction (Frozen m) (fun _ _ hx hmove => hx.trans (hmove.frozen hx.cancelled))
    bs m m' ⟨hc, rfl, rfl, rfl⟩ h

end Frozen

section Dropped

variable {cs : List Candidate} {t : Tally} {m m' : State}

theorem count_held_pos {k : Nat} {j : Job} (hk : m.workers[k]? = some (.taken j)) :
    0 < (m.workers.flatMap Stage.held).count j :=
  List.count_pos_iff.mpr
    (List.mem_flatMap.mpr ⟨.taken j, List.mem_of_getElem? hk, by simp [Stage.held]⟩)

/-- A candidate a worker has taken is nowhere else in the run. -/
theorem Ledger.taken_elsewhere (hL : Ledger process cs t m) {k : Nat} {j : Job}
    (hk : m.workers[k]? = some (.taken j)) :
    j ∉ m.stream ∧ j ∉ m.intake ∧ j ∉ m.started := by
  have hheld := count_held_pos hk
  have hle := hL.count_jobs_le j
  simp only [State.jobs, State.waiting, List.count_append] at hle
  refine ⟨?_, ?_, ?_⟩ <;> rw [← List.count_eq_zero] <;> omega

/-- A candidate that a worker has taken when the run is cancelled is never handed to the
plugin, and once the run has finished it is among the dropped ones. -/
theorem Ledger.taken_dropped (hL : Ledger process cs t m) (hc : m.cancelled = true)
    {bs : List Action} (hrun : m.run process bs = some m') {k : Nat} {j : Job}
    (hk : m.workers[k]? = some (.taken j)) :
    j ∉ m'.started ∧ (m'.Finished → j ∈ m'.dropped) := by
  have hF := frozen_of_run hc hrun
  obtain ⟨hs, hi, hst⟩ := hL.taken_elsewhere hk
  refine ⟨hF.started ▸ hst, fun hfin => ?_⟩
  -- the candidate is still one of the run's jobs, and every other place is ruled out
  have hL' := hL.run hrun
  have hcount : m'.jobs.count j = m.jobs.count j := (hL'.jobs j).trans (hL.jobs j).symm
  have hin := count_held_pos hk
  have hheld : m'.workers.flatMap Stage.held = [] := flatMap_workers_of_closed hfin.2 _ rfl
  rw [← List.count_pos_iff]
  simp only [State.jobs, State.waiting, hF.stream, hF.intake, hF.started, hfin.1, hheld,
    Feeder.held, List.count_append, List.count_nil, List.count_eq_zero.mpr hs,
    List.count_eq_zero.mpr hi, List.count_eq_zero.mpr hst] at hcount
  omega

end Dropped

/-- Cancelling a run, at any moment: from then on no probe starts, no candidate is pulled
from the stream and none is taken from the intake; every probe was on its own candidate of
the stream; a candidate taken but not yet probed is dropped; and the run still never gets
stuck and ends, with every probe started before the cancellation delivering all its findings
or its error once the consumers have received everything. -/
theorem cancelled_run_safety (process : Candidate → Except ScanError (List Finding))
    (cs : List Candidate) (w : Nat) (t : Tally) (as bs : List Action) (m m' : State)
    (hrun : (State.start cs w t).run process as = some m) (hc : m.cancelled = true)
    (hcont : m.run process bs = some m') :
    m'.started = m.started ∧ m'.stream = m.stream ∧ m'.intake = m.intake ∧
    (m'.started.map Prod.snd).Nodup ∧ (∀ j ∈ m'.started, cs[j.2]? = some j.1) ∧
    (∀ (k : Nat) (j : Job), m.workers[k]? = some (.taken j) →
      j ∉ m'.started ∧ (m'.Finished → j ∈ m'.dropped)) ∧
    bs.length ≤ m.potential process ∧
    (¬ m'.Finished → ∃ a m'', a ≠ .cancel ∧ m'.step process a = some m'') ∧
    (m'.StreamsClosed → ∀ j ∈ m.started,
      atPlace j.2 m'.received = findingsOf (process j.1) ∧
      atPlace j.2 m'.failures = failuresOf (process j.1)) := by
  have hL := ledger_of_run hrun
  have hL' := hL.run hcont
  have hF := frozen_of_run hc hcont
  refine ⟨hF.started, hF.stream, hF.intake, hL'.nodup_started, fun j hj => ?_,
    fun k j hk => hL.taken_dropped hc hcont hk, ?_, exists_move hL'.width_pos,
    fun hs j hj => ?_⟩
  · have hjobs : j ∈ m'.jobs := by simp [State.jobs, hj]
    exact List.mem_zipIdx_iff_getElem?.mp (hL'.mem_zipIdx hjobs)
  · have := length_le_potential bs m m' hcont
    omega
  · -- the started candidates are those of the cancelling moment
    have hat := hL'.atPlace_started (hF.started ▸ hj)
    exact ⟨by simp [hL'.received_at hs, hat], by simp [hL'.failures_at hs, hat]⟩

/-- Two candidates and two workers, cancelled while the first is being probed and the second
has just been taken: the first still delivers its finding, the second is dropped. -/
theorem cancelled_run_safety_two :
    let process : Candidate → Except ScanError (List Finding) := fun c =>
      .ok [Finding.ofEntity c.value]
    let upToCancel : List Action :=
      [.feed, .feed, .work 0, .work 0, .work 0, .feed, .feed, .work 1, .work 1, .cancel]
    let afterCancel : List Action :=
      [.work 1, .work 0, .work 0, .receiveResult, .work 0, .work 0, .feed]
    ∃ m m', (State.start [.word "a", .word "b"] 2 {}).run process upToCancel = some m ∧
      m.cancelled = true ∧ m.run process afterCancel = some m' ∧ m'.Finished ∧
      (Candidate.word "b", 1) ∈ m'.dropped ∧
      atPlace 0 m'.received = [Finding.ofEntity "a"] := by
  intro process upToCancel afterCancel
  obtain ⟨-, -, -, -, -, hdropped, -, -, hdelivered⟩ :=
    cancelled_run_safety process [.word "a", .word "b"] 2 {} upToCancel afterCancel _ _ rfl rfl rfl
  exact ⟨_, _, rfl, rfl, rfl, by decide, (hdropped 1 _ rfl).2 (by decide),
    (hdelivered (by decide) (Candidate.word "a", 0) (by decide)).1⟩

end Discovery.Pool
