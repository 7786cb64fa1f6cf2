import Discovery.Proofs.Pool.Counters
/-!
# Bounded work in flight

The intake and the two streams of a run have `w` places each, and a worker holds one
candidate at a time. So however slowly the consumers receive, a run never has more than
`4 w + 1` candidates out of the stream that are not yet done with: one held by the producer,
`w` queued in the intake, one with each of the `w` workers, and those whose findings or errors
still wait in a stream, at most `w` in each.

A candidate pulled from the stream is settled when it was dropped on a cancellation, or when
the plugin has returned for it and the consumers have received everything it gave; a candidate
the plugin answers with nothing is settled as soon as the plugin returns. The ledger finds every
other pulled candidate with the producer, in the intake, with a worker busy with it, or by its
place in one of the streams (`Ledger.outstanding_mem`). Since the candidates of a run have
distinct places, counting these places bounds them.

Main statement: `outstanding_le`.
-/

namespace Discovery.Pool

open State

variable {process : Candidate → Except ScanError (List Finding)}

/-! ## The buffers never overflow -/

/-- No buffer of a run holds more than its places. -/
structure Bounded (m : State) : Prop where
  intake : m.intake.length ≤ m.width
  results : m.results.length ≤ m.width
  errors : m.errors.length ≤ m.width

/-- A producer or worker puts into a buffer only when it has a free place, and the consumers
only take from them. -/
theorem Bounded.move {m m' : State} (hB : Bounded m) (h : Moves process m m') : Bounded m' := by
  obtain ⟨hi, hr, he⟩ := hB
  cases h with
  | @push j _ _ _ hl =>
    refine ⟨?_, hr, he⟩
    show (m.intake ++ [j]).length ≤ m.width
    rw [List.length_append, List.length_singleton]
    omega
  | @take _ _ rest _ _ hin =>
    refine ⟨?_, hr, he⟩
    show rest.length ≤ m.width
    rw [hin, List.length_cons] at hi
    omega
  | @send _ j r _ _ hl =>
    refine ⟨hi, ?_, he⟩
    show (m.results ++ [(r, j.2)]).length ≤ m.width
    rw [List.length_append, List.length_singleton]
    omega
  | @report _ j e _ hl =>
    refine ⟨hi, hr, ?_⟩
    show (m.errors ++ [(e, j.2)]).length ≤ m.width
    rw [List.length_append, List.length_singleton]
    omega
  | @receiveResult _ rest hres =>
    refine ⟨hi, ?_, he⟩
    show rest.length ≤ m.width
    rw [hres, List.length_cons] at hr
    omega
  | @receiveError _ rest herr =>
    refine ⟨hi, hr, ?_⟩
    show rest.length ≤ m.width
    rw [herr, List.length_cons] at he
    omega
  | close | pull | abandon | cancel => exact ⟨hi, hr, he⟩
  | quit | lock | leave | drop | begin | answer | fail | sent => exact ⟨hi, hr, he⟩

/-- Every state a run reaches keeps its buffers within their places, and the width it started
with. -/
theorem bounded_of_run {cs : List Candidate} {w : Nat} {t : Tally} {as : List Action} {m : State}
    (h : (State.start cs w t).run process as = some m) : Bounded m ∧ m.width = max w 1 :=
  run_induction (fun m => Bounded m ∧ m.width = max w 1)
    (fun _ _ ⟨hB, hw⟩ hmove => ⟨hB.move hmove, hmove.width_eq ▸ hw⟩) as _ m
    ⟨⟨by simp [State.start], by simp [State.start], by simp [State.start]⟩, rfl⟩ h

/-! ## Where a candidate not done with is -/

/-- The candidate a worker is busy with: taken and not yet handed to the plugin, waiting on
the plugin, with findings still to send, or with its error to send. -/
def Stage.busy : Stage → List Job
  | .taken j => [j]
  | .probing j => [j]
  | .sending j (_ :: _) => [j]
  | .reporting j _ => [j]
  | _ => []

theorem Stage.length_busy_le (st : Stage) : st.busy.length ≤ 1 := by
  match st with
  | .sending _ [] | .sending _ (_ :: _) => simp [Stage.busy]
  | .idle | .locked | .taken _ | .probing _ | .reporting _ _ | .exited => simp [Stage.busy]

theorem length_flatMap_busy_le (ws : List Stage) : (ws.flatMap Stage.busy).length ≤ ws.length := by
  induction ws with
  | nil => simp
  | cons st rest ih =>
    have := st.length_busy_le
    simp only [List.flatMap_cons, List.length_append, List.length_cons]
    omega

/-- A busy worker holds a candidate of the run: one it has taken, or one it handed to the
plugin. -/
theorem Stage.busy_subset (st : Stage) : ∀ j ∈ st.busy, j ∈ st.held ∨ j ∈ st.active := by
  match st with
  | .sending _ [] | .sending _ (_ :: _) => simp [Stage.busy, Stage.active]
  | .idle | .locked | .taken _ | .probing _ | .reporting _ _ | .exited =>
    simp [Stage.busy, Stage.held, Stage.active]

theorem Stage.held_subset_busy (st : Stage) : ∀ j ∈ st.held, j ∈ st.busy := by
  cases st <;> simp [Stage.busy, Stage.held]

theorem Stage.pending_subset_busy (st : Stage) : ∀ j ∈ st.pending, j ∈ st.busy := by
  cases st <;> simp [Stage.busy, Stage.pending]

/-- A worker that still owes findings of place `i` is busy with a candidate of that place. -/
theorem Stage.busy_of_owedFindings {st : Stage} {i : Nat} (h : st.owedFindings process i ≠ []) :
    ∃ j ∈ st.busy, j.2 = i := by
  match st with
  | .probing j | .sending j (_ :: _) =>
    by_cases hj : j.2 = i
    · exact ⟨j, by simp [Stage.busy], hj⟩
    · simp [Stage.owedFindings, hj] at h
  | .sending _ [] | .idle | .locked | .taken _ | .reporting _ _ | .exited =>
    simp [Stage.owedFindings] at h

theorem Stage.busy_of_owedFailures {st : Stage} {i : Nat} (h : st.owedFailures process i ≠ []) :
    ∃ j ∈ st.busy, j.2 = i := by
  match st with
  | .probing j | .reporting j _ =>
    by_cases hj : j.2 = i
    · exact ⟨j, by simp [Stage.busy], hj⟩
    · simp [Stage.owedFailures, hj] at h
  | .sending _ _ | .idle | .locked | .taken _ | .exited => simp [Stage.owedFailures] at h

/-- Only a worker busy with a candidate of place `i` owes anything of that place. -/
theorem flatMap_owed_eq_nil {β : Type} {ws : List Stage} {i : Nat} {f : Stage → List β}
    (hf : ∀ st, f st ≠ [] → ∃ j ∈ st.busy, j.2 = i) (hno : ∀ j ∈ ws.flatMap Stage.busy, j.2 ≠ i) :
    ws.flatMap f = [] := by
  refine List.flatMap_eq_nil_iff.mpr fun st hst => ?_
  by_contra hne
  obtain ⟨j, hj, hji⟩ := hf st hne
  exact hno j (List.mem_flatMap.mpr ⟨st, hst, hj⟩) hji

/-- A candidate is settled: dropped on a cancellation, or returned from the plugin with all it
gave received. -/
def State.Settled (process : Candidate → Except ScanError (List Finding)) (m : State)
    (j : Job) : Prop :=
  j ∈ m.dropped ∨
    (j ∈ m.returned ∧ atPlace j.2 m.received = findingsOf (process j.1) ∧
      atPlace j.2 m.failures = failuresOf (process j.1))

/-- A candidate out of the stream and not settled. -/
def State.Outstanding (process : Candidate → Except ScanError (List Finding)) (m : State)
    (j : Job) : Prop :=
  j ∉ m.stream ∧ ¬ m.Settled process j

instance (m : State) : DecidablePred (m.Outstanding process) := fun _ =>
  inferInstanceAs (Decidable (_ ∧ ¬ (_ ∨ (_ ∧ _ ∧ _))))

section Ledger

variable {cs : List Candidate} {t : Tally} {m : State}

theorem Ledger.mem_jobs_of_busy (hL : Ledger process cs t m) {j : Job}
    (hj : j ∈ m.workers.flatMap Stage.busy) : j ∈ m.jobs := by
  obtain ⟨st, hst, hjst⟩ := List.mem_flatMap.mp hj
  rcases st.busy_subset j hjst with hh | ha
  · simp only [State.jobs, State.waiting, List.mem_append, List.mem_flatMap]
    exact .inl (.inl (.inr ⟨st, hst, hh⟩))
  · -- a candidate a worker is busy with has been handed to the plugin
    have hpos : 0 < (m.workers.flatMap Stage.active).count j :=
      List.count_pos_iff.mpr (List.mem_flatMap.mpr ⟨st, hst, ha⟩)
    have hs : j ∈ m.started := List.count_pos_iff.mp (lt_of_lt_of_le hpos (hL.active j))
    simp [State.jobs, hs]

/-- A worker owes nothing of the place of a candidate that no worker is busy with. -/
theorem Ledger.owed_eq_nil (hL : Ledger process cs t m) {j : Job} (hj : j ∈ m.jobs)
    (hbusy : j ∉ m.workers.flatMap Stage.busy) :
    ∀ j' ∈ m.workers.flatMap Stage.busy, j'.2 ≠ j.2 :=
  fun _ hj' hplace => hbusy (hL.eq_of_place (hL.mem_jobs_of_busy hj') hj hplace ▸ hj')

/-- A candidate of the run that is out of the stream and not settled is held by the producer,
queued in the intake, with a busy worker, or has a finding or an error in a stream. -/
theorem Ledger.outstanding_mem (hL : Ledger process cs t m) {j : Job} (hj : j ∈ cs.zipIdx)
    (ho : m.Outstanding process j) :
    j ∈ m.feeder.held ++ m.intake ++ m.workers.flatMap Stage.busy ∨
      j.2 ∈ m.results.map Prod.snd ++ m.errors.map Prod.snd := by
  obtain ⟨hstream, hsettled⟩ := ho
  have hjobs : j ∈ m.jobs := by
    have := hL.jobs j
    rw [← List.count_pos_iff] at hj ⊢
    omega
  by_contra hout
  simp only [List.mem_append, List.mem_map, not_or, not_exists, not_and] at hout
  obtain ⟨⟨⟨hheld, hintake⟩, hbusy⟩, hres, herr⟩ := hout
  -- out of the stream, not with the producer, the intake or a worker: started or dropped
  have hwait : j ∉ m.workers.flatMap Stage.held := fun h => by
    obtain ⟨st, hst, hjst⟩ := List.mem_flatMap.mp h
    exact hbusy (List.mem_flatMap.mpr ⟨st, hst, st.held_subset_busy j hjst⟩)
  have hstarted : j ∈ m.started ∨ j ∈ m.dropped := by
    simpa [State.jobs, State.waiting, hstream, hheld, hintake, hwait] using hjobs
  rcases hstarted with hs | hd
  · apply hsettled
    have hpend : j ∉ m.pending := fun h => by
      obtain ⟨st, hst, hjst⟩ := List.mem_flatMap.mp h
      exact hbusy (List.mem_flatMap.mpr ⟨st, hst, st.pending_subset_busy j hjst⟩)
    have hother := hL.owed_eq_nil hjobs hbusy
    -- nothing of its place is in a stream or owed, so all it gave was received
    have hres' : atPlace j.2 m.results = [] :=
      atPlace_eq_nil_iff.mpr fun x hx hxj => hres x hx hxj
    have herr' : atPlace j.2 m.errors = [] :=
      atPlace_eq_nil_iff.mpr fun x hx hxj => herr x hx hxj
    have hfind := hL.findings j.2
    have hfail := hL.failures j.2
    rw [hL.atPlace_started hs] at hfind hfail
    simp only [State.findingsAt, hres', List.append_nil, List.flatMap_cons, List.flatMap_nil,
      flatMap_owed_eq_nil (fun _ h => Stage.busy_of_owedFindings h) hother, Function.comp_apply]
      at hfind
    simp only [State.failuresAt, herr', List.append_nil, List.flatMap_cons, List.flatMap_nil,
      flatMap_owed_eq_nil (fun _ h => Stage.busy_of_owedFailures h) hother, Function.comp_apply]
      at hfail
    exact .inr ⟨List.mem_filter.mpr ⟨hs, by simpa using hpend⟩, hfind, hfail⟩
  · exact hsettled (.inl hd)

end Ledger

/-! ## The bound -/

theorem Feeder.length_held_le (f : Feeder) : f.held.length ≤ 1 := by
  cases f <;> simp [Feeder.held]

/-- However slowly the consumers receive, at most `4 w + 1` candidates of a run with `w`
workers (at least one) are out of the stream and not settled: neither dropped nor done with
the plugin and received. -/
theorem outstanding_le (process : Candidate → Except ScanError (List Finding))
    (cs : List Candidate) (w : Nat) (t : Tally) (as : List Action) (m : State)
    (hrun : (State.start cs w t).run process as = some m) :
    cs.zipIdx.countP (fun j => m.Outstanding process j) ≤ 4 * max w 1 + 1 := by
  have hL := ledger_of_run hrun
  obtain ⟨hB, hw⟩ := bounded_of_run hrun
  let near := (m.feeder.held ++ m.intake ++ m.workers.flatMap Stage.busy).map Prod.snd ++
    (m.results.map Prod.snd ++ m.errors.map Prod.snd)
  rw [List.countP_eq_length_filter, ← List.length_map (f := Prod.snd)]
  -- the places of the outstanding candidates are distinct and all near a task or a buffer
  have hnd : ((cs.zipIdx.filter fun j => m.Outstanding process j).map Prod.snd).Nodup :=
    (List.filter_sublist.map Prod.snd).nodup (List.nodup_zipIdx_map_snd cs)
  have hsub : (cs.zipIdx.filter fun j => m.Outstanding process j).map Prod.snd ⊆ near := by
    intro i hi
    obtain ⟨j, hjO, rfl⟩ := List.mem_map.mp hi
    obtain ⟨hj, ho⟩ := List.mem_filter.mp hjO
    rcases hL.outstanding_mem hj (of_decide_eq_true ho) with h | h
    · exact List.mem_append_left _ (List.mem_map_of_mem h)
    · exact List.mem_append_right _ h
  refine (hnd.subperm hsub).length_le.trans ?_
  have hheld := m.feeder.length_held_le
  have hbusy := length_flatMap_busy_le m.workers
  have hworkers := hL.length_workers
  have hi := hB.intake
  have hr := hB.results
  have he := hB.errors
  simp only [near, List.length_append, List.length_map]
  omega

/-- One worker, with a failed candidate's error and an answered candidate's finding waiting in
their streams, a third candidate with the plugin, a fourth in the intake and a fifth held by the
producer: five candidates are outstanding, as many as the bound allows. -/
theorem outstanding_le_full :
    let process : Candidate → Except ScanError (List Finding) := fun c =>
      if c.value = "a" then .error (.probe c.value "refused") else .ok [Finding.ofEntity c.value]
    let cs : List Candidate := [.word "a", .word "b", .word "c", .word "d", .word "e"]
    let schedule : List Action :=
      [.feed, .feed, .work 0, .work 0, .work 0, .work 0, .work 0,
        .feed, .feed, .work 0, .work 0, .work 0, .work 0, .work 0, .work 0,
        .feed, .feed, .work 0, .work 0, .work 0, .feed, .feed, .feed]
    ∃ m, (State.start cs 1 {}).run process schedule = some m ∧
      cs.zipIdx.countP (fun j => m.Outstanding process j) = 5 ∧
      cs.zipIdx.countP (fun j => m.Outstanding process j) ≤ 4 * max 1 1 + 1 := by
  intro process cs schedule
  -- the kernel runs the schedule once; the count is read off the state it reaches
  have hcount : ((State.start cs 1 {}).run process schedule).map
      (fun m => cs.zipIdx.countP fun j => m.Outstanding process j) = some 5 := by
    decide +kernel
  cases hrun : (State.start cs 1 {}).run process schedule with
  | none => rw [hrun] at hcount; cases hcount
  | some m =>
    rw [hrun, Option.map_some] at hcount
    exact ⟨m, rfl, Option.some.inj hcount, outstanding_le process cs 1 {} schedule m hrun⟩

end Discovery.Pool
