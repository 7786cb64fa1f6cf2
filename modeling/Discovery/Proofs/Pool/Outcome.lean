import Discovery.Proofs.Pool.Progress
/-!
# What a pool run delivers

When both streams of a run are closed, every worker has left and the consumers have
received everything sent, so the ledger says what they hold: from each place of the stream,
exactly what the plugin gave for the candidate started there, in the plugin's order
(`Ledger.received_at`), and as a whole, what the started candidates give
(`Ledger.received_map_perm`). This holds of every run, cancelled or not.

A run that is never cancelled also drops nothing and stops nothing early (`Calm`): the
producer stops at the end of the stream, and a worker leaves only once the producer has
stopped and the intake is empty. So once its streams are closed, every candidate has been
handed to the plugin once, and what the consumers received, as well as the counters, depend
only on the candidates and the plugin, not on the number of workers nor on the order in
which the tasks moved (`uncancelled_run_outcome`).
-/

namespace Discovery.Pool

open State

variable {process : Candidate → Except ScanError (List Finding)}

/-! ## Lists tagged with places -/

section Places

variable {α : Type}

theorem count_atPlace [DecidableEq α] (l : List (α × Nat)) (a : α) (i : Nat) :
    l.count (a, i) = (atPlace i l).count a := by
  induction l with
  | nil => rfl
  | cons x rest ih =>
    obtain ⟨b, p⟩ := x
    by_cases hp : p = i
    · subst hp
      simp [ih, List.count_cons]
    · simp [hp, ih]

/-- Two tagged lists that hold the same items at every place are permutations of each
other. -/
theorem perm_of_atPlace [DecidableEq α] {l l' : List (α × Nat)}
    (h : ∀ i, atPlace i l = atPlace i l') : l.Perm l' := by
  rw [List.perm_iff_count]
  rintro ⟨a, i⟩
  rw [count_atPlace, count_atPlace, h i]

/-- In a list whose places are distinct, an item is all that its place holds. -/
theorem atPlace_of_nodup {l : List (α × Nat)} (hl : (l.map Prod.snd).Nodup) {x : α × Nat}
    (hx : x ∈ l) : atPlace x.2 l = [x.1] := by
  induction l with
  | nil => cases hx
  | cons y rest ih =>
    rw [List.map_cons, List.nodup_cons] at hl
    obtain ⟨hy, hrest⟩ := hl
    rcases List.mem_cons.mp hx with rfl | hx
    · -- no other item has the place of the head
      have : atPlace x.2 rest = [] := by
        rw [atPlace_eq_nil_iff]
        intro z hz hzx
        exact hy (hzx ▸ List.mem_map_of_mem hz)
      simp [this]
    · have hyx : y.2 ≠ x.2 := fun h => hy (h ▸ List.mem_map_of_mem hx)
      simp [hyx, ih hrest hx]

theorem atPlace_map_tag {β : Type} (l : List β) (p i : Nat) :
    atPlace i (l.map (·, p)) = if p = i then l else [] := by
  induction l with
  | nil => simp
  | cons b rest ih =>
    by_cases hp : p = i
    · subst hp
      simp [ih]
    · simp [hp, ih]

/-- What place `i` holds of the items a list of candidates gives, each tagged with its
candidate's place, is what the candidates of place `i` give. -/
theorem atPlace_flatMap_tag {β : Type} (F : Candidate → List β) (js : List Job) (i : Nat) :
    atPlace i (js.flatMap fun j => (F j.1).map (·, j.2)) = (atPlace i js).flatMap F := by
  induction js with
  | nil => rfl
  | cons j rest ih =>
    by_cases hj : j.2 = i
    · simp [List.flatMap_cons, atPlace_map_tag, hj, ih]
    · simp [List.flatMap_cons, atPlace_map_tag, hj, ih]

theorem map_fst_flatMap_tag {β : Type} (F : Candidate → List β) (js : List Job) :
    (js.flatMap fun j => (F j.1).map (·, j.2)).map Prod.fst = (js.map Prod.fst).flatMap F := by
  simp [List.map_flatMap, List.flatMap_map, Function.comp_def]

/-- Items that each place holds as its candidates give them are, as a whole, what the
candidates give, in some order. -/
theorem map_fst_perm_of_atPlace {β : Type} [DecidableEq β] (F : Candidate → List β)
    {l : List (β × Nat)} {js : List Job} (h : ∀ i, atPlace i l = (atPlace i js).flatMap F) :
    (l.map Prod.fst).Perm ((js.map Prod.fst).flatMap F) := by
  have htagged : l.Perm (js.flatMap fun j => (F j.1).map (·, j.2)) :=
    perm_of_atPlace fun i => by rw [h i, atPlace_flatMap_tag]
  rw [← map_fst_flatMap_tag]
  exact htagged.map Prod.fst

end Places

/-! ## What the consumers hold once the streams are closed -/

section Closed

variable {cs : List Candidate} {t : Tally} {m : State}

/-- The places of the candidates of a run are distinct. -/
theorem Ledger.nodup_places (hL : Ledger process cs t m) : (m.jobs.map Prod.snd).Nodup := by
  have hp : m.jobs.Perm cs.zipIdx := List.perm_iff_count.mpr hL.jobs
  exact (hp.map Prod.snd).nodup_iff.mpr (List.nodup_zipIdx_map_snd cs)

theorem Ledger.nodup_started (hL : Ledger process cs t m) : (m.started.map Prod.snd).Nodup := by
  have hsub : m.started.Sublist m.jobs :=
    (List.sublist_append_right _ _).trans (List.sublist_append_left _ _)
  exact (hsub.map Prod.snd).nodup hL.nodup_places

theorem Ledger.atPlace_started (hL : Ledger process cs t m) {j : Job} (hj : j ∈ m.started) :
    atPlace j.2 m.started = [j.1] :=
  atPlace_of_nodup hL.nodup_started hj

/-- Once every worker has left, nothing is left in the workers' hands. -/
theorem flatMap_workers_of_closed (hs : m.StreamsClosed) {β : Type} (f : Stage → List β)
    (hf : f .exited = []) : m.workers.flatMap f = [] :=
  List.flatMap_eq_nil_iff.mpr fun st hst => by rw [hs.1 st hst]; exact hf

theorem findingsAt_of_closed (hs : m.StreamsClosed) (i : Nat) :
    m.findingsAt process i = atPlace i m.received := by
  simp [State.findingsAt, hs.2.1, flatMap_workers_of_closed hs (Stage.owedFindings process i) rfl]

theorem failuresAt_of_closed (hs : m.StreamsClosed) (i : Nat) :
    m.failuresAt process i = atPlace i m.failures := by
  simp [State.failuresAt, hs.2.2, flatMap_workers_of_closed hs (Stage.owedFailures process i) rfl]

theorem uncounted_of_closed (hs : m.StreamsClosed) : m.uncounted process = 0 :=
  List.sum_eq_zero fun n hn => by
    obtain ⟨st, hst, rfl⟩ := List.mem_map.mp hn
    rw [hs.1 st hst]
    rfl

/-- Once the streams are closed, the consumer has received from each place what the plugin
gave for the candidate started there, in the plugin's order. -/
theorem Ledger.received_at (hL : Ledger process cs t m) (hs : m.StreamsClosed) (i : Nat) :
    atPlace i m.received = (atPlace i m.started).flatMap (findingsOf ∘ process) := by
  rw [← findingsAt_of_closed hs, hL.findings i]

theorem Ledger.failures_at (hL : Ledger process cs t m) (hs : m.StreamsClosed) (i : Nat) :
    atPlace i m.failures = (atPlace i m.started).flatMap (failuresOf ∘ process) := by
  rw [← failuresAt_of_closed hs, hL.failures i]

/-- Once the streams are closed, the findings received are those of the started candidates,
in some order. -/
theorem Ledger.received_map_perm (hL : Ledger process cs t m) (hs : m.StreamsClosed) :
    (m.received.map Prod.fst).Perm ((m.started.map Prod.fst).flatMap (findingsOf ∘ process)) :=
  map_fst_perm_of_atPlace _ (hL.received_at hs)

theorem Ledger.failures_map_perm (hL : Ledger process cs t m) (hs : m.StreamsClosed) :
    (m.failures.map Prod.fst).Perm ((m.started.map Prod.fst).flatMap (failuresOf ∘ process)) :=
  map_fst_perm_of_atPlace _ (hL.failures_at hs)

/-- Once the streams are closed, every failing probe has been counted. -/
theorem Ledger.errors_of_closed (hL : Ledger process cs t m) (hs : m.StreamsClosed) :
    m.tally.errors = t.errors + failureCount process m.started := by
  have := hL.errors
  rw [uncounted_of_closed hs] at this
  omega

theorem failureCount_eq_countP (js : List Job) :
    failureCount process js = js.countP fun j => !(process j.1).isOk := by
  induction js with
  | nil => rfl
  | cons j rest ih =>
    simp only [failureCount, List.map_cons, List.sum_cons, List.countP_cons] at ih ⊢
    rw [ih]
    cases process j.1 <;> simp [failuresOf, Except.isOk, Except.toBool, Nat.add_comm]

end Closed

/-! ## A run that is never cancelled -/

section Calm

variable {cs : List Candidate} {t : Tally} {m m' : State}

/-- What a run keeps while it is not cancelled: nothing is dropped, the producer stops only
at the end of the stream, and a worker leaves only once the producer has stopped and the
intake is empty. -/
structure Calm (m : State) : Prop where
  dropped : m.dropped = []
  stream : m.feeder = .closed → m.stream = []
  exited : Stage.exited ∈ m.workers → m.feeder = .closed ∧ m.intake = []

theorem Calm.no_exited (hC : Calm m) (hf : m.feeder ≠ .closed) : Stage.exited ∉ m.workers :=
  fun hx => hf (hC.exited hx).1

/-- A worker that moves to any stage but leaving keeps a run calm, whatever the move does
besides to the counters, the streams and the started candidates. -/
theorem Calm.frame (hC : Calm m) {k : Nat} {st : Stage} (hw : m'.workers = m.workers.set k st)
    (hd : m'.dropped = m.dropped) (hf : m'.feeder = m.feeder) (hs : m'.stream = m.stream)
    (hi : m'.intake = m.intake) (hst : st ≠ .exited) : Calm m' := by
  refine ⟨hd ▸ hC.dropped, fun h => hs ▸ hC.stream (hf ▸ h), fun hx => ?_⟩
  rw [hw] at hx
  rw [hf, hi]
  exact hC.exited ((List.mem_or_eq_of_mem_set hx).resolve_right (Ne.symm hst))

theorem Moves.cancelled_eq_false (h : Moves process m m') (hc : m'.cancelled = false) :
    m.cancelled = false := by
  cases hm : m.cancelled
  · rfl
  · simp [h.cancelled_le hm] at hc

/-- Every move that leaves the run uncancelled keeps it calm. -/
theorem Calm.move (hL : Ledger process cs t m) (hC : Calm m) (h : Moves process m m')
    (hc' : m'.cancelled = false) : Calm m' := by
  have hc : m.cancelled = false := h.cancelled_eq_false hc'
  cases h with
  | close hf hcs =>
    -- not cancelled, so the producer stops at the end of the stream
    have hs : m.stream = [] := by simpa [hc] using hcs
    exact ⟨hC.dropped, fun _ => hs, fun hx => absurd (hC.exited hx).1 (by simp [hf])⟩
  | pull hf _ _ =>
    exact ⟨hC.dropped, nofun, fun hx => absurd hx (hC.no_exited (by simp [hf]))⟩
  | abandon hf hcs =>
    -- not cancelled, so every worker has left; but none leaves while the producer holds one
    have hall : ∀ st ∈ m.workers, st = .exited := by simpa [hc] using hcs
    obtain ⟨st, hst⟩ := List.exists_mem_of_length_pos (hL.length_workers ▸ hL.width_pos)
    exact absurd (hall st hst ▸ hst) (hC.no_exited (by simp [hf]))
  | push hf _ _ _ =>
    exact ⟨hC.dropped, nofun, fun hx => absurd hx (hC.no_exited (by simp [hf]))⟩
  | quit _ hq => simp [hc] at hq
  | lock => exact hC.frame rfl rfl rfl rfl rfl nofun
  | take hk _ hi =>
    refine ⟨hC.dropped, hC.stream, fun hx => ?_⟩
    have hx' := (List.mem_or_eq_of_mem_set hx).resolve_right nofun
    simp [(hC.exited hx').2] at hi
  | leave _ _ hi hf => exact ⟨hC.dropped, hC.stream, fun _ => ⟨hf, hi⟩⟩
  | drop _ hq => simp [hc] at hq
  | begin => exact hC.frame rfl rfl rfl rfl rfl nofun
  | answer => exact hC.frame rfl rfl rfl rfl rfl nofun
  | fail => exact hC.frame rfl rfl rfl rfl rfl nofun
  | send => exact hC.frame rfl rfl rfl rfl rfl nofun
  | sent => exact hC.frame rfl rfl rfl rfl rfl nofun
  | report => exact hC.frame rfl rfl rfl rfl rfl nofun
  | receiveResult => exact ⟨hC.dropped, hC.stream, hC.exited⟩
  | receiveError => exact ⟨hC.dropped, hC.stream, hC.exited⟩
  | cancel => simp at hc'

theorem calm_start (cs : List Candidate) (w : Nat) (t : Tally) : Calm (State.start cs w t) :=
  ⟨rfl, nofun, by simp [State.start]⟩

/-- Every state of a run that is not cancelled yet is calm. -/
theorem calm_of_run {w : Nat} {as : List Action}
    (h : (State.start cs w t).run process as = some m) (hc : m.cancelled = false) : Calm m := by
  -- the ledger is carried along: a calm move needs workers to exist
  have key := run_induction (fun m => Ledger process cs t m ∧ (m.cancelled = false → Calm m))
    (fun _ _ ⟨hL, hC⟩ hmove => ⟨hL.move hmove,
      fun hc' => (hC (hmove.cancelled_eq_false hc')).move hL hmove hc'⟩)
    as _ m ⟨ledger_start cs w t, fun _ => calm_start cs w t⟩ h
  exact key.2 hc

theorem Calm.waiting_eq_nil (hL : Ledger process cs t m) (hC : Calm m) (hs : m.StreamsClosed) :
    m.waiting = [] := by
  obtain ⟨st, hst⟩ := List.exists_mem_of_length_pos (hL.length_workers ▸ hL.width_pos)
  obtain ⟨hf, hi⟩ := hC.exited (hs.1 st hst ▸ hst)
  simp [State.waiting, hC.stream hf, hf, hi, flatMap_workers_of_closed hs Stage.held rfl,
    Feeder.held]

/-- When the streams of a calm run are closed, every candidate was handed to the plugin
once. -/
theorem Calm.started_perm (hL : Ledger process cs t m) (hC : Calm m) (hs : m.StreamsClosed) :
    m.started.Perm cs.zipIdx := by
  rw [List.perm_iff_count]
  intro x
  have := hL.jobs x
  rwa [State.jobs, hC.waiting_eq_nil hL hs, hC.dropped, List.nil_append, List.append_nil] at this

end Calm

/-- A run that is not cancelled never gets stuck and always ends; once its streams are
closed, every candidate was handed to the plugin exactly once, the consumers received from
each candidate what the plugin gave for it, in the plugin's order, and so all the findings
and all the errors of the candidates, and the counters count the probes that answered and
those that failed. -/
theorem uncancelled_run_outcome (process : Candidate → Except ScanError (List Finding))
    (cs : List Candidate) (w : Nat) (as : List Action) (m : State)
    (hrun : (State.start cs w {}).run process as = some m) (hc : m.cancelled = false) :
    as.length ≤ (State.start cs w {}).potential process ∧
    (¬ m.Finished → ∃ a m', a ≠ .cancel ∧ m.step process a = some m') ∧
    (m.StreamsClosed →
      m.started.Perm cs.zipIdx ∧
      (∀ i c, cs[i]? = some c →
        atPlace i m.received = findingsOf (process c) ∧
        atPlace i m.failures = failuresOf (process c)) ∧
      (m.received.map Prod.fst).Perm (cs.flatMap (findingsOf ∘ process)) ∧
      (m.failures.map Prod.fst).Perm (cs.flatMap (failuresOf ∘ process)) ∧
      m.tally.issued = cs.countP (fun c => (process c).isOk) ∧
      m.tally.errors = cs.countP (fun c => !(process c).isOk)) := by
  have hL := ledger_of_run hrun
  have hC := calm_of_run hrun hc
  refine ⟨?_, exists_move hL.width_pos, fun hs => ?_⟩
  · have := length_le_potential as _ _ hrun
    omega
  have hperm := hC.started_perm hL hs
  have hcands : (m.started.map Prod.fst).Perm cs := by
    simpa [List.zipIdx_map_fst] using hperm.map Prod.fst
  -- the counters: every probe was issued once, and the failing ones moved to the errors
  have herrors : m.tally.errors = cs.countP fun c => !(process c).isOk := by
    rw [hL.errors_of_closed hs, failureCount_eq_countP, ← hcands.countP_eq, List.countP_map]
    simp [Function.comp_def]
  have hissued : m.tally.issued + m.tally.errors = cs.length := by
    simpa [hperm.length_eq] using hL.issued
  refine ⟨hperm, fun i c hic => ?_, ?_, ?_, ?_, herrors⟩
  · have hj : (c, i) ∈ m.started := hperm.mem_iff.mpr (List.mem_zipIdx_iff_getElem?.mpr hic)
    have hat := hL.atPlace_started hj
    exact ⟨by simp [hL.received_at hs, hat], by simp [hL.failures_at hs, hat]⟩
  · exact (hL.received_map_perm hs).trans (hcands.flatMap_right _)
  · exact (hL.failures_map_perm hs).trans (hcands.flatMap_right _)
  · have hsplit : cs.countP (fun c => (process c).isOk) +
        cs.countP (fun c => !(process c).isOk) = cs.length := by
      rw [List.length_eq_countP_add_countP fun c => (process c).isOk]
      simp
    omega

/-- Two candidates through one worker, the first answered and the second failing. -/
theorem uncancelled_run_outcome_two :
    let process : Candidate → Except ScanError (List Finding) := fun c =>
      if c.value = "a" then .ok [Finding.ofEntity c.value] else .error (.probe c.value "refused")
    let schedule : List Action :=
      [.feed, .feed, .work 0, .work 0, .work 0, .work 0, .work 0, .receiveResult, .work 0,
        .feed, .feed, .work 0, .work 0, .work 0, .work 0, .work 0, .receiveError,
        .work 0, .feed, .work 0]
    ∃ m, (State.start [.word "a", .word "b"] 1 {}).run process schedule = some m ∧
      m.cancelled = false ∧ m.Finished ∧
      atPlace 0 m.received = [Finding.ofEntity "a"] ∧
      atPlace 1 m.failures = [ScanError.probe "b" "refused"] ∧
      m.tally.issued = 1 ∧ m.tally.errors = 1 := by
  intro process schedule
  obtain ⟨-, -, hclosed⟩ :=
    uncancelled_run_outcome process [.word "a", .word "b"] 1 schedule _ rfl rfl
  obtain ⟨-, hplace, -, -, hissued, herrors⟩ := hclosed (by decide)
  exact ⟨_, rfl, rfl, by decide, (hplace 0 _ rfl).1, (hplace 1 _ rfl).2, hissued, herrors⟩

end Discovery.Pool
