import Discovery.Proofs.Pool.Moves
/-!
# The ledger of a pool run

Every candidate of the stream is, at each moment of a run, in exactly one place: not yet
pulled, held by the producer, queued in the intake, taken by a worker, handed to the
plugin, or dropped. Every finding and error a candidate gives is, at each moment, either
received, in a stream, or still owed by the worker busy with that candidate. The counters
follow the probes: one issued for each candidate handed to the plugin, moved to the errors
when the plugin fails.

`Ledger` collects these facts, and `Ledger.move` says that every move keeps them, so that
`ledger_of_run` gives them for every state that any schedule reaches, whatever the number
of workers and whenever the run is cancelled.

Main statements: `count_jobs_move` (no move creates or loses a candidate),
`findingsAt_move` and `failuresAt_move` (what a candidate gives is never lost, doubled or
reordered), and `ledger_of_run`.
-/

namespace Discovery.Pool

open State

variable {process : Candidate → Except ScanError (List Finding)}

/-- The candidate the producer holds. -/
def Feeder.held : Feeder → List Job
  | .holding j => [j]
  | _ => []

namespace Stage

/-- The candidate a worker has taken and not yet handed to the plugin. -/
def held : Stage → List Job
  | .taken j => [j]
  | _ => []

/-- The candidate a worker has handed to the plugin and is not yet done with. -/
def active : Stage → List Job
  | .probing j => [j]
  | .sending j _ => [j]
  | .reporting j _ => [j]
  | _ => []

/-- The findings of place `i` that a worker has still to send. -/
def owedFindings (process : Candidate → Except ScanError (List Finding)) (i : Nat) :
    Stage → List Finding
  | .probing j => if j.2 = i then findingsOf (process j.1) else []
  | .sending j rs => if j.2 = i then rs else []
  | _ => []

/-- The errors of place `i` that a worker has still to send. -/
def owedFailures (process : Candidate → Except ScanError (List Finding)) (i : Nat) :
    Stage → List ScanError
  | .probing j => if j.2 = i then failuresOf (process j.1) else []
  | .reporting j e => if j.2 = i then [e] else []
  | _ => []

/-- The errors a worker has still to count: one while it waits for a probe that fails. -/
def uncounted (process : Candidate → Except ScanError (List Finding)) : Stage → Nat
  | .probing j => (failuresOf (process j.1)).length
  | _ => 0

/-- Only a worker busy with a candidate of place `i` owes findings of place `i`. -/
theorem owedFindings_eq_nil {i : Nat} {st : Stage} (h : ∀ j ∈ st.active, j.2 ≠ i) :
    st.owedFindings process i = [] := by
  cases st <;> simp_all [active, owedFindings]

/-- Only a worker busy with a candidate of place `i` owes errors of place `i`. -/
theorem owedFailures_eq_nil {i : Nat} {st : Stage} (h : ∀ j ∈ st.active, j.2 ≠ i) :
    st.owedFailures process i = [] := by
  cases st <;> simp_all [active, owedFailures]

end Stage

namespace State

/-- The candidates that no worker has handed to the plugin and none has dropped. -/
def waiting (m : State) : List Job :=
  m.stream ++ m.feeder.held ++ m.intake ++ m.workers.flatMap Stage.held

/-- Every candidate of the run, wherever it is. -/
def jobs (m : State) : List Job := m.waiting ++ m.started ++ m.dropped

/-- The findings of place `i`: received, in the stream, and still owed, in this order. -/
def findingsAt (process : Candidate → Except ScanError (List Finding)) (m : State) (i : Nat) :
    List Finding :=
  atPlace i m.received ++ atPlace i m.results ++ m.workers.flatMap (Stage.owedFindings process i)

/-- The errors of place `i`: received, in the stream, and still owed, in this order. -/
def failuresAt (process : Candidate → Except ScanError (List Finding)) (m : State) (i : Nat) :
    List ScanError :=
  atPlace i m.failures ++ atPlace i m.errors ++ m.workers.flatMap (Stage.owedFailures process i)

/-- The failing probes still running, whose errors are not yet counted. -/
def uncounted (process : Candidate → Except ScanError (List Finding)) (m : State) : Nat :=
  (m.workers.map (Stage.uncounted process)).sum

end State

/-- The errors that the plugin gives for a list of candidates. -/
def failureCount (process : Candidate → Except ScanError (List Finding)) (js : List Job) : Nat :=
  (js.map fun j => (failuresOf (process j.1)).length).sum

/-! ## No candidate is created or lost -/

/-- How often a job occurs once worker `k` moves from `st` to `st'`. -/
theorem count_waiting_setStage {m : State} {k : Nat} {st : Stage} (hk : m.workers[k]? = some st)
    (st' : Stage) (x : Job) :
    ((m.setStage k st').waiting).count x + st.held.count x = m.waiting.count x + st'.held.count x := by
  have h := count_flatMap_set hk st' Stage.held x
  simp only [State.waiting, State.setStage, List.count_append] at h ⊢
  omega

/-- No move creates or loses a candidate: the jobs of a run are the same after every move. -/
theorem count_jobs_move {m m' : State} (h : Moves process m m') (x : Job) :
    m'.jobs.count x = m.jobs.count x := by
  cases h with
  | close hf hc => simp [State.jobs, State.waiting, hf, Feeder.held]
  | pull hf hc hs =>
    simp only [State.jobs, State.waiting, hf, hs, Feeder.held, List.count_append, List.count_cons,
      List.count_nil]
    omega
  | abandon hf hc =>
    simp only [State.jobs, State.waiting, hf, Feeder.held, List.count_append, List.count_cons,
      List.count_nil]
    omega
  | push hf hc hw hl =>
    simp only [State.jobs, State.waiting, hf, Feeder.held, List.count_append, List.count_cons,
      List.count_nil]
    omega
  | quit hk hc =>
    rcases hk with hk | hk <;>
    · have := count_waiting_setStage hk .exited x
      simp only [State.jobs, State.setStage, List.count_append, Stage.held, List.count_nil] at this ⊢
      omega
  | lock hk hc hl =>
    have := count_waiting_setStage hk .locked x
    simp only [State.jobs, State.setStage, List.count_append, Stage.held, List.count_nil] at this ⊢
    omega
  | @take _ j _ hk hc hi =>
    have := count_waiting_setStage hk (.taken j) x
    simp only [State.jobs, State.waiting, State.setStage, hi, List.count_append, Stage.held,
      List.count_cons, List.count_nil] at this ⊢
    omega
  | leave hk hc hi hf =>
    have := count_waiting_setStage hk .exited x
    simp only [State.jobs, State.setStage, List.count_append, Stage.held, List.count_nil] at this ⊢
    omega
  | drop hk hc =>
    have := count_waiting_setStage hk .exited x
    simp only [State.jobs, State.waiting, State.setStage, List.count_append, Stage.held,
      List.count_cons, List.count_nil] at this ⊢
    omega
  | @begin _ j hk hc =>
    have := count_waiting_setStage hk (.probing j) x
    simp only [State.jobs, State.waiting, State.setStage, List.count_append, Stage.held,
      List.count_cons, List.count_nil] at this ⊢
    omega
  | @answer _ j rs hk hp =>
    have := count_waiting_setStage hk (.sending j rs) x
    simp only [State.jobs, State.setStage, List.count_append, Stage.held, List.count_nil] at this ⊢
    omega
  | @fail _ j e hk hp =>
    have := count_waiting_setStage hk (.reporting j e) x
    simp only [State.jobs, State.waiting, State.setStage, List.count_append, Stage.held,
      List.count_nil] at this ⊢
    omega
  | @send _ j _ rs hk hl =>
    have := count_waiting_setStage hk (.sending j rs) x
    simp only [State.jobs, State.waiting, State.setStage, List.count_append, Stage.held,
      List.count_nil] at this ⊢
    omega
  | sent hk =>
    have := count_waiting_setStage hk .idle x
    simp only [State.jobs, State.setStage, List.count_append, Stage.held, List.count_nil] at this ⊢
    omega
  | report hk hl =>
    have := count_waiting_setStage hk .idle x
    simp only [State.jobs, State.waiting, State.setStage, List.count_append, Stage.held,
      List.count_nil] at this ⊢
    omega
  | receiveResult hr => rfl
  | receiveError he => rfl
  | cancel hc => rfl

/-! ## Candidates handed to the plugin -/

theorem count_active_setStage {m : State} {k : Nat} {st : Stage} (hk : m.workers[k]? = some st)
    (st' : Stage) (x : Job) :
    ((m.workers.set k st').flatMap Stage.active).count x + st.active.count x =
      (m.workers.flatMap Stage.active).count x + st'.active.count x :=
  count_flatMap_set hk st' Stage.active x

/-- Every candidate a worker is busy with has been handed to the plugin. -/
theorem count_active_move {m m' : State} (h : Moves process m m')
    (hm : ∀ x, (m.workers.flatMap Stage.active).count x ≤ m.started.count x) (x : Job) :
    (m'.workers.flatMap Stage.active).count x ≤ m'.started.count x := by
  have hx := hm x
  cases h with
  | quit hk hc =>
    rcases hk with hk | hk <;>
    · have := count_active_setStage hk .exited x
      simp only [Stage.active, List.count_nil] at this
      simp only [State.setStage]
      omega
  | lock hk hc hl =>
    have := count_active_setStage hk .locked x
    simp only [Stage.active, List.count_nil] at this
    simp only [State.setStage]
    omega
  | @take _ j _ hk hc hi =>
    have := count_active_setStage hk (.taken j) x
    simp only [Stage.active, List.count_nil] at this
    simp only [State.setStage]
    omega
  | leave hk hc hi hf =>
    have := count_active_setStage hk .exited x
    simp only [Stage.active, List.count_nil] at this
    simp only [State.setStage]
    omega
  | drop hk hc =>
    have := count_active_setStage hk .exited x
    simp only [Stage.active, List.count_nil] at this
    simp only [State.setStage]
    omega
  | @begin _ j hk hc =>
    have := count_active_setStage hk (.probing j) x
    simp only [Stage.active, List.count_nil] at this
    simp only [State.setStage, List.count_append]
    omega
  | @answer _ j rs hk hp =>
    have := count_active_setStage hk (.sending j rs) x
    simp only [Stage.active] at this
    simp only [State.setStage]
    omega
  | @fail _ j e hk hp =>
    have := count_active_setStage hk (.reporting j e) x
    simp only [Stage.active] at this
    simp only [State.setStage]
    omega
  | @send _ j _ rs hk hl =>
    have := count_active_setStage hk (.sending j rs) x
    simp only [Stage.active] at this
    simp only [State.setStage]
    omega
  | sent hk =>
    have := count_active_setStage hk .idle x
    simp only [Stage.active, List.count_nil] at this
    simp only [State.setStage]
    omega
  | report hk hl =>
    have := count_active_setStage hk .idle x
    simp only [Stage.active, List.count_nil] at this
    simp only [State.setStage]
    omega
  | close | pull | abandon | push | receiveResult | receiveError | cancel => exact hx

/-! ## The ledger -/

/-- What every state of a run over `cs`, started with the counters `t`, keeps. -/
structure Ledger (process : Candidate → Except ScanError (List Finding)) (cs : List Candidate)
    (t : Tally) (m : State) : Prop where
  width_pos : 0 < m.width
  length_workers : m.workers.length = m.width
  /-- The jobs of the run are the candidates of the stream with their places. -/
  jobs : ∀ x, m.jobs.count x = cs.zipIdx.count x
  /-- A worker is busy only with a candidate handed to the plugin. -/
  active : ∀ x, (m.workers.flatMap Stage.active).count x ≤ m.started.count x
  /-- The findings of each place are what the plugin gives for the candidate there. -/
  findings : ∀ i, m.findingsAt process i = (atPlace i m.started).flatMap (findingsOf ∘ process)
  /-- The errors of each place are what the plugin gives for the candidate there. -/
  failures : ∀ i, m.failuresAt process i = (atPlace i m.started).flatMap (failuresOf ∘ process)
  issued : m.tally.issued + m.tally.errors = t.issued + t.errors + m.started.length
  errors : m.tally.errors + m.uncounted process = t.errors + failureCount process m.started
  expected : m.tally.expected = t.expected

section Facts

variable {cs : List Candidate} {t : Tally} {m : State}

theorem Ledger.mem_zipIdx (hL : Ledger process cs t m) {x : Job} (hx : x ∈ m.jobs) :
    x ∈ cs.zipIdx := by
  have := hL.jobs x
  rw [← List.count_pos_iff] at hx ⊢
  omega

/-- Two candidates of a run at the same place are the same. -/
theorem Ledger.eq_of_place (hL : Ledger process cs t m) {x y : Job} (hx : x ∈ m.jobs)
    (hy : y ∈ m.jobs) (hxy : x.2 = y.2) : x = y := by
  have hx' := List.mem_zipIdx_iff_getElem?.mp (hL.mem_zipIdx hx)
  have hy' := List.mem_zipIdx_iff_getElem?.mp (hL.mem_zipIdx hy)
  rw [hxy, hy'] at hx'
  exact Prod.ext (Option.some.inj hx').symm hxy

/-- Each candidate is in one place of a run at most. -/
theorem Ledger.count_jobs_le (hL : Ledger process cs t m) (x : Job) : m.jobs.count x ≤ 1 := by
  rw [hL.jobs x]
  exact List.nodup_iff_count_le_one.mp ((List.nodup_zipIdx_map_snd cs).of_map Prod.snd) x

theorem atPlace_eq_nil_iff {α : Type} {i : Nat} {l : List (α × Nat)} :
    atPlace i l = [] ↔ ∀ x ∈ l, x.2 ≠ i := by
  induction l with
  | nil => simp
  | cons x rest ih =>
    by_cases hx : x.2 = i
    · simp [hx]
    · simp [hx, ih]

/-- A candidate a worker has just taken was never handed to the plugin before: nothing of
its place has started. -/
theorem Ledger.atPlace_started_of_taken (hL : Ledger process cs t m) {k : Nat} {j : Job}
    (hk : m.workers[k]? = some (.taken j)) : atPlace j.2 m.started = [] := by
  rw [atPlace_eq_nil_iff]
  intro y hy hyj
  have hjw : j ∈ m.workers.flatMap Stage.held :=
    List.mem_flatMap.mpr ⟨.taken j, List.mem_of_getElem? hk, by simp [Stage.held]⟩
  have hj : j ∈ m.jobs := by simp [State.jobs, State.waiting, hjw]
  have hy' : y ∈ m.jobs := by simp [State.jobs, hy]
  have hyj' : y = j := hL.eq_of_place hy' hj hyj
  subst hyj'
  have h1 : 0 < (m.workers.flatMap Stage.held).count y := List.count_pos_iff.mpr hjw
  have h2 : 0 < m.started.count y := List.count_pos_iff.mpr hy
  have h3 := hL.count_jobs_le y
  simp only [State.jobs, State.waiting, List.count_append] at h3
  omega

/-- A candidate a worker is busy with is the only one of its place that any worker is busy
with. -/
theorem Ledger.active_elsewhere (hL : Ledger process cs t m) {k : Nat} {st : Stage}
    (hk : m.workers[k]? = some st) {j : Job} (hj : j ∈ st.active) :
    ∀ st' ∈ m.workers.eraseIdx k, ∀ j' ∈ st'.active, j'.2 ≠ j.2 := by
  intro st' hst' j' hj' hplace
  have hsplit := count_flatMap_eraseIdx hk Stage.active j
  have hstarted := hL.active j
  have hle := hL.count_jobs_le j
  have hone : 0 < st.active.count j := List.count_pos_iff.mpr hj
  have hj'w : j' ∈ m.workers.flatMap Stage.active := by
    rw [List.mem_flatMap]
    exact ⟨st', List.mem_of_mem_eraseIdx hst', hj'⟩
  have hjs : j ∈ m.jobs := by
    have : 0 < m.started.count j := by
      have : 0 < (m.workers.flatMap Stage.active).count j := by omega
      omega
    simp [State.jobs, List.count_pos_iff.mp this]
  have hj's : j' ∈ m.jobs := by
    have : 0 < m.started.count j' := by
      have := hL.active j'
      have : 0 < (m.workers.flatMap Stage.active).count j' := List.count_pos_iff.mpr hj'w
      omega
    simp [State.jobs, List.count_pos_iff.mp this]
  have hjj : j' = j := hL.eq_of_place hj's hjs hplace
  subst hjj
  have : 0 < ((m.workers.eraseIdx k).flatMap Stage.active).count j' :=
    List.count_pos_iff.mpr (List.mem_flatMap.mpr ⟨st', hst', hj'⟩)
  simp only [State.jobs, List.count_append] at hle
  omega

end Facts

/-! ## What a candidate gives is never lost, doubled or reordered -/

section Accounts

variable {cs : List Candidate} {t : Tally} {m m' : State}

theorem findingsAt_setStage {k : Nat} {st st' : Stage} (hk : m.workers[k]? = some st) {i : Nat}
    (hst : st'.owedFindings process i = st.owedFindings process i) :
    (m.setStage k st').findingsAt process i = m.findingsAt process i := by
  simp only [State.findingsAt, State.setStage, flatMap_set_of_eq hk hst]

theorem failuresAt_setStage {k : Nat} {st st' : Stage} (hk : m.workers[k]? = some st) {i : Nat}
    (hst : st'.owedFailures process i = st.owedFailures process i) :
    (m.setStage k st').failuresAt process i = m.failuresAt process i := by
  simp only [State.failuresAt, State.setStage, flatMap_set_of_eq hk hst]

/-- When a worker is busy with the candidate of place `j.2`, what all workers owe of that
place is what this worker owes. -/
theorem flatMap_owedFindings_of_active (hL : Ledger process cs t m) {k : Nat} {st : Stage}
    (hk : m.workers[k]? = some st) {j : Job} (hj : j ∈ st.active) (st' : Stage) :
    (m.workers.set k st').flatMap (Stage.owedFindings process j.2) =
      st'.owedFindings process j.2 := by
  have hk' : (m.workers.set k st')[k]? = some st' := by
    rw [List.getElem?_set_self]
    exact (List.getElem?_eq_some_iff.mp hk).1
  refine flatMap_eq_of_others hk' fun st'' hst'' => Stage.owedFindings_eq_nil ?_
  exact hL.active_elsewhere hk hj st'' (mem_eraseIdx_set hst'')

theorem flatMap_owedFailures_of_active (hL : Ledger process cs t m) {k : Nat} {st : Stage}
    (hk : m.workers[k]? = some st) {j : Job} (hj : j ∈ st.active) (st' : Stage) :
    (m.workers.set k st').flatMap (Stage.owedFailures process j.2) =
      st'.owedFailures process j.2 := by
  have hk' : (m.workers.set k st')[k]? = some st' := by
    rw [List.getElem?_set_self]
    exact (List.getElem?_eq_some_iff.mp hk).1
  refine flatMap_eq_of_others hk' fun st'' hst'' => Stage.owedFailures_eq_nil ?_
  exact hL.active_elsewhere hk hj st'' (mem_eraseIdx_set hst'')

/-- Handing a candidate to the plugin opens its account with everything the plugin gives
for it: nothing of its place was received, sent or owed before. -/
theorem findingsAt_begin (hL : Ledger process cs t m) {k : Nat} {j : Job}
    (hk : m.workers[k]? = some (.taken j)) (i : Nat) :
    (m.setStage k (.probing j)).findingsAt process i =
      (atPlace i (m.started ++ [j])).flatMap (findingsOf ∘ process) := by
  by_cases hi : j.2 = i
  · subst hi
    have hnil := hL.findings j.2
    rw [hL.atPlace_started_of_taken hk, List.flatMap_nil] at hnil
    simp only [State.findingsAt, List.append_eq_nil_iff] at hnil
    obtain ⟨⟨hrec, hres⟩, howed⟩ := hnil
    rw [flatMap_around hk, List.append_eq_nil_iff, List.append_eq_nil_iff] at howed
    obtain ⟨⟨hpre, -⟩, hpost⟩ := howed
    simp [State.findingsAt, State.setStage, flatMap_set hk, hrec, hres, hpre, hpost,
      Stage.owedFindings, hL.atPlace_started_of_taken hk]
  · rw [findingsAt_setStage hk (by simp [Stage.owedFindings, hi]), hL.findings i]
    simp [hi]

theorem failuresAt_begin (hL : Ledger process cs t m) {k : Nat} {j : Job}
    (hk : m.workers[k]? = some (.taken j)) (i : Nat) :
    (m.setStage k (.probing j)).failuresAt process i =
      (atPlace i (m.started ++ [j])).flatMap (failuresOf ∘ process) := by
  by_cases hi : j.2 = i
  · subst hi
    have hnil := hL.failures j.2
    rw [hL.atPlace_started_of_taken hk, List.flatMap_nil] at hnil
    simp only [State.failuresAt, List.append_eq_nil_iff] at hnil
    obtain ⟨⟨hrec, hres⟩, howed⟩ := hnil
    rw [flatMap_around hk, List.append_eq_nil_iff, List.append_eq_nil_iff] at howed
    obtain ⟨⟨hpre, -⟩, hpost⟩ := howed
    simp [State.failuresAt, State.setStage, flatMap_set hk, hrec, hres, hpre, hpost,
      Stage.owedFailures, hL.atPlace_started_of_taken hk]
  · rw [failuresAt_setStage hk (by simp [Stage.owedFailures, hi]), hL.failures i]
    simp [hi]

/-- Sending a finding moves it from the worker's debt to the end of the stream. -/
theorem findingsAt_send (hL : Ledger process cs t m) {k : Nat} {j : Job} {r : Finding}
    {rs : List Finding} (hk : m.workers[k]? = some (.sending j (r :: rs))) (i : Nat) :
    ({ m.setStage k (.sending j rs) with results := m.results ++ [(r, j.2)] }).findingsAt process i =
      m.findingsAt process i := by
  by_cases hi : j.2 = i
  · subst hi
    have hj : j ∈ (Stage.sending j (r :: rs)).active := by simp [Stage.active]
    have hnew := flatMap_owedFindings_of_active hL hk hj (.sending j rs)
    have hold := flatMap_owedFindings_of_active hL hk hj (.sending j (r :: rs))
    rw [set_self_of_getElem? hk] at hold
    simp only [State.findingsAt, State.setStage, atPlace_append, hnew, hold]
    simp [Stage.owedFindings]
  · have howed : (Stage.sending j rs).owedFindings process i =
        (Stage.sending j (r :: rs)).owedFindings process i := by
      simp [Stage.owedFindings, hi]
    simp only [State.findingsAt, State.setStage, atPlace_append, flatMap_set_of_eq hk howed]
    simp [hi]

/-- Reporting an error moves it from the worker's debt to the end of the stream. -/
theorem failuresAt_report (hL : Ledger process cs t m) {k : Nat} {j : Job} {e : ScanError}
    (hk : m.workers[k]? = some (.reporting j e)) (i : Nat) :
    ({ m.setStage k .idle with errors := m.errors ++ [(e, j.2)] }).failuresAt process i =
      m.failuresAt process i := by
  by_cases hi : j.2 = i
  · subst hi
    have hj : j ∈ (Stage.reporting j e).active := by simp [Stage.active]
    have hnew := flatMap_owedFailures_of_active hL hk hj .idle
    have hold := flatMap_owedFailures_of_active hL hk hj (.reporting j e)
    rw [set_self_of_getElem? hk] at hold
    simp only [State.failuresAt, State.setStage, atPlace_append, hnew, hold]
    simp [Stage.owedFailures]
  · have howed : Stage.idle.owedFailures process i = (Stage.reporting j e).owedFailures process i := by
      simp [Stage.owedFailures, hi]
    simp only [State.failuresAt, State.setStage, atPlace_append, flatMap_set_of_eq hk howed]
    simp [hi]

theorem findings_move (hL : Ledger process cs t m) (h : Moves process m m') (i : Nat) :
    m'.findingsAt process i = (atPlace i m'.started).flatMap (findingsOf ∘ process) := by
  have hi := hL.findings i
  cases h with
  | close | pull | abandon | push | receiveError | cancel => exact hi
  | quit hk hc =>
    rcases hk with hk | hk <;>
    · rw [findingsAt_setStage hk (by simp [Stage.owedFindings])]
      exact hi
  | lock hk hc hl =>
    rw [findingsAt_setStage hk (by simp [Stage.owedFindings])]
    exact hi
  | @take _ j _ hk hc hin =>
    show (m.setStage _ (.taken j)).findingsAt process i = _
    rw [findingsAt_setStage hk (by simp [Stage.owedFindings])]
    exact hi
  | leave hk hc hin hf =>
    rw [findingsAt_setStage hk (by simp [Stage.owedFindings])]
    exact hi
  | drop hk hc =>
    show (m.setStage _ .exited).findingsAt process i = _
    rw [findingsAt_setStage hk (by simp [Stage.owedFindings])]
    exact hi
  | begin hk hc => exact findingsAt_begin hL hk i
  | answer hk hp =>
    rw [findingsAt_setStage hk (by simp [Stage.owedFindings, hp, findingsOf])]
    exact hi
  | @fail _ j e hk hp =>
    show (m.setStage _ (.reporting j e)).findingsAt process i = _
    rw [findingsAt_setStage hk (by simp [Stage.owedFindings, hp, findingsOf])]
    exact hi
  | send hk hl =>
    rw [findingsAt_send hL hk]
    exact hi
  | sent hk =>
    rw [findingsAt_setStage hk (by simp [Stage.owedFindings])]
    exact hi
  | report hk hl =>
    show (m.setStage _ .idle).findingsAt process i = _
    rw [findingsAt_setStage hk (by simp [Stage.owedFindings])]
    exact hi
  | @receiveResult r rest hr =>
    -- the oldest finding of the stream moves to the end of what was received
    rw [← hi]
    by_cases hp : r.2 = i <;> simp [State.findingsAt, hr, hp]

theorem failures_move (hL : Ledger process cs t m) (h : Moves process m m') (i : Nat) :
    m'.failuresAt process i = (atPlace i m'.started).flatMap (failuresOf ∘ process) := by
  have hi := hL.failures i
  cases h with
  | close | pull | abandon | push | receiveResult | cancel => exact hi
  | quit hk hc =>
    rcases hk with hk | hk <;>
    · rw [failuresAt_setStage hk (by simp [Stage.owedFailures])]
      exact hi
  | lock hk hc hl =>
    rw [failuresAt_setStage hk (by simp [Stage.owedFailures])]
    exact hi
  | @take _ j _ hk hc hin =>
    show (m.setStage _ (.taken j)).failuresAt process i = _
    rw [failuresAt_setStage hk (by simp [Stage.owedFailures])]
    exact hi
  | leave hk hc hin hf =>
    rw [failuresAt_setStage hk (by simp [Stage.owedFailures])]
    exact hi
  | drop hk hc =>
    show (m.setStage _ .exited).failuresAt process i = _
    rw [failuresAt_setStage hk (by simp [Stage.owedFailures])]
    exact hi
  | begin hk hc => exact failuresAt_begin hL hk i
  | answer hk hp =>
    rw [failuresAt_setStage hk (by simp [Stage.owedFailures, hp, failuresOf])]
    exact hi
  | @fail _ j e hk hp =>
    show (m.setStage _ (.reporting j e)).failuresAt process i = _
    rw [failuresAt_setStage hk (by simp [Stage.owedFailures, hp, failuresOf])]
    exact hi
  | @send _ j _ rs hk hl =>
    show (m.setStage _ (.sending j rs)).failuresAt process i = _
    rw [failuresAt_setStage hk (by simp [Stage.owedFailures])]
    exact hi
  | sent hk =>
    rw [failuresAt_setStage hk (by simp [Stage.owedFailures])]
    exact hi
  | report hk hl =>
    rw [failuresAt_report hL hk]
    exact hi
  | @receiveError e rest he =>
    -- the oldest error of the stream moves to the end of what was received
    rw [← hi]
    by_cases hp : e.2 = i <;> simp [State.failuresAt, he, hp]

end Accounts

/-! ## The counters -/

section Counters

variable {cs : List Candidate} {t : Tally} {m m' : State}

theorem uncounted_setStage (process : Candidate → Except ScanError (List Finding)) {k : Nat}
    {st : Stage} (hk : m.workers[k]? = some st) (st' : Stage) :
    ((m.workers.set k st').map (Stage.uncounted process)).sum + st.uncounted process =
      m.uncounted process + st'.uncounted process :=
  sum_map_set hk st' (Stage.uncounted process)

theorem failureCount_append (js js' : List Job) :
    failureCount process (js ++ js') = failureCount process js + failureCount process js' := by
  simp [failureCount]

/-- A candidate gives at most one error. -/
theorem failureCount_le_length (process : Candidate → Except ScanError (List Finding))
    (js : List Job) : failureCount process js ≤ js.length := by
  induction js with
  | nil => simp [failureCount]
  | cons j rest ih =>
    have hone : (failuresOf (process j.1)).length ≤ 1 := by
      cases process j.1 <;> simp [failuresOf]
    simp only [failureCount, List.map_cons, List.sum_cons, List.length_cons] at ih ⊢
    omega

/-- Each move keeps the counters in step with the probes: issued and errors together count
the candidates handed to the plugin, and the errors count the probes that have failed. -/
theorem counters_move (hL : Ledger process cs t m) (h : Moves process m m') :
    m'.tally.issued + m'.tally.errors = t.issued + t.errors + m'.started.length ∧
      m'.tally.errors + m'.uncounted process = t.errors + failureCount process m'.started ∧
      m'.tally.expected = t.expected := by
  have hi := hL.issued
  have he := hL.errors
  have hx := hL.expected
  cases h with
  | close | pull | abandon | push | receiveResult | receiveError | cancel => exact ⟨hi, he, hx⟩
  | quit hk hc =>
    rcases hk with hk | hk <;>
    · have := uncounted_setStage process hk .exited
      simp only [Stage.uncounted] at this
      exact ⟨hi, by simp only [State.setStage, State.uncounted] at this he ⊢; omega, hx⟩
  | lock hk hc hl =>
    have := uncounted_setStage process hk .locked
    simp only [Stage.uncounted] at this
    exact ⟨hi, by simp only [State.setStage, State.uncounted] at this he ⊢; omega, hx⟩
  | @take _ j _ hk hc hin =>
    have := uncounted_setStage process hk (.taken j)
    simp only [Stage.uncounted] at this
    exact ⟨hi, by simp only [State.setStage, State.uncounted] at this he ⊢; omega, hx⟩
  | leave hk hc hin hf =>
    have := uncounted_setStage process hk .exited
    simp only [Stage.uncounted] at this
    exact ⟨hi, by simp only [State.setStage, State.uncounted] at this he ⊢; omega, hx⟩
  | drop hk hc =>
    have := uncounted_setStage process hk .exited
    simp only [Stage.uncounted] at this
    exact ⟨hi, by simp only [State.setStage, State.uncounted] at this he ⊢; omega, hx⟩
  | @begin _ j hk hc =>
    have := uncounted_setStage process hk (.probing j)
    simp only [Stage.uncounted] at this
    refine ⟨?_, ?_, hx⟩
    · simp only [Tally.issue, List.length_append, List.length_singleton]
      omega
    · have hj : failureCount process [j] = (failuresOf (process j.1)).length := by
        simp [failureCount]
      simp only [State.setStage, State.uncounted, Tally.issue, failureCount_append, hj] at this he ⊢
      omega
  | @answer _ j rs hk hp =>
    have := uncounted_setStage process hk (.sending j rs)
    simp only [Stage.uncounted, hp, failuresOf, List.length_nil] at this
    exact ⟨hi, by simp only [State.setStage, State.uncounted] at this he ⊢; omega, hx⟩
  | @fail _ j e hk hp =>
    have hu := uncounted_setStage process hk (.reporting j e)
    simp only [Stage.uncounted, hp, failuresOf, List.length_singleton] at hu
    -- the failing probe is still counted as issued, so taking it back does not go below zero
    have hpos : 1 ≤ m.tally.issued := by
      have hle := failureCount_le_length process m.started
      omega
    refine ⟨?_, ?_, hx⟩
    · simp only [State.setStage, Tally.recordError]
      omega
    · simp only [State.setStage, State.uncounted, Tally.recordError] at hu he ⊢
      omega
  | @send _ j _ rs hk hl =>
    have := uncounted_setStage process hk (.sending j rs)
    simp only [Stage.uncounted] at this
    exact ⟨hi, by simp only [State.setStage, State.uncounted] at this he ⊢; omega, hx⟩
  | sent hk =>
    have := uncounted_setStage process hk .idle
    simp only [Stage.uncounted] at this
    exact ⟨hi, by simp only [State.setStage, State.uncounted] at this he ⊢; omega, hx⟩
  | report hk hl =>
    have := uncounted_setStage process hk .idle
    simp only [Stage.uncounted] at this
    exact ⟨hi, by simp only [State.setStage, State.uncounted] at this he ⊢; omega, hx⟩

end Counters

/-! ## Every run keeps the ledger -/

section Runs

variable {cs : List Candidate} {t : Tally} {m m' : State}

theorem Moves.width_eq (h : Moves process m m') : m'.width = m.width := by
  cases h <;> rfl

theorem Moves.length_workers (h : Moves process m m') : m'.workers.length = m.workers.length := by
  cases h <;> simp [State.setStage]

/-- Every move keeps the ledger. -/
theorem Ledger.move (hL : Ledger process cs t m) (h : Moves process m m') :
    Ledger process cs t m' := by
  obtain ⟨hi, he, hx⟩ := counters_move hL h
  refine ⟨?_, ?_, ?_, ?_, findings_move hL h, failures_move hL h, hi, he, hx⟩
  · rw [h.width_eq]
    exact hL.width_pos
  · rw [h.length_workers, h.width_eq]
    exact hL.length_workers
  · intro x
    rw [count_jobs_move h x]
    exact hL.jobs x
  · exact count_active_move h hL.active

/-- A run starts with its ledger in order: every candidate is still in the stream. -/
theorem ledger_start (cs : List Candidate) (w : Nat) (t : Tally) :
    Ledger process cs t (State.start cs w t) := by
  have hidle : ∀ {β : Type} (f : Stage → List β), f .idle = [] →
      (List.replicate (max w 1) Stage.idle).flatMap f = [] := by
    intro β f hf
    simp [List.flatMap_eq_nil_iff, hf]
  refine ⟨by simp [State.start], by simp [State.start], ?_, ?_, ?_, ?_, ?_, ?_, rfl⟩
  · intro x
    simp [State.jobs, State.waiting, State.start, Feeder.held, hidle Stage.held rfl]
  · intro x
    simp [State.start, hidle Stage.active rfl]
  · intro i
    simp [State.findingsAt, State.start, hidle (Stage.owedFindings process i) rfl]
  · intro i
    simp [State.failuresAt, State.start, hidle (Stage.owedFailures process i) rfl]
  · simp [State.start]
  · have : (List.replicate (max w 1) Stage.idle).map (Stage.uncounted process) =
        List.replicate (max w 1) 0 := by
      simp [Stage.uncounted]
    simp [State.start, State.uncounted, failureCount, this]

/-- Every state a schedule reaches from another keeps the ledger of the first. -/
theorem Ledger.run (hL : Ledger process cs t m) {as : List Action} (h : m.run process as = some m') :
    Ledger process cs t m' :=
  run_induction (Ledger process cs t) (fun _ _ hm hmove => hm.move hmove) as m m' hL h

/-- Every state that any schedule reaches from the start keeps the ledger. -/
theorem ledger_of_run {cs : List Candidate} {w : Nat} {t : Tally} {as : List Action}
    (h : (State.start cs w t).run process as = some m) : Ledger process cs t m :=
  (ledger_start cs w t).run h

end Runs

end Discovery.Pool
