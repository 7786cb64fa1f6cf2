import Discovery.Proofs.Pool.Outcome
/-!
# The counters of a run against the calls of the plugin

A worker counts a probe as issued just before it calls the plugin, and when the call fails it
moves the probe from the issued count to the errors. The calls started are, at every moment,
those still waiting on the plugin (`State.pending`) and those that have returned
(`State.returned`): the ledger hands each candidate to the plugin once, and a worker waits only
on a call it started (`Ledger.started_perm`).

So in every state of every run that starts with both counters at zero, whatever the number of
workers, the order in which the tasks move and the moment of a cancellation, the errors are the
calls that have returned a failure and the issued count is the other calls started. Every call
still waiting on the plugin is among the issued ones, so when one fails, taking it back from the
issued count never meets zero (`Moves.errors_succ`).

Main statement: `tally_counts_plugin_calls`.
-/

namespace Discovery.Pool

open State

variable {process : Candidate → Except ScanError (List Finding)}

/-- The candidate a worker waits on the plugin for. -/
def Stage.pending : Stage → List Job
  | .probing j => [j]
  | _ => []

/-- The calls of the plugin that have not returned yet. -/
def State.pending (m : State) : List Job := m.workers.flatMap Stage.pending

/-- The calls of the plugin that have returned, in the order they were made. -/
def State.returned (m : State) : List Job := m.started.filter (· ∉ m.pending)

theorem Stage.pending_sublist_active (st : Stage) : st.pending.Sublist st.active := by
  cases st <;> simp [Stage.pending, Stage.active]

/-- The error a worker has still to count is that of the call it waits on. -/
theorem Stage.uncounted_eq (st : Stage) :
    st.uncounted process = failureCount process st.pending := by
  cases st <;> simp [Stage.uncounted, Stage.pending, failureCount]

theorem failureCount_flatMap {α : Type} (f : α → List Job) (l : List α) :
    failureCount process (l.flatMap f) = (l.map fun a => failureCount process (f a)).sum := by
  induction l with
  | nil => rfl
  | cons a rest ih => rw [List.flatMap_cons, failureCount_append, ih, List.map_cons, List.sum_cons]

theorem State.uncounted_eq (m : State) :
    m.uncounted process = failureCount process m.pending := by
  rw [State.uncounted, State.pending, failureCount_flatMap]
  congr 1
  exact List.map_congr_left fun st _ => Stage.uncounted_eq st

/-- The moves that count an error are the failures of a call that a worker waited on. -/
theorem Moves.errors_succ {m m' : State} (h : Moves process m m')
    (he : m'.tally.errors = m.tally.errors + 1) :
    ∃ (k : Nat) (j : Job), m.workers[k]? = some (Stage.probing j) ∧
      m'.tally = m.tally.recordError := by
  cases h with
  | @fail k j e hk hp => exact ⟨k, j, hk, rfl⟩
  | begin => simp [Tally.issue] at he
  | _ => simp [State.setStage] at he

theorem mem_pending_of_probing {m : State} {k : Nat} {j : Job}
    (hk : m.workers[k]? = some (.probing j)) : j ∈ m.pending :=
  List.mem_flatMap.mpr ⟨.probing j, List.mem_of_getElem? hk, by simp [Stage.pending]⟩

section Ledger

variable {cs : List Candidate} {t : Tally} {m : State}

theorem Ledger.nodup_of_started (hL : Ledger process cs t m) : m.started.Nodup :=
  hL.nodup_started.of_map Prod.snd

/-- A worker waits only on a call it started. -/
theorem Ledger.count_pending_le (hL : Ledger process cs t m) (x : Job) :
    m.pending.count x ≤ m.started.count x :=
  calc m.pending.count x
      ≤ (m.workers.flatMap Stage.active).count x :=
        ((List.Sublist.flatMap_right m.workers fun st _ => st.pending_sublist_active).count_le x)
    _ ≤ m.started.count x := hL.active x

/-- The calls started are those that have returned and those still waiting on the plugin. -/
theorem Ledger.started_perm (hL : Ledger process cs t m) :
    m.started.Perm (m.returned ++ m.pending) := by
  have hnd := hL.nodup_of_started
  have hsub : ∀ x ∈ m.pending, x ∈ m.started := fun x hx =>
    List.count_pos_iff.mp (lt_of_lt_of_le (List.count_pos_iff.mpr hx) (hL.count_pending_le x))
  have hpnd : m.pending.Nodup := List.nodup_iff_count_le_one.mpr fun x =>
    (hL.count_pending_le x).trans (List.nodup_iff_count_le_one.mp hnd x)
  -- the started calls that still wait are exactly the pending ones, each once
  have hwait : (m.started.filter fun x => !decide (x ∉ m.pending)).Perm m.pending := by
    refine (List.perm_ext_iff_of_nodup (hnd.filter _) hpnd).mpr fun x => ?_
    simp only [List.mem_filter, decide_not, Bool.not_not, decide_eq_true_eq]
    exact ⟨And.right, fun hx => ⟨hsub x hx, hx⟩⟩
  exact (List.filter_append_perm _ _).symm.trans (hwait.append_left _)

theorem Ledger.failureCount_started (hL : Ledger process cs t m) :
    failureCount process m.started =
      failureCount process m.returned + failureCount process m.pending := by
  rw [← failureCount_append, failureCount_eq_countP, failureCount_eq_countP,
    hL.started_perm.countP_eq]

end Ledger

/-- In every state of a run started with no probe counted, the errors are the calls of the
plugin that have returned a failure, and issued and errors together are the calls started; each
call still running is counted as issued, so that when a move counts an error, the issued count
loses exactly one and its subtraction never stops at zero. -/
theorem tally_counts_plugin_calls (process : Candidate → Except ScanError (List Finding))
    (cs : List Candidate) (w n : Nat) (as : List Action) (m : State)
    (hrun : (State.start cs w { expected := n }).run process as = some m) :
    m.tally.errors = m.returned.countP (fun j => !(process j.1).isOk) ∧
    m.tally.issued = m.started.length - m.tally.errors ∧
    m.tally.issued + m.tally.errors = m.started.length ∧
    m.pending.length ≤ m.tally.issued ∧
    ∀ a m', m.step process a = some m' → m'.tally.errors = m.tally.errors + 1 →
      m'.tally.issued + 1 = m.tally.issued := by
  have hL := ledger_of_run hrun
  have hsum : m.tally.issued + m.tally.errors = m.started.length := by simpa using hL.issued
  have herr : m.tally.errors = failureCount process m.returned := by
    have := hL.errors
    rw [State.uncounted_eq, hL.failureCount_started] at this
    simp only [Nat.zero_add] at this
    omega
  have hlen : m.started.length = m.returned.length + m.pending.length := by
    simpa using hL.started_perm.length_eq
  -- a call that returned gives at most one error
  have hret := failureCount_le_length process m.returned
  have hpend : m.pending.length ≤ m.tally.issued := by omega
  refine ⟨by rw [herr, failureCount_eq_countP], by omega, hsum, hpend, ?_⟩
  intro a m' hstep he
  obtain ⟨k, j, hk, htally⟩ := (step_moves hstep).errors_succ he
  have hpos : 0 < m.pending.length := List.length_pos_of_mem (mem_pending_of_probing hk)
  rw [htally, Tally.recordError_issued]
  omega

/-- A run of one worker over an answered candidate and a failing one, stopped while the plugin
works on the second: the first call has returned, the second is counted as issued. -/
theorem tally_counts_plugin_calls_midway :
    let process : Candidate → Except ScanError (List Finding) := fun c =>
      if c.value = "a" then .ok [Finding.ofEntity c.value] else .error (.probe c.value "refused")
    let schedule : List Action :=
      [.feed, .feed, .work 0, .work 0, .work 0, .work 0, .work 0, .receiveResult, .work 0,
        .feed, .feed, .work 0, .work 0, .work 0]
    ∃ m, (State.start [.word "a", .word "b"] 1 {}).run process schedule = some m ∧
      m.returned = [(.word "a", 0)] ∧ m.pending = [(.word "b", 1)] ∧
      m.tally.issued + m.tally.errors = 2 ∧ m.pending.length ≤ m.tally.issued := by
  intro process schedule
  obtain ⟨-, -, hsum, hpend, -⟩ :=
    tally_counts_plugin_calls process [.word "a", .word "b"] 1 0 schedule _ rfl
  exact ⟨_, rfl, by decide, by decide, hsum, hpend⟩

end Discovery.Pool
