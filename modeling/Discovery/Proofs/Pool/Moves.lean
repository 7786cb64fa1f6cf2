import Mathlib
import Discovery.Pool.Machine
/-!
# The moves of a pool run

`Moves process m m'` lists every step a pool run can take, one constructor for each branch
of a task's code, with the state after the step written out and the guards that allow it.
`step_moves` says that every step of `State.step` is one of these moves, so that a statement
about all runs is proved by one case analysis over the moves and never by unfolding the
step functions again; `run_induction` lifts a fact kept by every move to every state a
schedule reaches.

The rest are facts about lists that the moves need: a list read around one of its entries,
and what replacing that entry does to a `flatMap` or a sum over the list.
-/

namespace Discovery.Pool

open State

variable (process : Candidate → Except ScanError (List Finding))

/-- The moves of a pool run. -/
inductive Moves : State → State → Prop
  /-- The producer stops pulling: the run is cancelled, or the stream has ended. -/
  | close {m : State} (hf : m.feeder = .pulling) (hc : m.cancelled = true ∨ m.stream = []) :
      Moves m { m with feeder := .closed }
  /-- The producer pulls the next candidate. -/
  | pull {m : State} {j : Job} {rest : List Job} (hf : m.feeder = .pulling)
      (hc : m.cancelled = false) (hs : m.stream = j :: rest) :
      Moves m { m with stream := rest, feeder := .holding j }
  /-- The producer gives up the candidate it holds: the run is cancelled, or no worker is
  left to read the intake. -/
  | abandon {m : State} {j : Job} (hf : m.feeder = .holding j)
      (hc : m.cancelled = true ∨ ∀ st ∈ m.workers, st = .exited) :
      Moves m { m with feeder := .closed, dropped := m.dropped ++ [j] }
  /-- The producer queues the candidate it holds. -/
  | push {m : State} {j : Job} (hf : m.feeder = .holding j) (hc : m.cancelled = false)
      (hw : ¬ ∀ st ∈ m.workers, st = .exited) (hl : m.intake.length < m.width) :
      Moves m { m with feeder := .pulling, intake := m.intake ++ [j] }
  /-- A worker waiting for the lock or for the intake sees the cancellation and leaves. -/
  | quit {m : State} {k : Nat} (hk : m.workers[k]? = some .idle ∨ m.workers[k]? = some .locked)
      (hc : m.cancelled = true) : Moves m (m.setStage k .exited)
  /-- A worker takes the lock. -/
  | lock {m : State} {k : Nat} (hk : m.workers[k]? = some .idle) (hc : m.cancelled = false)
      (hl : Stage.locked ∉ m.workers) : Moves m (m.setStage k .locked)
  /-- The worker holding the lock takes the first candidate of the intake and lets go of
  the lock. -/
  | take {m : State} {k : Nat} {j : Job} {rest : List Job} (hk : m.workers[k]? = some .locked)
      (hc : m.cancelled = false) (hi : m.intake = j :: rest) :
      Moves m { m.setStage k (.taken j) with intake := rest }
  /-- The worker holding the lock finds the intake closed and empty, and leaves. -/
  | leave {m : State} {k : Nat} (hk : m.workers[k]? = some .locked) (hc : m.cancelled = false)
      (hi : m.intake = []) (hf : m.feeder = .closed) : Moves m (m.setStage k .exited)
  /-- A worker that has just taken a candidate sees the cancellation, drops it and leaves. -/
  | drop {m : State} {k : Nat} {j : Job} (hk : m.workers[k]? = some (.taken j))
      (hc : m.cancelled = true) :
      Moves m { m.setStage k .exited with dropped := m.dropped ++ [j] }
  /-- A worker counts the probe and hands its candidate to the plugin. -/
  | begin {m : State} {k : Nat} {j : Job} (hk : m.workers[k]? = some (.taken j))
      (hc : m.cancelled = false) :
      Moves m { m.setStage k (.probing j) with tally := m.tally.issue, started := m.started ++ [j] }
  /-- The plugin answers with findings. -/
  | answer {m : State} {k : Nat} {j : Job} {rs : List Finding}
      (hk : m.workers[k]? = some (.probing j)) (hp : process j.1 = .ok rs) :
      Moves m (m.setStage k (.sending j rs))
  /-- The plugin answers with an error, which is counted. -/
  | fail {m : State} {k : Nat} {j : Job} {e : ScanError}
      (hk : m.workers[k]? = some (.probing j)) (hp : process j.1 = .error e) :
      Moves m { m.setStage k (.reporting j e) with tally := m.tally.recordError }
  /-- A worker sends its next finding into a free place of the result stream. -/
  | send {m : State} {k : Nat} {j : Job} {r : Finding} {rs : List Finding}
      (hk : m.workers[k]? = some (.sending j (r :: rs))) (hl : m.results.length < m.width) :
      Moves m { m.setStage k (.sending j rs) with results := m.results ++ [(r, j.2)] }
  /-- A worker has sent all its findings and goes back to the top of its loop. -/
  | sent {m : State} {k : Nat} {j : Job} (hk : m.workers[k]? = some (.sending j [])) :
      Moves m (m.setStage k .idle)
  /-- A worker sends its error into a free place of the error stream. -/
  | report {m : State} {k : Nat} {j : Job} {e : ScanError}
      (hk : m.workers[k]? = some (.reporting j e)) (hl : m.errors.length < m.width) :
      Moves m { m.setStage k .idle with errors := m.errors ++ [(e, j.2)] }
  /-- The consumer of the result stream receives the oldest finding in it. -/
  | receiveResult {m : State} {r : Finding × Nat} {rest : List (Finding × Nat)}
      (hr : m.results = r :: rest) :
      Moves m { m with results := rest, received := m.received ++ [r] }
  /-- The consumer of the error stream receives the oldest error in it. -/
  | receiveError {m : State} {e : ScanError × Nat} {rest : List (ScanError × Nat)}
      (he : m.errors = e :: rest) :
      Moves m { m with errors := rest, failures := m.failures ++ [e] }
  /-- The run is cancelled. -/
  | cancel {m : State} (hc : m.cancelled = false) : Moves m { m with cancelled := true }

variable {process}

theorem feed_moves {m m' : State} (h : m.feed = some m') : Moves process m m' := by
  unfold State.feed at h
  split at h
  · next hf =>
    split at h
    · next hc => cases h; exact .close hf (.inl hc)
    · next hc =>
      split at h
      · next hs => cases h; exact .close hf (.inr hs)
      · next j rest hs => cases h; exact .pull hf (by simpa using hc) hs
  · next j hf =>
    split at h
    · next hc => cases h; exact .abandon hf (.inl hc)
    · next hc =>
      split at h
      · next hw => cases h; exact .abandon hf (.inr hw)
      · next hw =>
        split at h
        · next hl => cases h; exact .push hf (by simpa using hc) hw hl
        · cases h
  · cases h

theorem work_moves {m m' : State} {k : Nat} (h : m.work process k = some m') :
    Moves process m m' := by
  unfold State.work at h
  split at h
  · cases h
  · next hk =>
    split at h
    · next hc => cases h; exact .quit (.inl hk) hc
    · next hc =>
      split at h
      · cases h
      · next hl => cases h; exact .lock hk (by simpa using hc) hl
  · next hk =>
    split at h
    · next hc => cases h; exact .quit (.inr hk) hc
    · next hc =>
      split at h
      · next j rest hi => cases h; exact .take hk (by simpa using hc) hi
      · next hi =>
        split at h
        · next hf => cases h; exact .leave hk (by simpa using hc) hi hf
        · cases h
  · next j hk =>
    split at h
    · next hc => cases h; exact .drop hk hc
    · next hc => cases h; exact .begin hk (by simpa using hc)
  · next j hk =>
    split at h
    · next rs hp => cases h; exact .answer hk hp
    · next e hp => cases h; exact .fail hk hp
  · next j hk => cases h; exact .sent hk
  · next j r rs hk =>
    split at h
    · next hl => cases h; exact .send hk hl
    · cases h
  · next j e hk =>
    split at h
    · next hl => cases h; exact .report hk hl
    · cases h
  · cases h

/-- Every step of a run is one of the moves. -/
theorem step_moves {m m' : State} {a : Action} (h : m.step process a = some m') :
    Moves process m m' := by
  cases a with
  | feed => exact feed_moves h
  | work k => exact work_moves h
  | receiveResult =>
    simp only [State.step, State.receiveResult] at h
    split at h
    · cases h
    · next r rest hr => cases h; exact .receiveResult hr
  | receiveError =>
    simp only [State.step, State.receiveError] at h
    split at h
    · cases h
    · next e rest he => cases h; exact .receiveError he
  | cancel =>
    simp only [State.step, State.cancel] at h
    split at h
    · cases h
    · next hc => cases h; exact .cancel (by simpa using hc)

/-- A fact that every move keeps holds of every state a schedule reaches. -/
theorem run_induction (P : State → Prop)
    (hmove : ∀ m m', P m → Moves process m m' → P m') :
    ∀ (as : List Action) (m m' : State), P m → m.run process as = some m' → P m'
  | [], m, m', hm, h => by
    cases h
    exact hm
  | a :: as, m, m', hm, h => by
    rw [State.run_cons] at h
    cases hs : m.step process a with
    | none => rw [hs] at h; cases h
    | some m₁ =>
      rw [hs] at h
      exact run_induction P hmove as m₁ m' (hmove m m₁ hm (step_moves hs)) h

/-- No move takes a cancellation back. -/
theorem Moves.cancelled_le {m m' : State} (h : Moves process m m') :
    m.cancelled = true → m'.cancelled = true := by
  intro hc
  cases h <;> simp [State.setStage, hc]

/-! ## Lists around one entry -/

section Around

variable {α β : Type}

theorem eq_take_cons_drop {l : List α} {k : Nat} {a : α} (h : l[k]? = some a) :
    l = l.take k ++ a :: l.drop (k + 1) := by
  obtain ⟨hk, rfl⟩ := List.getElem?_eq_some_iff.mp h
  rw [List.getElem_cons_drop, List.take_append_drop]

theorem set_eq_take_cons_drop {l : List α} {k : Nat} {a : α} (h : l[k]? = some a) (b : α) :
    l.set k b = l.take k ++ b :: l.drop (k + 1) := by
  have hk : k < l.length := (List.getElem?_eq_some_iff.mp h).1
  rw [List.set_eq_take_append_cons_drop, if_pos hk]

theorem set_self_of_getElem? {l : List α} {k : Nat} {a : α} (h : l[k]? = some a) :
    l.set k a = l := by
  obtain ⟨hk, rfl⟩ := List.getElem?_eq_some_iff.mp h
  exact List.set_getElem_self hk

/-- A `flatMap` over a list, read around the entry at `k`. -/
theorem flatMap_around {l : List α} {k : Nat} {a : α} (h : l[k]? = some a) (f : α → List β) :
    l.flatMap f = (l.take k).flatMap f ++ f a ++ (l.drop (k + 1)).flatMap f := by
  conv_lhs => rw [eq_take_cons_drop h]
  simp

/-- Replacing the entry at `k` replaces its part of a `flatMap`. -/
theorem flatMap_set {l : List α} {k : Nat} {a : α} (h : l[k]? = some a) (b : α)
    (f : α → List β) :
    (l.set k b).flatMap f = (l.take k).flatMap f ++ f b ++ (l.drop (k + 1)).flatMap f := by
  rw [set_eq_take_cons_drop h]
  simp

theorem flatMap_set_of_eq {l : List α} {k : Nat} {a b : α} (h : l[k]? = some a)
    {f : α → List β} (hf : f b = f a) : (l.set k b).flatMap f = l.flatMap f := by
  rw [flatMap_set h, flatMap_around h, hf]

/-- How often a value occurs in a `flatMap` once the entry at `k` is replaced. -/
theorem count_flatMap_set [BEq β] {l : List α} {k : Nat} {a : α} (h : l[k]? = some a) (b : α)
    (f : α → List β) (x : β) :
    ((l.set k b).flatMap f).count x + (f a).count x = (l.flatMap f).count x + (f b).count x := by
  rw [flatMap_set h, flatMap_around h]
  simp only [List.count_append]
  omega

/-- Replacing the entry at `k` replaces its part of a sum. -/
theorem sum_map_set {l : List α} {k : Nat} {a : α} (h : l[k]? = some a) (b : α)
    (f : α → Nat) : ((l.set k b).map f).sum + f a = (l.map f).sum + f b := by
  rw [set_eq_take_cons_drop h]
  conv_rhs => rw [eq_take_cons_drop h]
  simp only [List.map_append, List.map_cons, List.sum_append, List.sum_cons]
  omega

/-- The `flatMap` of a list whose other entries contribute nothing is the part of the
entry at `k`. -/
theorem flatMap_eq_of_others {l : List α} {k : Nat} {a : α} (h : l[k]? = some a)
    {f : α → List β} (hf : ∀ b ∈ l.eraseIdx k, f b = []) : l.flatMap f = f a := by
  have hk : k < l.length := (List.getElem?_eq_some_iff.mp h).1
  rw [List.eraseIdx_eq_take_drop_succ] at hf
  have hpre : (l.take k).flatMap f = [] := by
    simp only [List.flatMap_eq_nil_iff]
    intro b hb
    exact hf b (List.mem_append_left _ hb)
  have hpost : (l.drop (k + 1)).flatMap f = [] := by
    simp only [List.flatMap_eq_nil_iff]
    intro b hb
    exact hf b (List.mem_append_right _ hb)
  rw [flatMap_around h, hpre, hpost]
  simp

/-- How often a value occurs in a `flatMap`: in the part of the entry at `k`, and in the
parts of the others. -/
theorem count_flatMap_eraseIdx [BEq β] {l : List α} {k : Nat} {a : α} (h : l[k]? = some a)
    (f : α → List β) (x : β) :
    (l.flatMap f).count x = ((l.eraseIdx k).flatMap f).count x + (f a).count x := by
  rw [flatMap_around h, List.eraseIdx_eq_take_drop_succ]
  simp only [List.flatMap_append, List.count_append]
  omega

theorem mem_eraseIdx_set {l : List α} {k : Nat} {b c : α} (hc : c ∈ (l.set k b).eraseIdx k) :
    c ∈ l.eraseIdx k := by
  rw [List.eraseIdx_eq_take_drop_succ] at hc ⊢
  rw [List.take_set, List.set_eq_of_length_le (by simp), List.drop_set] at hc
  simpa using hc

end Around

end Discovery.Pool
