import Discovery.Files.Tree
/-!
# Writing one file leaves the others

A write puts one entry at the resolved parts of its path and touches no other entry
(`lookupParts_setParts_of_ne`). It succeeds only where the parents are directories and no
directory stands at the path (`write_eq_ok`). The parents of a readable file are
directories, so the parts of a successful write are never one of them: a file readable
before another one is written reads as before (`read_write_of_ne`), and the written file
reads back what was written (`read_write_self`).

Appending is writing the old bytes with the new ones behind (`append_eq_write`), where a
path without a file holds no bytes (`Tree.bytesAt`). What a write or an append left behind
is said once, in `Tree.Wrote`.
-/

namespace Discovery.Files

namespace Tree

/-- The bytes of the file at a path; nothing when no file is there. -/
def bytesAt (t : Tree) (path : String) : List UInt8 :=
  match t.lookup path with
  | some (.file bs) => bs
  | _ => []

@[simp] theorem setParts_cwd (t : Tree) (parts : List String) (n : Node) :
    (t.setParts parts n).cwd = t.cwd := rfl

@[simp] theorem lookupParts_nil (t : Tree) : t.lookupParts [] = some .dir := rfl

/-- Putting an entry at some parts leaves the entries at all other parts. -/
theorem lookupParts_setParts_of_ne (t : Tree) {parts q : List String} (n : Node)
    (h : q ≠ parts) : (t.setParts parts n).lookupParts q = t.lookupParts q := by
  unfold lookupParts setParts
  split
  · rfl
  · -- the old entry at `parts` is filtered away, and `q` is not `parts`
    have hkeep : (fun a : List String × Node => decide (decide (a.1 ≠ parts) = true ∧
        decide (a.1 = q) = true)) = fun a => decide (a.1 = q) := by
      funext a
      by_cases ha : a.1 = q
      · simp [ha, h]
      · simp [ha]
    have hnew : [(parts, n)].find? (fun a => decide (a.1 = q)) = none := by
      simp [Ne.symm h]
    simp only [List.find?_append, List.find?_filter, hkeep, hnew, Option.or_none]

/-- The parents of resolved parts are reached exactly when each of them is a directory. -/
theorem parentsError_eq_none_iff (t : Tree) (parts : List String) :
    t.parentsError parts = none ↔
      ∀ i < parts.length - 1, t.lookupParts (parts.take (i + 1)) = some .dir := by
  unfold parentsError
  generalize parts.length - 1 = n
  -- the fold stops at the first parent that is no directory
  induction n with
  | zero => simp
  | succ n ih =>
    rw [List.range_succ, List.foldl_append, List.foldl_cons, List.foldl_nil]
    cases hfold : (List.range n).foldl _ none with
    | some e =>
      rw [hfold] at ih
      simp only [reduceCtorEq, false_iff] at ih ⊢
      exact fun hall => ih fun i hi => hall i (by omega)
    | none =>
      rw [hfold] at ih
      simp only [true_iff] at ih
      -- the parents before the last one are directories; the last one decides
      have hall_iff : (∀ i < n + 1, t.lookupParts (parts.take (i + 1)) = some .dir) ↔
          t.lookupParts (parts.take (n + 1)) = some .dir := by
        constructor
        · exact fun hall => hall n (by omega)
        · intro hd i hi
          by_cases hin : i = n
          · exact hin ▸ hd
          · exact ih i (by omega)
      rw [hall_iff]
      dsimp only
      split
      · next hd => simp [hd]
      · next hf => simp [hf]
      · next hn => simp [hn]

/-- Parents reached before an entry is put elsewhere are reached after it. -/
theorem parentsError_setParts {t : Tree} {parts q : List String} (n : Node)
    (hq : t.parentsError q = none) (hne : ∀ i < q.length - 1, q.take (i + 1) ≠ parts) :
    (t.setParts parts n).parentsError q = none := by
  rw [parentsError_eq_none_iff] at hq ⊢
  intro i hi
  rw [lookupParts_setParts_of_ne t n (hne i hi)]
  exact hq i hi

/-- A proper prefix is not the whole. -/
theorem take_succ_ne {q : List String} {i : Nat} (hi : i < q.length - 1) : q.take (i + 1) ≠ q :=
  fun h => by
    have := congrArg List.length h
    simp only [List.length_take] at this
    omega

/-- What a successful write did: the path names something below directories, no directory
stands at it, and the file there now holds the bytes. -/
theorem write_eq_ok {t t' : Tree} {path : String} {bs : List UInt8}
    (h : t.write path bs = .ok t') :
    path ≠ "" ∧ t.parentsError (resolveParts t.cwd path) = none ∧
      t.lookupParts (resolveParts t.cwd path) ≠ some .dir ∧
      t' = t.setParts (resolveParts t.cwd path) (.file bs) := by
  unfold write at h
  split at h
  · cases h
  · next hp =>
    simp only at h
    split at h
    · cases h
    · next hpar =>
      split at h
      · cases h
      · next hdir =>
        cases h
        exact ⟨by simpa using hp, hpar, fun hd => hdir hd, rfl⟩

/-- A file is read exactly when the path names something below directories and a file
stands at it. -/
theorem read_eq_ok_iff {t : Tree} {path : String} {bs : List UInt8} :
    t.read path = .ok bs ↔ path ≠ "" ∧ t.parentsError (resolveParts t.cwd path) = none ∧
      t.lookupParts (resolveParts t.cwd path) = some (.file bs) := by
  unfold read
  split
  · next hp => simp [String.isEmpty_iff.mp hp]
  · next hp =>
    have hp' : path ≠ "" := by simpa using hp
    simp only [hp', ne_eq, not_false_eq_true, true_and]
    split
    · next hpar => simp [hpar]
    · next hpar =>
      simp only [hpar, true_and]
      split <;> simp_all

theorem cwd_write {t t' : Tree} {path : String} {bs : List UInt8}
    (h : t.write path bs = .ok t') : t'.cwd = t.cwd := by
  obtain ⟨-, -, -, rfl⟩ := write_eq_ok h
  rfl

/-- **Read after write.** The written file holds the bytes written. -/
theorem read_write_self {t t' : Tree} {path : String} {bs : List UInt8}
    (h : t.write path bs = .ok t') : t'.read path = .ok bs := by
  obtain ⟨hp, hpar, hdir, rfl⟩ := write_eq_ok h
  -- the root is a directory, so the written parts are not the root
  have hne : resolveParts t.cwd path ≠ [] := fun he => hdir (he ▸ lookupParts_nil t)
  rw [read_eq_ok_iff, setParts_cwd]
  exact ⟨hp, parentsError_setParts _ hpar fun _ hi => take_succ_ne hi, setParts_lookup _ _ _ hne⟩

/-- **Frame of a write.** A file readable before a write to other parts reads as before: its
parents are directories, and a write never succeeds at a directory. -/
theorem read_write_of_ne {t t' : Tree} {path q : String} {bs b : List UInt8}
    (hq : t.read q = .ok b) (h : t.write path bs = .ok t')
    (hne : resolveParts t.cwd q ≠ resolveParts t.cwd path) : t'.read q = .ok b := by
  obtain ⟨-, -, hdir, rfl⟩ := write_eq_ok h
  obtain ⟨hqe, hqpar, hqfile⟩ := read_eq_ok_iff.mp hq
  have hparent : ∀ i < (resolveParts t.cwd q).length - 1,
      (resolveParts t.cwd q).take (i + 1) ≠ resolveParts t.cwd path := by
    intro i hi heq
    have hd := (parentsError_eq_none_iff t _).mp hqpar i hi
    exact hdir (heq ▸ hd)
  rw [read_eq_ok_iff, setParts_cwd]
  exact ⟨hqe, parentsError_setParts _ hqpar hparent,
    (lookupParts_setParts_of_ne t _ hne).trans hqfile⟩

/-- A readable file can be written over. -/
theorem write_of_read {t : Tree} {path : String} {b : List UInt8} (h : t.read path = .ok b)
    (bs : List UInt8) :
    t.write path bs = .ok (t.setParts (resolveParts t.cwd path) (.file bs)) := by
  obtain ⟨hp, hpar, hfile⟩ := read_eq_ok_iff.mp h
  have hp' : path.isEmpty = false := by simpa using hp
  simp only [write, hp', Bool.false_eq_true, if_false, hpar, hfile]

theorem lookup_of_read {t : Tree} {path : String} {b : List UInt8} (h : t.read path = .ok b) :
    t.lookup path = some (.file b) := by
  obtain ⟨hp, -, hfile⟩ := read_eq_ok_iff.mp h
  have hp' : path.isEmpty = false := by simpa using hp
  simp only [lookup, hp', Bool.false_eq_true, if_false, hfile]

theorem bytesAt_of_read {t : Tree} {path : String} {b : List UInt8} (h : t.read path = .ok b) :
    t.bytesAt path = b := by
  simp only [bytesAt, lookup_of_read h]

/-- Appending writes the bytes already there with the new ones behind. -/
theorem append_eq_write (t : Tree) (path : String) (bs : List UInt8) :
    t.append path bs = t.write path (t.bytesAt path ++ bs) := by
  unfold append bytesAt
  cases t.lookup path with
  | none => rfl
  | some n => cases n <;> rfl

/-- A write leaves the bytes at other parts. -/
theorem bytesAt_write_of_ne {t t' : Tree} {path q : String} {bs : List UInt8}
    (h : t.write path bs = .ok t') (hne : resolveParts t.cwd q ≠ resolveParts t.cwd path) :
    t'.bytesAt q = t.bytesAt q := by
  obtain ⟨-, -, -, rfl⟩ := write_eq_ok h
  simp only [bytesAt, lookup, setParts_cwd, lookupParts_setParts_of_ne t _ hne]

/-- What a write of `bs` at `path` left behind: the same working directory, the bytes at the
path, and every other file as it was. -/
structure Wrote (t : Tree) (path : String) (bs : List UInt8) (t' : Tree) : Prop where
  cwd : t'.cwd = t.cwd
  read_self : t'.read path = .ok bs
  read_other : ∀ q c, resolveParts t.cwd q ≠ resolveParts t.cwd path → t.read q = .ok c →
    t'.read q = .ok c
  bytesAt_other : ∀ q, resolveParts t.cwd q ≠ resolveParts t.cwd path →
    t'.bytesAt q = t.bytesAt q

theorem wrote_of_write {t t' : Tree} {path : String} {bs : List UInt8}
    (h : t.write path bs = .ok t') : Wrote t path bs t' :=
  ⟨cwd_write h, read_write_self h, fun _ _ hne hq => read_write_of_ne hq h hne,
    fun _ hne => bytesAt_write_of_ne h hne⟩

/-- An append that succeeded wrote the bytes that were there with the new ones behind. -/
theorem wrote_of_append {t t' : Tree} {path : String} {bs : List UInt8}
    (h : t.append path bs = .ok t') : Wrote t path (t.bytesAt path ++ bs) t' :=
  wrote_of_write (append_eq_write t path bs ▸ h)

/-- **Appending to a readable file.** It succeeds, and the file holds its bytes with the new
ones behind. -/
theorem append_of_read {t : Tree} {path : String} {b : List UInt8} (h : t.read path = .ok b)
    (bs : List UInt8) : ∃ t', t.append path bs = .ok t' ∧ Wrote t path (b ++ bs) t' := by
  have hw := write_of_read h (b ++ bs)
  refine ⟨_, ?_, wrote_of_write hw⟩
  rw [append_eq_write, bytesAt_of_read h, hw]

end Tree

end Discovery.Files
