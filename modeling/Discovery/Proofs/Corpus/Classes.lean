import Mathlib
import Discovery.Corpus.Entry
/-!
# One address per class

`normalize` keeps, from the trimmed, non-empty lines of a corpus in sorted order, exactly the
lines that share their class with no earlier line, and writes each as the address of its
entry. So no two kept addresses come from one class, and every class of the corpus is kept
once. The class of a line reads its query only through the set of the query's names, and not
at all when the path names an asset; it never reads the fragment.

Which members of a list come first in their class is said directly by `firstByKey`, by
their positions; the fold of `firstOfEachClass` is shown to compute it (`firstOfEachClass_eq`).
-/

namespace Discovery

/-! ## Sets kept in order -/

section SortedSet

variable {α : Type} [LinearOrder α]

/-- Dropping repeats from a sorted list leaves it strictly sorted. -/
theorem pairwise_dedupAdjacent :
    ∀ {xs : List α}, xs.Pairwise (· ≤ ·) → (dedupAdjacent xs).Pairwise (· < ·)
  | [], _ => by simp [dedupAdjacent]
  | [a], _ => by simp [dedupAdjacent]
  | a :: b :: rest, h => by
    have ih := pairwise_dedupAdjacent h.of_cons
    simp only [dedupAdjacent]
    split
    · exact ih
    · next hne =>
      have hab : a < b := lt_of_le_of_ne (List.rel_of_pairwise_cons h (by simp)) hne
      refine List.Pairwise.cons (fun x hx => ?_) ih
      -- every member left after `a` is `b` or at least `b`
      rcases List.mem_cons.mp ((mem_dedupAdjacent x _).mp hx) with rfl | hx
      · exact hab
      · exact lt_of_lt_of_le hab (List.rel_of_pairwise_cons h.of_cons hx)

theorem pairwise_sortedSet (xs : List α) : (sortedSet xs).Pairwise (· < ·) :=
  pairwise_dedupAdjacent (List.pairwise_mergeSort' (· ≤ ·) xs)

/-- A set kept in order depends only on the members of the list it is built from, not on
their order or their repeats. -/
theorem sortedSet_eq_of_mem_iff {xs ys : List α} (h : ∀ x, x ∈ xs ↔ x ∈ ys) :
    sortedSet xs = sortedSet ys :=
  (pairwise_sortedSet xs).eq_of_mem_iff (pairwise_sortedSet ys) fun x => by
    rw [mem_sortedSet, mem_sortedSet, h]

end SortedSet

namespace Corpus

/-! ## The first member of each class -/

section FirstByKey

variable {α β κ : Type} [DecidableEq κ] (key : α → κ)

/-- The members of a list that share their key with no earlier member, in order. -/
def firstByKey (l : List α) : List α :=
  (l.zipIdx.filter fun p : α × Nat => decide (∀ a ∈ l.take p.2, key a ≠ key p.1)).map Prod.fst

@[simp] theorem firstByKey_nil : firstByKey key [] = [] := rfl

/-- A member added at the end is kept exactly when no earlier member has its key; the
earlier members are kept as before. -/
theorem firstByKey_append_singleton (l : List α) (a : α) :
    firstByKey key (l ++ [a]) =
      firstByKey key l ++ if ∀ b ∈ l, key b ≠ key a then [a] else [] := by
  unfold firstByKey
  rw [List.zipIdx_append, List.filter_append, List.map_append]
  congr 1
  · -- an earlier member looks only at the members before it
    congr 1
    apply List.filter_congr
    rintro ⟨b, i⟩ hb
    have hi := (List.mem_zipIdx hb).2.1
    rw [List.take_append_of_le_length (by omega)]
  · -- the new member looks at all of `l`
    have hl : (l ++ [a]).take l.length = l := by simp
    simp only [zero_add, List.zipIdx_singleton, List.filter_cons, List.filter_nil, hl]
    by_cases h : ∀ b ∈ l, key b ≠ key a
    · simp only [decide_eq_true_eq, if_pos h, List.map_singleton]
    · simp only [decide_eq_true_eq, if_neg h, List.map_nil]

theorem mem_map_firstByKey (l : List α) (k : κ) :
    k ∈ (firstByKey key l).map key ↔ k ∈ l.map key := by
  induction l using List.reverseRecOn with
  | nil => simp
  | append_singleton l a ih =>
    rw [firstByKey_append_singleton]
    split
    · simp [ih]
    · next h =>
      -- the key of `a` is already that of a kept member
      push Not at h
      obtain ⟨b, hb, hba⟩ := h
      simp only [List.append_nil, ih, List.map_append, List.map_cons, List.map_nil,
        List.mem_append, List.mem_singleton, iff_self_or]
      rintro rfl
      exact List.mem_map.mpr ⟨b, hb, hba⟩

theorem nodup_map_firstByKey (l : List α) : ((firstByKey key l).map key).Nodup := by
  induction l using List.reverseRecOn with
  | nil => simp
  | append_singleton l a ih =>
    rw [firstByKey_append_singleton]
    split
    · next h =>
      have hnew : key a ∉ (firstByKey key l).map key := by
        rw [mem_map_firstByKey]
        simpa using h
      rw [List.map_append, List.nodup_append]
      refine ⟨ih, by simp, fun k hk k' hk' hkk' => hnew ?_⟩
      simp only [List.map_cons, List.map_nil, List.mem_singleton] at hk'
      rwa [← hk', ← hkk']
    · simpa using ih

/-- Every key of the list is the key of exactly one kept member, whichever lawful equality
test counts the keys. -/
theorem count_map_firstByKey {_ : BEq κ} [LawfulBEq κ] {l : List α} {a : α} (ha : a ∈ l) :
    ((firstByKey key l).map key).count (key a) = 1 :=
  List.count_eq_one_of_mem (nodup_map_firstByKey key l)
    ((mem_map_firstByKey key l _).mpr (List.mem_map_of_mem ha))

theorem firstByKey_sublist (l : List α) : (firstByKey key l).Sublist l := by
  induction l using List.reverseRecOn with
  | nil => simp
  | append_singleton l a ih =>
    rw [firstByKey_append_singleton]
    split
    · exact ih.append (List.Sublist.refl [a])
    · simpa using ih.trans (List.sublist_append_left l [a])

/-- A list whose members all have different keys keeps them all. -/
theorem firstByKey_of_nodup {l : List α} (h : (l.map key).Nodup) : firstByKey key l = l := by
  induction l using List.reverseRecOn with
  | nil => rfl
  | append_singleton l a ih =>
    rw [List.map_append, List.nodup_append] at h
    obtain ⟨hl, -, hnew⟩ := h
    -- the key of the last member is none of the earlier ones
    have hfresh : ∀ b ∈ l, key b ≠ key a := fun b hb =>
      hnew (key b) (List.mem_map_of_mem hb) (key a) (by simp)
    rw [firstByKey_append_singleton, if_pos hfresh, ih hl]

/-- Keeping the first of each class commutes with reading the members. -/
theorem firstByKey_map (f : β → α) (l : List β) :
    firstByKey key (l.map f) = (firstByKey (key ∘ f) l).map f := by
  induction l using List.reverseRecOn with
  | nil => rfl
  | append_singleton l b ih =>
    rw [List.map_append, List.map_singleton, firstByKey_append_singleton,
      firstByKey_append_singleton, ih, List.map_append]
    congr 1
    have hiff : (∀ c ∈ l.map f, key c ≠ key (f b)) ↔ ∀ c ∈ l, (key ∘ f) c ≠ (key ∘ f) b := by
      simp
    by_cases h : ∀ c ∈ l, (key ∘ f) c ≠ (key ∘ f) b
    · rw [if_pos (hiff.mpr h), if_pos h, List.map_singleton]
    · rw [if_neg (mt hiff.mp h), if_neg h, List.map_nil]

end FirstByKey

/-- The fold of `firstOfEachClass` keeps the first entry of each class. -/
theorem firstOfEachClass_eq (es : List Entry) : firstOfEachClass es = firstByKey Entry.key es := by
  -- the fold holds, newest first, the entries kept so far and their keys
  suffices h : es.foldl (fun (acc : List (String × String × List String) × List Entry) e =>
      if acc.1.contains e.key then acc else (e.key :: acc.1, e :: acc.2)) ([], []) =
      (((firstByKey Entry.key es).map Entry.key).reverse, (firstByKey Entry.key es).reverse) by
    rw [firstOfEachClass, h, List.reverse_reverse]
  induction es using List.reverseRecOn with
  | nil => rfl
  | append_singleton es e ih =>
    rw [List.foldl_append, ih, List.foldl_cons, List.foldl_nil, firstByKey_append_singleton]
    dsimp only
    have hseen : ((firstByKey Entry.key es).map Entry.key).reverse.contains e.key = true ↔
        ¬ ∀ b ∈ es, b.key ≠ e.key := by
      rw [List.contains_iff_mem, List.mem_reverse, mem_map_firstByKey]
      simp
    by_cases h : ∀ b ∈ es, b.key ≠ e.key
    · rw [if_neg (mt hseen.mp (not_not.mpr h)), if_pos h]
      simp
    · rw [if_pos (hseen.mpr h), if_neg h]
      simp

/-! ## The class of a line -/

open Web

theorem stripAsset_query {u v : Url} (h : stripAsset u = some v) : v.query = none := by
  simp only [stripAsset] at h
  split at h
  · cases h
  · split at h
    · cases h
      rfl
    · cases h

theorem withPath_with_query (u : Url) (p : String) (q f : Option String) :
    ({ u with query := q, fragment := f } : Url).withPath p =
      { u.withPath p with query := q, fragment := f } := by
  cases u with
  | mk scheme username password host port path query fragment =>
    cases path <;> rfl

/-- Cutting an asset back to its directory reads neither the query nor the fragment. -/
theorem stripAsset_with_query (u : Url) (q f : Option String) :
    stripAsset { u with query := q, fragment := f } = stripAsset u := by
  simp only [stripAsset, Url.pathText, withPath_with_query]
  -- one cut of one path on both sides, the result written through other updates
  rfl

/-- The class of a line that reads as an address. -/
theorem key_parse_of_ok {raw : String} {u : Url} (h : Web.parse raw = .ok u) :
    (Entry.parse raw).key = match stripAsset u with
      | some v => (v.hostWithPort, v.pathText, [])
      | none => (u.hostWithPort, u.pathText, sortedSet (formNames (u.query.getD ""))) := by
  unfold Entry.parse
  rw [h]
  cases hs : stripAsset u with
  | some v => simp [Entry.key, hs, stripAsset_query hs, formNames_nil, sortedSet, dedupAdjacent]
  | none => simp [Entry.key, hs]

/-- Two lines that read as one address up to the query and the fragment are of one class
when their queries have the same names, whatever their values, order and repeats, or when
the path names an asset. -/
theorem key_parse_of_query {a b : String} {u : Url} {q f : Option String}
    (ha : Web.parse a = .ok u) (hb : Web.parse b = .ok { u with query := q, fragment := f })
    (hq : stripAsset u ≠ none ∨
      ∀ n, n ∈ formNames (u.query.getD "") ↔ n ∈ formNames (q.getD "")) :
    (Entry.parse a).key = (Entry.parse b).key := by
  rw [key_parse_of_ok ha, key_parse_of_ok hb, stripAsset_with_query u q f]
  cases hs : stripAsset u with
  | some v => rfl
  | none =>
    simp only [hs, ne_eq, not_true_eq_false, false_or] at hq
    simp only [sortedSet_eq_of_mem_iff hq]
    rfl

/-! ## Normalizing a corpus -/

/-- The trimmed, non-empty lines of a corpus, in sorted order, are its one sorted
arrangement. -/
theorem sortedLines_eq {xs L : List String}
    (hperm : L.Perm ((xs.map Text.trim).filter (!·.isEmpty))) (hsorted : L.Pairwise (· ≤ ·)) :
    ((xs.map Text.trim).filter (!·.isEmpty)).mergeSort (fun a b => decide (a ≤ b)) = L :=
  List.Perm.eq_of_pairwise' (List.pairwise_mergeSort' (· ≤ ·) _) hsorted
    ((List.mergeSort_perm _ _).trans hperm.symm)

/-- A normalized corpus is the address of each line that shares its class with no earlier
line, among the trimmed, non-empty lines in sorted order. No two of them are of one class and
every class of the corpus is kept once. A class reads the query only through the set of its
names, and neither the fragment nor, when the path names an asset, the query. -/
theorem normalize_keeps_first_of_each_class (xs L : List String)
    (hperm : L.Perm ((xs.map Text.trim).filter (!·.isEmpty))) (hsorted : L.Pairwise (· ≤ ·)) :
    let key := fun l => (Entry.parse l).key
    let kept := firstByKey key L
    normalize xs = kept.map (fun l => (Entry.parse l).url) ∧
    (kept.map key).Nodup ∧
    (∀ x ∈ xs, (Text.trim x).isEmpty = false → (kept.map key).count (key (Text.trim x)) = 1) ∧
    (∀ (a b : String) (u : Url) (q f : Option String), Web.parse a = .ok u →
      Web.parse b = .ok { u with query := q, fragment := f } →
      (stripAsset u ≠ none ∨ ∀ n, n ∈ formNames (u.query.getD "") ↔ n ∈ formNames (q.getD "")) →
      key a = key b) := by
  intro key kept
  refine ⟨?_, nodup_map_firstByKey key L, fun x hx hne => count_map_firstByKey key ?_,
    fun a b u q f ha hb hq => key_parse_of_query ha hb hq⟩
  · simp only [normalize, sortedLines_eq hperm hsorted, firstOfEachClass_eq, firstByKey_map,
      List.map_map]
    rfl
  · -- the trimmed line is one of the sorted lines
    exact hperm.symm.subset (List.mem_filter.mpr ⟨List.mem_map_of_mem hx, by simp [hne]⟩)

/-- Two searches with other values and another order of the same query names, a blank line,
and a picture with a query: one address for the searches, and the picture's directory. -/
theorem normalize_keeps_first_of_each_class_search :
    let xs := [" http://h/find?q=b&page=2", "http://h/find?page=1&q=a", "",
      "http://h/img/logo.PNG?v=3"]
    let L := ["http://h/find?page=1&q=a", "http://h/find?q=b&page=2", "http://h/img/logo.PNG?v=3"]
    L.Perm ((xs.map Text.trim).filter (!·.isEmpty)) ∧ L.Pairwise (· ≤ ·) ∧
      normalize xs = ["http://h/find?page=1&q=a", "http://h/img/"] := by
  intro xs L
  have hperm : L.Perm ((xs.map Text.trim).filter (!·.isEmpty)) := by decide +kernel
  have hsorted : L.Pairwise (· ≤ ·) := by decide +kernel
  obtain ⟨hnorm, -⟩ := normalize_keeps_first_of_each_class xs L hperm hsorted
  refine ⟨hperm, hsorted, ?_⟩
  rw [hnorm]
  -- the kernel evaluates the sets of query names through the structural insertion sort
  simp only [Entry.parse, sortedSet, List.mergeSort_eq_insertionSort]
  decide +kernel

end Corpus

end Discovery
