/-!
# Sets kept in order

A finite set over an ordered type is kept as the sorted list of its members without
repeats; texts compare by code point, which is the order of their UTF-8 bytes.

`mem_sortedSet` says the set has exactly the members of the list it was built from.
-/

namespace Discovery

/-- Drop each member equal to the one before it. -/
def dedupAdjacent {α : Type} [DecidableEq α] : List α → List α
  | [] => []
  | [a] => [a]
  | a :: b :: rest => if a = b then dedupAdjacent (b :: rest) else a :: dedupAdjacent (b :: rest)

/-- The members of a list in ascending order, each once. -/
def sortedSet {α : Type} [DecidableEq α] [LE α] [DecidableRel (α := α) (· ≤ ·)]
    (xs : List α) : List α :=
  dedupAdjacent (xs.mergeSort fun a b => decide (a ≤ b))

theorem mem_dedupAdjacent {α : Type} [DecidableEq α] (x : α) :
    ∀ xs : List α, x ∈ dedupAdjacent xs ↔ x ∈ xs
  | [] => by simp [dedupAdjacent]
  | [a] => by simp [dedupAdjacent]
  | a :: b :: rest => by
    have ih := mem_dedupAdjacent x (b :: rest)
    simp only [dedupAdjacent]
    split
    · next h =>
      subst h
      simp only [List.mem_cons] at ih ⊢
      rw [ih, ← or_assoc, or_self]
    · simp only [List.mem_cons] at ih ⊢
      rw [ih]

/-- The set has exactly the members of the list. -/
theorem mem_sortedSet {α : Type} [DecidableEq α] [LE α] [DecidableRel (α := α) (· ≤ ·)]
    (x : α) (xs : List α) : x ∈ sortedSet xs ↔ x ∈ xs := by
  simp [sortedSet, mem_dedupAdjacent, List.mem_mergeSort]

end Discovery
