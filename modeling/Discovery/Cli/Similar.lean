/-!
# Similar names

Two names are similar when their Jaro similarity is above seven tenths. Two characters
match when they are equal, not yet matched, and at most `max(|a|, |b|) / 2 - 1` places
apart; the similarity is the mean of the matched share of each name and the share of
matches that are not transposed. It is compared here exactly, as a fraction.
-/

namespace Discovery.Cli

/-- Match the characters of `a` against those of `b`, within the window; returns the
flags of `b` and the matched characters of `a` in order. -/
def matchChars (window : Nat) (b : List Char) : List Char → Nat → List Bool → List Char →
    List Bool × List Char
  | [], _, flags, acc => (flags, acc.reverse)
  | c :: cs, i, flags, acc =>
    let lo := i - window
    let hi := min b.length (i + window + 1)
    let found := (List.range hi).find? fun j =>
      lo ≤ j && b.getD j ' ' = c && !(flags.getD j false)
    match found with
    | some j => matchChars window b cs (i + 1) (flags.set j true) (c :: acc)
    | none => matchChars window b cs (i + 1) flags acc

/-- The matches and transpositions of two names. -/
def matchCounts (a b : List Char) : Nat × Nat :=
  let window := max a.length b.length / 2 - 1
  let (flags, fromA) := matchChars window b a 0 (List.replicate b.length false) []
  let fromB := (b.zip flags).filterMap fun (c, f) => if f then some c else none
  let transposed := ((fromA.zip fromB).filter fun (x, y) => x ≠ y).length
  (fromA.length, transposed / 2)

/-- The Jaro similarity as a fraction `num / den`. -/
def similarity (a b : String) : Nat × Nat :=
  let a := a.toList
  let b := b.toList
  if a.isEmpty && b.isEmpty then (1, 1)
  else if a.isEmpty || b.isEmpty then (0, 1)
  else
    let (m, t) := matchCounts a b
    if m = 0 then (0, 1)
    else (m * b.length * m + m * a.length * m + (m - t) * a.length * b.length,
      3 * a.length * b.length * m)

/-- The similarity is above seven tenths. -/
def isSimilar (a b : String) : Bool :=
  let (num, den) := similarity a b
  10 * num > 7 * den

/-- The candidates similar to a name, least similar first, ties in their order. -/
def similarNames (name : String) (candidates : List String) : List String :=
  let scored := (candidates.filter (isSimilar name)).map fun c => (similarity name c, c)
  (scored.mergeSort fun x y => x.1.1 * y.1.2 ≤ y.1.1 * x.1.2).map (·.2)

end Discovery.Cli
