import Discovery.Finding
import Discovery.Text.Lines
import Discovery.Text.Search
import Discovery.Text.Utf8
/-!
# Expanding words into candidates

A word without the placeholder `%EXT%` is its own only candidate. A word with it gives,
when the blank extension is on, the word with every `.%EXT%` cut out, and then, for
each extension in order, the word with every placeholder replaced by that extension.
A word list is read line by line: a line is what stands between line feeds, decoded on
its own with bad bytes replaced; trimmed lines that are empty or start with `#` are
skipped, and every other line is expanded in turn.

`length_expand` counts the candidates of one word.
-/

namespace Discovery.Wordlist

open Discovery.Text

/-- The placeholder that stands for an extension. -/
def placeholder : String := "%EXT%"

/-- How one word turns into candidates: extensions in order, and whether the bare
word comes first. -/
structure Expansion where
  extensions : List String := []
  blank : Bool := false
  deriving DecidableEq, Repr

/-- The candidate words of one word. -/
def Expansion.expand (e : Expansion) (word : String) : List String :=
  if contains word placeholder then
    (if e.blank then [replace word ("." ++ placeholder) ""] else []) ++
      e.extensions.map fun ext => replace word placeholder ext
  else [word]

/-- How many candidates a list of words gives. -/
def Expansion.expectedCount (e : Expansion) (text : String) : Nat :=
  ((meaningfulLines text).map fun w => (e.expand w).length).foldl (· + ·) 0

/-- Cut bytes at every line feed. -/
def splitLines : List UInt8 → List (List UInt8)
  | [] => [[]]
  | b :: bs =>
    if b = 0x0A then [] :: splitLines bs
    else match splitLines bs with
      | [] => [[b]]
      | l :: ls => (b :: l) :: ls

/-- The words of a list of bytes, in order. -/
def wordsOfBytes (bytes : List UInt8) : List String :=
  ((splitLines bytes).map fun l => trim (decodeLossyString l)).filter isMeaningful

/-- The candidates of a list of bytes, in order. -/
def Expansion.candidates (e : Expansion) (bytes : List UInt8) : List Candidate :=
  (wordsOfBytes bytes).flatMap fun w => (e.expand w).map Candidate.word

/-- One word gives one candidate, or one per extension and one more for the blank. -/
theorem length_expand (e : Expansion) (w : String) :
    (e.expand w).length =
      if contains w placeholder then e.extensions.length + (if e.blank then 1 else 0) else 1 := by
  unfold Expansion.expand
  split
  · split <;> simp
  · rfl

end Discovery.Wordlist
