import Discovery.Tally
/-!
# The progress bar

A progress bar has a length when the number of candidates is known, and none when it
is a spinner or when progress is not shown. It is fed the counters of the run: when
the run ends, a known expected count sets the length, the position becomes the issued
count, and the message names the errors. Finishing then moves the position to the
length, when there is one.
-/

namespace Discovery.Output

/-- What a progress bar shows. -/
structure Bar where
  length : Option Nat
  position : Nat := 0
  message : String := ""
  deriving DecidableEq, Repr

/-- A new bar: with the expected count as length when shown and counted. -/
def Bar.start (expected : Option Nat) (enabled : Bool) : Bar :=
  { length := if enabled then expected else none }

/-- Copy the counters of the run onto the bar. -/
def Bar.refresh (b : Bar) (t : Tally) : Bar :=
  { length := if t.expected > 0 then some t.expected else b.length
    position := t.issued
    message := "Errors: " ++ toString t.errors }

/-- The bar once the run is over: refreshed, then finished. -/
def Bar.finish (b : Bar) (t : Tally) : Bar :=
  let b := b.refresh t
  match b.length with
  | some n => { b with position := n }
  | none => b

end Discovery.Output
