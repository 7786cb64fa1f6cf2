import Discovery.Time
import Discovery.Text.Pad
/-!
# Log lines

A log line starts with the instant in RFC 3339 form with microseconds, then the level
right-aligned to five characters, the message, and each field as `name=value`. Which
levels are shown depends on the run: warnings and errors always, information when
verbose, debugging when asked.
-/

namespace Discovery.Output

open Discovery.Time Discovery.Text

/-- How serious a log line is. -/
inductive Level where
  | error
  | warn
  | info
  | debug
  deriving DecidableEq, Repr

/-- The label of a level, right-aligned to five characters. -/
def Level.label : Level → String
  | .error => "ERROR"
  | .warn => " WARN"
  | .info => " INFO"
  | .debug => "DEBUG"

/-- How verbose a run's log is: the most detailed level shown. -/
def Level.rank : Level → Nat
  | .error => 0
  | .warn => 1
  | .info => 2
  | .debug => 3

/-- One log line. -/
def logLine (now : DateTime) (level : Level) (message : String) (fields : List (String × String)) :
    String :=
  now.rfc3339 ++ " " ++ level.label ++ " " ++ message ++
    String.join (fields.map fun (k, v) => " " ++ k ++ "=" ++ v)

/-- The log of a run: the most detailed level it shows and the lines so far. -/
structure Log where
  shown : Level
  now : DateTime
  lines : List String := []

/-- Add a line when its level is shown. -/
def Log.add (log : Log) (level : Level) (message : String) (fields : List (String × String)) : Log :=
  if level.rank ≤ log.shown.rank then { log with lines := log.lines ++ [logLine log.now level message fields] }
  else log

end Discovery.Output
