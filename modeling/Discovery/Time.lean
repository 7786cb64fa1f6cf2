import Discovery.Text.Pad
/-!
# Civil time

Instants are whole seconds since 1970-01-01 00:00:00 UTC, before it when negative. The
civil date of an instant is that of the proleptic Gregorian calendar, which repeats
every 400 years (146097 days); counting years from March makes the leap day the last day
of a year, so a day of the year gives the month by a linear formula.

Years from 0 to 9999 are written with four digits; others carry their sign and at least
four digits.
-/

namespace Discovery.Time

open Discovery.Text

/-- A civil date and time of day. -/
structure DateTime where
  year : Int
  month : Nat
  day : Nat
  hour : Nat
  minute : Nat
  second : Nat
  deriving DecidableEq, Repr

/-- The civil date of a day counted from 1970-01-01. -/
def ofDays (z : Int) : Int × Nat × Nat :=
  let z := z + 719468
  let era := z / 146097
  let doe := (z - era * 146097).toNat
  let yoe := (doe - doe / 1460 + doe / 36524 - doe / 146096) / 365
  let doy := doe - (365 * yoe + yoe / 4 - yoe / 100)
  let mp := (5 * doy + 2) / 153
  let day := doy - (153 * mp + 2) / 5 + 1
  let month := if mp < 10 then mp + 3 else mp - 9
  let year := (yoe : Int) + era * 400 + (if month ≤ 2 then 1 else 0)
  (year, month, day)

/-- The civil date and time of an instant. -/
def DateTime.ofSeconds (t : Int) : DateTime :=
  let (year, month, day) := ofDays (t / 86400)
  let s := (t % 86400).toNat
  { year, month, day, hour := s / 3600, minute := s / 60 % 60, second := s % 60 }

/-- Four digits for the years 0 to 9999, a sign and four or more digits otherwise. -/
def yearText (y : Int) : String :=
  if 0 ≤ y ∧ y ≤ 9999 then zeroPad 4 y.toNat
  else (if y < 0 then "-" else "+") ++ zeroPad 4 y.natAbs

/-- `HH:MM:SS`. -/
def DateTime.clock (d : DateTime) : String :=
  zeroPad 2 d.hour ++ ":" ++ zeroPad 2 d.minute ++ ":" ++ zeroPad 2 d.second

/-- `YYYY-MM-DD`. -/
def DateTime.date (d : DateTime) : String :=
  yearText d.year ++ "-" ++ zeroPad 2 d.month ++ "-" ++ zeroPad 2 d.day

/-- `YYYY-MM-DD HH:MM:SS`. -/
def DateTime.stamp (d : DateTime) : String := d.date ++ " " ++ d.clock

/-- `YYYY-MM-DDTHH:MM:SS.000000Z`, the RFC 3339 form with microseconds. -/
def DateTime.rfc3339 (d : DateTime) : String := d.date ++ "T" ++ d.clock ++ ".000000Z"

/-- `YYYY/MM/DD HH:MM:SS`. -/
def DateTime.slashed (d : DateTime) : String :=
  yearText d.year ++ "/" ++ zeroPad 2 d.month ++ "/" ++ zeroPad 2 d.day ++ " " ++ d.clock

end Discovery.Time
