import Maquette.Number.Notation

/-!
# Points in time

A point in time is a number of microseconds since the beginning of 1970, and its
calendar date is computed from the number of days: a cycle of the calendar has
400 years, and in a year that begins in March the leap day comes last.
-/

namespace Maquette

/-- A point in time, in microseconds since the beginning of 1970. -/
structure Instant where
  microseconds : Int
deriving DecidableEq

/-- A calendar date and the time of day. -/
structure CalendarTime where
  year : Int
  month : Int
  day : Int
  hour : Int
  minute : Int
  second : Int
  microsecond : Int
deriving DecidableEq

namespace Instant

/-- The instant so many seconds and microseconds after the beginning of 1970. -/
def ofSeconds (seconds microseconds : Int) : Instant :=
  ⟨seconds * 1000000 + microseconds⟩

def daysPerCycle : Int := 146097

/-- The days from the first of March of the year 0 to the beginning of 1970. -/
def epochDays : Int := 719468

def calendar (t : Instant) : CalendarTime :=
  let seconds := t.microseconds.fdiv 1000000
  let days := seconds.fdiv 86400 + epochDays
  let ofDay := seconds.fmod 86400
  let cycle := days.fdiv daysPerCycle
  let dayOfCycle := days.fmod daysPerCycle
  let yearOfCycle :=
    (dayOfCycle - dayOfCycle / 1460 + dayOfCycle / 36524 - dayOfCycle / 146096) / 365
  let dayOfYear := dayOfCycle - (365 * yearOfCycle + yearOfCycle / 4 - yearOfCycle / 100)
  let monthFromMarch := (5 * dayOfYear + 2) / 153
  let month := if monthFromMarch < 10 then monthFromMarch + 3 else monthFromMarch - 9
  { year := yearOfCycle + cycle * 400 + (if month ≤ 2 then 1 else 0)
    month
    day := dayOfYear - (153 * monthFromMarch + 2) / 5 + 1
    hour := ofDay / 3600
    minute := ofDay % 3600 / 60
    second := ofDay % 60
    microsecond := t.microseconds.fmod 1000000 }

/-- The digits of a number, filled up with zeros in front. -/
def padded (width : Nat) (n : Int) : String :=
  let digits := decimalDigits n.natAbs
  String.ofList (List.replicate (width - digits.length) '0' ++ digits)

/-- The instant as date and time with its offset, microseconds only if there are
any. -/
def isoText (t : Instant) : String :=
  let c := t.calendar
  padded 4 c.year ++ "-" ++ padded 2 c.month ++ "-" ++ padded 2 c.day ++ "T" ++
    padded 2 c.hour ++ ":" ++ padded 2 c.minute ++ ":" ++ padded 2 c.second ++
    (if c.microsecond = 0 then "" else "." ++ padded 6 c.microsecond) ++ "+00:00"

/-- The instant as digits for the name of a directory. -/
def stamp (t : Instant) : String :=
  let c := t.calendar
  integerText c.year ++ padded 2 c.month ++ padded 2 c.day ++ "_" ++
    padded 2 c.hour ++ padded 2 c.minute ++ padded 2 c.second

/-- The seconds since the beginning of 1970 as a double. -/
def timestamp (t : Instant) : Binary64 :=
  .ofRatio (decide (t.microseconds < 0)) t.microseconds.natAbs 1000000

/-- The whole seconds since the beginning of 1970. -/
def wholeSeconds (t : Instant) : Int :=
  match t.timestamp with
  | .finite s m => Binary64.integerPart s m
  | _ => 0

end Instant

end Maquette
