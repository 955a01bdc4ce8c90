/-!
# Dates

Points in time are counts of seconds since the start of 1970. They are shown as year, month, day,
hour and minute of the proleptic Gregorian calendar, in universal time: a machine has no time zone
of its own.
-/

namespace TableShell.Calendar

/-- A day of the calendar. -/
structure Date where
  year : Int
  month : Nat
  day : Nat
  deriving DecidableEq, Repr

/-- The day that lies `days` days after the start of 1970. The count is taken from the first of
March of year 0, so that the leap day ends a year; four hundred years have 146097 days, and the
months from March to January repeat in lengths with 153 days in five months. -/
def dateOfDays (days : Int) : Date :=
  let shifted := days + 719468
  let era := shifted / 146097
  let dayOfEra := (shifted % 146097).toNat
  let yearOfEra := (dayOfEra - dayOfEra / 1460 + dayOfEra / 36524 - dayOfEra / 146096) / 365
  let dayOfYear := dayOfEra - (365 * yearOfEra + yearOfEra / 4 - yearOfEra / 100)
  let marchMonth := (5 * dayOfYear + 2) / 153
  let day := dayOfYear - (153 * marchMonth + 2) / 5 + 1
  let month := if marchMonth < 10 then marchMonth + 3 else marchMonth - 9
  let year := (yearOfEra : Int) + era * 400
  { year := if month ≤ 2 then year + 1 else year, month, day }

/-- A number with at least `width` digits. -/
def padded (width n : Nat) : String :=
  let digits := n.repr
  .ofList (List.replicate (width - digits.length) '0') ++ digits

/-- A year has four digits; one outside of 0 to 9999 has a sign. -/
def yearText (year : Int) : String :=
  if year < 0 then "-" ++ padded 4 year.natAbs
  else if year ≤ 9999 then padded 4 year.toNat
  else "+" ++ padded 4 year.toNat

/-- The text of a point in time, down to the minute. -/
def dateText (seconds : Int) : String :=
  let date := dateOfDays (seconds / 86400)
  let minutes := ((seconds % 86400) / 60).toNat
  yearText date.year ++ "-" ++ padded 2 date.month ++ "-" ++ padded 2 date.day ++ " " ++
    padded 2 (minutes / 60) ++ ":" ++ padded 2 (minutes % 60)

/-- The last year that can be shown. -/
def lastYear : Int := 262142

/-- The text of a point in time, if its year can be shown. -/
def dateText? (seconds : Int) : Option String :=
  if (dateOfDays (seconds / 86400)).year ≤ lastYear then some (dateText seconds) else none

end TableShell.Calendar
