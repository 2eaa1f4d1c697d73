import DebugBridge.Text.Number

/-!
# Dates and times

Times are seconds since the start of 1970 in universal time, without leap seconds. A date is found
by counting days from the first of March of the year 0 of the proleptic Gregorian calendar, so
that the day that a leap year adds is the last one of its year: 400 such years have 146097 days.
-/

namespace DebugBridge.Calendar

/-- A date of the Gregorian calendar. -/
structure Date where
  year : Int
  month : Nat
  day : Nat
  deriving DecidableEq, Repr

/-- The days from the first of March of the year 0 to the first of January 1970. -/
def epochDay : Int := 719468

/-- The date of a day, counted from the first of January 1970. -/
def dateOf (day : Int) : Date :=
  let day := day + epochDay
  let era := Int.fdiv day 146097
  let dayOfEra := (Int.fmod day 146097).toNat
  let yearOfEra := (dayOfEra - dayOfEra / 1460 + dayOfEra / 36524 - dayOfEra / 146096) / 365
  let dayOfYear := dayOfEra - (365 * yearOfEra + yearOfEra / 4 - yearOfEra / 100)
  let shifted := (5 * dayOfYear + 2) / 153
  let month := if shifted < 10 then shifted + 3 else shifted - 9
  { year := era * 400 + yearOfEra + (if month ≤ 2 then 1 else 0)
    month
    day := dayOfYear - (153 * shifted + 2) / 5 + 1 }

/-- A moment as it stands on a clock. -/
structure Clock where
  date : Date
  hour : Nat
  minute : Nat
  second : Nat
  deriving DecidableEq, Repr

/-- The clock at a time. -/
def clockAt (time : Int) : Clock :=
  let ofDay := (Int.fmod time 86400).toNat
  { date := dateOf (Int.fdiv time 86400)
    hour := ofDay / 3600
    minute := ofDay / 60 % 60
    second := ofDay % 60 }

/-- Whether a time lies in the years that have dates, from 262144 before Christ to 262142. -/
def covers (time : Int) : Bool := -8334601228800 ≤ time && time ≤ 8210266876799

/-- A year in four digits; one that needs more, or lies before the year 0, has its sign. -/
def yearText (year : Int) : String :=
  if 0 ≤ year && year ≤ 9999 then Text.padZero 4 year.toNat
  else (if year < 0 then "-" else "+") ++ Text.padZero 4 year.natAbs

/-- Year, month and day. -/
def dateText (d : Date) : String :=
  yearText d.year ++ "-" ++ Text.padZero 2 d.month ++ "-" ++ Text.padZero 2 d.day

/-- Hour, minute and second. -/
def clockText (c : Clock) : String :=
  Text.padZero 2 c.hour ++ ":" ++ Text.padZero 2 c.minute ++ ":" ++ Text.padZero 2 c.second

/-- The time with its date and zone, for machines. -/
def stamp (time : Int) : String :=
  let c := clockAt time
  dateText c.date ++ "T" ++ clockText c ++ "+00:00"

/-- The time with its date to the minute, for readers. -/
def minuteText (time : Int) : String :=
  let c := clockAt time
  dateText c.date ++ " " ++ Text.padZero 2 c.hour ++ ":" ++ Text.padZero 2 c.minute

/-- The time of day. -/
def timeOfDay (time : Int) : String := clockText (clockAt time)

end DebugBridge.Calendar
