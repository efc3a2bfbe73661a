/-!
# Dates

The text of a moment in the outbox: date and time in UTC, from seconds since the start of 1970.
-/

namespace HostingPanel.Calendar

/-- A day of the calendar. -/
structure Date where
  /-- The year. -/
  year : Nat
  /-- The month, from one. -/
  month : Nat
  /-- The day of the month, from one. -/
  day : Nat
deriving DecidableEq, Repr

/-- The date of a day counted from the first of January 1970.  Years are taken to begin in March,
so that the leap day is the last of its year, and are grouped by 400. -/
def dateOf (days : Nat) : Date :=
  let shifted := days + 719468
  let era := shifted / 146097
  let dayOfEra := shifted % 146097
  let yearOfEra := (dayOfEra - dayOfEra / 1460 + dayOfEra / 36524 - dayOfEra / 146096) / 365
  let dayOfYear := dayOfEra - (365 * yearOfEra + yearOfEra / 4 - yearOfEra / 100)
  let fromMarch := (5 * dayOfYear + 2) / 153
  let month := if fromMarch < 10 then fromMarch + 3 else fromMarch - 9
  let year := yearOfEra + 400 * era + if month ≤ 2 then 1 else 0
  ⟨year, month, dayOfYear - (153 * fromMarch + 2) / 5 + 1⟩

/-- A number with at least the given count of digits. -/
def padded (width n : Nat) : String :=
  let digits := toString n
  String.ofList (List.replicate (width - digits.length) '0') ++ digits

/-- A moment as `year-month-day hour:minute:second`. -/
def timestamp (seconds : Int) : String :=
  let n := seconds.toNat
  let date := dateOf (n / 86400)
  let clock := n % 86400
  padded 4 date.year ++ "-" ++ padded 2 date.month ++ "-" ++ padded 2 date.day ++ " " ++
    padded 2 (clock / 3600) ++ ":" ++ padded 2 (clock / 60 % 60) ++ ":" ++ padded 2 (clock % 60)

/-- The first second that lies beyond the calendar, which ends with the year 9999. -/
def endOfTime : Int := 253402300800

/-- The first second of the calendar, which begins with the year one. -/
def startOfTime : Int := -62135596800

example : dateOf 0 = ⟨1970, 1, 1⟩ := by decide

example : dateOf 11016 = ⟨2000, 2, 29⟩ := by decide

example : timestamp 1700000000 = "2023-11-14 22:13:20" := by cbv

end HostingPanel.Calendar
