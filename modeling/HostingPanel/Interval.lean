import HostingPanel.Calendar
import HostingPanel.Failure

/-!
# Intervals

A length of time is given as a number of units and kept in whole microseconds.  The whole units
count exactly.  What is left is multiplied in floating point, and a fraction of a microsecond is
rounded so that of two equally near totals the even one results.
-/

namespace HostingPanel

/-- A length of time, which may be negative. -/
structure Interval where
  /-- The microseconds. -/
  microseconds : Int
deriving DecidableEq, Repr

namespace Interval

/-- The microseconds of a second. -/
def second : Nat := 1000000

/-- The microseconds of an hour. -/
def hour : Nat := 3600 * second

/-- The microseconds of a day. -/
def day : Nat := 24 * hour

/-- The greatest number of days in an interval, in either direction. -/
def dayLimit : Nat := 999999999

/-- A whole number with a fraction added and rounded: to the nearest, a half to the even one. -/
def rounded (whole : Int) (fraction : Float) : Int :=
  if 0.5 < fraction || (fraction == 0.5 && whole % 2 == 1) then whole + 1
  else if fraction < -0.5 || (fraction == -0.5 && whole % 2 == 1) then whole - 1
  else whole

/-- The microseconds of a floating-point number of units that is not a whole one. -/
def ofFraction (unit : Nat) (whole : Int) (fraction : Float) : Int :=
  let part := Float.ofNat unit * fraction
  let known := (Number.truncate? part).getD 0
  rounded (whole * unit + known) (part - Float.ofInt known)

/-- The microseconds of a number of units. -/
def count (unit : Nat) : Number → Except Failure Int
  | .integer n => .ok (n * unit)
  | .real x =>
    match Number.truncate? x with
    | some whole => .ok (ofFraction unit whole (x - Float.ofInt whole))
    | none => .error (if x.isNaN then .intervalNotANumber else .intervalTooLong)

/-- The number that a value is; a truth value counts as one. -/
def number (v : Json) : Except Failure Number :=
  match v with
  | .number n => .ok n
  | .bool b => .ok (.integer (if b then 1 else 0))
  | _ => .error .wrongType

/-- An interval of a number of units. -/
def ofUnits (unit : Nat) (n : Number) : Except Failure Interval := do
  let total ← count unit n
  if dayLimit < (Int.fdiv total day).natAbs then throw .intervalTooLong
  return ⟨total⟩

/-- The seconds of an interval, as the nearest floating-point number. -/
def seconds (i : Interval) : Float :=
  let x := Float.ofScientific i.microseconds.natAbs true 6
  if i.microseconds < 0 then -x else x

/-- The second in which an interval after a moment ends; it has to lie within the calendar. -/
def endAfter (i : Interval) (now : Int) : Except Failure Int :=
  let moment := now + Int.fdiv i.microseconds second
  if Calendar.startOfTime ≤ moment ∧ moment < Calendar.endOfTime then .ok moment
  else .error .beyondCalendar

end Interval

end HostingPanel
