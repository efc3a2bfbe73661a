import HostingPanel.Interval
import HostingPanel.Outbox

/-!
# Running the relay at intervals

The relay of the outbox is a job that a scheduler runs at intervals.  Runs that were missed, or
would overlap, collapse into one.
-/

namespace HostingPanel.Schedule

/-- A job for the scheduler. -/
structure Job where
  /-- The name by which the scheduler knows the job. -/
  id : String := "outbox_relay"
  /-- The name by which people know the job. -/
  name : String := "Daemon outbox relay"
  interval : Interval
  /-- How many seconds late a run may be. -/
  graceTime : Int
  /-- Whether the job takes the place of an earlier one. -/
  replaceExisting : Bool := true
  /-- Whether missed runs collapse into one. -/
  coalesce : Bool := true
  maxInstances : Nat := 1
  firstRunNow : Bool := true

/-- The time between two runs that the scheduler keeps: a second in place of nothing. -/
def kept (i : Interval) : Interval :=
  if i.microseconds = 0 then ⟨Interval.second⟩ else i

/-- The whole seconds of a number of seconds. -/
def wholeSeconds : Number → Int
  | .integer n => n
  | .real x => (Number.truncate? x).getD 0

/-- The job that runs the relay every so many seconds.  The first run after the one at once has to
lie within the calendar. -/
def relayJob (now : Int) (seconds : Json) : Except Failure Job := do
  let n ← Interval.number seconds
  let interval := kept (← Interval.ofUnits Interval.second n)
  discard (interval.endAfter now)
  return { interval, graceTime := max (wholeSeconds n) 1 }

/-- What the scheduler does: how often it runs the job, and whether it is interrupted then. -/
structure Ticks where
  count : Nat := 1
  /-- Whether the scheduler is interrupted after the runs. -/
  interrupt : Bool := true

/-- Runs the relay a number of times. -/
def runTicks : Nat → OperationM Unit
  | 0 => pure ()
  | n + 1 => do
    Outbox.relayTick
    runTicks n

/-- Runs the relay every so many seconds until the scheduler stops. -/
def runForever (seconds : Json) (ticks : Ticks) : OperationM Job := do
  let job ← relayJob (← read).now seconds
  OperationM.log .info .outbox
    ("APScheduler started: outbox relay every " ++ seconds.shown ++ "s")
  runTicks ticks.count
  if ticks.interrupt then OperationM.log .info .outbox "APScheduler stopped."
  return job

end HostingPanel.Schedule
