/-!
# The journal

The log records that operations leave behind, from the level of information upwards.
-/

namespace HostingPanel

/-- How severe a log record is. -/
inductive Level where
  | info
  | warning
  | error
deriving DecidableEq, Repr

/-- The name of a level. -/
def Level.name : Level → String
  | .info => "INFO"
  | .warning => "WARNING"
  | .error => "ERROR"

/-- The parts of the panel that keep a log. -/
inductive Source where
  | jobs
  /-- The frame of a scheduled change. -/
  | cascade
  | outbox
  | daemon
  /-- The overview of what waits and what failed. -/
  | debugger
  | schema
  | auth
  | app
deriving DecidableEq, Repr

/-- The name of a part. -/
def Source.name : Source → String
  | .jobs => "jobs"
  | .cascade => "cascade"
  | .outbox => "outbox"
  | .daemon => "daemon"
  | .debugger => "debugger"
  | .schema => "schema"
  | .auth => "auth"
  | .app => "app"

/-- A log record. -/
structure LogRecord where
  level : Level
  source : Source
  text : String
deriving DecidableEq, Repr

end HostingPanel
