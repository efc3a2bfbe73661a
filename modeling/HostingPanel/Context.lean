import HostingPanel.Daemon.Peer
import HostingPanel.Failure
import HostingPanel.Settings

/-!
# The surroundings of an operation

What an operation finds and cannot change: the settings, the time, the network with the daemon, and
the faults of the database.

A fault lasts, or it comes when the operation has reached a phase of an announcement: then what was
committed before stands, and the bookkeeping fails.
-/

namespace HostingPanel

/-- The operations of the database that can fail. -/
inductive Verb where
  | connect
  | begin
  | commit
  | select
  | insert
  | update
  | delete
deriving DecidableEq, Repr

/-- A fault makes every matching operation of the database fail. -/
structure Fault where
  verb : Verb
  table : Option String
  message : String
deriving DecidableEq, Repr

/-- The phases of an announcement in which the database is used. -/
inductive Phase where
  /-- The outbox is read before the daemon is told. -/
  | inquiry
  /-- Entries are marked after the daemon has been told. -/
  | marking
deriving DecidableEq, Repr

/-- The surroundings of an operation. -/
structure Context where
  settings : Settings := {}
  /-- The time, in seconds since 1970. -/
  now : Int := 1700000000
  peer : Peer := .willing
  /-- What is wrong with a host, a port and a timeout, if nobody can try to connect with them. -/
  misuse? : Json → Json → Json → Option Misuse := fun _ _ _ => none
  /-- The faults of the database that last. -/
  faults : List Fault := []
  /-- The faults that come with a phase and go with it. -/
  passing : Phase → List Fault := fun _ => []

namespace Context

/-- The message of the first fault that matches an operation. -/
def fault? (c : Context) (verb : Verb) (table : Option String) : Option String :=
  (c.faults.find? fun f => f.verb == verb && f.table == table).map (·.message)

/-- The surroundings in a phase. -/
def during (c : Context) (phase : Phase) : Context :=
  { c with faults := c.faults ++ c.passing phase }

/-- What an attempt to connect meets: the daemon, unless something is wrong with the host, the port
or the timeout. -/
def reached (c : Context) (host port timeout : Json) : Except Misuse Peer :=
  match c.misuse? host port timeout with
  | some misuse => .error misuse
  | none => .ok c.peer

end Context

end HostingPanel
