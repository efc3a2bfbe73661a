import HostingPanel.Schedule
import HostingPanel.Setup

/-!
# The command line

The two commands for whoever runs the panel: `init-db` sets up the database, and `relay-outbox`
tells the daemon about changes that were never announced, once or at intervals.  A command line is
read as a whole before anything is done; a request for help goes before everything but an unreadable
option.
-/

namespace HostingPanel

/-- What help is about. -/
inductive HelpTopic where
  | commands
  | initDb
  | relayOutbox
deriving DecidableEq, Repr

/-- A command. -/
inductive Command where
  | help (topic : HelpTopic)
  | initDb
  /-- Runs the relay of the outbox, once or every so many seconds. -/
  | relayOutbox (once : Bool) (interval : Option Float)

namespace CommandLine

/-! ### Options -/

/-- The options of a command as they are read. -/
structure Options where
  help : Bool := false
  once : Bool := false
  /-- The text of the interval; the last one counts. -/
  interval : Option String := none
  /-- Whether there are other arguments than options. -/
  more : Bool := false

/-- Whether an argument is an option, known or not. -/
def isOption (argument : String) : Bool :=
  argument.startsWith "-" && 1 < argument.length

/-- The value of an option that is joined to its name by an equals sign. -/
def joined? (name argument : String) : Option String :=
  let start := (name ++ "=").toList
  if start.isPrefixOf argument.toList then
    some (String.ofList (argument.toList.drop start.length))
  else none

/-- Reads the options of a command, those of the relay only if `relay` is set.  Two hyphens alone
end the options. -/
def readOptions (relay : Bool) (options : Options) : List String → Option Options
  | [] => some options
  | "--" :: rest => some { options with more := options.more || !rest.isEmpty }
  | "--help" :: rest => readOptions relay { options with help := true } rest
  | "--once" :: rest =>
    if relay then readOptions relay { options with once := true } rest else none
  | "--interval" :: value :: rest =>
    if relay then readOptions relay { options with interval := some value } rest else none
  | argument :: rest =>
    if !isOption argument then readOptions relay { options with more := true } rest
    else if !relay then none
    else match joined? "--interval" argument with
      | some value => readOptions relay { options with interval := some value } rest
      | none => none

/-! ### Commands -/

/-- The command for the relay; the interval has to be a number. -/
def relayCommand (options : Options) : Option Command :=
  match options.interval with
  | none => some (.relayOutbox options.once none)
  | some text => (Number.readReal text).toOption.map fun x => .relayOutbox options.once (some x)

/-- The command that the options behind its name describe; it takes nothing but options. -/
def withOptions (topic : HelpTopic) (command : Options → Option Command) (options : Options) :
    Option Command :=
  if options.help then some (.help topic)
  else if options.more then none
  else command options

/-- Reads the name of a command and what belongs to it. -/
def readCommand : List String → Option Command
  | "init-db" :: rest =>
    (readOptions false {} rest).bind (withOptions .initDb fun _ => some .initDb)
  | "relay-outbox" :: rest =>
    (readOptions true {} rest).bind (withOptions .relayOutbox relayCommand)
  | _ => none

/-- Reads what stands before a command: whether help is asked for, and what follows.  Two hyphens
alone may stand there, but no option other than help. -/
def readStart (help : Bool) : List String → Option (Bool × List String)
  | [] => some (help, [])
  | "--" :: rest => some (help, rest)
  | "--help" :: rest => readStart true rest
  | argument :: rest => if isOption argument then none else some (help, argument :: rest)

/-- Reads a command line.  An option in the place of the command is read once more as one that
stands before it. -/
def read (arguments : List String) : Option Command :=
  match readStart false arguments with
  | none => none
  | some (true, _) => some (.help .commands)
  | some (false, rest) =>
    match readCommand rest, readStart false rest with
    | some command, _ => some command
    | none, some (true, _) => some (.help .commands)
    | none, _ => none

example : (read ["init-db", "again"]).isNone = true := by decide +kernel

example : (read ["init-db", "again", "--help"]).isSome = true := by decide +kernel

example : (read ["relay-outbox", "--once", "--interval"]).isNone = true := by decide +kernel

/-! ### Help -/

/-- The help about a topic, where the relay has an interval by default. -/
def helpText (interval : Int) : HelpTopic → String
  | .commands =>
    "Usage: mscp_panel.app [OPTIONS] COMMAND [ARGS]...\n\nOptions:\n" ++
      "  --help  Show this message and exit.\n\nCommands:\n" ++
      "  init-db       Create the tables the panel needs on top of the legacy schema.\n" ++
      "  relay-outbox  Send a daemon request for committed changes that were never...\n"
  | .initDb =>
    "Usage: mscp_panel.app init-db [OPTIONS]\n\n" ++
      "  Create the tables the panel needs on top of the legacy schema.\n\nOptions:\n" ++
      "  --help  Show this message and exit.\n"
  | .relayOutbox =>
    "Usage: mscp_panel.app relay-outbox [OPTIONS]\n\n" ++
      "  Send a daemon request for committed changes that were never announced.\n\nOptions:\n" ++
      "  --once            Process pending requests once and exit.\n" ++
      "  --interval FLOAT  Seconds between two runs.  [default: " ++ toString interval ++ "]\n" ++
      "  --help            Show this message and exit.\n"

/-! ### Running commands -/

/-- What comes of a command line. -/
structure Outcome where
  exitCode : Nat
  /-- What is printed; nothing is said about it after an unreadable command line and after a
  failure. -/
  output : Option String := none
  /-- The failure that ended the command. -/
  failure : Option Failure := none
  /-- The jobs that were given to the scheduler, if it was to be used. -/
  scheduled : Option (List Schedule.Job) := none

/-- The outcome of a command that has printed something and succeeded. -/
def Outcome.success (output : String) : Outcome :=
  { exitCode := 0, output := some output }

/-- The outcome of a command that a failure has ended. -/
def Outcome.failed (e : Failure) : Outcome :=
  { exitCode := 1, failure := some e }

/-- The interval of the relay, in seconds, if neither the command line nor the settings give another
one. -/
def defaultInterval : Int := 60

/-- Runs the relay every so many seconds. -/
def relay (seconds : Float) (ticks : Schedule.Ticks) : OperationM Outcome := do
  match ← OperationM.attempt (Schedule.runForever (.number (.real seconds)) ticks) with
  | .ok job => return { Outcome.success "" with scheduled := some [job] }
  | .error e => return { Outcome.failed e with scheduled := some [] }

/-- Runs a command as far as it does not fail. -/
def perform (interval : Int) (ticks : Schedule.Ticks) : Command → OperationM Outcome
  | .help topic => return .success (helpText interval topic)
  | .initDb => do
    if ← Setup.ensureSchema then return .success "Database schema is up to date\n"
    return { exitCode := 1, output := some "Error: Database schema could not be updated\n" }
  | .relayOutbox true _ => do
    let count ← Outbox.relayOnce
    return .success (toString count ++ " pending request(s) dispatched\n")
  | .relayOutbox false given => relay (given.getD (Float.ofInt interval)) ticks

/-- Runs a command line, with the interval that the relay has by default. -/
def run (interval : Int) (ticks : Schedule.Ticks) (arguments : List String) :
    OperationM Outcome := do
  match read arguments with
  | none => return { exitCode := 2 }
  | some command =>
    match ← OperationM.attempt (perform interval ticks command) with
    | .ok outcome => return outcome
    | .error e => return .failed e

end CommandLine

end HostingPanel
