import HostingPanel.CommandLine

/-!
# The program

Runs a command line with the settings of the environment.  The database is kept in memory and has
all its tables; the log goes to the standard error stream.
-/

namespace HostingPanel

/-- The settings of the environment, or why they cannot be read. -/
def environmentSettings : IO (Except Number.LiteralError Settings) := do
  let names := (Settings.entries {}).map (·.1)
  let values ← names.mapM fun name => return (name, ← IO.getEnv name)
  return Settings.ofEnvironment fun name => (values.lookup name).join

/-- Runs a command line and says what came of it. -/
def runCommandLine (settings : Settings) (arguments : List String) : IO UInt32 := do
  let panel : Panel := { store := .empty, notifier := Notifier.create settings }
  let (result, panel) :=
    OperationM.run (CommandLine.run settings.relayInterval {} arguments) { settings } panel
  for record in panel.journal do
    IO.eprintln (record.level.name ++ ":" ++ record.source.name ++ ":" ++ record.text)
  match result with
  | .error e =>
    IO.eprintln e.message
    return 1
  | .ok outcome =>
    match outcome.output with
    | some text => IO.print text
    | none => pure ()
    match outcome.failure with
    | some e => IO.eprintln e.message
    | none => pure ()
    return UInt32.ofNat outcome.exitCode

end HostingPanel

/-- Reads the settings, and runs the command line. -/
def main (arguments : List String) : IO UInt32 := do
  match ← HostingPanel.environmentSettings with
  | .ok settings => HostingPanel.runCommandLine settings arguments
  | .error e =>
    IO.eprintln e.message
    return 1
