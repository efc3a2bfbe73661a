import HostingPanel.Number.Literal
import HostingPanel.Json.Basic
import HostingPanel.Text.Uppercase

/-!
# Settings

The settings of the panel, and how they are read from environment variables.  A variable that is
not set leaves the default; the first variable that cannot be read stops the reading.  While the
panel runs, a setting can be given any value (`Settings.change`); what cannot be done with a value
shows where the setting is used.
-/

namespace HostingPanel

/-- The settings of the panel. -/
structure Settings where
  dbHost : String := "localhost"
  dbUser : String := "root"
  dbPassword : String := "root"
  dbName : String := "imscp"
  /-- The key under which tokens are signed. -/
  tokenSecret : Json := .text "mscp-dev-secret-change-in-production"
  tokenHours : Json := .int 24
  daemonType : Json := .text "imscp"
  daemonHost : Json := .text "127.0.0.1"
  daemonPort : Json := .int 9876
  /-- How many seconds the daemon may take; without a limit the panel waits. -/
  daemonTimeout : Json := .null
  /-- The version by which the panel introduces itself. -/
  panelVersion : Json := .text "1.5.3"
  relayInterval : Int := 60
  /-- Whether a suspended customer loses all mail services and not only the mailbox access. -/
  hardMailSuspension : Bool := true
  protectDefaultAddresses : Bool := true
  /-- The least severe log records that are kept. -/
  logLevel : String := "INFO"

namespace Settings

/-- Reads a switch: the words `1`, `true`, `yes` and `on` in any case turn it on. -/
def readSwitch (s : String) : Bool :=
  let word := String.ofList ((Text.trimBy Text.isBlank s.toList).map Char.toLower)
  word = "1" || word = "true" || word = "yes" || word = "on"

/-- Reads an optional number of seconds; an empty text is no limit. -/
def readLimit (s : Option String) : Except Number.LiteralError Json :=
  match s with
  | none => .ok .null
  | some s => if s.isEmpty then .ok .null else (Number.readReal s).map fun x => .number (.real x)

/-- Reads the settings from environment variables. -/
def ofEnvironment (env : String → Option String) : Except Number.LiteralError Settings := do
  let default : Settings := {}
  let text (name fallback : String) : String := (env name).getD fallback
  let shown (name : String) (fallback : Json) : Json := (env name).elim fallback .text
  let integer (name : String) : Except Number.LiteralError (Option Int) :=
    (env name).mapM Number.readInteger
  let switch (name : String) : Bool := (env name).elim true readSwitch
  let tokenHours ← integer "JWT_EXPIRY_HOURS"
  let daemonPort ← integer "DAEMON_PORT"
  let daemonTimeout ← readLimit (env "DAEMON_TIMEOUT")
  let relayInterval ← integer "OUTBOX_RELAY_INTERVAL"
  return {
    dbHost := text "DB_HOST" default.dbHost
    dbUser := text "DB_USER" default.dbUser
    dbPassword := text "DB_PASS" default.dbPassword
    dbName := text "DB_NAME" default.dbName
    tokenSecret := shown "JWT_SECRET" default.tokenSecret
    tokenHours := tokenHours.elim default.tokenHours .int
    daemonType := shown "DAEMON_TYPE" default.daemonType
    daemonHost := shown "DAEMON_HOST" default.daemonHost
    daemonPort := daemonPort.elim default.daemonPort .int
    daemonTimeout
    panelVersion := shown "PANEL_VERSION" default.panelVersion
    relayInterval := relayInterval.getD default.relayInterval
    hardMailSuspension := switch "HARD_MAIL_SUSPENSION"
    protectDefaultAddresses := switch "PROTECT_DEFAULT_EMAIL_ADDRESSES"
    logLevel := (env "LOG_LEVEL").elim default.logLevel Text.upper }

/-- The text of a limit, if there is one. -/
def limitText : Json → Json
  | .null => .null
  | limit => .text limit.nested

/-- The settings by the names of their variables. -/
def entries (s : Settings) : List (String × Json) :=
  [("DB_HOST", .text s.dbHost), ("DB_USER", .text s.dbUser), ("DB_PASS", .text s.dbPassword),
    ("DB_NAME", .text s.dbName), ("JWT_SECRET", s.tokenSecret), ("JWT_EXPIRY_HOURS", s.tokenHours),
    ("DAEMON_TYPE", s.daemonType), ("DAEMON_HOST", s.daemonHost), ("DAEMON_PORT", s.daemonPort),
    ("DAEMON_TIMEOUT", limitText s.daemonTimeout), ("PANEL_VERSION", s.panelVersion),
    ("OUTBOX_RELAY_INTERVAL", .int s.relayInterval),
    ("HARD_MAIL_SUSPENSION", .bool s.hardMailSuspension),
    ("PROTECT_DEFAULT_EMAIL_ADDRESSES", .bool s.protectDefaultAddresses),
    ("LOG_LEVEL", .text s.logLevel)]

/-- Changes one setting, given by the name of its variable.  The settings that only count when the
panel starts stay as they are. -/
def change (s : Settings) (name : String) (v : Json) : Settings :=
  match name with
  | "JWT_SECRET" => { s with tokenSecret := v }
  | "JWT_EXPIRY_HOURS" => { s with tokenHours := v }
  | "DAEMON_TYPE" => { s with daemonType := v }
  | "DAEMON_HOST" => { s with daemonHost := v }
  | "DAEMON_PORT" => { s with daemonPort := v }
  | "DAEMON_TIMEOUT" => { s with daemonTimeout := v }
  | "PANEL_VERSION" => { s with panelVersion := v }
  | "HARD_MAIL_SUSPENSION" => { s with hardMailSuspension := v.isGiven }
  | "PROTECT_DEFAULT_EMAIL_ADDRESSES" => { s with protectDefaultAddresses := v.isGiven }
  | _ => s

end Settings

namespace Number

/-- The wording of a number that cannot be read.  The complaint about an integer shows at most 200
characters of it. -/
def LiteralError.message : LiteralError → String
  | .notAnInteger s =>
    "invalid literal for int() with base 10: " ++
      String.ofList ((Text.quoted s).toList.take 200)
  | .tooManyDigits n => digitLimitMessage n
  | .notAReal s => "could not convert string to float: " ++ Text.quoted s

end Number

end HostingPanel
