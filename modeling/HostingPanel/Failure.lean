import HostingPanel.Json.Basic
import HostingPanel.Number.Literal

/-!
# Failures

Everything that can stop an operation of the panel.  A failure either is meant for the user of the
panel, and then it has an HTTP status (`Failure.status?`), or it is a technical one.
`Failure.message` is the only place where failures are worded.
-/

namespace HostingPanel

/-- What a request asked for and did not find. -/
inductive Missing where
  | subdomain
  | domainAlias
  | customer
  | mailAccount
  | ftpAccount
  | dnsRecord
  | protectedArea
  | certificateOwner
  | certificate
  | mainDomain (owner : Json)
  | item (type : String) (id : Json)

/-- How a message names what is missing. -/
def Missing.message : Missing → String
  | .subdomain => "Subdomain not found"
  | .domainAlias => "Domain alias not found"
  | .customer => "Customer not found"
  | .mailAccount => "Mail account not found"
  | .ftpAccount => "FTP account not found"
  | .dnsRecord => "DNS record not found"
  | .protectedArea => "Protected area not found"
  | .certificateOwner => "Domain not found"
  | .certificate => "SSL certificate not found"
  | .mainDomain owner => "Couldn't find domain of user with ID " ++ owner.shown
  | .item type id => "Unknown " ++ type ++ " item: " ++ id.shown

/-- The kinds of failure that a block of statements may report by itself. -/
inductive ReportKind where
  /-- A failure without a kind of its own. -/
  | general
  | notFound
  | rolledBack
deriving DecidableEq

/-- The HTTP status of a reported failure that does not name one. -/
def ReportKind.status : ReportKind → Int
  | .general => 400
  | .notFound => 404
  | .rolledBack => 500

/-- Why the text of an address cannot be read. -/
inductive AddressError where
  | unbalancedBrackets
  /-- Something else than an address stands in square brackets. -/
  | notAnAddress (host : String)
  | oldAddressInBrackets
  | malformedFutureAddress
  /-- The host holds characters that stand for delimiters. -/
  | delimiterInDisguise (host : String)
  | portNotANumber (port : String)
  | portTooLong (digits : Nat)
  | portOutOfRange
deriving DecidableEq, Repr

/-- The wording of what is wrong with an address. -/
def AddressError.message : AddressError → String
  | .unbalancedBrackets => "Invalid IPv6 URL"
  | .notAnAddress host => Text.quoted host ++ " does not appear to be an IPv4 or IPv6 address"
  | .oldAddressInBrackets => "An IPv4 address cannot be in brackets"
  | .malformedFutureAddress => "IPvFuture address is invalid"
  | .delimiterInDisguise host =>
    "netloc '" ++ host ++ "' contains invalid characters under NFKC normalization"
  | .portNotANumber port => "Port could not be cast to integer value as " ++ Text.quoted port
  | .portTooLong digits => Number.digitLimitMessage digits
  | .portOutOfRange => "Port out of range 0-65535"

/-- The kinds of misuse of the network. -/
inductive MisuseKind where
  | value
  | number
  /-- The name of the host cannot be written for the network. -/
  | name
  | type
deriving DecidableEq, Repr

/-- What is wrong with an address or a timeout with which nobody can try to connect. -/
structure Misuse where
  kind : MisuseKind
  message : String
deriving DecidableEq, Repr

/-- The reasons why an operation stops. -/
inductive Failure where
  /-- The target of the operation does not exist or belongs to somebody else. -/
  | notFound (what : Missing)
  | forbiddenMove (current target : Json)
  /-- A scheduled change was taken back; the user is shown this message. -/
  | rolledBack (message : Json)
  /-- A customer account can only be activated or deactivated. -/
  | unknownAction (action : Json)
  | unknownDomainType (type : Json)
  | unknownItemType (type : Json)
  | databasesRemain
  | protectedAddress
  /-- The customer who signs in has no domain. -/
  | accountIncomplete
  | accountSuspended
  | accountExpired
  /-- A block of statements reports a failure of its own; without a status it has the one of its
  kind. -/
  | reported (kind : ReportKind) (message status : Json)
  /-- A block of statements stops with a technical failure of its own. -/
  | stopped (reasons : List Json)
  | database (message : String)
  | noSuchTable (name : String)
  | noSuchColumn (column : String)
  | noColumnIn (table column : String)
  | emptyRow
  /-- A column that has to be present would be absent. -/
  | columnAbsent (column : String)
  | notUnique (column : String)
  /-- A key would not be an integer. -/
  | typeMismatch
  | keysExhausted
  /-- The signed-in user or the row lacks a property. -/
  | missingProperty (name : String)
  /-- An integer does not fit into a parameter of a statement. -/
  | numberTooLarge
  /-- A text with half a surrogate pair cannot be written as UTF-8. -/
  | notEncodable (points : List Nat)
  | notBindable (position : Nat) (type : String)
  /-- A value that has to be a text or an object is none. -/
  | notText
  | notAnObject (type : String)
  | notDivisible (type : String)
  | wrongType
  /-- A list or an object is used as a name. -/
  | notAName
  /-- The absent value cannot be part of a search pattern. -/
  | absentInPattern
  /-- A command to the daemon holds other characters than ASCII. -/
  | notAscii (command : String)
  /-- With this address or this timeout nobody can try to connect. -/
  | notConnectable (misuse : Misuse)
  | passwordTooLong
  /-- A text is no key under which tokens can be signed. -/
  | unusableSecret
  | beyondCalendar
  | intervalNotANumber
  | intervalTooLong
  | badAddress (error : AddressError)
  /-- The name of a host cannot be written for the network. -/
  | badHostName
  | brokenHeader

/-- The first run of code points in a text that an encoding cannot write: its place and the code
points. -/
def firstUnwritable (writable : Nat → Bool) (points : List Nat) : Nat × List Nat :=
  let before := points.takeWhile writable
  (before.length, (points.drop before.length).takeWhile (!writable ·))

/-- The complaint about code points that an encoding cannot write. -/
def encodingMessage (encoding reason : String) (writable : Nat → Bool) (points : List Nat) :
    String :=
  let (start, run) := firstUnwritable writable points
  let what := match run with
    | [p] =>
      "character '" ++ String.ofList (Text.spelledPoint p) ++ "' in position " ++ toString start
    | _ => "characters in position " ++ toString start ++ "-" ++ toString (start + run.length - 1)
  Text.quoted encoding ++ " codec can't encode " ++ what ++ ": " ++ reason

/-- The reasons of a technical failure: one stands for itself, several are listed. -/
def listedReasons : List Json → String
  | [reason] => reason.shown
  | [] => ""
  | reasons => "(" ++ Json.nestedList reasons ++ ")"

namespace Failure

/-- The wording of a failure. -/
def message : Failure → String
  | .notFound what => what.message
  | .forbiddenMove current target =>
    "Cannot move item from '" ++ current.shown ++ "' to '" ++ target.shown ++ "'"
  | .rolledBack message => message.shown
  | .unknownAction action => "Unknown action: " ++ action.shown
  | .unknownDomainType type => "Unknown domain type: " ++ type.shown
  | .unknownItemType type => "Unknown item type: " ++ type.shown
  | .databasesRemain => "Customer SQL databases must be deleted first."
  | .protectedAddress => "Default mail accounts cannot be deleted."
  | .accountIncomplete => "An unexpected error occurred. Please contact your reseller."
  | .accountSuspended => "Your account has been suspended. Please contact your reseller."
  | .accountExpired => "Your account is expired. Please contact your reseller."
  | .reported _ message _ => message.shown
  | .stopped reasons => listedReasons reasons
  | .database message => message
  | .noSuchTable name => "no such table: " ++ name
  | .noSuchColumn column => "no such column: " ++ column
  | .noColumnIn table column => "table " ++ table ++ " has no column named " ++ column
  | .emptyRow => "near \")\": syntax error"
  | .columnAbsent column => "NOT NULL constraint failed: " ++ column
  | .notUnique column => "UNIQUE constraint failed: " ++ column
  | .typeMismatch => "datatype mismatch"
  | .keysExhausted => "database or disk is full"
  | .missingProperty name => Text.quoted name
  | .numberTooLarge => "Python int too large to convert to SQLite INTEGER"
  | .notEncodable points =>
    encodingMessage "utf-8" "surrogates not allowed" (fun p => decide p.isValidChar) points
  | .notBindable position type =>
    "Error binding parameter " ++ toString position ++ ": type '" ++ type ++ "' is not supported"
  | .notText => "a text was expected"
  | .notAnObject "str" => "string indices must be integers, not 'str'"
  | .notAnObject "list" => "list indices must be integers or slices, not str"
  | .notAnObject type => Text.quoted type ++ " object is not subscriptable"
  | .notDivisible "dict" => "unhashable type: 'slice'"
  | .notDivisible type => Text.quoted type ++ " object is not subscriptable"
  | .wrongType => "a value of another type was expected"
  | .notAName => "a list or an object is no name"
  | .absentInPattern => "can only concatenate str (not \"NoneType\") to str"
  | .notAscii command =>
    encodingMessage "ascii" "ordinal not in range(128)" (· < 0x80) (command.toList.map Char.toNat)
  | .notConnectable misuse => misuse.message
  | .passwordTooLong =>
    "password cannot be longer than 72 bytes, truncate manually if necessary " ++
      "(e.g. my_password[:72])"
  | .unusableSecret => "the secret is no key for signatures"
  | .beyondCalendar => "date value out of range"
  | .intervalNotANumber => "cannot convert float NaN to integer"
  | .intervalTooLong => "interval out of range"
  | .badAddress error => error.message
  | .badHostName => "the name of the host has an empty or a long part"
  | .brokenHeader => "Header values must not contain newline characters."

/-- The message of a failure as a value: what was reported with a value keeps it. -/
def report : Failure → Json
  | .rolledBack message => message
  | .reported _ message _ => message
  | e => .text e.message

/-- The HTTP status of a failure that is meant for the user; the technical ones have none. -/
def status? : Failure → Option Int
  | .notFound _ => some 404
  | .forbiddenMove _ _ => some 409
  | .rolledBack _ => some 500
  | .unknownAction _ => some 400
  | .unknownDomainType _ => some 400
  | .unknownItemType _ => some 400
  | .databasesRemain => some 409
  | .protectedAddress => some 403
  | .accountIncomplete => some 403
  | .accountSuspended => some 403
  | .accountExpired => some 403
  | .reported _ _ (.number (.integer status)) => some status
  | .reported kind _ _ => some kind.status
  | _ => none

/-- The status of a failure as a value: what was reported with a value keeps it. -/
def statusValue? : Failure → Option Json
  | .reported kind _ .null => some (.int kind.status)
  | .reported _ _ status => some status
  | e => e.status?.map .int

/-- The failure for a name that names nothing; a list or an object cannot be a name at all. -/
def unknownName (unknown : Json → Failure) (name : Json) : Failure :=
  match name with
  | .list _ => .notAName
  | .object _ => .notAName
  | _ => unknown name

/-- Whether a failure is meant for the user of the panel. -/
def isShown (e : Failure) : Bool :=
  e.status?.isSome

end Failure

namespace Json

/-- A property that a value may have. -/
def member? (v : Json) (name : String) : Option Json :=
  match v with
  | .object fields => field? name fields
  | _ => none

/-- A property that a value has to have. -/
def member (v : Json) (name : String) : Except Failure Json :=
  match v with
  | .object fields => (field? name fields).elim (.error (.missingProperty name)) .ok
  | _ => .error (.notAnObject v.typeName)

/-- A property that is needed is the one that may be there. -/
theorem member_eq_ok_iff {v w : Json} {name : String} :
    v.member name = .ok w ↔ v.member? name = some w := by
  cases v with
  | object fields => cases h : field? name fields <;> simp [member, member?, h]
  | _ => simp [member, member?]

end Json

end HostingPanel
