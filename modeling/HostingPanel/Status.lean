import HostingPanel.Failure

/-!
# Statuses

The statuses that the panel shares with the daemon.  The panel writes requests (`toadd`,
`tochange`, …); the daemon answers with `ok`, `disabled`, or an error message.  `allowedFrom` lists
the requests that may follow a status and `checkTransition` enforces the list.
-/

namespace HostingPanel.Status

def toAdd : String := "toadd"
def toChange : String := "tochange"
def toChangePassword : String := "tochangepwd"
def toDelete : String := "todelete"
def toEnable : String := "toenable"
def toDisable : String := "todisable"
/-- The item is to be restored from a backup. -/
def toRestore : String := "torestore"
def ok : String := "ok"
def disabled : String := "disabled"
/-- The daemon failed without saying why. -/
def error : String := "error"
/-- The item awaits approval. -/
def ordered : String := "ordered"

/-- The requests that wait for the daemon. -/
def pending : List String :=
  ["toinstall", "toupdate", "touninstall", toAdd, toChange, toRestore, toEnable, toDisable,
    toDelete]

/-- The statuses that only the daemon writes. -/
def terminal : List String :=
  [ok, disabled, error]

/-- What the user reads for a known status. -/
def label? (status : String) : Option String :=
  if status = ok then some "Ok"
  else if status = toAdd then some "Addition in progress..."
  else if status = toChange then some "Modification in progress..."
  else if status = toRestore then some "Modification in progress..."
  else if status = toChangePassword then some "Modification in progress..."
  else if status = toDelete then some "Deletion in progress..."
  else if status = disabled then some "Deactivated"
  else if status = toEnable then some "Activation in progress..."
  else if status = toDisable then some "Deactivation in progress..."
  else if status = ordered then some "Awaiting for approval"
  else none

/-- Whether a status is a request that waits for the daemon. -/
def isPending (status : Option String) : Bool :=
  status.any pending.contains

/-- Whether a status is an error message of the daemon: one that is not among the given ones, or
without such a list one that is not known at all. -/
def isError (status : Option String) (known : Option (List String)) : Bool :=
  status.any fun s =>
    match known with
    | some list => !list.contains s
    | none => (label? s).isNone && !pending.contains s

/-- The requests that may follow a failure: the item may be tried again or deleted. -/
def afterFailure : List String :=
  [toChange, toDelete]

/-- The requests that may follow a status.  A pending item belongs to the daemon. -/
def allowedFrom (current : Option String) : List String :=
  match current with
  | none => [toAdd]
  | some s =>
    if s = ordered then [toAdd]
    else if s = ok then [toChange, toChangePassword, toDelete, toDisable, toRestore]
    else if s = disabled then [toEnable, toDelete]
    else if pending.contains s then []
    else afterFailure

/-- Whether the panel may move an item to a status. -/
def mayMove (current : Option String) (target : String) : Bool :=
  !terminal.contains target && (allowedFrom current).contains target

/-- The target of a move that the panel may make. -/
def checkTransition (current target : Option String) : Except Failure String :=
  match target with
  | some t =>
    if mayMove current t then .ok t else .error (.forbiddenMove (.ofText? current) (.text t))
  | none => .error (.forbiddenMove (.ofText? current) .null)

/-- What the user reads for a failure. -/
def failureLabel : String := "Unexpected error"

/-- What the user reads for a status.  An unknown one is shown only on request. -/
def humanize (status : Option String) (showError : Bool) : Option String :=
  match status.bind label? with
  | some label => some label
  | none => if showError then status else some failureLabel

end HostingPanel.Status
