import HostingPanel.Access.User
import HostingPanel.Registry
import HostingPanel.ScheduledChange

/-!
# What waits and what failed

The administrator's view of the items: how many wait for the daemon, which ones the daemon could
not process, and the two actions on them, a new attempt for one item and a request to the daemon
for all that waits.
-/

namespace HostingPanel.Debugger

/-- An item that the daemon left in error. -/
structure Report where
  id : Json
  name : Option String
  status : Option String
  /-- What the user reads for the status. -/
  label : Option String

/-- How many items of a kind wait for the daemon. -/
def pendingItems (t : ItemType) : Query Nat where
  table := t.table
  params := Status.pending.map .text
  answer s := (s.rows t.table).countP fun r => Status.isPending (t.status r) && t.isItem r

/-- Whether a row of a kind is reported as an error. -/
def isReported (t : ItemType) (r : t.table.Row) : Bool :=
  Cell.isNoneOf t.normal (t.status r) && t.isItem r

/-- The items of a kind that are in error. -/
def failedItems (t : ItemType) : Query (List Report) where
  table := t.table
  params := t.normal.map .text
  answer s := ((s.rows t.table).filter (isReported t)).map fun r =>
    ⟨t.id r, t.label r, t.status r, Status.humanize (t.status r) false⟩

/-- How many items wait for the daemon. -/
def countPending : OperationM Nat := do
  let counts ← ItemType.all.mapM fun t => OperationM.fetch (pendingItems t)
  return counts.foldl (· + ·) 0

/-- The items that are in error, by kind; a kind without any is left out. -/
def listErrors : OperationM (List (String × List Report)) := do
  let found ← ItemType.all.mapM fun t => do
    return (t.name, ← OperationM.fetch (failedItems t))
  return found.filter fun entry => !entry.2.isEmpty

/-- The status of the item of a kind with a key, if there is such a row. -/
def statusOf (t : ItemType) (id : Json) : Query (Option (Option String)) where
  table := t.table
  params := [id]
  answer s := ((s.rows t.table).find? (t.hasId id)).map t.status

/-- Sets the status of the item of a kind with a key. -/
def setStatus (t : ItemType) (status : String) (id : Json) : Statement :=
  .update t.table [] [.text status, id] (fun _ => t.hasId id) (t.setStatus (some status))

/-- The statements of a new attempt. -/
def requeueBlock (t : ItemType) (id : Json) : TransactionM Unit := do
  match ← TransactionM.query (statusOf t id) with
  | none => throw (.notFound (.item t.name id))
  | some status =>
    if !Status.isError status (some t.normal) then
      throw (.forbiddenMove (.ofText? status) (.text Status.toChange))
    discard (Status.checkTransition status (some Status.toChange))
    discard (TransactionM.execute (setStatus t Status.toChange id))

/-- What the outbox says about a new attempt. -/
def requeueAction (t : ItemType) (id : Json) : String :=
  "requeue " ++ t.name ++ " " ++ id.shown

/-- Gives an item that the daemon left in error a new attempt. -/
def requeue (type id : Json) : OperationM String := do
  let t ← ItemType.named type
  OperationM.transaction (announced (.text (requeueAction t id)) (requeueBlock t id))
  OperationM.log .info .debugger
    ("Status of " ++ t.name ++ " item " ++ id.shown ++ " changed to " ++ Status.toChange ++
      " for a new attempt")
  return "Done"

/-- Tells the daemon if something waits.  The answer says whether that succeeded, and how. -/
def runPending : OperationM (Bool × String) := do
  if (← countPending) = 0 then
    return (false, "There is no pending request. Operation canceled.")
  if (← Outbox.notifyAfterCommit) = some true then
    return (true, "Daemon request successful.")
  return (false, "Daemon request failed.")

end HostingPanel.Debugger
