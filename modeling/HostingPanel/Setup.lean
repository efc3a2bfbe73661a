import HostingPanel.Operation

/-!
# Setting up the database

The panel adds one table, the outbox, to a database that has the others already.
-/

namespace HostingPanel.Setup

/-- The name under which the catalogue of the database is read. -/
def catalogue : String := "INFORMATION_SCHEMA"

/-- Whether the outbox is there. -/
def hasOutbox (c : Context) (s : Store) : Except Failure Bool := do
  checkFault c .connect
  match c.fault? .select (some catalogue) with
  | some message => throw (.database message)
  | none => return !s.missing.contains .outbox

/-- Asks the database whether the outbox is there. -/
def fetchHasOutbox : OperationM Bool := fun c p =>
  (hasOutbox c p.store, p)

/-- Creates the outbox.  Creating a table takes effect at once, even if the commit after it
fails. -/
def createOutbox : OperationM Unit := fun c p =>
  match checkFault c .connect with
  | .error e => (.error e, p)
  | .ok _ => (checkFault c .commit, { p with store := p.store.createOutbox })

/-- Creates the outbox if it is missing. -/
def ensureOutbox : OperationM Unit := do
  if !(← fetchHasOutbox) then
    OperationM.log .info .schema "Creating 'daemon_outbox' table..."
    createOutbox
    OperationM.log .info .schema "Successfully created 'daemon_outbox' table"

/-- Makes sure that the database can be used; the answer says whether it can. -/
def ensureSchema : OperationM Bool := do
  match ← OperationM.attempt ensureOutbox with
  | .ok _ => return true
  | .error e =>
    OperationM.log .warning .schema ("Could not create daemon_outbox table: " ++ e.message)
    return false

end HostingPanel.Setup
