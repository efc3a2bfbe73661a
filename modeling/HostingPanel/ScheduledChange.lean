import HostingPanel.Outbox

/-!
# Scheduled changes

The frame of every change that the daemon has to carry out: the block of statements and the outbox
entry are committed together, and then the daemon is told.  A failure takes everything back and the
daemon is left alone.
-/

namespace HostingPanel

/-- A block of statements together with the outbox entry that announces it. -/
def announced {α : Type} (action : Json) (body : TransactionM α) : TransactionM α := do
  let a ← body
  discard (Outbox.enqueue action)
  return a

/-- Runs a block of statements as one scheduled change.  A failure that is meant for the user
leaves as it is; any other is logged and leaves as the given message. -/
def scheduledChange {α : Type} (action failureMessage : Json) (body : TransactionM α) :
    OperationM α := do
  match ← OperationM.attempt (OperationM.transaction (announced action body)) with
  | .ok a =>
    discard Outbox.notifyAfterCommit
    return a
  | .error e =>
    if e.isShown then throw e
    OperationM.log .error .cascade ("System was unable to " ++ action.shown ++ ": " ++ e.message)
    throw (.rolledBack failureMessage)

end HostingPanel
