import HostingPanel.Calendar
import HostingPanel.Operation
import HostingPanel.Store.Schema

/-!
# The outbox

Every scheduled change adds an entry to the outbox in its own transaction.  The entry is pending
until the daemon has been told after the change was committed, so a change is announced even if the
daemon could not be reached at once.
-/

namespace HostingPanel.Outbox

/-- The greatest length of a reason. -/
def reasonLimit : Nat := 255

/-- A text cut to the greatest length of a reason. -/
def shortened (reason : String) : String :=
  String.ofList (reason.toList.take reasonLimit)

/-- A reason cut to its greatest length.  Only texts and lists can be cut. -/
def shorten : Json → Except Failure Json
  | .text s => .ok (.text (shortened s))
  | .brokenText points => .ok (.ofPoints (points.take reasonLimit))
  | .list l => .ok (.list (l.take reasonLimit))
  | v => .error (.notDivisible v.typeName)

/-- The entries that are pending. -/
def pending (s : Store) : List OutboxEntry :=
  (s.rows .outbox).filter fun (e : OutboxEntry) => e.dispatchedAt.isNone

/-- The largest of some keys. -/
def largest? : List Int → Option Int
  | [] => none
  | k :: rest => some (rest.foldl max k)

example : largest? [3, 7, 5] = some 7 := by decide

/-- How many entries are pending. -/
def pendingCount : Query Nat where
  table := .outbox
  answer s := (pending s).length

/-- The largest key of a pending entry. -/
def latestPending : Query (Option Int) where
  table := .outbox
  answer s := largest? ((pending s).map (·.id))

/-- The store with a further entry, which comes after all the others. -/
def append (s : Store) (id now : Int) (reason : String) : Store :=
  let entry : OutboxEntry := { id, reason, createdAt := Calendar.timestamp now }
  { s.modify .outbox (· ++ [entry]) with lastOutboxId := id }

/-- Adds an entry inside a transaction; the answer is its key, which is larger than every key given
out before. -/
def enqueue (reason : Json) : TransactionM Int := fun c s =>
  match shorten reason with
  | .error e => .error e
  | .ok reason =>
    match checkFootprint c s ⟨.insert, .outbox, [], [reason]⟩, s.nextKey? .outbox with
    | .error e, _ => .error e
    | .ok _, none => .error .keysExhausted
    | .ok _, some id => .ok (id, append s id c.now reason.shown)

/-- Marks the pending entries with keys up to a bound as announced. -/
def markDispatched (now : Int) (upTo : Json) : Statement :=
  .update .outbox [] [.text (Calendar.timestamp now), upTo]
    (fun _ (e : OutboxEntry) => e.dispatchedAt.isNone && upTo.boundsInt e.id)
    (fun (e : OutboxEntry) => { e with dispatchedAt := some (Calendar.timestamp now) })

/-- Reads the largest key of a pending entry; a failure is only logged. -/
def readLatest : OperationM (Option Int) := do
  match ← OperationM.attempt (OperationM.fetch latestPending) with
  | .ok latest => return latest
  | .error e =>
    OperationM.log .error .outbox ("Couldn't read the daemon outbox: " ++ e.message)
    return none

/-- Marks the pending entries up to the one that was the latest before the daemon was told; a
failure is only logged. -/
def markTold (latest : Option Int) : OperationM (Option Bool) := do
  match latest with
  | none => return some true
  | some id =>
    match ← OperationM.attempt (OperationM.executeNow (markDispatched (← read).now (.int id))) with
    | .ok _ => return some true
    | .error e =>
      OperationM.log .error .outbox
        ("Couldn't mark outbox requests up to " ++ toString id ++ " as dispatched: " ++ e.message)
      return some false

/-- An announcement in steps.  Every step uses the database once or the daemon once, so between two
of them others may use the database. -/
structure Announcement (κ α : Type) where
  /-- Reads up to which key there are pending entries; an answer ends the announcement. -/
  inquire : OperationM (α ⊕ κ)
  /-- Tells the daemon; an answer ends the announcement. -/
  tell : OperationM (Option α)
  /-- Marks the entries up to the key that was read. -/
  mark : κ → OperationM α

/-- Takes the steps of an announcement. -/
def Announcement.run {κ α : Type} (a : Announcement κ α) : OperationM α := do
  match ← OperationM.during .inquiry a.inquire with
  | .inl answer => return answer
  | .inr latest =>
    match ← a.tell with
    | some answer => return answer
    | none => OperationM.during .marking (a.mark latest)

/-- The announcement of changes that have been committed, with the notifier of the operation. -/
def afterCommit : Announcement (Option Int) (Option Bool) where
  inquire := do
    let notifier := (← get).notifier
    if notifier.sent then return .inl notifier.result
    return .inr (← readLatest)
  tell := do
    if (← OperationM.sendRequest) = some true then return none
    OperationM.log .error .outbox
      "Daemon notification failed; pending requests stay queued for the outbox relay"
    return some (some false)
  mark := markTold

/-- The announcement of the relay, with a notifier of its own. -/
def relay : Announcement Int Nat where
  inquire := do
    match ← OperationM.fetch latestPending with
    | none => return .inl 0
    | some id => return .inr id
  tell := do
    if (← OperationM.sendFresh) = some true then return none
    OperationM.log .warning .outbox "Outbox relay could not reach the daemon, will retry"
    return some 0
  mark id := do
    let count ← OperationM.executeNow (markDispatched (← read).now (.int id))
    OperationM.log .info .outbox
      ("Outbox relay dispatched " ++ toString count ++ " pending request(s)")
    return count

/-- Tells the daemon about a change that has been committed.  The change stands whatever comes of
it: an entry that could not be announced stays pending. -/
def notifyAfterCommit : OperationM (Option Bool) :=
  afterCommit.run

/-- Sends a fresh request if entries are pending and marks them as announced; the answer is their
number. -/
def relayOnce : OperationM Nat :=
  relay.run

/-- One scheduled run of the relay: a failure is logged and the next run tries again. -/
def relayTick : OperationM Unit := do
  match ← OperationM.attempt relayOnce with
  | .ok _ => return ()
  | .error e => OperationM.log .error .outbox ("Outbox relay run failed: " ++ e.message)

end HostingPanel.Outbox
