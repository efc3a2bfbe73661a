import HostingPanel.Daemon.Notifier
import HostingPanel.Journal
import HostingPanel.Transaction

/-!
# Operations

An operation of the panel works on the database, tells the daemon, keeps a log, and may fail.  What
it has committed, told and logged before a failure remains: `Panel` is that state, and an operation
is a computation in `OperationM`.
-/

namespace HostingPanel

/-- The state that operations work on. -/
structure Panel where
  store : Store
  /-- The notifier of the operation. -/
  notifier : Notifier
  /-- The log records, the latest last. -/
  journal : List LogRecord := []
  /-- The attempts to connect to the daemon, the latest last. -/
  contacts : List Contact := []

/-- An operation of the panel. -/
abbrev OperationM := ReaderT Context (ExceptT Failure (StateM Panel))

namespace OperationM

/-- Runs an operation. -/
def run {α : Type} (op : OperationM α) (c : Context) (p : Panel) : Except Failure α × Panel :=
  op c p

/-- The outcome of an operation, which so does not stop the operation around it. -/
def attempt {α : Type} (op : OperationM α) : OperationM (Except Failure α) := fun c p =>
  let (r, p) := op c p
  (.ok r, p)

/-- Writes a log record. -/
def log (level : Level) (source : Source) (text : String) : OperationM Unit := fun _ p =>
  (.ok (), { p with journal := p.journal ++ [⟨level, source, text⟩] })

/-- An operation as a phase of another one. -/
def during {α : Type} (phase : Phase) (op : OperationM α) : OperationM α := fun c p =>
  op (c.during phase) p

/-- Asks the database a question on a connection of its own. -/
def fetch {α : Type} (q : Query α) : OperationM α := fun c p =>
  (readOnce c p.store q, p)

/-- Runs a statement on a connection of its own. -/
def executeNow (st : Statement) : OperationM Nat := fun c p =>
  match executeOnce c p.store st with
  | .ok (n, s) => (.ok n, { p with store := s })
  | .error e => (.error e, p)

/-- Runs a block of statements as one transaction. -/
def transaction {α : Type} (body : TransactionM α) : OperationM α := fun c p =>
  match commitBlock c p.store body with
  | .ok (a, s) => (.ok a, { p with store := s })
  | .error e => (.error e, p)

/-- Takes note of a call of a notifier and gives its answer. -/
def report (d : Delivery) : OperationM (Option Bool) := do
  modify fun p => { p with contacts := p.contacts ++ d.contact.toList }
  match d.trouble with
  | some trouble => log .error .daemon trouble.message
  | none => pure ()
  match d.answer with
  | .ok answer => return answer
  | .error e => throw e

/-- Tells the daemon through the notifier of the operation. -/
def sendRequest : OperationM (Option Bool) := do
  let d := (← get).notifier.send (← read)
  modify fun p => { p with notifier := d.notifier }
  report d

/-- Tells the daemon through a notifier made for this one call. -/
def sendFresh : OperationM (Option Bool) := do
  let c ← read
  report ((Notifier.create c.settings).send c)

/-- Goes on with a notifier that has not been used. -/
def renewNotifier : OperationM Unit := do
  let settings := (← read).settings
  modify fun p => { p with notifier := Notifier.create settings }

/-! ### Running operations step by step -/

section Run

variable {α β : Type} (c : Context) (p : Panel)

theorem run_pure (a : α) : run (pure a) c p = (.ok a, p) := rfl

theorem run_read : run (read : OperationM Context) c p = (.ok c, p) := rfl

theorem run_get : run (get : OperationM Panel) c p = (.ok p, p) := rfl

theorem run_attempt (op : OperationM α) :
    run (attempt op) c p = (.ok (run op c p).1, (run op c p).2) := rfl

/-- An operation that follows another one runs on the state that the first one leaves, and only if
the first one has succeeded. -/
theorem run_bind (op : OperationM α) (f : α → OperationM β) :
    run (op >>= f) c p =
      match run op c p with
      | (.ok a, q) => run (f a) c q
      | (.error e, q) => (.error e, q) := by
  have step : run (op >>= f) c p =
      (ExceptT.bindCont (fun a => f a c) (op c p).1 : StateM Panel (Except Failure β))
        (op c p).2 := rfl
  rw [step]
  simp only [run]
  rcases op c p with ⟨_ | _, q⟩ <;> rfl

end Run

end OperationM

end HostingPanel
