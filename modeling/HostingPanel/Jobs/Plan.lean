import HostingPanel.Access.User
import HostingPanel.ScheduledChange

/-!
# Plans

A job reads what it needs, each question on a connection of its own, and then makes one scheduled
change.  `LookupM` is the first half: what it computes from the database cannot change anything.
Its result is a `Plan`, and `Plan.carryOut` is the second half.  Between the two the database may
have moved on.
-/

namespace HostingPanel

/-- A computation that asks the database questions and changes nothing. -/
abbrev LookupM := ReaderT Context (ReaderT Store (Except Failure))

/-- Asks a question on a connection of its own. -/
def LookupM.fetch {α : Type} (q : Query α) : LookupM α := fun c s =>
  readOnce c s q

/-- Looks something up in the database as it is. -/
def OperationM.lookup {α : Type} (l : LookupM α) : OperationM α := fun c p =>
  (l c p.store, p)

/-- A scheduled change that is ready to be made. -/
structure Plan where
  action : String
  /-- What the user is told if the change is taken back. -/
  failureMessage : String
  block : TransactionM Unit
  /-- What the journal says about the change, by the name of the user. -/
  notice : String → String
  /-- What the user is told. -/
  answer : String

/-- Makes the change that has been planned for a user. -/
def Plan.carryOut (plan : Plan) (user : User) : OperationM String := do
  scheduledChange (.text plan.action) (.text plan.failureMessage) plan.block
  OperationM.log .info .jobs (plan.notice (← user.name).shown)
  return plan.answer

namespace Jobs

/-- Plans a change for a user and makes it. -/
def schedule (user : User) (planning : LookupM Plan) : OperationM String := do
  (← OperationM.lookup planning).carryOut user

end Jobs

end HostingPanel
