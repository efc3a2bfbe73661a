import HostingPanel.Jobs.Autoreplies
import HostingPanel.Jobs.Ownership
import HostingPanel.Text.Items

/-!
# Deleting mail accounts

A mail account that goes leaves the lists of targets of all forwards and catch-alls.  An account
whose list becomes empty goes too.
-/

namespace HostingPanel.Jobs

/-- The mark of a catch-all in place of a list of targets: its targets are where other accounts
have the local part of their address. -/
def catchAllMark : String := "_no_"

/-- The local parts of the default mail accounts. -/
def defaultAccounts : List String :=
  ["abuse", "hostmaster", "postmaster", "webmaster"]

/-- Whether a mail account is one of the default accounts of its domain, subdomain or alias. -/
def isDefaultAccount (account kind : Option String) : Bool :=
  (["normal_forward", "alias_forward"].any (Cell.isText · kind) &&
      account.any defaultAccounts.contains) ||
    (Cell.isText "webmaster" account &&
      ["subdom_forward", "alssub_forward"].any (Cell.isText · kind))

/-- Whether a mail account must not be deleted by its owner. -/
def isProtected (protect : Bool) (account kind : Option String) : Bool :=
  protect && isDefaultAccount account kind

/-- The mail account of a domain with a key. -/
def mailAccount (id : Json) (domainId : Int) : Query (Option Mailbox) where
  table := .mail
  params := [id, .int domainId]
  answer s := (s.rows .mail).find? fun (m : Mailbox) =>
    id.equalsKey m.id && Cell.refersTo domainId m.domainId

/-- The other mail accounts that may have an address in one of their lists. -/
def referrers (id : Json) (address : String) : Query (List Mailbox) where
  table := .mail
  params :=
    [id, .text (Text.containing address), .text (Text.containing address)]
  answer s := (s.rows .mail).filter fun (m : Mailbox) =>
    id.differsInt m.id &&
      (Cell.isLike (Text.containing address) m.account ||
        Cell.isLike (Text.containing address) m.forward)

/-- Whether a mail account is a catch-all. -/
def isCatchAll (m : Mailbox) : Bool :=
  Cell.isText catchAllMark m.forward

/-- The targets of a forward or catch-all. -/
def targets (m : Mailbox) : List String :=
  Text.items (if isCatchAll m then m.account else m.forward)

/-- A forward or catch-all with other targets. -/
def withTargets (m : Mailbox) (list : List String) : Mailbox :=
  if isCatchAll m then { m with account := some (Text.joinItems list) }
  else { m with forward := some (Text.joinItems list) }

/-- What becomes of a mail account when an address goes: nothing if the address is not among its
targets, else it is changed or, without any other target, deleted. -/
def detach (address : Option String) (m : Mailbox) : List Statement :=
  match address with
  | none => []
  | some address =>
    if !(targets m).contains address then []
    else
      let rest := (targets m).filter (· != address)
      if rest.isEmpty then
        [.update .mail [] [.text Status.toDelete, .int m.id]
          (fun _ (r : Mailbox) => r.id == m.id)
          (fun (r : Mailbox) => { r with status := some Status.toDelete })]
      else
        let changed := withTargets m rest
        [.update .mail []
          [.text Status.toChange, .ofText? changed.account, .ofText? changed.forward, .int m.id]
          (fun _ (r : Mailbox) => r.id == m.id)
          (fun (r : Mailbox) =>
            { r with
              status := some Status.toChange
              account := changed.account
              forward := changed.forward })]

/-- Schedules the mail account with a key for deletion. -/
def scheduleMailbox (id : Json) : Statement :=
  .update .mail [] [.text Status.toDelete, id]
    (fun _ (m : Mailbox) => id.equalsKey m.id)
    (fun (m : Mailbox) => { m with status := some Status.toDelete })

/-- The statements of the deletion of a mail account. -/
def mailBlock (id : Json) (address : Option String) : TransactionM Unit := do
  discard (TransactionM.execute (scheduleMailbox id))
  let found ← TransactionM.query (referrers id (Json.shownName address))
  TransactionM.executeAll (found.flatMap (detach address))
  discard (TransactionM.execute purgeAutoreplies)

/-- The deletion of a mail account. -/
def mailPlan (id : Json) (m : Mailbox) : Plan :=
  let address := Json.shownName m.address
  { action := "delete the " ++ address ++ " mail account"
    failureMessage := "Couldn't delete mail account. An unexpected error occurred."
    block := mailBlock id m.address
    notice := fun user => user ++ " scheduled deletion of the " ++ address ++ " mail account"
    answer := "Mail account successfully scheduled for deletion." }

/-- Plans the deletion of a mail account. -/
def planMailAccount (user : User) (id : Json) : LookupM Plan := do
  let domain ← Ownership.needMainDomain (← user.id)
  match ← LookupM.fetch (mailAccount id domain.id) with
  | none => throw (.notFound .mailAccount)
  | some m =>
    if isProtected (← read).settings.protectDefaultAddresses m.account m.kind then
      throw .protectedAddress
    return mailPlan id m

/-- Schedules the deletion of a mail account. -/
def deleteMailAccount (user : User) (id : Json) : OperationM String :=
  schedule user (planMailAccount user id)

end HostingPanel.Jobs
