import HostingPanel.Jobs.CustomerDeletion

/-!
# Suspending and resuming customers

A suspended customer's items are disabled, a resumed customer's items are enabled again.  On
suspension the mailboxes are closed: either the mail accounts are disabled, or only the access to
the mailboxes is.
-/

namespace HostingPanel.Jobs

/-- What can be done to a customer account. -/
inductive CustomerAction where
  /-- The account is resumed. -/
  | activate
  /-- The account is suspended. -/
  | deactivate
deriving DecidableEq, Repr

namespace CustomerAction

/-- The action with a name. -/
def named? (v : Json) : Option CustomerAction :=
  if v.isText "deactivate" then some .deactivate
  else if v.isText "activate" then some .activate
  else none

/-- The name of an action. -/
def name : CustomerAction → String
  | .activate => "activate"
  | .deactivate => "deactivate"

/-- The noun for an action. -/
def noun : CustomerAction → String
  | .activate => "activation"
  | .deactivate => "deactivation"

/-- The status that the items get. -/
def target : CustomerAction → String
  | .activate => Status.toEnable
  | .deactivate => Status.toDisable

/-- The status that the domain has to have. -/
def expected : CustomerAction → String
  | .activate => Status.disabled
  | .deactivate => Status.ok

end CustomerAction

/-- Whether a mail account is a mailbox. -/
def isMailbox (m : Mailbox) : Bool :=
  Cell.isLike "%_mail%" m.kind

/-- A mail account with its mailbox open; an account without a mailbox stays as it is. -/
def openMailbox (m : Mailbox) : Mailbox :=
  { m with poActive := if isMailbox m then some "yes" else m.poActive }

/-- The statements that close the mailboxes of a domain. -/
def closeMail (hard : Bool) (domainId : Int) : List Statement :=
  if hard then
    [.update .mail [] [.text Status.toDisable, .int domainId]
      (fun _ (m : Mailbox) => Cell.refersTo domainId m.domainId)
      (fun (m : Mailbox) => { m with status := some Status.toDisable, poActive := some "no" })]
  else
    [.update .mail [] [.int domainId]
      (fun _ (m : Mailbox) => Cell.refersTo domainId m.domainId)
      (fun (m : Mailbox) => { m with poActive := some "no" })]

/-- The statements that open the mailboxes of a domain.  Disabled accounts are enabled too. -/
def openMail (domainId : Int) : List Statement :=
  [.update .mail [] [.text Status.toEnable, .text "%_mail%", .int domainId, .text Status.disabled]
      (fun _ (m : Mailbox) =>
        Cell.refersTo domainId m.domainId && Cell.isText Status.disabled m.status)
      (fun (m : Mailbox) => { openMailbox m with status := some Status.toEnable }),
    .update .mail [] [.text "%_mail%", .int domainId, .text Status.disabled, .text Status.toEnable]
      (fun _ (m : Mailbox) =>
        Cell.refersTo domainId m.domainId && Cell.isOther Status.disabled m.status &&
          Cell.isOther Status.toEnable m.status)
      openMailbox]

/-- The statements on the other items of a customer. -/
def statusStatements (id : Json) (domainId : Int) (target expected : String) : List Statement :=
  [.update .ftpUser [] [.text target, id]
      (fun _ (u : FtpUser) => id.equalsQuantity u.adminId)
      (fun (u : FtpUser) => { u with status := some target }),
    .update .area [] [.text target, .int domainId]
      (fun _ (a : ProtectedArea) => Cell.refersTo domainId a.domainId)
      (fun (a : ProtectedArea) => { a with status := some target }),
    .update .areaGroup [] [.text target, .int domainId]
      (fun _ (g : AreaGroup) => Cell.refersTo domainId g.domainId)
      (fun (g : AreaGroup) => { g with status := some target }),
    .update .areaUser [] [.text target, .int domainId]
      (fun _ (u : AreaUser) => Cell.refersTo domainId u.domainId)
      (fun (u : AreaUser) => { u with status := some target }),
    .update .domain [] [.text target, .int domainId, .text expected]
      (fun _ (d : Domain) => d.id == domainId && Cell.isText expected d.status)
      (fun (d : Domain) => { d with status := some target }),
    .update .subdomain [] [.text target, .int domainId]
      (fun _ (sub : Subdomain) => Cell.refersTo domainId sub.domainId)
      (fun (sub : Subdomain) => { sub with status := some target }),
    .update .domainAlias [] [.text target, .int domainId]
      (fun _ (a : DomainAlias) => Cell.refersTo domainId a.domainId)
      (fun (a : DomainAlias) => { a with status := some target }),
    .update .aliasSubdomain [.domainAlias] [.text target, .int domainId]
      (fun s (sub : AliasSubdomain) => isAliasOf s domainId sub.aliasId)
      (fun (sub : AliasSubdomain) => { sub with status := some target }),
    .update .dns [] [.text target, .int domainId]
      (fun _ (r : DnsRecord) => Cell.refersTo domainId r.domainId)
      (fun (r : DnsRecord) => { r with status := some target })]

/-- The statements of suspending or resuming a customer. -/
def customerStatusStatements (action : CustomerAction) (hard : Bool) (id : Json)
    (domainId : Int) : List Statement :=
  let mail := match action with
    | .deactivate => closeMail hard domainId
    | .activate => openMail domainId
  mail ++ statusStatements id domainId action.target action.expected

/-- The suspension or resumption of a customer account with its domain. -/
def customerStatusPlan (action : CustomerAction) (hard : Bool) (id : Json) (account : Admin)
    (domain : Domain) : Plan :=
  let name := Json.shownName account.name
  { action := action.name ++ " the " ++ name ++ " customer account"
    failureMessage :=
      "Couldn't " ++ action.name ++ " customer account. An unexpected error occurred."
    block := TransactionM.executeAll (customerStatusStatements action hard id domain.id)
    notice := fun user =>
      user ++ ": scheduled " ++ action.name ++ " of customer account: " ++ name
    answer := "Customer account successfully scheduled for " ++ action.noun ++ "." }

/-- Plans that a customer is suspended or resumed. -/
def planCustomerStatus (user : User) (id action : Json) : LookupM Plan := do
  match CustomerAction.named? action with
  | none => throw (.unknownAction action)
  | some action =>
    let (account, domain) ← Ownership.needManagedCustomer user id
    discard (Status.checkTransition domain.status (some action.target))
    return customerStatusPlan action (← read).settings.hardMailSuspension id account domain

/-- Schedules that a customer is suspended or resumed. -/
def changeCustomerStatus (user : User) (id action : Json) : OperationM String :=
  schedule user (planCustomerStatus user id action)

end HostingPanel.Jobs
