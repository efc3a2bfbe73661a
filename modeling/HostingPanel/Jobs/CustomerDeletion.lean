import HostingPanel.Jobs.Autoreplies
import HostingPanel.Jobs.FtpGroups
import HostingPanel.Jobs.Ownership

/-!
# Deleting customers

A customer goes together with everything that the account owns.  What only the panel knows is
removed at once; what the daemon has set up is scheduled for deletion.
-/

namespace HostingPanel.Jobs

/-- Whether a number column is the key of an alias of a domain. -/
def isAliasOf (s : Store) (domainId : Int) (column : Option Quantity) : Bool :=
  (s.rows .domainAlias).any fun (a : DomainAlias) =>
    Cell.refersTo a.id column && Cell.refersTo domainId a.domainId

/-- Whether a number column is the key of a subdomain of a domain. -/
def isSubdomainOf (s : Store) (domainId : Int) (column : Option Quantity) : Bool :=
  (s.rows .subdomain).any fun (sub : Subdomain) =>
    Cell.refersTo sub.id column && Cell.refersTo domainId sub.domainId

/-- Whether a number column is the key of a subdomain of an alias of a domain. -/
def isAliasSubdomainOf (s : Store) (domainId : Int) (column : Option Quantity) : Bool :=
  (s.rows .aliasSubdomain).any fun (sub : AliasSubdomain) =>
    Cell.refersTo sub.id column && isAliasOf s domainId sub.aliasId

/-- The statements on what belongs to the account and is known to the panel only. -/
def customerRemovals (id : Json) (name : Option String) (domainId : Int) : List Statement :=
  [.delete .login [] [.ofText? name] fun _ (l : LoginSession) => Cell.agree l.userName name,
    .delete .area [] [.int domainId] fun _ (a : ProtectedArea) =>
      Cell.refersTo domainId a.domainId,
    .delete .areaUser [] [.int domainId] fun _ (u : AreaUser) =>
      Cell.refersTo domainId u.domainId,
    .delete .areaGroup [] [.int domainId] fun _ (g : AreaGroup) =>
      Cell.refersTo domainId g.domainId,
    .delete .traffic [] [.int domainId] fun _ (t : DomainTraffic) =>
      Cell.refersTo domainId t.domainId,
    .delete .dns [] [.int domainId] fun _ (r : DnsRecord) =>
      Cell.refersTo domainId r.domainId] ++
  FtpGroups.store name [] ++
  [.delete .ticket [] [id, id] fun _ (t : Ticket) =>
      id.equalsQuantity t.sender || id.equalsQuantity t.recipient,
    .delete .gui [] [id] fun _ (g : GuiSetting) => id.equalsQuantity g.userId,
    .delete .php [] [id] fun _ (p : PhpSetting) => id.equalsQuantity p.adminId]

/-- Schedules the certificates of owners of the given type for deletion, where the owners are
picked by their keys. -/
def scheduleCertificatesOf (ownerType : String) (mentions : List Table) (domainId : Int)
    (isOwner : Store → Option Quantity → Bool) : Statement :=
  .update .certificate mentions [.text Status.toDelete, .int domainId]
    (fun s (c : Certificate) => Cell.isText ownerType c.ownerType && isOwner s c.ownerId)
    (fun (c : Certificate) => { c with status := some Status.toDelete })

/-- The statements on what the daemon has set up for the account. -/
def customerSchedules (id : Json) (domainId : Int) : List Statement :=
  [.update .ftpUser [] [.text Status.toDelete, id]
      (fun _ (u : FtpUser) => id.equalsQuantity u.adminId)
      (fun (u : FtpUser) => { u with status := some Status.toDelete }),
    .update .mail [] [.text Status.toDelete, .int domainId]
      (fun _ (m : Mailbox) => Cell.refersTo domainId m.domainId)
      (fun (m : Mailbox) => { m with status := some Status.toDelete }),
    scheduleCertificatesOf "dmn" [] domainId fun _ column => Cell.refersTo domainId column,
    scheduleCertificatesOf "als" [.domainAlias] domainId fun s column =>
      isAliasOf s domainId column,
    scheduleCertificatesOf "sub" [.subdomain] domainId fun s column =>
      isSubdomainOf s domainId column,
    scheduleCertificatesOf "alssub" [.aliasSubdomain, .domainAlias] domainId fun s column =>
      isAliasSubdomainOf s domainId column,
    .update .aliasSubdomain [.domainAlias] [.text Status.toDelete, .int domainId]
      (fun s (sub : AliasSubdomain) => isAliasOf s domainId sub.aliasId)
      (fun (sub : AliasSubdomain) => { sub with status := some Status.toDelete }),
    .update .domainAlias [] [.text Status.toDelete, .int domainId]
      (fun _ (a : DomainAlias) => Cell.refersTo domainId a.domainId)
      (fun (a : DomainAlias) => { a with status := some Status.toDelete }),
    .update .subdomain [] [.text Status.toDelete, .int domainId]
      (fun _ (sub : Subdomain) => Cell.refersTo domainId sub.domainId)
      (fun (sub : Subdomain) => { sub with status := some Status.toDelete }),
    .update .domain [] [.text Status.toDelete, .int domainId]
      (fun _ (d : Domain) => d.id == domainId)
      (fun (d : Domain) => { d with status := some Status.toDelete }),
    .update .admin [] [.text Status.toDelete, id]
      (fun _ (a : Admin) => id.equalsKey a.id)
      (fun (a : Admin) => { a with status := some Status.toDelete })]

/-- The statements of the deletion of a customer. -/
def customerStatements (id : Json) (name : Option String) (domainId : Int) : List Statement :=
  customerRemovals id name domainId ++ customerSchedules id domainId ++ [purgeAutoreplies]

/-- How many databases a domain has. -/
def databaseCount (domainId : Int) : Query Nat where
  table := .sqlDatabase
  params := [.int domainId]
  answer s := (s.rows .sqlDatabase).countP fun (d : SqlDatabase) =>
    Cell.refersTo domainId d.domainId

/-- The deletion of a customer account with its domain. -/
def customerPlan (id : Json) (account : Admin) (domain : Domain) : Plan :=
  let name := Json.shownName account.name
  { action := "delete the " ++ name ++ " customer account"
    failureMessage := "Couldn't delete customer account. An unexpected error occurred."
    block := TransactionM.executeAll (customerStatements id account.name domain.id)
    notice := fun user => user ++ " scheduled deletion of the " ++ name ++ " customer account"
    answer := "Customer account successfully scheduled for deletion." }

/-- Plans the deletion of a customer account, which must not have databases any more. -/
def planCustomer (user : User) (id : Json) : LookupM Plan := do
  let (account, domain) ← Ownership.needManagedCustomer user id
  if (← LookupM.fetch (databaseCount domain.id)) ≠ 0 then throw .databasesRemain
  return customerPlan id account domain

/-- Schedules the deletion of a customer account. -/
def deleteCustomer (user : User) (id : Json) : OperationM String :=
  schedule user (planCustomer user id)

end HostingPanel.Jobs
