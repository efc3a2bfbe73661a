import HostingPanel.Jobs.FtpGroups
import HostingPanel.Jobs.Ownership
import HostingPanel.Status
import HostingPanel.Text.MountPath

/-!
# Deleting subdomains

A subdomain, of a domain or of a domain alias, goes together with all that lies under it: its FTP
accounts, mail accounts, certificates, PHP settings and the protected areas under its mount point.
-/

namespace HostingPanel.Jobs

/-- The full name of a subdomain. -/
def hostName (name parent : Option String) : String :=
  Json.shownName name ++ "." ++ Json.shownName parent

/-- Schedules the FTP accounts of a host for deletion. -/
def scheduleFtpOfHost (host : String) : Statement :=
  .update .ftpUser [] [.text Status.toDelete, .text (Text.atHost host)]
    (fun _ (u : FtpUser) => Cell.isLike (Text.atHost host) u.userid)
    (fun (u : FtpUser) => { u with status := some Status.toDelete })

/-- Schedules the protected areas of a domain under a mount point for deletion. -/
def scheduleAreasUnder (domainId : Option Quantity) (mount : Option String) : Statement :=
  let pattern := Text.startingWith (Text.normalizePath mount)
  .update .area [] [.text Status.toDelete, .ofQuantity? domainId, .text pattern]
    (fun _ (a : ProtectedArea) => Cell.agree a.domainId domainId && Cell.isLike pattern a.path)
    (fun (a : ProtectedArea) => { a with status := some Status.toDelete })

/-- Removes the PHP settings of an owner of the given type. -/
def removePhp (id : Json) (ownerType : String) : Statement :=
  .delete .php [] [id] fun _ (p : PhpSetting) =>
    id.equalsQuantity p.ownerId && Cell.isText ownerType p.ownerType

/-- Schedules the mail accounts under a subdomain or an alias for deletion, if they are of the
given family. -/
def scheduleMailUnder (id : Json) (family : String) : Statement :=
  .update .mail [] [.text Status.toDelete, id, .text (Text.containing family)]
    (fun _ (m : Mailbox) =>
      id.equalsQuantity m.subId && Cell.isLike (Text.containing family) m.kind)
    (fun (m : Mailbox) => { m with status := some Status.toDelete })

/-- Schedules the certificates of an owner of the given type for deletion. -/
def scheduleCertificates (id : Json) (ownerType : String) : Statement :=
  .update .certificate [] [.text Status.toDelete, id]
    (fun _ (c : Certificate) => id.equalsQuantity c.ownerId && Cell.isText ownerType c.ownerType)
    (fun (c : Certificate) => { c with status := some Status.toDelete })

/-- The statements that schedule a subdomain and what lies under it for deletion. -/
def subdomainStatements (id : Json) (sub : Subdomain) (host : String) : List Statement :=
  [removePhp id "sub",
    scheduleFtpOfHost host,
    scheduleMailUnder id "subdom_",
    scheduleCertificates id "sub",
    scheduleAreasUnder sub.domainId sub.mount,
    .update .subdomain [] [.text Status.toDelete, id]
      (fun _ (s : Subdomain) => id.equalsKey s.id)
      (fun (s : Subdomain) => { s with status := some Status.toDelete })]

/-- The statements that schedule a subdomain of an alias and what lies under it for deletion. -/
def aliasSubdomainStatements (id : Json) (sub : AliasSubdomain) (parent : DomainAlias)
    (host : String) : List Statement :=
  [removePhp id "subals",
    scheduleFtpOfHost host,
    scheduleMailUnder id "alssub_",
    scheduleCertificates id "alssub",
    scheduleAreasUnder parent.domainId sub.mount,
    .update .aliasSubdomain [] [.text Status.toDelete, id]
      (fun _ (s : AliasSubdomain) => id.equalsKey s.id)
      (fun (s : AliasSubdomain) => { s with status := some Status.toDelete })]

/-- The accounts of a host leave their group, and the statements follow. -/
def hostBlock (host : String) (statements : List Statement) : TransactionM Unit := do
  match ← TransactionM.query (FtpGroups.ofHost host) with
  | some group => FtpGroups.prune group (some host) false
  | none => pure ()
  TransactionM.executeAll statements

/-- The deletion of a host with its statements. -/
def hostPlan (host : String) (statements : List Statement) : Plan where
  action := "delete the " ++ host ++ " subdomain"
  failureMessage := "Couldn't delete subdomain. An unexpected error occurred."
  block := hostBlock host statements
  notice name := "Deletion of the " ++ host ++ " subdomain has been scheduled by " ++ name
  answer := "Subdomain scheduled for deletion."

/-- Plans the deletion of a subdomain. -/
def planSubdomain (user : User) (id : Json) : LookupM Plan := do
  match ← LookupM.fetch (Ownership.subdomain id (← user.id)) with
  | none => throw (.notFound .subdomain)
  | some (sub, domain) =>
    let host := hostName sub.name domain.name
    return hostPlan host (subdomainStatements id sub host)

/-- Schedules the deletion of a subdomain. -/
def deleteSubdomain (user : User) (id : Json) : OperationM String :=
  schedule user (planSubdomain user id)

/-- Plans the deletion of a subdomain of a domain alias. -/
def planAliasSubdomain (user : User) (id : Json) : LookupM Plan := do
  match ← LookupM.fetch (Ownership.aliasSubdomain id (← user.id)) with
  | none => throw (.notFound .subdomain)
  | some (sub, parent) =>
    let host := hostName sub.name parent.name
    return hostPlan host (aliasSubdomainStatements id sub parent host)

/-- Schedules the deletion of a subdomain of a domain alias. -/
def deleteAliasSubdomain (user : User) (id : Json) : OperationM String :=
  schedule user (planAliasSubdomain user id)

end HostingPanel.Jobs
