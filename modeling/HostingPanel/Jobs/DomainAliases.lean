import HostingPanel.Jobs.Subdomains

/-!
# Deleting domain aliases

A domain alias goes together with its subdomains and with all that lies under the alias or under
one of them.
-/

namespace HostingPanel.Jobs

/-- Whether a number column is the key of a subdomain of an alias. -/
def isSubdomainOfAlias (s : Store) (id : Json) (column : Option Quantity) : Bool :=
  (s.rows .aliasSubdomain).any fun (sub : AliasSubdomain) =>
    Cell.refersTo sub.id column && id.equalsQuantity sub.aliasId

/-- The statements on DNS records and PHP settings of an alias. -/
def aliasRemovals (id : Json) : List Statement :=
  [.delete .dns [] [id] fun _ (r : DnsRecord) => id.equalsQuantity r.aliasId,
    removePhp id "als",
    .delete .php [.aliasSubdomain] [id] fun s (p : PhpSetting) =>
      Cell.isText "subals" p.ownerType && isSubdomainOfAlias s id p.ownerId]

/-- Schedules the FTP accounts of a domain and of the hosts below it for deletion. -/
def scheduleFtpBelow (name : String) : Statement :=
  .update .ftpUser []
    [.text Status.toDelete, .text (Text.atHost name), .text (Text.belowHost name)]
    (fun _ (u : FtpUser) =>
      Cell.isLike (Text.atHost name) u.userid || Cell.isLike (Text.belowHost name) u.userid)
    (fun (u : FtpUser) => { u with status := some Status.toDelete })

/-- The statements that schedule an alias and what lies under it for deletion, after the FTP
accounts. -/
def aliasStatements (id : Json) (row : DomainAlias) : List Statement :=
  [.update .mail [.aliasSubdomain]
      [.text Status.toDelete, id, .text (Text.containing "alias_"), id,
        .text (Text.containing "alssub_")]
      (fun s (m : Mailbox) =>
        (id.equalsQuantity m.subId && Cell.isLike (Text.containing "alias_") m.kind) ||
          (isSubdomainOfAlias s id m.subId && Cell.isLike (Text.containing "alssub_") m.kind))
      (fun (m : Mailbox) => { m with status := some Status.toDelete }),
    .update .certificate [.aliasSubdomain] [.text Status.toDelete, id]
      (fun s (c : Certificate) =>
        Cell.isText "alssub" c.ownerType && isSubdomainOfAlias s id c.ownerId)
      (fun (c : Certificate) => { c with status := some Status.toDelete }),
    scheduleCertificates id "als",
    scheduleAreasUnder row.domainId row.mount,
    .update .aliasSubdomain [] [.text Status.toDelete, id]
      (fun _ (s : AliasSubdomain) => id.equalsQuantity s.aliasId)
      (fun (s : AliasSubdomain) => { s with status := some Status.toDelete }),
    .update .domainAlias [] [.text Status.toDelete, id]
      (fun _ (a : DomainAlias) => id.equalsKey a.id)
      (fun (a : DomainAlias) => { a with status := some Status.toDelete })]

/-- The statements of the deletion of an alias.  The FTP accounts of an alias without a name cannot
be looked for. -/
def aliasBlock (id : Json) (row : DomainAlias) (owner : Admin) : TransactionM Unit := do
  match ← TransactionM.query (FtpGroups.named owner.name) with
  | some group => FtpGroups.prune group row.name true
  | none => pure ()
  TransactionM.executeAll (aliasRemovals id)
  match row.name with
  | none => throw .absentInPattern
  | some name => discard (TransactionM.execute (scheduleFtpBelow name))
  TransactionM.executeAll (aliasStatements id row)

/-- The deletion of an alias of a customer. -/
def aliasPlan (id : Json) (row : DomainAlias) (owner : Admin) : Plan :=
  let name := Json.shownName row.name
  { action := "delete the " ++ name ++ " domain alias"
    failureMessage := "Couldn't delete domain alias. An unexpected error occurred."
    block := aliasBlock id row owner
    notice := fun user => user ++ " scheduled deletion of the " ++ name ++ " domain alias"
    answer := "Domain alias successfully scheduled for deletion." }

/-- Plans the deletion of a domain alias. -/
def planDomainAlias (user : User) (id : Json) : LookupM Plan := do
  match ← LookupM.fetch (Ownership.domainAlias id (← user.id)) with
  | none => throw (.notFound .domainAlias)
  | some (row, owner) => return aliasPlan id row owner

/-- Schedules the deletion of a domain alias. -/
def deleteDomainAlias (user : User) (id : Json) : OperationM String :=
  schedule user (planDomainAlias user id)

end HostingPanel.Jobs
