import HostingPanel.Jobs.Ownership
import HostingPanel.Status

/-!
# Deleting certificates

A certificate belongs to a domain, an alias, a subdomain or a subdomain of an alias.  When it goes,
its owner has to be set up again.
-/

namespace HostingPanel.Jobs

/-- The kinds of owners of certificates. -/
inductive OwnerType where
  | domain
  | domainAlias
  | subdomain
  | aliasSubdomain
deriving DecidableEq, Repr

namespace OwnerType

/-- The name of a kind in the table of certificates. -/
def name : OwnerType → String
  | .domain => "dmn"
  | .domainAlias => "als"
  | .subdomain => "sub"
  | .aliasSubdomain => "alssub"

/-- The kind with a name. -/
def named? (v : Json) : Option OwnerType :=
  [domain, domainAlias, subdomain, aliasSubdomain].find? fun t => v.isText t.name

end OwnerType

/-- A name and the name of the domain above it, if there is one. -/
structure OwnerName where
  name : Option String
  /-- The domain or alias that a subdomain belongs to. -/
  parent : Option String := none

/-- The full name of an owner. -/
def OwnerName.text (n : OwnerName) : String :=
  if n.parent.any (!·.isEmpty) then Json.shownName n.name ++ "." ++ Json.shownName n.parent
  else Json.shownName n.name

/-- The name of the owner of a kind with a key, if it belongs to a customer. -/
def ownerName (type : OwnerType) (id customer : Json) : Query (Option OwnerName) :=
  match type with
  | .domain =>
    { table := .domain
      params := [id, customer]
      answer s := ((s.rows .domain).find? fun (d : Domain) =>
        id.equalsKey d.id && customer.equalsQuantity d.ownerId).map fun (d : Domain) =>
          { name := d.name } }
  | .domainAlias =>
    { table := .domainAlias
      mentions := [.domain]
      params := [id, customer]
      answer s := ((s.rows .domainAlias).find? fun (a : DomainAlias) =>
        id.equalsKey a.id && Ownership.isDomainOf s customer a.domainId).map
          fun (a : DomainAlias) => { name := a.name } }
  | .subdomain =>
    { table := .subdomain
      mentions := [.domain]
      params := [id, customer]
      answer s := (s.rows .subdomain).findSome? fun (sub : Subdomain) =>
        if id.equalsKey sub.id && Ownership.isDomainOf s customer sub.domainId then
          (Ownership.domainWith? s sub.domainId).map fun d => ⟨sub.name, d.name⟩
        else none }
  | .aliasSubdomain =>
    { table := .aliasSubdomain
      mentions := [.domainAlias, .domain]
      params := [id, customer]
      answer s := (s.rows .aliasSubdomain).findSome? fun (sub : AliasSubdomain) =>
        if id.equalsKey sub.id then
          ((s.rows .domainAlias).find? fun (a : DomainAlias) =>
            Cell.refersTo a.id sub.aliasId &&
              Ownership.isDomainOf s customer a.domainId).map
                fun (a : DomainAlias) => ⟨sub.name, a.name⟩
        else none }

/-- Schedules the owner of a kind with a key to be set up again. -/
def scheduleOwner (type : OwnerType) (id : Json) : Statement :=
  match type with
  | .domain =>
    .update .domain [] [.text Status.toChange, id]
      (fun _ (d : Domain) => id.equalsKey d.id)
      (fun (d : Domain) => { d with status := some Status.toChange })
  | .domainAlias =>
    .update .domainAlias [] [.text Status.toChange, id]
      (fun _ (a : DomainAlias) => id.equalsKey a.id)
      (fun (a : DomainAlias) => { a with status := some Status.toChange })
  | .subdomain =>
    .update .subdomain [] [.text Status.toChange, id]
      (fun _ (sub : Subdomain) => id.equalsKey sub.id)
      (fun (sub : Subdomain) => { sub with status := some Status.toChange })
  | .aliasSubdomain =>
    .update .aliasSubdomain [] [.text Status.toChange, id]
      (fun _ (sub : AliasSubdomain) => id.equalsKey sub.id)
      (fun (sub : AliasSubdomain) => { sub with status := some Status.toChange })

/-- Schedules a certificate of an owner for deletion. -/
def scheduleCertificate (type : OwnerType) (ownerId id : Json) : Statement :=
  .update .certificate [] [.text Status.toDelete, id, ownerId, .text type.name]
    (fun _ (c : Certificate) =>
      id.equalsKey c.id && ownerId.equalsQuantity c.ownerId &&
        Cell.isText type.name c.ownerType)
    (fun (c : Certificate) => { c with status := some Status.toDelete })

/-- The statements of the deletion of a certificate. -/
def certificateBlock (type : OwnerType) (ownerId id : Json) : TransactionM Unit := do
  if (← TransactionM.execute (scheduleCertificate type ownerId id)) = 0 then
    throw (.notFound .certificate)
  discard (TransactionM.execute (scheduleOwner type ownerId))

/-- The deletion of a certificate of an owner. -/
def certificatePlan (type : OwnerType) (ownerId id : Json) (owner : OwnerName) : Plan where
  action := "delete the SSL certificate of " ++ owner.text
  failureMessage := "Could not delete SSL certificate. An unexpected error occurred."
  block := certificateBlock type ownerId id
  notice name := name ++ " deleted SSL certificate for the " ++ owner.text ++ " domain."
  answer := "SSL certificate successfully scheduled for deletion."

/-- Plans the deletion of a certificate. -/
def planCertificate (user : User) (ownerType ownerId id : Json) : LookupM Plan := do
  match OwnerType.named? ownerType with
  | none => throw (.unknownName .unknownDomainType ownerType)
  | some type =>
    match ← LookupM.fetch (ownerName type ownerId (← user.id)) with
    | none => throw (.notFound .certificateOwner)
    | some owner => return certificatePlan type ownerId id owner

/-- Schedules the deletion of a certificate. -/
def deleteCertificate (user : User) (ownerType ownerId id : Json) : OperationM String :=
  schedule user (planCertificate user ownerType ownerId id)

end HostingPanel.Jobs
