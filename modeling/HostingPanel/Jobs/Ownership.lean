import HostingPanel.Jobs.Plan

/-!
# Who owns what

How the scheduled changes find out that an item belongs to a customer: the item belongs to a domain
and the domain to the customer, for some items by way of a domain alias.
-/

namespace HostingPanel.Ownership

/-- Whether a domain belongs to a customer. -/
def isDomainOf (s : Store) (customer : Json) (domainId : Option Quantity) : Bool :=
  (s.rows .domain).any fun (d : Domain) =>
    Cell.refersTo d.id domainId && customer.equalsQuantity d.ownerId

/-- The domain with a key. -/
def domainWith? (s : Store) (domainId : Option Quantity) : Option Domain :=
  (s.rows .domain).find? fun (d : Domain) => Cell.refersTo d.id domainId

/-- The main domain of a customer. -/
def mainDomain (customer : Json) : Query (Option Domain) where
  table := .domain
  params := [customer]
  answer s := (s.rows .domain).find? fun (d : Domain) => customer.equalsQuantity d.ownerId

/-- The main domain of a customer, which has to exist. -/
def needMainDomain (customer : Json) : LookupM Domain := do
  match ← LookupM.fetch (mainDomain customer) with
  | some d => return d
  | none => throw (.notFound (.mainDomain customer))

/-- A subdomain of a customer with its domain. -/
def subdomain (id customer : Json) : Query (Option (Subdomain × Domain)) where
  table := .subdomain
  mentions := [.domain]
  params := [id, customer]
  answer s := (s.rows .subdomain).findSome? fun (sub : Subdomain) =>
    if id.equalsKey sub.id then
      ((s.rows .domain).find? fun (d : Domain) =>
        Cell.refersTo d.id sub.domainId && customer.equalsQuantity d.ownerId).map (sub, ·)
    else none

/-- A subdomain of an alias of a customer with the alias. -/
def aliasSubdomain (id customer : Json) : Query (Option (AliasSubdomain × DomainAlias)) where
  table := .aliasSubdomain
  mentions := [.domainAlias, .domain]
  params := [id, customer]
  answer s := (s.rows .aliasSubdomain).findSome? fun (sub : AliasSubdomain) =>
    if id.equalsKey sub.id then
      ((s.rows .domainAlias).find? fun (a : DomainAlias) =>
        Cell.refersTo a.id sub.aliasId && isDomainOf s customer a.domainId).map (sub, ·)
    else none

/-- A domain alias of a customer with the customer's account. -/
def domainAlias (id customer : Json) : Query (Option (DomainAlias × Admin)) where
  table := .domainAlias
  mentions := [.domain, .admin]
  params := [id, customer]
  answer s := (s.rows .domainAlias).findSome? fun (a : DomainAlias) =>
    if id.equalsKey a.id then
      (s.rows .domain).findSome? fun (d : Domain) =>
        if Cell.refersTo d.id a.domainId && customer.equalsQuantity d.ownerId then
          ((s.rows .admin).find? fun (o : Admin) => Cell.refersTo o.id d.ownerId).map (a, ·)
        else none
    else none

/-- A customer with a main domain; if a creator is given, a customer of that reseller. -/
def customer (id : Json) (creator : Option Json) : Query (Option (Admin × Domain)) where
  table := .admin
  mentions := [.domain]
  params := id :: creator.toList
  answer s := (s.rows .admin).findSome? fun (o : Admin) =>
    if id.equalsKey o.id && Cell.isText "user" o.role &&
        creator.all (·.equalsQuantity o.createdBy) then
      ((s.rows .domain).find? fun (d : Domain) => Cell.refersTo o.id d.ownerId).map (o, ·)
    else none

/-- A customer that a user manages: every one for an administrator, else those that the user
created. -/
def needManagedCustomer (user : User) (id : Json) : LookupM (Admin × Domain) := do
  let creator ← if (← user.role).isText "admin" then pure none else some <$> user.id
  match ← LookupM.fetch (customer id creator) with
  | some found => return found
  | none => throw (.notFound .customer)

end HostingPanel.Ownership
