import HostingPanel.Jobs.Catalogue
import HostingPanel.Proofs.Blocks
import HostingPanel.Registry

/-!
# What a plan has found out

A job plans its change from the database as it is.  The first section says what the questions about
ownership have found if they have found anything: the rows, the keys and how one row leads to the
next up to the customer.  The second section says of each job what it has asked when it has planned
a change, and what the plan is.
-/

namespace HostingPanel

namespace LookupM

lemma bind_apply {α β : Type} (l : LookupM α) (f : α → LookupM β) (c : Context) (s : Store) :
    (l >>= f) c s = (l c s).bind fun a => f a c s := rfl

lemma lift_bind {α β : Type} (a : α) (f : α → LookupM β) (c : Context) (s : Store) :
    ((liftM (Except.ok a : Except Failure α) : LookupM α) >>= f) c s = f a c s := rfl

lemma read_bind {β : Type} (f : Context → LookupM β) (c : Context) (s : Store) :
    ((read : LookupM Context) >>= f) c s = f c c s := rfl

/-- Two lookups in a row succeed if both do, on the same database. -/
lemma bind_eq_ok {α β : Type} {l : LookupM α} {f : α → LookupM β} {c : Context} {s : Store} {b : β}
    (h : (l >>= f) c s = .ok b) : ∃ a, l c s = .ok a ∧ f a c s = .ok b := by
  exact except_bind_eq_ok h

/-- A lookup that asks for something that has to be there has found it, if it succeeds. -/
lemma fetchSome_eq_ok {α β : Type} {q : Query (Option α)} {f : Option α → LookupM β} {c : Context}
    {s : Store} {b : β} {e : Failure} (h : (LookupM.fetch q >>= f) c s = .ok b)
    (hnone : f none = throw e) : ∃ a, q.answer s = some a ∧ f (some a) c s = .ok b := by
  obtain ⟨found, hfound, h⟩ := bind_eq_ok h
  cases found with
  | none =>
    rw [hnone] at h
    cases h
  | some a => exact ⟨a, (readOnce_eq_ok hfound).symm, h⟩

end LookupM

/-! ### Questions about ownership -/

/-- The items that may have a certificate, by kind. -/
def Jobs.OwnerType.item : OwnerType → ItemType
  | .domain => .domain
  | .domainAlias => .domainAlias
  | .subdomain => .subdomain
  | .aliasSubdomain => .aliasSubdomain

lemma Jobs.OwnerType.item_mem_all (type : OwnerType) : type.item ∈ ItemType.all := by
  cases type <;> simp [item, ItemType.all]

/-- The owner of a certificate is scheduled like any other item. -/
lemma Jobs.scheduleOwner_eq (type : OwnerType) (id : Json) :
    scheduleOwner type id =
      .update type.item.table [] [.text Status.toChange, id] (fun _ => type.item.hasId id)
        (type.item.setStatus (some Status.toChange)) := by
  cases type <;> rfl

namespace Ownership

variable {user : User} {id customer : Json} {c : Context} {s : Store}

/-- A site belongs to a customer: by its domain, for a subdomain of an alias by the domain of the
alias. -/
def OwnsSite (customer : Json) (s : Store) : (type : Jobs.OwnerType) → type.item.table.Row → Prop
  | .domain, (d : Domain) => customer.equalsQuantity d.ownerId = true
  | .domainAlias, (a : DomainAlias) => isDomainOf s customer a.domainId = true
  | .subdomain, (sub : Subdomain) => isDomainOf s customer sub.domainId = true
  | .aliasSubdomain, (sub : AliasSubdomain) =>
    ∃ a : DomainAlias, a ∈ s.rows .domainAlias ∧ Cell.refersTo a.id sub.aliasId = true ∧
      isDomainOf s customer a.domainId = true

/-- A subdomain that a question has found is under a domain of the customer. -/
lemma mem_of_subdomain {sub : Subdomain} {domain : Domain}
    (h : (subdomain id customer).answer s = some (sub, domain)) :
    sub ∈ s.rows .subdomain ∧ id.equalsKey sub.id = true ∧ domain ∈ s.rows .domain ∧
      Cell.refersTo domain.id sub.domainId = true ∧
      customer.equalsQuantity domain.ownerId = true := by
  obtain ⟨found, hmem, hfound⟩ := List.exists_of_findSome?_eq_some h
  split at hfound
  · rename_i hkey
    simp only [Option.map_eq_some_iff, Prod.mk.injEq] at hfound
    obtain ⟨d, hd, rfl, rfl⟩ := hfound
    have hpicked := List.find?_some hd
    simp only [Bool.and_eq_true] at hpicked
    exact ⟨hmem, hkey, List.mem_of_find?_eq_some hd, hpicked.1, hpicked.2⟩
  · cases hfound

/-- A subdomain of an alias that a question has found is under an alias of the customer. -/
lemma mem_of_aliasSubdomain {sub : AliasSubdomain} {parent : DomainAlias}
    (h : (aliasSubdomain id customer).answer s = some (sub, parent)) :
    sub ∈ s.rows .aliasSubdomain ∧ id.equalsKey sub.id = true ∧ parent ∈ s.rows .domainAlias ∧
      Cell.refersTo parent.id sub.aliasId = true ∧
      isDomainOf s customer parent.domainId = true := by
  obtain ⟨found, hmem, hfound⟩ := List.exists_of_findSome?_eq_some h
  split at hfound
  · rename_i hkey
    simp only [Option.map_eq_some_iff, Prod.mk.injEq] at hfound
    obtain ⟨a, ha, rfl, rfl⟩ := hfound
    have hpicked := List.find?_some ha
    simp only [Bool.and_eq_true] at hpicked
    exact ⟨hmem, hkey, List.mem_of_find?_eq_some ha, hpicked.1, hpicked.2⟩
  · cases hfound

/-- An alias that a question has found is there under the key. -/
lemma mem_of_domainAlias {row : DomainAlias} {owner : Admin}
    (h : (domainAlias id customer).answer s = some (row, owner)) :
    row ∈ s.rows .domainAlias ∧ id.equalsKey row.id = true := by
  obtain ⟨found, hmem, hfound⟩ := List.exists_of_findSome?_eq_some h
  split at hfound
  · rename_i hkey
    obtain ⟨d, -, hd⟩ := List.exists_of_findSome?_eq_some hfound
    split at hd
    · simp only [Option.map_eq_some_iff, Prod.mk.injEq] at hd
      obtain ⟨o, -, rfl, -⟩ := hd
      exact ⟨hmem, hkey⟩
    · cases hd
  · cases hfound

/-- The owner of an FTP account that a question has found has an account under the name. -/
lemma mem_of_ftpOwner {userid : Json} {owner : Admin}
    (h : (Jobs.ftpOwner userid customer).answer s = some owner) :
    ∃ u : FtpUser, u ∈ s.rows .ftpUser ∧ userid.equalsText u.userid = true ∧
      customer.equalsQuantity u.adminId = true ∧ owner ∈ s.rows .admin ∧
      Cell.refersTo owner.id u.adminId = true := by
  obtain ⟨u, hu, hfound⟩ := List.exists_of_findSome?_eq_some h
  split at hfound
  · rename_i hpicked
    simp only [Bool.and_eq_true] at hpicked
    have howner : Cell.refersTo owner.id u.adminId = true := by
      simpa using List.find?_some hfound
    exact ⟨u, hu, hpicked.1, hpicked.2, List.mem_of_find?_eq_some hfound, howner⟩
  · cases hfound

/-- A site whose name a question has found is there under the key, and belongs to the customer. -/
lemma mem_of_ownerName {type : Jobs.OwnerType} {name : Jobs.OwnerName}
    (h : (Jobs.ownerName type id customer).answer s = some name) :
    ∃ r ∈ s.rows type.item.table, type.item.hasId id r = true ∧ OwnsSite customer s type r := by
  cases type with
  | domain =>
    obtain ⟨d, hd, -⟩ := Option.map_eq_some_iff.1 h
    have hpicked := List.find?_some hd
    simp only [Bool.and_eq_true] at hpicked
    exact ⟨d, List.mem_of_find?_eq_some hd, hpicked.1, hpicked.2⟩
  | domainAlias =>
    obtain ⟨a, ha, -⟩ := Option.map_eq_some_iff.1 h
    have hpicked := List.find?_some ha
    simp only [Bool.and_eq_true] at hpicked
    exact ⟨a, List.mem_of_find?_eq_some ha, hpicked.1, hpicked.2⟩
  | subdomain =>
    obtain ⟨sub, hsub, hfound⟩ := List.exists_of_findSome?_eq_some h
    split at hfound
    · rename_i hpicked
      simp only [Bool.and_eq_true] at hpicked
      exact ⟨sub, hsub, hpicked.1, hpicked.2⟩
    · cases hfound
  | aliasSubdomain =>
    obtain ⟨sub, hsub, hfound⟩ := List.exists_of_findSome?_eq_some h
    split at hfound
    · rename_i hkey
      obtain ⟨a, ha, -⟩ := Option.map_eq_some_iff.1 hfound
      have hpicked := List.find?_some ha
      simp only [Bool.and_eq_true] at hpicked
      exact ⟨sub, hsub, hkey, a, List.mem_of_find?_eq_some ha, hpicked.1, hpicked.2⟩
    · cases hfound

/-- The main domain that a job needs is the one that the database knows. -/
lemma needMainDomain_eq_ok {domain : Domain} (h : needMainDomain customer c s = .ok domain) :
    (mainDomain customer).answer s = some domain := by
  obtain ⟨found, hfound, h⟩ := LookupM.fetchSome_eq_ok h rfl
  cases h
  exact hfound

variable {account : Admin} {domain : Domain} {creator : Option Json}

/-- A managed customer is one that the database knows.  Whoever is no administrator asks among their
own customers only. -/
lemma creator_of_needManagedCustomer
    (h : needManagedCustomer user id c s = .ok (account, domain)) :
    ∃ role creator, user.role = .ok role ∧
      (Ownership.customer id creator).answer s = some (account, domain) ∧
      (role.isText "admin" = false → ∃ own, user.id = .ok own ∧ creator = some own) := by
  obtain ⟨role, hrole, h⟩ := LookupM.bind_eq_ok h
  have hrole : user.role = .ok role := by
    cases hvalue : user.role with
    | error e =>
      rw [hvalue] at hrole
      cases hrole
    | ok value =>
      rw [hvalue] at hrole
      cases hrole
      rfl
  simp only at h
  split at h
  · rename_i hadmin
    obtain ⟨creator, -, h⟩ := LookupM.bind_eq_ok h
    obtain ⟨found, hfound, h⟩ := LookupM.fetchSome_eq_ok h rfl
    cases h
    refine ⟨role, creator, hrole, hfound, fun hother => ?_⟩
    rw [hadmin] at hother
    cases hother
  · obtain ⟨creator, hcreator, h⟩ := LookupM.bind_eq_ok h
    obtain ⟨found, hfound, h⟩ := LookupM.fetchSome_eq_ok h rfl
    cases h
    refine ⟨role, creator, hrole, hfound, fun _ => ?_⟩
    cases hown : user.id with
    | error e =>
      rw [hown] at hcreator
      cases hcreator
    | ok own =>
      rw [hown] at hcreator
      cases hcreator
      exact ⟨own, rfl, rfl⟩

/-- A managed customer is one that the database knows, perhaps among those of a reseller only. -/
lemma needManagedCustomer_eq_ok (h : needManagedCustomer user id c s = .ok (account, domain)) :
    ∃ creator, (Ownership.customer id creator).answer s = some (account, domain) := by
  obtain ⟨role, creator, -, hanswer, -⟩ := creator_of_needManagedCustomer h
  exact ⟨creator, hanswer⟩

/-- What the database says of a customer that it knows. -/
lemma picked_of_customer (h : (Ownership.customer id creator).answer s = some (account, domain)) :
    account ∈ s.rows .admin ∧
      (id.equalsKey account.id && Cell.isText "user" account.role &&
        creator.all (·.equalsQuantity account.createdBy)) = true ∧
      (s.rows .domain).find? (fun (d : Domain) => Cell.refersTo account.id d.ownerId) =
        some domain := by
  obtain ⟨found, hmem, hfound⟩ := List.exists_of_findSome?_eq_some h
  split at hfound
  · rename_i hpicked
    simp only [Option.map_eq_some_iff, Prod.mk.injEq] at hfound
    obtain ⟨d, hd, rfl, rfl⟩ := hfound
    exact ⟨hmem, hpicked, hd⟩
  · cases hfound

/-- A customer that the database knows has an account under the key, and a domain. -/
lemma mem_of_customer (h : (Ownership.customer id creator).answer s = some (account, domain)) :
    account ∈ s.rows .admin ∧ id.equalsKey account.id = true ∧
      (s.rows .domain).find? (fun (d : Domain) => Cell.refersTo account.id d.ownerId) =
        some domain := by
  obtain ⟨hmem, hpicked, hdomain⟩ := picked_of_customer h
  simp only [Bool.and_eq_true] at hpicked
  exact ⟨hmem, hpicked.1.1, hdomain⟩

/-- A customer that the database knows has the role of one, and belongs to the creator if one is
given. -/
lemma role_of_customer (h : (Ownership.customer id creator).answer s = some (account, domain)) :
    account.role = some "user" ∧ creator.all (·.equalsQuantity account.createdBy) = true := by
  obtain ⟨-, hpicked, -⟩ := picked_of_customer h
  simp only [Bool.and_eq_true] at hpicked
  exact ⟨by simpa [Cell.isText] using hpicked.1.2, hpicked.2⟩

end Ownership

/-! ### Plans -/

lemma Jobs.planCustomer_eq_ok {user : User} {id : Json} {c : Context} {s : Store} {plan : Plan}
    (h : Jobs.planCustomer user id c s = .ok plan) :
    ∃ account domain, Ownership.needManagedCustomer user id c s = .ok (account, domain) ∧
      plan = Jobs.customerPlan id account domain := by
  obtain ⟨⟨account, domain⟩, hfound, h⟩ := LookupM.bind_eq_ok h
  obtain ⟨count, -, h⟩ := LookupM.bind_eq_ok h
  split at h
  · cases h
  · cases h
    exact ⟨account, domain, hfound, rfl⟩

/-- A status that has been checked may become the target. -/
lemma Status.mayMove_of_checked {current : Option String} {target : String} {c : Context}
    {s : Store} {u : Unit}
    (h : (discard (liftM (checkTransition current (some target))) : LookupM Unit) c s = .ok u) :
    mayMove current target = true := by
  cases hmay : mayMove current target with
  | true => rfl
  | false =>
    simp only [checkTransition, hmay, Bool.false_eq_true, if_false] at h
    cases h

/-- A suspension or resumption is planned for a managed customer, whose domain may be given the new
status. -/
lemma Jobs.planCustomerStatus_eq_ok_of_checked {user : User} {id action : Json} {c : Context}
    {s : Store} {plan : Plan} (h : Jobs.planCustomerStatus user id action c s = .ok plan) :
    ∃ named account domain, CustomerAction.named? action = some named ∧
      Ownership.needManagedCustomer user id c s = .ok (account, domain) ∧
      Status.mayMove domain.status named.target = true ∧
      plan = Jobs.customerStatusPlan named c.settings.hardMailSuspension id account domain := by
  simp only [planCustomerStatus] at h
  cases hnamed : CustomerAction.named? action with
  | none =>
    rw [hnamed] at h
    cases h
  | some named =>
    rw [hnamed] at h
    obtain ⟨⟨account, domain⟩, hfound, h⟩ := LookupM.bind_eq_ok h
    obtain ⟨checked, hchecked, h⟩ := LookupM.bind_eq_ok h
    cases h
    exact ⟨named, account, domain, rfl, hfound, Status.mayMove_of_checked hchecked, rfl⟩

/-- A suspension or resumption is planned for a managed customer. -/
lemma Jobs.planCustomerStatus_eq_ok {user : User} {id action : Json} {c : Context} {s : Store}
    {plan : Plan} (h : Jobs.planCustomerStatus user id action c s = .ok plan) :
    ∃ named account domain, CustomerAction.named? action = some named ∧
      Ownership.needManagedCustomer user id c s = .ok (account, domain) ∧
      plan = Jobs.customerStatusPlan named c.settings.hardMailSuspension id account domain := by
  obtain ⟨named, account, domain, hnamed, hfound, -, hplan⟩ :=
    Jobs.planCustomerStatus_eq_ok_of_checked h
  exact ⟨named, account, domain, hnamed, hfound, hplan⟩

namespace Jobs

variable {user : User} {id : Json} {c : Context} {s : Store} {plan : Plan}

/-- The deletion of a subdomain is planned for the customer whose domain it is under. -/
lemma planSubdomain_eq_ok (h : planSubdomain user id c s = .ok plan) :
    ∃ customer sub domain, user.id = .ok customer ∧
      (Ownership.subdomain id customer).answer s = some (sub, domain) ∧
      plan = hostPlan (hostName sub.name domain.name)
        (subdomainStatements id sub (hostName sub.name domain.name)) := by
  obtain ⟨customer, hcustomer, h⟩ := LookupM.bind_eq_ok h
  obtain ⟨found, hfound, h⟩ := LookupM.fetchSome_eq_ok h rfl
  cases h
  exact ⟨customer, found.1, found.2, hcustomer, hfound, rfl⟩

/-- The deletion of a subdomain of an alias is planned for the customer whose alias it is under. -/
lemma planAliasSubdomain_eq_ok (h : planAliasSubdomain user id c s = .ok plan) :
    ∃ customer sub parent, user.id = .ok customer ∧
      (Ownership.aliasSubdomain id customer).answer s = some (sub, parent) ∧
      plan = hostPlan (hostName sub.name parent.name)
        (aliasSubdomainStatements id sub parent (hostName sub.name parent.name)) := by
  obtain ⟨customer, hcustomer, h⟩ := LookupM.bind_eq_ok h
  obtain ⟨found, hfound, h⟩ := LookupM.fetchSome_eq_ok h rfl
  cases h
  exact ⟨customer, found.1, found.2, hcustomer, hfound, rfl⟩

/-- The deletion of an alias is planned for the customer who has it. -/
lemma planDomainAlias_eq_ok (h : planDomainAlias user id c s = .ok plan) :
    ∃ customer row owner, user.id = .ok customer ∧
      (Ownership.domainAlias id customer).answer s = some (row, owner) ∧
      plan = aliasPlan id row owner := by
  obtain ⟨customer, hcustomer, h⟩ := LookupM.bind_eq_ok h
  obtain ⟨found, hfound, h⟩ := LookupM.fetchSome_eq_ok h rfl
  cases h
  exact ⟨customer, found.1, found.2, hcustomer, hfound, rfl⟩

/-- The deletion of a mail account is planned for the customer whose main domain has it, if the
account is not protected. -/
lemma planMailAccount_unprotected (h : planMailAccount user id c s = .ok plan) :
    ∃ customer domain m, user.id = .ok customer ∧
      (Ownership.mainDomain customer).answer s = some domain ∧
      (mailAccount id domain.id).answer s = some m ∧
      isProtected c.settings.protectDefaultAddresses m.account m.kind = false ∧
      plan = mailPlan id m := by
  obtain ⟨customer, hcustomer, h⟩ := LookupM.bind_eq_ok h
  obtain ⟨domain, hdomain, h⟩ := LookupM.bind_eq_ok h
  obtain ⟨m, hm, h⟩ := LookupM.fetchSome_eq_ok h rfl
  obtain ⟨surroundings, hread, h⟩ := LookupM.bind_eq_ok h
  cases hread
  split at h
  · cases h
  · rename_i hprotected
    cases h
    exact ⟨customer, domain, m, hcustomer, Ownership.needMainDomain_eq_ok hdomain, hm,
      Bool.eq_false_iff.2 hprotected, rfl⟩

/-- The deletion of a mail account is planned for the customer whose main domain has it. -/
lemma planMailAccount_eq_ok (h : planMailAccount user id c s = .ok plan) :
    ∃ customer domain m, user.id = .ok customer ∧
      (Ownership.mainDomain customer).answer s = some domain ∧
      (mailAccount id domain.id).answer s = some m ∧ plan = mailPlan id m := by
  obtain ⟨customer, domain, m, hcustomer, hdomain, hm, -, rfl⟩ := planMailAccount_unprotected h
  exact ⟨customer, domain, m, hcustomer, hdomain, hm, rfl⟩

/-- The deletion of an FTP account is planned for the customer who has it. -/
lemma planFtpAccount_eq_ok {userid : Json} (h : planFtpAccount user userid c s = .ok plan) :
    ∃ customer owner, user.id = .ok customer ∧ (ftpOwner userid customer).answer s = some owner ∧
      plan = ftpPlan userid owner := by
  obtain ⟨customer, hcustomer, h⟩ := LookupM.bind_eq_ok h
  obtain ⟨owner, howner, h⟩ := LookupM.fetchSome_eq_ok h rfl
  cases h
  exact ⟨customer, owner, hcustomer, howner, rfl⟩

/-- The deletion of a protected area is planned for the customer whose main domain is looked at. -/
lemma planProtectedArea_eq_ok (h : planProtectedArea user id c s = .ok plan) :
    ∃ customer domain, user.id = .ok customer ∧
      (Ownership.mainDomain customer).answer s = some domain ∧ plan = areaPlan id domain := by
  obtain ⟨customer, hcustomer, h⟩ := LookupM.bind_eq_ok h
  obtain ⟨domain, hdomain, h⟩ := LookupM.bind_eq_ok h
  cases h
  exact ⟨customer, domain, hcustomer, Ownership.needMainDomain_eq_ok hdomain, rfl⟩

/-- The deletion of a certificate is planned for the customer whose site it is for. -/
lemma planCertificate_eq_ok {ownerType ownerId : Json}
    (h : planCertificate user ownerType ownerId id c s = .ok plan) :
    ∃ customer type owner, user.id = .ok customer ∧ OwnerType.named? ownerType = some type ∧
      (ownerName type ownerId customer).answer s = some owner ∧
      plan = certificatePlan type ownerId id owner := by
  simp only [planCertificate] at h
  cases hnamed : OwnerType.named? ownerType with
  | none =>
    rw [hnamed] at h
    cases h
  | some type =>
    rw [hnamed] at h
    obtain ⟨customer, hcustomer, h⟩ := LookupM.bind_eq_ok h
    obtain ⟨owner, howner, h⟩ := LookupM.fetchSome_eq_ok h rfl
    cases h
    exact ⟨customer, type, owner, hcustomer, rfl, howner, rfl⟩

/-- A restoration is planned for a customer whose main domain may be restored. -/
lemma planBackupRestore_eq_ok (h : planBackupRestore user c s = .ok plan) :
    ∃ customer domain, user.id = .ok customer ∧
      (Ownership.mainDomain customer).answer s = some domain ∧
      Status.mayMove domain.status Status.toRestore = true ∧
      plan = restorePlan customer domain := by
  obtain ⟨customer, hcustomer, h⟩ := LookupM.bind_eq_ok h
  obtain ⟨domain, hdomain, h⟩ := LookupM.bind_eq_ok h
  obtain ⟨checked, hchecked, h⟩ := LookupM.bind_eq_ok h
  cases h
  exact ⟨customer, domain, hcustomer, Ownership.needMainDomain_eq_ok hdomain,
    Status.mayMove_of_checked hchecked, rfl⟩

end Jobs

end HostingPanel
