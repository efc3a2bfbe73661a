import HostingPanel.Proofs.StatusMoves

/-!
# The estate of a customer

What becomes of the database when a customer is deleted.  The customer's estate has two parts:
`Estate.Owned` is the closure of ownership, from the account over the domain down to the
certificates of the subdomains of its aliases, and `Estate.Leaves` is what only the panel knows.

The deletion is more than twenty statements in a row, and some of them look for owners in tables
that others change.  Each of them comes before those others: the removals leave the tables of owners
alone (`Estate.owns_congr`), and a table of owners is changed only when nobody looks into it any
more (`Estate.rows_customerSchedules`).  So all find what they would have found at the start, and
together they do what `Estate.settle` does in one step.  Only the log of automatic replies is purged
by what the others have left.
-/

namespace HostingPanel

open Status

/-- A row that is scheduled for deletion, in a table with a status. -/
def Table.scheduleDeletion (t : Table) (r : t.Row) : t.Row :=
  t.statusColumn?.elim r fun column => column.set (some toDelete) r

/-- What a deletion starts from: a customer's account, its domain, and the parameter that stands for
the key of the account. -/
structure Estate where
  /-- The parameter. -/
  id : Json
  /-- The account. -/
  account : Admin
  /-- The domain. -/
  domain : Domain

namespace Estate

/-! ### Ownership -/

/-- What the customer owns and the daemon has set up: the account and the domain, and with an item
what belongs to it.  The rows of a store say which aliases, subdomains and subdomains of aliases
there are. -/
inductive Owned (e : Estate) (s : Store) : (t : Table) → t.Row → Prop
  | account {a : Admin} (key : e.id.equalsKey a.id = true) : Owned e s .admin a
  | domain {d : Domain} (key : d.id = e.domain.id) : Owned e s .domain d
  | domainAlias {a : DomainAlias} (owner : Cell.refersTo e.domain.id a.domainId = true) :
    Owned e s .domainAlias a
  | subdomain {sub : Subdomain} (owner : Cell.refersTo e.domain.id sub.domainId = true) :
    Owned e s .subdomain sub
  | aliasSubdomain {a : DomainAlias} {sub : AliasSubdomain} (present : a ∈ s.rows .domainAlias)
    (owned : Owned e s .domainAlias a) (owner : Cell.refersTo a.id sub.aliasId = true) :
    Owned e s .aliasSubdomain sub
  | ftpUser {u : FtpUser} (owner : e.id.equalsQuantity u.adminId = true) : Owned e s .ftpUser u
  | mail {m : Mailbox} (owner : Cell.refersTo e.domain.id m.domainId = true) : Owned e s .mail m
  | domainCertificate {c : Certificate} (type : c.ownerType = some "dmn")
    (owner : Cell.refersTo e.domain.id c.ownerId = true) : Owned e s .certificate c
  | aliasCertificate {a : DomainAlias} {c : Certificate} (type : c.ownerType = some "als")
    (present : a ∈ s.rows .domainAlias) (owned : Owned e s .domainAlias a)
    (owner : Cell.refersTo a.id c.ownerId = true) : Owned e s .certificate c
  | subdomainCertificate {sub : Subdomain} {c : Certificate} (type : c.ownerType = some "sub")
    (present : sub ∈ s.rows .subdomain) (owned : Owned e s .subdomain sub)
    (owner : Cell.refersTo sub.id c.ownerId = true) : Owned e s .certificate c
  | aliasSubdomainCertificate {sub : AliasSubdomain} {c : Certificate}
    (type : c.ownerType = some "alssub") (present : sub ∈ s.rows .aliasSubdomain)
    (owned : Owned e s .aliasSubdomain sub) (owner : Cell.refersTo sub.id c.ownerId = true) :
    Owned e s .certificate c

/-- What goes at once because only the panel knows it: what belongs to the account, by key or by
name, and to the domain, and the logs of senders without a mail account that stays. -/
inductive Leaves (e : Estate) (s : Store) : (t : Table) → t.Row → Prop
  | login {l : LoginSession} (owner : Cell.agree l.userName e.account.name = true) :
    Leaves e s .login l
  | area {a : ProtectedArea} (owner : Cell.refersTo e.domain.id a.domainId = true) :
    Leaves e s .area a
  | areaUser {u : AreaUser} (owner : Cell.refersTo e.domain.id u.domainId = true) :
    Leaves e s .areaUser u
  | areaGroup {g : AreaGroup} (owner : Cell.refersTo e.domain.id g.domainId = true) :
    Leaves e s .areaGroup g
  | traffic {d : DomainTraffic} (owner : Cell.refersTo e.domain.id d.domainId = true) :
    Leaves e s .traffic d
  | dns {r : DnsRecord} (owner : Cell.refersTo e.domain.id r.domainId = true) : Leaves e s .dns r
  | ftpGroup {g : FtpGroup} (owner : Cell.agree g.name e.account.name = true) :
    Leaves e s .ftpGroup g
  | quotaLimit {q : QuotaLimit} (owner : Cell.agree q.name e.account.name = true) :
    Leaves e s .quotaLimit q
  | quotaTally {q : QuotaTally} (owner : Cell.agree q.name e.account.name = true) :
    Leaves e s .quotaTally q
  | ticketFrom {t : Ticket} (owner : e.id.equalsQuantity t.sender = true) : Leaves e s .ticket t
  | ticketTo {t : Ticket} (owner : e.id.equalsQuantity t.recipient = true) : Leaves e s .ticket t
  | gui {g : GuiSetting} (owner : e.id.equalsQuantity g.userId = true) : Leaves e s .gui g
  | php {p : PhpSetting} (owner : e.id.equalsQuantity p.adminId = true) : Leaves e s .php p
  | autoreply {l : AutoreplyLog}
    (orphaned : ∀ m ∈ s.rows .mail, ¬ Owned e s .mail m →
      Cell.isOther toDelete (m : Mailbox).status = true →
        ∀ address, (m : Mailbox).address = some address →
          ∃ sender, l.sender = some sender ∧ sender ≠ address) : Leaves e s .autoreply l

variable (e : Estate) (s : Store)

/-- Whether a certificate is of a type and its owner is picked by its key. -/
def certifies (type : String) (isOwner : Option Quantity → Bool) (c : Certificate) : Bool :=
  Cell.isText type c.ownerType && isOwner c.ownerId

/-- The types of certificates, each with those of the customer. -/
def certificateOwners : List (Certificate → Bool) :=
  [certifies "dmn" (Cell.refersTo e.domain.id),
    certifies "als" (Jobs.isAliasOf s e.domain.id),
    certifies "sub" (Jobs.isSubdomainOf s e.domain.id),
    certifies "alssub" (Jobs.isAliasSubdomainOf s e.domain.id)]

/-- `Owned`, computed. -/
def owns : (t : Table) → t.Row → Bool
  | .admin, a => e.id.equalsKey (a : Admin).id
  | .domain, d => (d : Domain).id == e.domain.id
  | .domainAlias, a => Cell.refersTo e.domain.id (a : DomainAlias).domainId
  | .subdomain, sub => Cell.refersTo e.domain.id (sub : Subdomain).domainId
  | .aliasSubdomain, sub => Jobs.isAliasOf s e.domain.id (sub : AliasSubdomain).aliasId
  | .ftpUser, u => e.id.equalsQuantity (u : FtpUser).adminId
  | .mail, m => Cell.refersTo e.domain.id (m : Mailbox).domainId
  | .certificate, c => (e.certificateOwners s).any (· c)
  | _, _ => false

/-- The addresses of the mail accounts that neither the customer owns nor have been deleted. -/
def remainingAddresses : List String :=
  (s.rows .mail).filterMap fun (m : Mailbox) =>
    if !e.owns s .mail m && Cell.isOther toDelete m.status then m.address else none

/-- `Leaves`, computed. -/
def removes : (t : Table) → t.Row → Bool
  | .login, l => Cell.agree (l : LoginSession).userName e.account.name
  | .area, a => Cell.refersTo e.domain.id (a : ProtectedArea).domainId
  | .areaUser, u => Cell.refersTo e.domain.id (u : AreaUser).domainId
  | .areaGroup, g => Cell.refersTo e.domain.id (g : AreaGroup).domainId
  | .traffic, d => Cell.refersTo e.domain.id (d : DomainTraffic).domainId
  | .dns, r => Cell.refersTo e.domain.id (r : DnsRecord).domainId
  | .ftpGroup, g => Cell.agree (g : FtpGroup).name e.account.name
  | .quotaLimit, q => Cell.agree (q : QuotaLimit).name e.account.name
  | .quotaTally, q => Cell.agree (q : QuotaTally).name e.account.name
  | .ticket, t =>
    e.id.equalsQuantity (t : Ticket).sender || e.id.equalsQuantity (t : Ticket).recipient
  | .gui, g => e.id.equalsQuantity (g : GuiSetting).userId
  | .php, p => e.id.equalsQuantity (p : PhpSetting).adminId
  | .autoreply, l => Jobs.isNoneOfAddresses (e.remainingAddresses s) (l : AutoreplyLog).sender
  | _, _ => false

variable {e s}

lemma isAliasOf_iff {column : Option Quantity} :
    Jobs.isAliasOf s e.domain.id column = true ↔
      ∃ a ∈ s.rows .domainAlias, e.Owned s .domainAlias a ∧
        Cell.refersTo (a : DomainAlias).id column = true := by
  simp only [Jobs.isAliasOf, List.any_eq_true, Bool.and_eq_true]
  constructor
  · rintro ⟨a, ha, howner, halias⟩
    exact ⟨a, ha, .domainAlias halias, howner⟩
  · rintro ⟨a, ha, howned, howner⟩
    cases howned with
    | domainAlias halias => exact ⟨a, ha, howner, halias⟩

lemma isSubdomainOf_iff {column : Option Quantity} :
    Jobs.isSubdomainOf s e.domain.id column = true ↔
      ∃ sub ∈ s.rows .subdomain, e.Owned s .subdomain sub ∧
        Cell.refersTo (sub : Subdomain).id column = true := by
  simp only [Jobs.isSubdomainOf, List.any_eq_true, Bool.and_eq_true]
  constructor
  · rintro ⟨sub, hsub, howner, hdomain⟩
    exact ⟨sub, hsub, .subdomain hdomain, howner⟩
  · rintro ⟨sub, hsub, howned, howner⟩
    cases howned with
    | subdomain hdomain => exact ⟨sub, hsub, howner, hdomain⟩

/-- A subdomain of an alias of the domain is an owned row. -/
lemma isAliasSubdomainOf_iff {column : Option Quantity} :
    Jobs.isAliasSubdomainOf s e.domain.id column = true ↔
      ∃ sub ∈ s.rows .aliasSubdomain, e.Owned s .aliasSubdomain sub ∧
        Cell.refersTo (sub : AliasSubdomain).id column = true := by
  simp only [Jobs.isAliasSubdomainOf, List.any_eq_true, Bool.and_eq_true, isAliasOf_iff]
  constructor
  · rintro ⟨sub, hsub, howner, a, ha, halias, hsub'⟩
    exact ⟨sub, hsub, .aliasSubdomain ha halias hsub', howner⟩
  · rintro ⟨sub, hsub, howned, howner⟩
    cases howned with
    | aliasSubdomain ha halias hsub' => exact ⟨sub, hsub, howner, _, ha, halias, hsub'⟩

lemma owns_iff {t : Table} {r : t.Row} : e.owns s t r = true ↔ e.Owned s t r := by
  constructor
  · intro h
    cases t with
    | admin => exact .account h
    | domain => exact .domain (beq_iff_eq.1 h)
    | domainAlias => exact .domainAlias h
    | subdomain => exact .subdomain h
    | aliasSubdomain =>
      obtain ⟨a, ha, halias, howner⟩ := isAliasOf_iff.1 h
      exact .aliasSubdomain ha halias howner
    | ftpUser => exact .ftpUser h
    | mail => exact .mail h
    | certificate =>
      simp only [owns, certificateOwners, certifies, Cell.isText, List.any_cons, List.any_nil,
        Bool.or_false, Bool.or_eq_true, Bool.and_eq_true, beq_iff_eq, isAliasOf_iff,
        isSubdomainOf_iff, isAliasSubdomainOf_iff] at h
      rcases h with ⟨htype, howner⟩ | ⟨htype, a, ha, halias, howner⟩ |
        ⟨htype, sub, hsub, hdomain, howner⟩ | ⟨htype, sub, hsub, halias, howner⟩
      · exact .domainCertificate htype howner
      · exact .aliasCertificate htype ha halias howner
      · exact .subdomainCertificate htype hsub hdomain howner
      · exact .aliasSubdomainCertificate htype hsub halias howner
    | _ => cases h
  · intro h
    cases h with
    | account h => exact h
    | domain h => exact beq_iff_eq.2 h
    | domainAlias h => exact h
    | subdomain h => exact h
    | aliasSubdomain ha halias howner => exact isAliasOf_iff.2 ⟨_, ha, halias, howner⟩
    | ftpUser h => exact h
    | mail h => exact h
    | domainCertificate htype howner =>
      simp [owns, certificateOwners, certifies, Cell.isText, htype, howner]
    | aliasCertificate htype ha halias howner =>
      have hpicked := isAliasOf_iff.2 ⟨_, ha, halias, howner⟩
      simp [owns, certificateOwners, certifies, Cell.isText, htype, hpicked]
    | subdomainCertificate htype hsub hdomain howner =>
      have hpicked := isSubdomainOf_iff.2 ⟨_, hsub, hdomain, howner⟩
      simp [owns, certificateOwners, certifies, Cell.isText, htype, hpicked]
    | aliasSubdomainCertificate htype hsub halias howner =>
      have hpicked := isAliasSubdomainOf_iff.2 ⟨_, hsub, halias, howner⟩
      simp [owns, certificateOwners, certifies, Cell.isText, htype, hpicked]

/-- A log stays if and only if its sender has a mail account that stays. -/
lemma isNoneOfAddresses_iff {sender : Option String} :
    Jobs.isNoneOfAddresses (e.remainingAddresses s) sender = true ↔
      ∀ m ∈ s.rows .mail, ¬ e.Owned s .mail m → Cell.isOther toDelete (m : Mailbox).status = true →
        ∀ address, (m : Mailbox).address = some address →
          ∃ name, sender = some name ∧ name ≠ address := by
  have hmem : ∀ address, address ∈ e.remainingAddresses s ↔ ∃ m ∈ s.rows .mail,
      ¬ e.Owned s .mail m ∧ Cell.isOther toDelete (m : Mailbox).status = true ∧
        (m : Mailbox).address = some address := by
    intro address
    simp only [remainingAddresses, List.mem_filterMap, Option.ite_none_right_eq_some,
      Bool.and_eq_true, Bool.not_eq_true', ← Bool.not_eq_true, owns_iff, and_assoc]
  simp only [Jobs.isNoneOfAddresses, Bool.or_eq_true, List.isEmpty_iff, Cell.isNoneOf,
    Option.any_eq_true, Bool.not_eq_true', List.contains_eq_mem, decide_eq_false_iff_not]
  constructor
  · rintro h m hm hremains hlive address haddress
    have hin := (hmem address).2 ⟨m, hm, hremains, hlive, haddress⟩
    rcases h with hempty | ⟨name, rfl, hnotin⟩
    · rw [hempty] at hin
      cases hin
    · exact ⟨name, rfl, fun hsame => hnotin (hsame ▸ hin)⟩
  · intro h
    cases hremaining : e.remainingAddresses s with
    | nil => exact .inl rfl
    | cons first rest =>
      right
      have hother : ∀ address ∈ e.remainingAddresses s,
          ∃ name, sender = some name ∧ name ≠ address := by
        intro address hin
        obtain ⟨m, hm, hremains, hlive, haddress⟩ := (hmem address).1 hin
        exact h m hm hremains hlive address haddress
      obtain ⟨name, rfl, -⟩ := hother first (by simp [hremaining])
      refine ⟨name, rfl, fun hin => ?_⟩
      obtain ⟨_, hname, hne⟩ := hother name (hremaining ▸ hin)
      exact hne (Option.some.inj hname).symm

lemma removes_iff {t : Table} {r : t.Row} : e.removes s t r = true ↔ e.Leaves s t r := by
  constructor
  · intro h
    cases t with
    | login => exact .login h
    | area => exact .area h
    | areaUser => exact .areaUser h
    | areaGroup => exact .areaGroup h
    | traffic => exact .traffic h
    | dns => exact .dns h
    | ftpGroup => exact .ftpGroup h
    | quotaLimit => exact .quotaLimit h
    | quotaTally => exact .quotaTally h
    | ticket =>
      rcases Bool.or_eq_true_iff.1 h with hsender | hrecipient
      · exact .ticketFrom hsender
      · exact .ticketTo hrecipient
    | gui => exact .gui h
    | php => exact .php h
    | autoreply => exact .autoreply (isNoneOfAddresses_iff.1 h)
    | _ => cases h
  · intro h
    cases h with
    | ticketFrom h => exact Bool.or_eq_true_iff.2 (.inl h)
    | ticketTo h => exact Bool.or_eq_true_iff.2 (.inr h)
    | autoreply h => exact isNoneOfAddresses_iff.2 h
    | _ h => exact h

instance (t : Table) (r : t.Row) : Decidable (e.Owned s t r) :=
  decidable_of_iff (e.owns s t r = true) owns_iff

instance (t : Table) (r : t.Row) : Decidable (e.Leaves s t r) :=
  decidable_of_iff (e.removes s t r = true) removes_iff

/-! ### One step -/

variable (e s) in
/-- The rows of a table when everything has been removed that leaves and everything that is owned
has been scheduled for deletion. -/
def settle (t : Table) : List t.Row :=
  ((s.rows t).filter fun r => !decide (e.Leaves s t r)).map fun r =>
    if e.Owned s t r then t.scheduleDeletion r else r

lemma settle_eq (t : Table) :
    e.settle s t = Statement.updateRows (e.owns s t) t.scheduleDeletion
      ((s.rows t).filter fun r => !e.removes s t r) := by
  have hleaves : ∀ r, decide (e.Leaves s t r) = e.removes s t r := by
    simp [← removes_iff]
  have howned : ∀ r, (if e.Owned s t r then t.scheduleDeletion r else r) =
      if e.owns s t r = true then t.scheduleDeletion r else r := by
    simp [← owns_iff]
  simp only [settle, Statement.updateRows, hleaves, howned]

/-- Ownership depends on three tables of owners only, and not on their statuses. -/
lemma owns_congr {s' : Store}
    (haliases : (s'.rows .domainAlias).map (Table.scheduleDeletion .domainAlias) =
      (s.rows .domainAlias).map (Table.scheduleDeletion .domainAlias))
    (hsubdomains : (s'.rows .subdomain).map (Table.scheduleDeletion .subdomain) =
      (s.rows .subdomain).map (Table.scheduleDeletion .subdomain))
    (haliasSubdomains : (s'.rows .aliasSubdomain).map (Table.scheduleDeletion .aliasSubdomain) =
      (s.rows .aliasSubdomain).map (Table.scheduleDeletion .aliasSubdomain)) :
    e.owns s' = e.owns s := by
  have hany : ∀ {t : Table} {picks : t.Row → Bool}, (∀ r, picks (t.scheduleDeletion r) = picks r) →
      (s'.rows t).map t.scheduleDeletion = (s.rows t).map t.scheduleDeletion →
      (s'.rows t).any picks = (s.rows t).any picks := by
    intro t picks hpicks hrows
    have hview : ∀ s : Store, ((s.rows t).map t.scheduleDeletion).any picks =
        (s.rows t).any picks := by
      intro s
      rw [List.any_map]
      exact congrArg (s.rows t).any (funext hpicks)
    rw [← hview, hrows, hview]
  have haliasOf : ∀ domainId, Jobs.isAliasOf s' domainId = Jobs.isAliasOf s domainId :=
    fun domainId => funext fun column => hany (t := .domainAlias) (fun _ => rfl) haliases
  have hsubdomainOf : ∀ domainId,
      Jobs.isSubdomainOf s' domainId = Jobs.isSubdomainOf s domainId :=
    fun domainId => funext fun column => hany (t := .subdomain) (fun _ => rfl) hsubdomains
  have haliasSubdomainOf : ∀ domainId,
      Jobs.isAliasSubdomainOf s' domainId = Jobs.isAliasSubdomainOf s domainId := by
    intro domainId
    funext column
    simp only [Jobs.isAliasSubdomainOf, haliasOf]
    exact hany (t := .aliasSubdomain) (fun _ => rfl) haliasSubdomains
  funext t r
  cases t <;> simp only [owns, certificateOwners, haliasOf, hsubdomainOf, haliasSubdomainOf]

end Estate

/-! ### Many statements -/

namespace Statement

variable {ρ : Type} {change : ρ → ρ}

lemma updateRows_false (change : ρ → ρ) (rows : List ρ) :
    updateRows (fun _ => false) change rows = rows := by
  simp [updateRows]

/-- A change made again and again is made once where anything picks, if it changes nothing the
second time. -/
lemma foldl_updateRows (hchange : ∀ r, change (change r) = change r) (all : List (ρ → Bool))
    (rows : List ρ) :
    all.foldl (fun rows picks => updateRows picks change rows) rows =
      updateRows (fun r => all.any (· r)) change rows := by
  induction all generalizing rows with
  | nil => exact (updateRows_false change rows).symm
  | cons picks rest ih =>
    rw [List.foldl_cons, ih, updateRows, updateRows, updateRows, List.map_map]
    refine List.map_congr_left fun r _ => ?_
    by_cases hr : picks r = true <;> simp [hr, hchange]

end Statement

namespace Estate

open Statement

variable {e : Estate} {s : Store}

/-- The statements of the first part remove what leaves, but for the logs.  Each table is that of
one statement at most. -/
lemma rows_customerRemovals {t : Table} (ht : t ≠ .autoreply) :
    (applyAll (Jobs.customerRemovals e.id e.account.name e.domain.id) s).rows t =
      (s.rows t).filter fun r => !e.removes s t r := by
  cases t with
  | autoreply => exact absurd rfl ht
  | login | area | areaUser | areaGroup | traffic | dns | ftpGroup | quotaLimit | quotaTally
  | ticket | gui | php => rfl
  | _ => exact (List.filter_eq_self.2 fun _ _ => rfl).symm

/-- The statements of the second part schedule what is owned. -/
lemma rows_customerSchedules (t : Table) :
    (applyAll (Jobs.customerSchedules e.id e.domain.id) s).rows t =
      updateRows (e.owns s t) t.scheduleDeletion (s.rows t) := by
  cases t with
  | admin | domain | domainAlias | subdomain | aliasSubdomain | ftpUser | mail => rfl
  | certificate =>
    -- Four statements, one for each type; all find the owners of the start.
    have hfour : (applyAll (Jobs.customerSchedules e.id e.domain.id) s).rows .certificate =
        (e.certificateOwners s).foldl
          (fun rows picks => updateRows picks (Table.scheduleDeletion .certificate) rows)
          (s.rows .certificate) :=
      rfl
    have hchange : ∀ c : Certificate, Table.scheduleDeletion .certificate
        (Table.scheduleDeletion .certificate c) = Table.scheduleDeletion .certificate c :=
      fun _ => rfl
    exact hfour.trans (foldl_updateRows hchange _ _)
  | _ => exact (updateRows_false _ _).symm

/-- What the purge reads: the mail accounts of the customer are no longer live. -/
lemma liveAddresses_of_settled {s' : Store} (hmail : s'.rows .mail = e.settle s .mail) :
    Jobs.liveAddresses s' = e.remainingAddresses s := by
  have hall : (s.rows .mail).filter (fun m => !e.removes s .mail m) = s.rows .mail :=
    List.filter_eq_self.2 fun _ _ => rfl
  rw [Jobs.liveAddresses, hmail, settle_eq, hall, updateRows, List.filterMap_map,
    remainingAddresses]
  refine List.filterMap_congr fun (m : Mailbox) _ => ?_
  rw [Function.comp_apply]
  by_cases howned : e.owns s .mail m = true
  · have hdeleted : Cell.isOther toDelete (some toDelete) = false := by
      decide
    simp [howned, Table.scheduleDeletion, Table.statusColumn?, hdeleted]
  · simp [howned]

theorem rows_customerStatements (t : Table) :
    (applyAll (Jobs.customerStatements e.id e.account.name e.domain.id) s).rows t =
      e.settle s t := by
  rw [Jobs.customerStatements, applyAll_append, applyAll_append]
  set removed := applyAll (Jobs.customerRemovals e.id e.account.name e.domain.id) s with hremoved
  set scheduled := applyAll (Jobs.customerSchedules e.id e.domain.id) removed with hscheduled
  have howns : e.owns removed = e.owns s := owns_congr rfl rfl rfl
  have hrows : ∀ t, t ≠ .autoreply → scheduled.rows t = e.settle s t := by
    intro t ht
    rw [hscheduled, rows_customerSchedules, howns, hremoved, rows_customerRemovals ht, settle_eq]
  by_cases ht : t = .autoreply
  · subst ht
    have hkept : scheduled.rows .autoreply = s.rows .autoreply := by
      rw [hscheduled, hremoved]
      rfl
    rw [applyAll_cons, applyAll_nil, Jobs.purgeAutoreplies, Statement.apply, Store.modify,
      Store.rows_set_self, hkept, liveAddresses_of_settled (hrows .mail (by decide)), settle_eq]
    exact (updateRows_false _ _).symm
  · rw [applyAll_cons, applyAll_nil, rows_apply_of_ne Jobs.purgeAutoreplies scheduled (Ne.symm ht),
      hrows t ht]

end Estate

/-! ### Deleting a customer -/

namespace Estate

lemma Owned.not_leaves {e : Estate} {s : Store} {t : Table} {r : t.Row} (h : e.Owned s t r) :
    ¬ e.Leaves s t r := by
  cases h <;> exact nofun

lemma Owned.exists_statusColumn {e : Estate} {s : Store} {t : Table} {r : t.Row}
    (h : e.Owned s t r) : ∃ column, t.statusColumn? = some column := by
  cases h <;> exact ⟨_, rfl⟩

/-- In a settled table, what is owned waits for its deletion. -/
lemma mem_settle_of_owned {e : Estate} {s : Store} {t : Table} {r : t.Row} (hr : r ∈ s.rows t)
    (howned : e.Owned s t r) : t.scheduleDeletion r ∈ e.settle s t :=
  List.mem_map.2 ⟨r, List.mem_filter.2 ⟨hr, by simp [howned.not_leaves]⟩, if_pos howned⟩

end Estate

/-- The deletion of a customer settles the estate.  Take any database in which the customer has one
domain.  If the deletion succeeds, then in every table but the outbox the rows that leave have gone,
the rows that the customer owns are scheduled for deletion, and all others are as they were, in
their order.  The outbox has a new entry, and the old ones may have been marked.  So every row that
the customer owns is still there and waits for its deletion. -/
theorem customer_deletion_settles_estate {user : User} {id : Json} {key : Int} {domain : Domain}
    {c : Context} {p q : Panel} {answer : String} (hid : id.asKey? = some key)
    (hdomain : ((p.store.rows .domain).filter fun (d : Domain) => Cell.refersTo key d.ownerId) =
      [domain])
    (hrun : OperationM.run (Jobs.deleteCustomer user id) c p = (.ok answer, q)) :
    ∃ e : Estate, e.id = id ∧ e.domain = domain ∧ e.account ∈ p.store.rows .admin ∧
      e.account.id = key ∧
      (∀ t, t ≠ .outbox → q.store.rows t =
        ((p.store.rows t).filter fun r => ¬ e.Leaves p.store t r).map fun r =>
          if e.Owned p.store t r then t.scheduleDeletion r else r) ∧
      (∀ t, ∀ r ∈ p.store.rows t, e.Owned p.store t r →
        ∃ column, t.statusColumn? = some column ∧
          column.set (some "todelete") r ∈ q.store.rows t) ∧
      ∃ old entry, q.store.rows .outbox = old ++ [entry] ∧
        Outbox.Persist (p.store.rows .outbox) old := by
  have hjob : OperationM.run (Job.run user (.deleteCustomer id)) c p = (.ok answer, q) := hrun
  obtain ⟨plan, hplan, hcommits⟩ := commitsWithEntry_of_run_job hjob
  obtain ⟨account, found, hfound, rfl⟩ := Jobs.planCustomer_eq_ok hplan
  obtain ⟨creator, hanswer⟩ := Ownership.needManagedCustomer_eq_ok hfound
  obtain ⟨haccount, hequals, hfind⟩ := Ownership.mem_of_customer hanswer
  have hkey : account.id = key := by
    simp only [Json.equalsKey, hid, beq_iff_eq, Option.some.injEq] at hequals
    exact hequals.symm
  have hsame : found = domain := by
    rw [hkey, ← List.head?_filter, hdomain] at hfind
    exact (Option.some.inj hfind).symm
  subst hsame
  obtain ⟨e, rfl, rfl, rfl⟩ :
      ∃ e : Estate, e.id = id ∧ e.account = account ∧ e.domain = found :=
    ⟨⟨id, account, found⟩, rfl, rfl, rfl⟩
  obtain ⟨changed, old, entry, hblock, -, hrows, houtbox, hold, -⟩ := hcommits
  have hchanged : changed =
      Statement.applyAll (Jobs.customerStatements e.id e.account.name e.domain.id) p.store :=
    TransactionM.executeAll_eq_ok hblock
  have hsettled : ∀ t, t ≠ .outbox → q.store.rows t = e.settle p.store t := by
    intro t ht
    rw [hrows t ht, hchanged, Estate.rows_customerStatements]
  refine ⟨e, rfl, rfl, haccount, hkey, ?_, ?_, old, entry, houtbox, hold⟩
  · intro t ht
    rw [hsettled t ht]
    simp [Estate.settle]
  · intro t r hr howned
    obtain ⟨column, hcolumn⟩ := howned.exists_statusColumn
    have ht : t ≠ .outbox := by
      rintro rfl
      cases hcolumn
    have hmem := Estate.mem_settle_of_owned hr howned
    rw [← hsettled t ht, Table.scheduleDeletion, hcolumn] at hmem
    exact ⟨column, hcolumn, hmem⟩

/-- An administrator. -/
def sampleAdministrator : User :=
  ⟨.object [("user_id", .int 1), ("username", .text "root"), ("role", .text "admin")]⟩

/-- A panel with two customers.  The first one has an alias with a certificate and a mail account
that has replied; the second one has a subdomain, with the key of the alias, and a certificate. -/
def sampleNeighbours : Panel where
  store :=
    ((((((Store.empty.set .admin
      [{ id := 7, name := some "mona", role := some "user" },
        { id := 8, name := some "nils", role := some "user" }]).set .domain
      [{ id := 1, ownerId := some (.whole 7) }, { id := 2, ownerId := some (.whole 8) }]).set
      .domainAlias [{ id := 4, domainId := some (.whole 1) }]).set
      .subdomain [{ id := 4, domainId := some (.whole 2) }]).set
      .certificate [{ id := 1, ownerId := some (.whole 4), ownerType := some "als" },
        { id := 2, ownerId := some (.whole 4), ownerType := some "sub" }]).set
      .mail [{ id := 9, domainId := some (.whole 1), address := some "mona@example.test" }]).set
      .autoreply [{ rowNumber := 1, sender := some "mona@example.test" }]
  notifier := Notifier.create {}

/-- The deletion of the first customer goes by the type of a certificate, not by the key of its
owner alone, and it purges the log of the mail account that it has just scheduled for deletion. -/
theorem customer_deletion_settles_estate_sample :
    ∃ q, OperationM.run (Jobs.deleteCustomer sampleAdministrator (.int 7)) {} sampleNeighbours =
        (.ok "Customer account successfully scheduled for deletion.", q) ∧
      (q.store.rows .certificate).map (fun (c : Certificate) => c.status) =
        [some "todelete", some "ok"] ∧
      (q.store.rows .subdomain).map (fun (sub : Subdomain) => sub.status) = [some "ok"] ∧
      (q.store.rows .autoreply).length = 0 ∧
      ∃ e : Estate, e.account.name = some "mona" ∧
        ∀ t, ∀ r ∈ sampleNeighbours.store.rows t, e.Owned sampleNeighbours.store t r →
          ∃ column, t.statusColumn? = some column ∧
            column.set (some "todelete") r ∈ q.store.rows t := by
  have hid : (Json.int 7).asKey? = some 7 := rfl
  have hdomain :
      ((sampleNeighbours.store.rows .domain).filter fun (d : Domain) =>
        Cell.refersTo 7 d.ownerId) = [{ id := 1, ownerId := some (.whole 7) }] := by
    decide +kernel
  have hrun :
      OperationM.run (Jobs.deleteCustomer sampleAdministrator (.int 7)) {} sampleNeighbours =
        (.ok "Customer account successfully scheduled for deletion.",
          (OperationM.run (Jobs.deleteCustomer sampleAdministrator (.int 7)) {}
            sampleNeighbours).2) :=
    Prod.ext rfl rfl
  obtain ⟨e, -, -, haccount, hkey, -, howned, -⟩ :=
    customer_deletion_settles_estate hid hdomain hrun
  refine ⟨_, hrun, by decide +kernel, by decide +kernel, by decide +kernel, e, ?_, howned⟩
  have haccounts : ∀ a ∈ sampleNeighbours.store.rows .admin,
      (a : Admin).id = 7 → (a : Admin).name = some "mona" := by
    decide +kernel
  exact haccounts e.account haccount hkey

end HostingPanel
