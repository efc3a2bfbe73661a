import HostingPanel.Proofs.StatusRuns

/-!
# FTP accounts of other customers

When a subdomain or a domain alias goes, its FTP accounts are looked for by their names: an account
belongs to a host if its name is like `%@host`.  A pattern knows nothing of the owner of an account,
so it may cover accounts of other customers: an underscore in the name of the host stands for any
character, and nothing keeps another customer from having an account at the host or below it.

`Job.Seeks` says which patterns a deletion uses, and `web_deletion_isolated_iff` that it keeps to
the accounts of its customer exactly if every account that a pattern covers is one of them or waits
for its deletion already.
-/

namespace HostingPanel

open OperationM

/-- Every FTP account is still there, with nothing changed but the status, and the status only if
the account belongs to a customer. -/
def Store.FtpIsolated (customer : Json) (s s' : Store) : Prop :=
  List.Forall₂ (fun (u u' : FtpUser) => u' = { u with status := u'.status } ∧
      (u'.status ≠ u.status → customer.equalsQuantity u.adminId = true))
    (s.rows .ftpUser) (s'.rows .ftpUser)

namespace Jobs

/-- Whether the name of an FTP account is like one of some patterns. -/
def isCovered (patterns : List String) (u : FtpUser) : Bool :=
  patterns.any fun pattern => Cell.isLike pattern u.userid

/-- FTP accounts, with those scheduled for deletion that some patterns cover. -/
def withCoveredDeleted (patterns : List String) (users : List FtpUser) : List FtpUser :=
  Statement.updateRows (isCovered patterns)
    (fun (u : FtpUser) => { u with status := some Status.toDelete }) users

end Jobs

/-- Whether a job deletes web space. -/
def Job.isWebDeletion : Job → Bool
  | .deleteSubdomain _ => true
  | .deleteAliasSubdomain _ => true
  | .deleteDomainAlias _ => true
  | _ => false

/-- The patterns by which a deletion of web space of a customer looks for FTP accounts: that of the
host for a subdomain, and for an alias also that of the hosts below it. -/
def Job.Seeks (customer : Json) (s : Store) : Job → List String → Prop
  | .deleteSubdomain id, patterns =>
    ∃ sub domain, (Ownership.subdomain id customer).answer s = some (sub, domain) ∧
      patterns = [Text.atHost (Jobs.hostName sub.name domain.name)]
  | .deleteAliasSubdomain id, patterns =>
    ∃ sub parent, (Ownership.aliasSubdomain id customer).answer s = some (sub, parent) ∧
      patterns = [Text.atHost (Jobs.hostName sub.name parent.name)]
  | .deleteDomainAlias id, patterns =>
    ∃ row owner name, (Ownership.domainAlias id customer).answer s = some (row, owner) ∧
      row.name = some name ∧ patterns = [Text.atHost name, Text.belowHost name]
  | _, _ => False

/-! ### What the statements do to FTP accounts -/

open Statement

namespace Jobs

/-- One pattern covers an account if the name of the account is like it. -/
lemma isCovered_singleton (pattern : String) :
    isCovered [pattern] = fun u => Cell.isLike pattern u.userid := by
  funext u
  simp [isCovered]

/-- One of two patterns covers an account if the name of the account is like the first or like the
second. -/
lemma isCovered_pair (pattern pattern' : String) :
    isCovered [pattern, pattern'] =
      fun u => Cell.isLike pattern u.userid || Cell.isLike pattern' u.userid := by
  funext u
  simp [isCovered]

/-- The statements on a subdomain schedule the FTP accounts of its host. -/
lemma ftpUsers_subdomainStatements (id : Json) (sub : Subdomain) (host : String) (s : Store) :
    (applyAll (subdomainStatements id sub host) s).rows .ftpUser =
      withCoveredDeleted [Text.atHost host] (s.rows .ftpUser) := by
  rw [withCoveredDeleted, isCovered_singleton]
  rfl

/-- The statements on a subdomain of an alias schedule the FTP accounts of its host. -/
lemma ftpUsers_aliasSubdomainStatements (id : Json) (sub : AliasSubdomain) (parent : DomainAlias)
    (host : String) (s : Store) :
    (applyAll (aliasSubdomainStatements id sub parent host) s).rows .ftpUser =
      withCoveredDeleted [Text.atHost host] (s.rows .ftpUser) := by
  rw [withCoveredDeleted, isCovered_singleton]
  rfl

/-- The statements on an alias schedule the FTP accounts at its host and below it. -/
lemma ftpUsers_aliasStatements (id : Json) (row : DomainAlias) (name : String) (s : Store) :
    (applyAll (aliasCascade id row name) s).rows .ftpUser =
      withCoveredDeleted [Text.atHost name, Text.belowHost name] (s.rows .ftpUser) := by
  rw [withCoveredDeleted, isCovered_pair]
  rfl

end Jobs

/-- A deletion of web space that has been planned schedules the FTP accounts that its patterns
cover, and touches no others. -/
theorem Job.ftpUsers_of_block {user : User} {job : Job} {c : Context} {s s' : Store} {plan : Plan}
    (hjob : job.isWebDeletion = true) (hplan : job.plan user c s = .ok plan)
    (hblock : plan.block c s = .ok ((), s')) :
    ∃ customer patterns, user.id = .ok customer ∧ job.Seeks customer s patterns ∧
      s'.rows .ftpUser = Jobs.withCoveredDeleted patterns (s.rows .ftpUser) := by
  cases job with
  | deleteSubdomain id =>
    obtain ⟨customer, sub, domain, hcustomer, hfound, rfl⟩ := Jobs.planSubdomain_eq_ok hplan
    obtain ⟨stored, hstored, rfl⟩ := Jobs.hostBlock_eq_ok hblock
    refine ⟨customer, _, hcustomer, ⟨sub, domain, hfound, rfl⟩, ?_⟩
    rw [Jobs.ftpUsers_subdomainStatements, FtpGroups.rows_of_isStored hstored (by decide)]
  | deleteAliasSubdomain id =>
    obtain ⟨customer, sub, parent, hcustomer, hfound, rfl⟩ := Jobs.planAliasSubdomain_eq_ok hplan
    obtain ⟨stored, hstored, rfl⟩ := Jobs.hostBlock_eq_ok hblock
    refine ⟨customer, _, hcustomer, ⟨sub, parent, hfound, rfl⟩, ?_⟩
    rw [Jobs.ftpUsers_aliasSubdomainStatements, FtpGroups.rows_of_isStored hstored (by decide)]
  | deleteDomainAlias id =>
    obtain ⟨customer, row, owner, hcustomer, hfound, rfl⟩ := Jobs.planDomainAlias_eq_ok hplan
    obtain ⟨stored, name, hstored, hname, rfl⟩ := Jobs.aliasBlock_eq_ok hblock
    refine ⟨customer, _, hcustomer, ⟨row, owner, name, hfound, hname, rfl⟩, ?_⟩
    rw [Jobs.ftpUsers_aliasStatements, FtpGroups.rows_of_isStored hstored (by decide)]
  | _ => cases hjob

/-- Scheduling the accounts that some patterns cover keeps to the accounts of a customer exactly if
all covered accounts are the customer's or wait for their deletion already. -/
lemma ftpIsolated_iff {customer : Json} {patterns : List String} {s s' : Store}
    (hrows : s'.rows .ftpUser = Jobs.withCoveredDeleted patterns (s.rows .ftpUser)) :
    s.FtpIsolated customer s' ↔
      ∀ (u : FtpUser), u ∈ s.rows .ftpUser → Jobs.isCovered patterns u = true →
        u.status ≠ some Status.toDelete → customer.equalsQuantity u.adminId = true := by
  unfold Store.FtpIsolated
  rw [hrows, Jobs.withCoveredDeleted, updateRows, List.forall₂_map_right_iff, List.forall₂_same]
  refine forall₂_congr fun (u : FtpUser) _ => ?_
  cases hcovered : Jobs.isCovered patterns u with
  | false => simp
  | true =>
    simp only [if_true, forall_true_left, true_and]
    exact ⟨fun h hstatus => h (Ne.symm hstatus), fun h hstatus => h (Ne.symm hstatus)⟩

/-- When a subdomain or a domain alias goes, the FTP accounts of other customers are left alone
exactly if none of them is covered.  Take any database, any customer and any deletion of a
subdomain, a subdomain of an alias or an alias.  If the job succeeds, then every FTP account whose
status has changed belongs to the customer if and only if every account that a pattern of the job
covers belongs to the customer or was waiting for its deletion before. -/
theorem web_deletion_isolated_iff {user : User} {job : Job} {c : Context} {p q : Panel}
    {answer : String} (hjob : job.isWebDeletion = true)
    (hrun : run (job.run user) c p = (.ok answer, q)) :
    ∃ customer patterns, user.id = .ok customer ∧ job.Seeks customer p.store patterns ∧
      (p.store.FtpIsolated customer q.store ↔
        ∀ (u : FtpUser), u ∈ p.store.rows .ftpUser → Jobs.isCovered patterns u = true →
          u.status ≠ some "todelete" → customer.equalsQuantity u.adminId = true) := by
  obtain ⟨plan, hplan, hcommits⟩ := commitsWithEntry_of_run_job hrun
  obtain ⟨changed, -, -, hblock, -, hrows, -⟩ := hcommits
  obtain ⟨customer, patterns, hcustomer, hseeks, hftp⟩ := Job.ftpUsers_of_block hjob hplan hblock
  have hcommitted : q.store.rows .ftpUser =
      Jobs.withCoveredDeleted patterns (p.store.rows .ftpUser) := by
    rw [hrows .ftpUser (by decide), hftp]
  exact ⟨customer, patterns, hcustomer, hseeks, ftpIsolated_iff hcommitted⟩

/-- An FTP account of the customer of the samples, or of another one. -/
def sampleFtpUser (userid : String) (owner : Int) (status : String) : FtpUser :=
  { rowNumber := owner, userid := some userid, adminId := some (.whole owner),
    gid := some (.whole owner), status := some status }

/-- A panel with two customers.  The first one has the alias `my_site.test` and an FTP account at
it; the FTP account of the second one has the given name. -/
def sampleTenants (foreign : String) : Panel where
  store :=
    (((Store.empty.set .admin
      [{ id := 7, name := some "mona", role := some "user" },
        { id := 8, name := some "nils", role := some "user" }]).set .domain
      [{ id := 1, name := some "example.test", ownerId := some (.whole 7) },
        { id := 2, name := some "my-site.test", ownerId := some (.whole 8) }]).set .domainAlias
      [{ id := 4, domainId := some (.whole 1), name := some "my_site.test" }]).set .ftpUser
      [sampleFtpUser "mona@my_site.test" 7 "ok", sampleFtpUser foreign 8 "ok"]
  notifier := Notifier.create {}

/-- The panel after the first customer has deleted the alias. -/
def sampleTenantsLeft (foreign : String) : Panel :=
  (run (Job.run sampleCustomer (.deleteDomainAlias (.int 4))) {} (sampleTenants foreign)).2

/-- If the account of the second customer is at another host, the deletion keeps to the account of
the first one. -/
theorem web_deletion_isolated_iff_sample :
    run (Job.run sampleCustomer (.deleteDomainAlias (.int 4))) {}
        (sampleTenants "nils@other.test") =
        (.ok "Domain alias successfully scheduled for deletion.",
          sampleTenantsLeft "nils@other.test") ∧
      (sampleTenants "nils@other.test").store.FtpIsolated (.int 7)
        (sampleTenantsLeft "nils@other.test").store := by
  have hrun : run (Job.run sampleCustomer (.deleteDomainAlias (.int 4))) {}
      (sampleTenants "nils@other.test") =
      (.ok "Domain alias successfully scheduled for deletion.",
        sampleTenantsLeft "nils@other.test") :=
    Prod.ext rfl rfl
  obtain ⟨customer, patterns, hcustomer, hseeks, hiff⟩ :=
    web_deletion_isolated_iff (by rfl) hrun
  cases hcustomer
  obtain ⟨row, owner, name, hfound, hname, rfl⟩ := hseeks
  have halias : (Ownership.domainAlias (.int 4) (.int 7)).answer
      (sampleTenants "nils@other.test").store =
      some ({ id := 4, domainId := some (.whole 1), name := some "my_site.test" },
        { id := 7, name := some "mona", role := some "user" }) := by
    decide +kernel
  cases halias.symm.trans hfound
  cases hname
  refine ⟨hrun, hiff.2 fun u hu hcovered _ => ?_⟩
  rcases List.mem_cons.1 hu with rfl | hu
  · rfl
  · obtain rfl := List.mem_singleton.1 hu
    exact absurd hcovered (by decide +kernel)

/-- The alias `my_site.test` goes, and with it the FTP account of another customer at
`my-site.test`: the underscore of the alias stands for any character. -/
theorem alias_deletion_covers_foreign_account :
    run (Job.run sampleCustomer (.deleteDomainAlias (.int 4))) {}
        (sampleTenants "nils@my-site.test") =
        (.ok "Domain alias successfully scheduled for deletion.",
          sampleTenantsLeft "nils@my-site.test") ∧
      sampleFtpUser "nils@my-site.test" 8 "ok" ∈
        (sampleTenants "nils@my-site.test").store.rows .ftpUser ∧
      (sampleTenantsLeft "nils@my-site.test").store.rows .ftpUser =
        [sampleFtpUser "mona@my_site.test" 7 "todelete",
          sampleFtpUser "nils@my-site.test" 8 "todelete"] ∧
      ¬ (sampleTenants "nils@my-site.test").store.FtpIsolated (.int 7)
        (sampleTenantsLeft "nils@my-site.test").store := by
  have hafter : (sampleTenantsLeft "nils@my-site.test").store.rows .ftpUser =
      [sampleFtpUser "mona@my_site.test" 7 "todelete",
        sampleFtpUser "nils@my-site.test" 8 "todelete"] := by
    decide +kernel
  refine ⟨Prod.ext rfl rfl, ?_, hafter, fun hisolated => ?_⟩
  · exact List.mem_cons_of_mem _ (List.mem_singleton.2 rfl)
  · unfold Store.FtpIsolated at hisolated
    rw [hafter] at hisolated
    cases hisolated with
    | cons _ hrest =>
      cases hrest with
      | cons hforeign _ => exact absurd (hforeign.2 (by decide)) (by decide)

end HostingPanel
