import HostingPanel.Proofs.Cascades

/-!
# Web space that goes

Subdomains, subdomains of aliases and aliases are web space: each has a host, lies in a directory of
a domain, and may have FTP accounts, which are members of a group.  `Jobs.WebSpace` holds what its
deletion has to know of it, and `Job.webSpace?` is the web space that a job is to delete.

The three deletions differ in little else.  `gone_of_run` says of all of them together what becomes
of groups and quotas, of FTP accounts and of protected areas when they succeed.
-/

namespace HostingPanel

open OperationM Statement

open FtpGroups (Pruning)

namespace Jobs

/-- Web space as its deletion sees it. -/
structure WebSpace where
  /-- How its FTP accounts leave a group. -/
  pruning : Pruning
  /-- The domain in whose directories it lies. -/
  domainId : Option Quantity
  mount : Option String

namespace WebSpace

/-- The name of the host. -/
def host (w : WebSpace) : String :=
  w.pruning.domain

/-- Whether the hosts below it go with it. -/
def below (w : WebSpace) : Bool :=
  w.pruning.below

/-- The patterns by which its FTP accounts are looked for. -/
def patterns (w : WebSpace) : List String :=
  if w.below then [Text.atHost w.host, Text.belowHost w.host] else [Text.atHost w.host]

/-- The directory in which it lies. -/
def directory (w : WebSpace) : String :=
  Text.normalizePath w.mount

/-- Whether its deletion picks a protected area. -/
def picksArea (w : WebSpace) (a : ProtectedArea) : Bool :=
  Cell.agree a.domainId w.domainId && Cell.isLike (Text.startingWith w.directory) a.path

/-- What its deletion makes of the tables about FTP accounts and protected areas. -/
structure Gone (w : WebSpace) (s s' : Store) : Prop where
  /-- A group has lost members, and perhaps it has gone with its quota. -/
  groups : ∀ t ∈ [Table.ftpGroup, .quotaLimit, .quotaTally],
    s'.rows t = (w.pruning.apply s).rows t
  /-- The FTP accounts that are found by the patterns are scheduled. -/
  ftpUsers : s'.rows .ftpUser = withCoveredDeleted w.patterns (s.rows .ftpUser)
  /-- The protected areas that are picked are scheduled. -/
  areas : s'.rows .area =
    updateRows w.picksArea (fun a => { a with status := some Status.toDelete }) (s.rows .area)

end WebSpace

end Jobs

/-- The web space that a job is to delete, if a customer has it. -/
def Job.webSpace? (customer : Json) (s : Store) : Job → Option Jobs.WebSpace
  | .deleteSubdomain id => do
    let (sub, domain) ← (Ownership.subdomain id customer).answer s
    return ⟨.ofHost (Jobs.hostName sub.name domain.name), sub.domainId, sub.mount⟩
  | .deleteAliasSubdomain id => do
    let (sub, parent) ← (Ownership.aliasSubdomain id customer).answer s
    return ⟨.ofHost (Jobs.hostName sub.name parent.name), parent.domainId, sub.mount⟩
  | .deleteDomainAlias id => do
    let (row, owner) ← (Ownership.domainAlias id customer).answer s
    return ⟨.ofOwner owner.name (← row.name), row.domainId, row.mount⟩
  | _ => none

/-! ### A pruning and then sweeps -/

open TransactionM

namespace FtpGroups

/-- Pruning a group is no matter for the tables that are not about groups. -/
lemma Pruning.rows_apply_of_notMem {t : Table}
    (ht : t ∉ [Table.ftpGroup, .quotaLimit, .quotaTally]) (q : Pruning) (s : Store) :
    (q.apply s).rows t = s.rows t := by
  obtain ⟨stored, hstored, hpruned⟩ := q.exists_stored s
  rw [hpruned, rows_of_isStored hstored ht]

/-- A block that looks for a group, removes accounts from it if there is one, and goes on in the
same way in both cases, has gone on after the pruning. -/
lemma Pruning.eq_ok_of_query {q : Pruning} {search : Query (Option FtpGroup)}
    (hanswer : search.answer = q.find) {f : Option FtpGroup → TransactionM Unit}
    {rest : TransactionM Unit} {c : Context} {s s' : Store} {u : Unit} (h : (query search >>= f) c s = .ok (u, s')) (hnone : f none = rest)
    (hsome : ∀ g, f (some g) = prune g (some q.domain) q.below >>= fun _ => rest) :
    rest c (q.apply s) = .ok (u, s') := by
  obtain ⟨found, between, hquery, hrest⟩ := bind_eq_ok h
  obtain ⟨rfl, rfl⟩ := query_eq_ok hquery
  rw [hanswer] at hrest
  unfold Pruning.apply
  cases hfound : q.find between with
  | none =>
    rw [hfound, hnone] at hrest
    exact hrest
  | some g =>
    rw [hfound, hsome] at hrest
    obtain ⟨_, pruned, hprune, hrest⟩ := bind_eq_ok hrest
    obtain rfl : pruned = leave g.name (q.staying g) between := executeAll_eq_ok hprune
    exact hrest

end FtpGroups

namespace Jobs

namespace WebSpace

variable {w : WebSpace} {s : Store} {g : FtpGroup}

/-- After the pruning, sweeps that schedule the accounts and the areas have done what the deletion
does. -/
lemma gone_of_sweeps {sts : List Statement} (hsweeps : ∀ st ∈ sts, st.IsSweep)
    (hftpUsers : ∀ s, (applyAll sts s).rows .ftpUser =
      withCoveredDeleted w.patterns (s.rows .ftpUser))
    (hareas : ∀ s, (applyAll sts s).rows .area =
      updateRows w.picksArea (fun a => { a with status := some Status.toDelete }) (s.rows .area)) :
    w.Gone s (applyAll sts (w.pruning.apply s)) where
  groups t ht := by
    refine rows_applyAll_of_ne (fun st hst htable => ?_) _
    have hswept := htable ▸ (hsweeps st hst).table_mem
    revert ht hswept
    cases t <;> decide
  ftpUsers := by rw [hftpUsers, Pruning.rows_apply_of_notMem (by decide)]
  areas := by rw [hareas, Pruning.rows_apply_of_notMem (by decide)]

end WebSpace

/-! ### The three deletions -/

/-- The deletion of a host that ran is a pruning and then the statements of the host. -/
lemma hostBlock_prunes {host : String} {statements : List Statement} {c : Context} {s s' : Store}
    {u : Unit} (h : hostBlock host statements c s = .ok (u, s')) :
    s' = applyAll statements ((Pruning.ofHost host).apply s) :=
  executeAll_eq_ok ((Pruning.ofHost host).eq_ok_of_query rfl h rfl fun _ => rfl)

/-- The deletion of an alias that ran is a pruning and then the statements of the alias, which has a
name. -/
lemma aliasBlock_prunes {id : Json} {row : DomainAlias} {owner : Admin} {c : Context} {s s' : Store}
    {u : Unit} (h : aliasBlock id row owner c s = .ok (u, s')) :
    ∃ name, row.name = some name ∧
      s' = applyAll (aliasCascade id row name) ((Pruning.ofOwner owner.name name).apply s) := by
  obtain ⟨-, name, -, hname, -⟩ := aliasBlock_eq_ok h
  refine ⟨name, hname, executeAll_eq_ok (c := c) (u := u) ?_⟩
  unfold aliasBlock at h
  rw [hname] at h
  rw [aliasCascade, executeAll_append]
  exact (Pruning.ofOwner owner.name name).eq_ok_of_query rfl h rfl fun _ => rfl

/-- A planned deletion of web space that ran has done what it does. -/
theorem WebSpace.gone_of_block {user : User} {job : Job} {c : Context} {s s' : Store} {plan : Plan}
    (hweb : job.isWebDeletion = true) (hplan : job.plan user c s = .ok plan)
    (hblock : plan.block c s = .ok ((), s')) :
    ∃ customer w, user.id = .ok customer ∧ job.webSpace? customer s = some w ∧ w.Gone s s' := by
  cases job with
  | deleteSubdomain id =>
    obtain ⟨customer, sub, domain, hcustomer, hfound, rfl⟩ := planSubdomain_eq_ok hplan
    let w : WebSpace := ⟨.ofHost (hostName sub.name domain.name), sub.domainId, sub.mount⟩
    refine ⟨customer, w, hcustomer, by simp [Job.webSpace?, hfound, w], ?_⟩
    rw [hostBlock_prunes hblock]
    exact gone_of_sweeps (isSweep_of_mem_subdomainStatements id sub _)
      (ftpUsers_subdomainStatements id sub _) fun _ => rfl
  | deleteAliasSubdomain id =>
    obtain ⟨customer, sub, parent, hcustomer, hfound, rfl⟩ := planAliasSubdomain_eq_ok hplan
    let w : WebSpace := ⟨.ofHost (hostName sub.name parent.name), parent.domainId, sub.mount⟩
    refine ⟨customer, w, hcustomer, by simp [Job.webSpace?, hfound, w], ?_⟩
    rw [hostBlock_prunes hblock]
    exact gone_of_sweeps (isSweep_of_mem_aliasSubdomainStatements id sub parent _)
      (ftpUsers_aliasSubdomainStatements id sub parent _) fun _ => rfl
  | deleteDomainAlias id =>
    obtain ⟨customer, row, owner, hcustomer, hfound, rfl⟩ := planDomainAlias_eq_ok hplan
    obtain ⟨host, hhost, rfl⟩ := aliasBlock_prunes hblock
    let w : WebSpace := ⟨.ofOwner owner.name host, row.domainId, row.mount⟩
    refine ⟨customer, w, hcustomer, by simp [Job.webSpace?, hfound, hhost, w], ?_⟩
    exact gone_of_sweeps (isSweep_of_mem_aliasCascade id row host)
      (ftpUsers_aliasStatements id row host) fun _ => rfl
  | _ => cases hweb

end Jobs

/-- A deletion of web space that succeeds is about web space of the customer, and has done what it
does. -/
theorem Jobs.WebSpace.gone_of_run {user : User} {job : Job} {c : Context} {p q : Panel}
    {answer : String} (hweb : job.isWebDeletion = true)
    (hrun : run (job.run user) c p = (.ok answer, q)) :
    ∃ customer w, user.id = .ok customer ∧ job.webSpace? customer p.store = some w ∧
      w.Gone p.store q.store := by
  obtain ⟨plan, hplan, changed, -, -, hblock, -, hrows, -⟩ := commitsWithEntry_of_run_job hrun
  obtain ⟨customer, w, hcustomer, hfound, hgone⟩ := gone_of_block hweb hplan hblock
  refine ⟨customer, w, hcustomer, hfound, fun t ht => ?_, ?_, ?_⟩
  · have hother : t ≠ .outbox := by
      rintro rfl
      revert ht
      decide
    rw [hrows t hother, hgone.groups t ht]
  · rw [hrows .ftpUser (by decide), hgone.ftpUsers]
  · rw [hrows .area (by decide), hgone.areas]

end HostingPanel
