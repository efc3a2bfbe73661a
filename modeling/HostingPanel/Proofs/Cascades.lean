import HostingPanel.Proofs.FaultFree
import HostingPanel.Proofs.FtpIsolation
import HostingPanel.Proofs.GroupPruning

/-!
# Deletions of web space as cascades

A deletion of a subdomain or of an alias is one pruning of a group and then sweeps (`Cascade`).  If
there are no faults, its block always fails in the same way or always has the effect of one cascade,
whatever the database holds (`TransactionM.Settles`).

Which cascade it is has been planned from the sites of the customer.  A cascade changes nothing in
them but statuses (`Store.SameSites`), and the plan does not depend on these, so one deletion does
not change what another one plans (`Job.plan_congr`).  Two cascades can change places, since their
prunings and their sweeps can (`Cascade.effect_comm`).
-/

namespace HostingPanel

open FtpGroups (Pruning)

/-! ### Databases that differ in the outbox -/

/-- All tables but the outbox have the same rows. -/
def Store.SameTables (s s' : Store) : Prop :=
  ∀ t, t ≠ .outbox → s'.rows t = s.rows t

/-- What a statement does to its rows does not depend on the outbox. -/
def Statement.IgnoresOutbox (st : Statement) : Prop :=
  ∀ s s' : Store, s.SameTables s' → st.change s' = st.change s

lemma Statement.IsSweep.ignoresOutbox {st : Statement} (h : st.IsSweep) : st.IgnoresOutbox :=
  fun _ _ hsame => h.change_eq (congrArg (List.map _) (hsame .aliasSubdomain (by decide)))

lemma FtpGroups.IsStored.ignoresOutbox {st : Statement} (h : FtpGroups.IsStored st) :
    st.IgnoresOutbox :=
  fun s s' _ => h.change_eq s s'

namespace Store.SameTables

variable {s s' : Store}

/-- Whether two databases have the same tables can be told from others with the same tables. -/
lemma congr_iff {u u' : Store} (h : s.SameTables u) (h' : s'.SameTables u') :
    u.SameTables u' ↔ s.SameTables s' :=
  forall₂_congr fun t ht => by rw [h t ht, h' t ht]

/-- A statement that does not look at the outbox does the same to the tables. -/
lemma apply (h : s.SameTables s') {st : Statement} (hst : st.IgnoresOutbox) :
    (st.apply s).SameTables (st.apply s') := by
  intro t ht
  by_cases htable : st.table = t
  · subst htable
    rw [st.rows_apply_self, st.rows_apply_self, hst s s' h, h st.table ht]
  · rw [Statement.rows_apply_of_ne st s htable, Statement.rows_apply_of_ne st s' htable, h t ht]

/-- Statements that do not look at the outbox do the same to the tables. -/
lemma applyAll (h : s.SameTables s') {sts : List Statement}
    (hsts : ∀ st ∈ sts, st.IgnoresOutbox) :
    (Statement.applyAll sts s).SameTables (Statement.applyAll sts s') := by
  induction sts generalizing s s' with
  | nil => exact h
  | cons st sts ih =>
    obtain ⟨hfirst, hrest⟩ := List.forall_mem_cons.1 hsts
    exact ih (h.apply hfirst) hrest

lemma prune (h : s.SameTables s') (q : Pruning) : (q.apply s).SameTables (q.apply s') := by
  have hmemberships : s'.memberships = s.memberships :=
    congrArg (List.map _) (h .ftpUser (by decide))
  rw [Pruning.apply, Pruning.apply, q.settled s s' hmemberships (h .ftpGroup (by decide))]
  split
  · exact h.applyAll fun st hst => FtpGroups.IsStored.ignoresOutbox ⟨_, _, hst⟩
  · exact h

end Store.SameTables

/-! ### Databases with the same sites -/

/-- Accounts and domains are the same, and subdomains, their like under aliases and aliases are the
same but for the status. -/
structure Store.SameSites (s s' : Store) : Prop where
  admin : s'.rows .admin = s.rows .admin
  domain : s'.rows .domain = s.rows .domain
  /-- The other sites are the same but for the status. -/
  scheduled : ∀ t ∈ [Table.subdomain, .aliasSubdomain, .domainAlias],
    (s'.rows t).map t.scheduled = (s.rows t).map t.scheduled

namespace Store.SameSites

variable {s s' s'' : Store}

lemma refl (s : Store) : s.SameSites s :=
  ⟨rfl, rfl, fun _ _ => rfl⟩

lemma trans (h : s.SameSites s') (h' : s'.SameSites s'') : s.SameSites s'' :=
  ⟨h'.admin.trans h.admin, h'.domain.trans h.domain,
    fun t ht => (h'.scheduled t ht).trans (h.scheduled t ht)⟩

lemma of_sameTables (h : s.SameTables s') : s.SameSites s' where
  admin := h .admin (by decide)
  domain := h .domain (by decide)
  scheduled t ht := by
    have hother : t ≠ .outbox := by
      rintro rfl
      revert ht
      decide
    rw [h t hother]

/-- A sweep changes nothing but statuses in the sites. -/
lemma of_isSweep {st : Statement} (h : st.IsSweep) (s : Store) : s.SameSites (st.apply s) where
  admin := Statement.rows_apply_of_ne st s fun hsame => absurd (hsame ▸ h.table_mem) (by decide)
  domain := Statement.rows_apply_of_ne st s fun hsame => absurd (hsame ▸ h.table_mem) (by decide)
  scheduled t ht := by
    simp only [List.mem_cons, List.not_mem_nil, or_false] at ht
    rcases ht with rfl | rfl | rfl <;> exact h.map_rows (by decide) (fun _ => rfl) s

lemma of_sweeps {sts : List Statement} (h : ∀ st ∈ sts, st.IsSweep) (s : Store) :
    s.SameSites (Statement.applyAll sts s) := by
  induction sts generalizing s with
  | nil => exact .refl s
  | cons st sts ih =>
    obtain ⟨hfirst, hrest⟩ := List.forall_mem_cons.1 h
    exact (of_isSweep hfirst s).trans (ih hrest _)

lemma of_isStored {sts : List Statement} (h : ∀ st ∈ sts, FtpGroups.IsStored st) (s : Store) :
    s.SameSites (Statement.applyAll sts s) where
  admin := FtpGroups.rows_of_isStored h (by decide) s
  domain := FtpGroups.rows_of_isStored h (by decide) s
  scheduled t ht := by
    simp only [List.mem_cons, List.not_mem_nil, or_false] at ht
    rcases ht with rfl | rfl | rfl <;> rw [FtpGroups.rows_of_isStored h (by decide)]

/-- What is found among the rows of a table of sites does not depend on their statuses. -/
lemma findSome?_eq (h : s.SameSites s') {t : Table}
    (ht : t ∈ [Table.subdomain, .aliasSubdomain, .domainAlias]) {β : Type} {f : t.Row → Option β}
    (hf : ∀ r, f (t.scheduled r) = f r) : (s'.rows t).findSome? f = (s.rows t).findSome? f := by
  have hview (s : Store) : ((s.rows t).map t.scheduled).findSome? f = (s.rows t).findSome? f := by
    rw [List.findSome?_map]
    exact congrArg (List.findSome? · _) (funext hf)
  rw [← hview, h.scheduled t ht, hview]

/-- Databases with the same sites have the same keys of subdomains of aliases. -/
lemma aliasChildren (h : s.SameSites s') :
    s'.aliasChildren = s.aliasChildren := by
  have hview (s : Store) : ((s.rows .aliasSubdomain).map Table.aliasSubdomain.scheduled).map
      (fun (sub : AliasSubdomain) => (sub.id, sub.aliasId)) = s.aliasChildren :=
    List.map_map
  rw [← hview, h.scheduled .aliasSubdomain (by decide), hview]

end Store.SameSites

/-! ### Cascades -/

/-- A deletion of web space: accounts leave a group, and sweeps follow. -/
structure Cascade where
  /-- How accounts leave a group. -/
  pruning : Pruning
  statements : List Statement
  sweeps : ∀ st ∈ statements, st.IsSweep

namespace Cascade

/-- The database after a cascade. -/
def effect (x : Cascade) (s : Store) : Store :=
  Statement.applyAll x.statements (x.pruning.apply s)

/-- Two cascades can change places if the names of groups are unique and neither search for a group
has a choice. -/
theorem effect_comm (x y : Cascade) {s : Store} (hunique : s.UniqueGroupNames)
    (hx : (x.pruning.candidates s).length ≤ 1) (hy : (y.pruning.candidates s).length ≤ 1) :
    y.effect (x.effect s) = x.effect (y.effect s) := by
  have hsweeps : ∀ st ∈ x.statements, ∀ st' ∈ y.statements, st.Commutes st' :=
    fun st hst st' hst' => (x.sweeps st hst).commutes (y.sweeps st' hst')
  calc y.effect (x.effect s)
      = Statement.applyAll y.statements
          (Statement.applyAll x.statements (y.pruning.apply (x.pruning.apply s))) := by
        rw [effect, effect, y.pruning.apply_applyAll_comm x.sweeps]
    _ = Statement.applyAll x.statements
          (Statement.applyAll y.statements (x.pruning.apply (y.pruning.apply s))) := by
        rw [Statement.applyAll_comm hsweeps, Pruning.apply_comm hunique hx hy]
    _ = x.effect (y.effect s) := by
        rw [effect, effect, x.pruning.apply_applyAll_comm y.sweeps]

/-- A cascade whose pruning has nothing left to do after that of another one is its statements
alone. -/
lemma effect_effect {x y : Cascade} {s : Store}
    (h : y.pruning.apply (x.pruning.apply s) = x.pruning.apply s) :
    y.effect (x.effect s) = Statement.applyAll y.statements (x.effect s) := by
  rw [effect, effect, y.pruning.apply_applyAll_comm x.sweeps, h]

lemma effect_sameTables (x : Cascade) {s s' : Store} (h : s.SameTables s') :
    (x.effect s).SameTables (x.effect s') :=
  (h.prune x.pruning).applyAll fun st hst => (x.sweeps st hst).ignoresOutbox

/-- A cascade changes nothing but statuses in the sites. -/
lemma effect_sameSites (x : Cascade) (s : Store) : s.SameSites (x.effect s) := by
  obtain ⟨stored, hstored, hpruned⟩ := x.pruning.exists_stored s
  rw [effect, hpruned]
  exact (Store.SameSites.of_isStored hstored s).trans (.of_sweeps x.sweeps _)

lemma missing_effect (x : Cascade) (s : Store) : (x.effect s).missing = s.missing := by
  obtain ⟨stored, -, hpruned⟩ := x.pruning.exists_stored s
  rw [effect, hpruned, Statement.missing_applyAll, Statement.missing_applyAll]

end Cascade

/-! ### Blocks -/

/-- Without faults the block always fails in the same way, or it always has the effect of the same
cascade. -/
def TransactionM.Settles (b : TransactionM Unit) (r : Except Failure Cascade) : Prop :=
  ∀ ⦃c : Context⦄ ⦃s : Store⦄, FaultFree c s → b c s = r.map fun x => ((), x.effect s)

/-- The cascade of some sweeps, if their parameters can be bound. -/
def Cascade.of (pruning : Pruning) (statements : List Statement)
    (sweeps : ∀ st ∈ statements, st.IsSweep) : Except Failure Cascade :=
  match Statement.bindFailure? statements with
  | some e => .error e
  | none => .ok ⟨pruning, statements, sweeps⟩

lemma Cascade.pruning_of {q : Pruning} {sts : List Statement} {hsts : ∀ st ∈ sts, st.IsSweep}
    {x : Cascade} (h : Cascade.of q sts hsts = .ok x) : x.pruning = q := by
  unfold Cascade.of at h
  split at h
  · cases h
  · cases h
    rfl

open TransactionM

/-- The parameters of the statements that store a group can be bound. -/
lemma FtpGroups.bindFailure?_store (name : Option String) (members : List String) :
    Statement.bindFailure? (FtpGroups.store name members) = none := by
  unfold FtpGroups.store
  cases name <;> cases members.isEmpty <;> rfl

lemma FtpGroups.bindFailures?_named (name : Option String) :
    Json.bindFailures? 1 (FtpGroups.named name).params = none := by
  cases name <;> rfl

lemma TransactionM.executeAll_append (sts more : List Statement) :
    executeAll (sts ++ more) = (executeAll sts >>= fun _ => executeAll more) :=
  List.forM_append

namespace FaultFree

variable {c : Context} {s : Store}

/-- A group that is found is left with the members that stay. -/
lemma prune_bind (h : FaultFree c s) (g : FtpGroup) (domain : String) (below : Bool)
    (rest : TransactionM Unit) :
    (FtpGroups.prune g (some domain) below >>= fun _ => rest) c s =
      rest c (FtpGroups.leave g.name
        (FtpGroups.remaining (Text.items g.members) domain below) s) := by
  have hprune : FtpGroups.prune g (some domain) below = executeAll
    (FtpGroups.store g.name (FtpGroups.remaining (Text.items g.members) domain below)) := rfl
  rw [bind_apply, hprune, h.executeAll_eq, FtpGroups.bindFailure?_store]
  rfl

/-- Where no domain is given, the pruning or what follows it fails at the pattern. -/
lemma prune_none_bind (h : FaultFree c s) (g : FtpGroup) {rest : TransactionM Unit}
    (hrest : ∀ s, FaultFree c s → rest c s = .error .absentInPattern) :
    (FtpGroups.prune g none true >>= fun _ => rest) c s = .error .absentInPattern := by
  rw [bind_apply]
  cases hempty : (Text.items g.members).isEmpty with
  | false =>
    have hprune : FtpGroups.prune g none true c s = .error .absentInPattern := by
      simp only [FtpGroups.prune, hempty]
      rfl
    rw [hprune]
  | true =>
    have hprune : FtpGroups.prune g none true c s =
        executeAll (FtpGroups.store g.name (Text.items g.members)) c s := by
      simp only [FtpGroups.prune, hempty]
      rfl
    rw [hprune, h.executeAll_eq, FtpGroups.bindFailure?_store]
    exact hrest _ (h.applyAll _)

/-- Looking for a group, and removing accounts from it if there is one, is a pruning. -/
lemma search_eq (h : FaultFree c s) {search : Query (Option FtpGroup)} {q : Pruning}
    (hparams : Json.bindFailures? 1 search.params = none)
    (hanswer : search.answer = q.find) {f : Option FtpGroup → TransactionM Unit}
    {rest : TransactionM Unit} (hnone : f none = rest)
    (hsome : ∀ g, f (some g) = FtpGroups.prune g (some q.domain) q.below >>= fun _ => rest) :
    (query search >>= f) c s = rest c (q.apply s) := by
  rw [h.query_bind, hparams, hanswer, Pruning.apply]
  cases q.find s with
  | none => rw [hnone]
  | some g =>
    rw [hsome]
    exact h.prune_bind g q.domain q.below rest

lemma prune (h : FaultFree c s) (q : Pruning) : FaultFree c (q.apply s) := by
  obtain ⟨stored, -, hpruned⟩ := q.exists_stored s
  rw [hpruned]
  exact h.applyAll stored

lemma cascade_eq (h : FaultFree c s) (q : Pruning) {sts : List Statement}
    (hsweeps : ∀ st ∈ sts, st.IsSweep) :
    executeAll sts c (q.apply s) =
      (Cascade.of q sts hsweeps).map fun x => ((), x.effect s) := by
  rw [(h.prune q).executeAll_eq, Cascade.of]
  cases Statement.bindFailure? sts <;> rfl

end FaultFree

namespace Jobs

/-- The deletion of a host is the cascade of its statements. -/
lemma hostBlock_settles (host : String) {statements : List Statement}
    (hsweeps : ∀ st ∈ statements, st.IsSweep) :
    (hostBlock host statements).Settles (Cascade.of (.ofHost host) statements hsweeps) := by
  intro c s h
  have hblock : hostBlock host statements c s =
      executeAll statements c ((Pruning.ofHost host).apply s) :=
    h.search_eq rfl rfl rfl fun g => rfl
  rw [hblock, h.cascade_eq]

/-- The deletion of an alias with a name is the cascade of its statements. -/
lemma aliasBlock_settles (id : Json) {row : DomainAlias} {name : String}
    (hname : row.name = some name) (owner : Admin) :
    (aliasBlock id row owner).Settles (Cascade.of (.ofOwner owner.name name)
      (aliasCascade id row name) (isSweep_of_mem_aliasCascade id row name)) := by
  intro c s h
  have hblock : aliasBlock id row owner c s =
      executeAll (aliasCascade id row name) c ((Pruning.ofOwner owner.name name).apply s) := by
    rw [aliasCascade, executeAll_append]
    unfold aliasBlock
    rw [hname]
    exact h.search_eq (FtpGroups.bindFailures?_named owner.name) rfl rfl fun g => rfl
  rw [hblock, h.cascade_eq]

/-- The deletion of an alias without a name fails, whether or not there is a group to look
through. -/
lemma aliasBlock_settles_of_none {id : Json} (hid : Json.bindFailures? 1 [id] = none)
    {row : DomainAlias} (hname : row.name = none) (owner : Admin) :
    (aliasBlock id row owner).Settles (.error .absentInPattern) := by
  intro c s h
  have hremovals : Statement.bindFailure? (aliasRemovals id) = none := by
    simp only [Statement.bindFailure?, aliasRemovals, removePhp, List.findSome?_cons,
      Statement.footprint, hid, List.findSome?_nil]
  -- What follows the group fails at the pattern.
  have hrest (s : Store) (h : FaultFree c s) :
      (executeAll (aliasRemovals id) >>= fun _ =>
        (throw .absentInPattern >>= fun _ : Unit => executeAll (aliasStatements id row)) :
          TransactionM Unit) c s = .error .absentInPattern := by
    rw [bind_apply, h.executeAll_eq, hremovals]
    rfl
  unfold aliasBlock
  rw [hname, h.query_bind, FtpGroups.bindFailures?_named]
  cases (FtpGroups.named owner.name).answer s with
  | none => exact hrest s h
  | some g => exact h.prune_none_bind g hrest

end Jobs

/-! ### Plans -/

/-- A question is answered with the same thing in two databases, or cannot be asked in either. -/
lemma FaultFree.fetchSome_congr {c : Context} {s s' : Store} (h : FaultFree c s)
    (h' : FaultFree c s') {α β : Type} {q : Query (Option α)} {f : Option α → LookupM β}
    {e : Failure} {m : α → β} (hnone : f none = throw e) (hsome : ∀ a, f (some a) = pure (m a))
    (hanswer : (q.answer s').map m = (q.answer s).map m) :
    (LookupM.fetch q >>= f) c s' = (LookupM.fetch q >>= f) c s := by
  have hgoes (found : Option α) (s : Store) :
      f found c s = match found.map m with
        | none => .error e
        | some b => .ok b := by
    cases found with
    | none =>
      rw [hnone]
      rfl
    | some a =>
      rw [hsome]
      rfl
  rw [h.fetch_bind, h'.fetch_bind, hgoes, hgoes, hanswer]

namespace Ownership

variable {s s' : Store} {β : Type} (id customer : Json)

/-- What is made of a subdomain without looking at its status does not depend on statuses. -/
lemma subdomain_congr (h : s.SameSites s') {m : Subdomain × Domain → β}
    (hm : ∀ sub d, m (Table.subdomain.scheduled sub, d) = m (sub, d)) :
    ((subdomain id customer).answer s').map m = ((subdomain id customer).answer s).map m := by
  simp only [subdomain, List.map_findSome?, h.domain]
  refine h.findSome?_eq (t := .subdomain) (by decide) fun (sub : Subdomain) => ?_
  simp only [Function.comp_apply, apply_ite (Option.map m), Option.map_map]
  simp only [Function.comp_def, hm]
  rfl

/-- What is made of a subdomain of an alias without looking at the two statuses does not depend on
statuses. -/
lemma aliasSubdomain_congr (h : s.SameSites s') {m : AliasSubdomain × DomainAlias → β}
    (hm : ∀ sub a, m (Table.aliasSubdomain.scheduled sub, a) = m (sub, a))
    (hm' : ∀ sub a, m (sub, Table.domainAlias.scheduled a) = m (sub, a)) :
    ((aliasSubdomain id customer).answer s').map m =
      ((aliasSubdomain id customer).answer s).map m := by
  have hparent (sub : AliasSubdomain) :
      ((s'.rows .domainAlias).find? fun (a : DomainAlias) =>
        Cell.refersTo a.id sub.aliasId && isDomainOf s' customer a.domainId).map (m ⟨sub, ·⟩) =
      ((s.rows .domainAlias).find? fun (a : DomainAlias) =>
        Cell.refersTo a.id sub.aliasId && isDomainOf s customer a.domainId).map (m ⟨sub, ·⟩) := by
    simp only [List.find?_eq_findSome?_guard, List.map_findSome?, isDomainOf, h.domain]
    refine h.findSome?_eq (t := .domainAlias) (by decide) fun (a : DomainAlias) => ?_
    simp only [Function.comp_apply, Option.guard, apply_ite (Option.map _), Option.map_some, hm']
    rfl
  simp only [aliasSubdomain, List.map_findSome?, Function.comp_def, apply_ite (Option.map m),
    Option.map_map, hparent]
  refine h.findSome?_eq (t := .aliasSubdomain) (by decide) fun (sub : AliasSubdomain) => ?_
  simp only [hm]
  rfl

/-- What is made of an alias without looking at its status does not depend on statuses. -/
lemma domainAlias_congr (h : s.SameSites s') {m : DomainAlias × Admin → β}
    (hm : ∀ a o, m (Table.domainAlias.scheduled a, o) = m (a, o)) :
    ((domainAlias id customer).answer s').map m = ((domainAlias id customer).answer s).map m := by
  simp only [domainAlias, List.map_findSome?, h.domain, h.admin]
  refine h.findSome?_eq (t := .domainAlias) (by decide) fun (a : DomainAlias) => ?_
  simp only [Function.comp_def, apply_ite (Option.map m), List.map_findSome?, Option.map_map, hm]
  rfl

end Ownership

namespace Jobs

variable {user : User} {id : Json} {c : Context} {s s' : Store}

/-- The plan for a subdomain does not depend on the statuses of the sites. -/
lemma planSubdomain_congr (h : FaultFree c s) (h' : FaultFree c s') (hsites : s.SameSites s') :
    planSubdomain user id c s' = planSubdomain user id c s := by
  unfold planSubdomain
  cases user.id with
  | error e => rfl
  | ok customer =>
    exact h.fetchSome_congr h' (q := Ownership.subdomain id customer)
      (m := fun found => hostPlan (hostName found.1.name found.2.name)
        (subdomainStatements id found.1 (hostName found.1.name found.2.name)))
      rfl (fun _ => rfl) (Ownership.subdomain_congr id customer hsites fun _ _ => rfl)

/-- The plan for a subdomain of an alias does not depend on the statuses of the sites. -/
lemma planAliasSubdomain_congr (h : FaultFree c s) (h' : FaultFree c s')
    (hsites : s.SameSites s') :
    planAliasSubdomain user id c s' = planAliasSubdomain user id c s := by
  unfold planAliasSubdomain
  cases user.id with
  | error e => rfl
  | ok customer =>
    exact h.fetchSome_congr h' (q := Ownership.aliasSubdomain id customer)
      (m := fun found => hostPlan (hostName found.1.name found.2.name)
        (aliasSubdomainStatements id found.1 found.2 (hostName found.1.name found.2.name)))
      rfl (fun _ => rfl)
      (Ownership.aliasSubdomain_congr id customer hsites (fun _ _ => rfl) fun _ _ => rfl)

/-- The key of an alias whose deletion has been planned can be bound. -/
lemma bindFailures?_of_planDomainAlias (h : FaultFree c s) {plan : Plan}
    (hplan : planDomainAlias user id c s = .ok plan) : Json.bindFailures? 1 [id] = none := by
  obtain ⟨customer, -, hplan⟩ := LookupM.bind_eq_ok hplan
  rw [h.fetch_bind] at hplan
  simp only [Ownership.domainAlias, Json.bindFailures?] at hplan ⊢
  cases hid : id.bindFailure? 1 with
  | none => rfl
  | some e =>
    rw [hid] at hplan
    cases hplan

/-- The plan for an alias does not depend on the statuses of the sites. -/
lemma planDomainAlias_congr (h : FaultFree c s) (h' : FaultFree c s')
    (hsites : s.SameSites s') :
    planDomainAlias user id c s' = planDomainAlias user id c s := by
  unfold planDomainAlias
  cases user.id with
  | error e => rfl
  | ok customer =>
    exact h.fetchSome_congr h' (q := Ownership.domainAlias id customer)
      (m := fun found => aliasPlan id found.1 found.2) rfl (fun _ => rfl)
      (Ownership.domainAlias_congr id customer hsites fun _ _ => rfl)

end Jobs

namespace Job

/-- The host by whose accounts a deletion looks for a group, if it has found what it is about.  An
alias's group is looked for by its owner instead. -/
def searchedHost? (user : User) (s : Store) : Job → Option String
  | .deleteSubdomain id => do
    let (sub, domain) ← (Ownership.subdomain id (← user.id.toOption)).answer s
    return Jobs.hostName sub.name domain.name
  | .deleteAliasSubdomain id => do
    let (sub, parent) ← (Ownership.aliasSubdomain id (← user.id.toOption)).answer s
    return Jobs.hostName sub.name parent.name
  | _ => none

variable {user : User} {job : Job} {c : Context} {s s' : Store} {plan : Plan}

/-- A deletion of web space plans the same whatever the statuses of the sites are. -/
lemma plan_congr (hweb : job.isWebDeletion = true) (h : FaultFree c s) (h' : FaultFree c s')
    (hsites : s.SameSites s') : job.plan user c s' = job.plan user c s := by
  cases job with
  | deleteSubdomain id => exact Jobs.planSubdomain_congr h h' hsites
  | deleteAliasSubdomain id => exact Jobs.planAliasSubdomain_congr h h' hsites
  | deleteDomainAlias id => exact Jobs.planDomainAlias_congr h h' hsites
  | _ => cases hweb

/-- The block that a deletion of web space has planned settles, and the search of its cascade has no
choice if the search by a host has none. -/
lemma block_settles (hweb : job.isWebDeletion = true) (h : FaultFree c s)
    (hunique : s.UniqueGroupNames)
    (hhosts : ∀ host ∈ job.searchedHost? user s, (FtpGroups.holding host s).length ≤ 1)
    (hplan : job.plan user c s = .ok plan) :
    ∃ r, plan.block.Settles r ∧ ∀ x, r = .ok x → (x.pruning.candidates s).length ≤ 1 := by
  cases job with
  | deleteSubdomain id =>
    obtain ⟨customer, sub, domain, hcustomer, hfound, rfl⟩ := Jobs.planSubdomain_eq_ok hplan
    have hhost : (FtpGroups.holding (Jobs.hostName sub.name domain.name) s).length ≤ 1 := by
      refine hhosts _ ?_
      simp [searchedHost?, hcustomer, hfound, Except.toOption]
    refine ⟨_, Jobs.hostBlock_settles _ (Jobs.isSweep_of_mem_subdomainStatements id sub _), ?_⟩
    intro x hx
    rw [Cascade.pruning_of hx]
    exact hhost
  | deleteAliasSubdomain id =>
    obtain ⟨customer, sub, parent, hcustomer, hfound, rfl⟩ := Jobs.planAliasSubdomain_eq_ok hplan
    have hhost : (FtpGroups.holding (Jobs.hostName sub.name parent.name) s).length ≤ 1 := by
      refine hhosts _ ?_
      simp [searchedHost?, hcustomer, hfound, Except.toOption]
    refine ⟨_, Jobs.hostBlock_settles _
      (Jobs.isSweep_of_mem_aliasSubdomainStatements id sub parent _), ?_⟩
    intro x hx
    rw [Cascade.pruning_of hx]
    exact hhost
  | deleteDomainAlias id =>
    obtain ⟨customer, row, owner, hcustomer, hfound, rfl⟩ := Jobs.planDomainAlias_eq_ok hplan
    cases hname : row.name with
    | none =>
      have hid := Jobs.bindFailures?_of_planDomainAlias h hplan
      exact ⟨_, Jobs.aliasBlock_settles_of_none hid hname owner, fun _ hx => by cases hx⟩
    | some name =>
      refine ⟨_, Jobs.aliasBlock_settles id hname owner, fun x hx => ?_⟩
      rw [Cascade.pruning_of hx]
      exact Pruning.length_candidates_ofOwner hunique owner.name name
  | _ => cases hweb

end Job

end HostingPanel
