import HostingPanel.Proofs.Cascades
import HostingPanel.Proofs.DaemonIndependence

/-!
# The order of deletions of web space

Deletions of subdomains, of subdomains of aliases and of aliases commute
(`web_deletions_commute`).  Two of them may share a group of FTP accounts, and the second one may
find the group with other members or not at all; still it gives the answer that it gives when it
comes first, and the tables end up the same in either order.

A deletion acts in the same way in all databases that resemble each other (`WebDeletion.Acts`): it
has the same result, and it does to the tables what one cascade does, or nothing.  One deletion
leaves a database that resembles the one before it (`WebDeletion.Acts.resembles_after`), so the
other one acts there as before, and the two cascades can change places.
-/

namespace HostingPanel

open OperationM

/-! ### Keys of the outbox -/

namespace Outbox

/-- The next key of the outbox can be told from the keys of the entries and the largest key that was
ever given out. -/
lemma nextKey?_congr {s s' : Store}
    (hids : (s'.rows .outbox).map (fun (e : OutboxEntry) => e.id) =
      (s.rows .outbox).map fun (e : OutboxEntry) => e.id)
    (hlast : s'.lastOutboxId = s.lastOutboxId) : s'.nextKey? .outbox = s.nextKey? .outbox := by
  have hkeys (s : Store) : s.nextKey? .outbox =
      (fun keys => if keys.foldl max s.lastOutboxId < Store.largestKey
        then some (keys.foldl max s.lastOutboxId + 1) else none)
        ((s.rows .outbox).map fun (e : OutboxEntry) => e.id) := rfl
  rw [hkeys, hkeys, hids, hlast]

lemma OnlyDispatches.nextKey?_eq {s s' : Store} (h : OnlyDispatches s s') :
    s'.nextKey? .outbox = s.nextKey? .outbox :=
  nextKey?_congr h.entries.ids h.last

/-- If there are keys for two changes, the one takes the next key and leaves one for the other. -/
lemma nextKey?_lt_of_hasKeys {s : Store} {id : Int} (h : s.HasKeys 2)
    (hid : s.nextKey? .outbox = some id) : id < Store.largestKey := by
  obtain ⟨next, hnext, hroom⟩ := h
  cases hid.symm.trans hnext
  omega

/-- The largest of some keys and of a key that is larger than they are. -/
lemma foldl_max_append {keys : List Int} {k : Int} (h : ∀ key ∈ keys, key < k) :
    (keys ++ [k]).foldl max k = k := by
  have hkeys : keys.foldl max k = k := by
    induction keys with
    | nil => rfl
    | cons key keys ih =>
      obtain ⟨hfirst, hrest⟩ := List.forall_mem_cons.1 h
      rw [List.foldl_cons, Int.max_eq_left (Int.le_of_lt hfirst), ih hrest]
  rw [List.foldl_append, hkeys]
  exact Int.max_self k

lemma nextKey?_append {s : Store} {id : Int} (hid : s.nextKey? .outbox = some id) (now : Int)
    (reason : String) :
    (append s id now reason).nextKey? .outbox =
      if id < Store.largestKey then some (id + 1) else none := by
  have hkeys : ∀ key ∈ (s.rows .outbox).map (fun (e : OutboxEntry) => e.id), key < id := by
    intro key hkey
    obtain ⟨e, he, rfl⟩ := List.mem_map.1 hkey
    exact (lt_of_nextKey?_eq_some hid).1 e he
  have hlargest : (((append s id now reason).rows .outbox).map
      fun (e : OutboxEntry) => e.id).foldl max id = id := by
    rw [rows_append, List.map_append]
    exact foldl_max_append hkeys
  have hnext : (append s id now reason).nextKey? .outbox =
      (fun last => if last < Store.largestKey then some (last + 1) else none)
        ((((append s id now reason).rows .outbox).map fun (e : OutboxEntry) => e.id).foldl
          max id) := rfl
  rw [hnext, hlargest]

end Outbox

/-! ### One job -/

/-- What a job answers when its change has been committed: the daemon is told and the name of the
user is asked for, and both can fail. -/
def Plan.reply (plan : Plan) (user : User) (n : Notifier) (c : Context) :
    Except Failure String := do
  discard (n.send c).answer
  discard user.name
  return plan.answer

/-- A job that is committed gives its answer, and after the commit entries may be marked. -/
lemma run_job_of_commit {user : User} {job : Job} {c : Context} {p : Panel} {plan : Plan}
    {committed : Store} (hplan : job.plan user c p.store = .ok plan)
    (h : commitBlock c p.store (announced (.text plan.action) plan.block) = .ok ((), committed)) :
    (run (job.run user) c p).1 = plan.reply user p.notifier c ∧
      Outbox.OnlyDispatches committed (run (job.run user) c p).2.store := by
  have hrun : run (job.run user) c p = run (plan.carryOut user) c p := by
    rw [run_job]
    simp only [hplan]
  refine ⟨?_, ?_⟩
  · rw [hrun, result_carryOut, run_scheduledChange]
    simp only [h, Outbox.map_result_notifyAfterCommit, Plan.reply]
    cases (p.notifier.send c).answer <;> rfl
  · rw [hrun, store_carryOut, run_scheduledChange]
    simp only [h]
    exact (Outbox.marksOnly_notifyAfterCommit c { p with store := committed }).onlyDispatches

/-! ### One deletion -/

/-- A call of a deletion of web space, in its own surroundings and with its own notifier. -/
structure WebDeletion where
  context : Context
  notifier : Notifier
  user : User
  job : Job
  /-- It is a deletion of a subdomain, of a subdomain of an alias or of an alias. -/
  web : job.isWebDeletion = true

namespace WebDeletion

variable {d : WebDeletion} {s : Store} {p : Panel}

/-- Makes the deletion. -/
def run (d : WebDeletion) (p : Panel) : Except Failure String × Panel :=
  OperationM.run (d.job.run d.user) d.context { p with notifier := d.notifier }

/-- The answer of the deletion, or its failure. -/
def result (d : WebDeletion) (p : Panel) : Except Failure String :=
  (d.run p).1

/-- The panel after the deletion. -/
def after (d : WebDeletion) (p : Panel) : Panel :=
  (d.run p).2

/-- What a deletion answers when its change has been committed: the daemon is told and the name of
the user is asked for, and both can fail. -/
def reply (d : WebDeletion) (plan : Plan) : Except Failure String := do
  discard (d.notifier.send d.context).answer
  discard d.user.name
  return plan.answer

/-- The deletion fails and leaves the database as it is. -/
def Fails (d : WebDeletion) (e : Failure) (p : Panel) : Prop :=
  d.result p = .error e ∧ (d.after p).store = p.store

lemma fails_of_plan {e : Failure} (h : d.job.plan d.user d.context p.store = .error e) :
    d.Fails e p := by
  have hrun : d.run p = (.error e, { p with notifier := d.notifier }) := by
    rw [run, run_job]
    simp only [h]
  exact ⟨congrArg Prod.fst hrun, congrArg (fun r => r.2.store) hrun⟩

lemma fails_of_commit {plan : Plan} {e : Failure}
    (hplan : d.job.plan d.user d.context p.store = .ok plan)
    (h : commitBlock d.context p.store (announced (.text plan.action) plan.block) = .error e) :
    d.Fails (e.wrapped (.text plan.failureMessage)) p := by
  have hrun : d.run p = OperationM.run (plan.carryOut d.user) d.context
      { p with notifier := d.notifier } := by
    rw [run, run_job]
    simp only [hplan]
  refine ⟨?_, ?_⟩
  · rw [result, hrun, result_carryOut, run_scheduledChange]
    simp only [h]
    rfl
  · rw [after, hrun, store_carryOut, run_scheduledChange]
    simp only [h]

/-- A deletion that is committed gives its answer, and after the commit entries may be marked. -/
lemma commits_of_commit {plan : Plan} {committed : Store}
    (hplan : d.job.plan d.user d.context p.store = .ok plan)
    (h : commitBlock d.context p.store (announced (.text plan.action) plan.block) =
      .ok ((), committed)) :
    d.result p = d.reply plan ∧ Outbox.OnlyDispatches committed (d.after p).store :=
  run_job_of_commit (p := { p with notifier := d.notifier }) hplan h

end WebDeletion

/-! ### The same deletion in other databases -/

/-- Two databases in which the same deletions can be made: the same tables are missing, the sites
are the same but for their statuses, and the outbox has a key left in both or in neither. -/
structure Store.Resembles (s s' : Store) : Prop where
  missing : s'.missing = s.missing
  sites : s.SameSites s'
  keys : (s'.nextKey? .outbox).isSome = (s.nextKey? .outbox).isSome

lemma Store.Resembles.refl (s : Store) : s.Resembles s :=
  ⟨rfl, .refl s, rfl⟩

/-- A database that resembles one without faults has none. -/
lemma FaultFree.of_resembles {c : Context} {s s' : Store} (h : FaultFree c s)
    (hs : s.Resembles s') : FaultFree c s' :=
  ⟨h.faults, by rw [hs.missing, h.missing]⟩

/-- The database after a cascade, or as it is. -/
def Cascade.effect? (x : Option Cascade) (s : Store) : Store :=
  x.elim s (·.effect s)

/-- What the commit of a block that settles comes to. -/
lemma FaultFree.commitBlock_announced {c : Context} {s : Store} (h : FaultFree c s)
    (action : String) {block : TransactionM Unit} {r : Except Failure Cascade}
    (hspares : block.Spares .outbox) (hsettles : block.Settles r) :
    commitBlock c s (announced (.text action) block) =
      match r with
      | .error e => .error e
      | .ok x =>
        match s.nextKey? .outbox with
        | none => .error .keysExhausted
        | some id => .ok ((), Outbox.append (x.effect s) id c.now (Outbox.shortened action)) := by
  have hblock := hsettles h
  have hmissing : ∀ s', block c s = .ok ((), s') → s'.missing = [] := by
    intro s' hs'
    cases r with
    | error e =>
      rw [hblock] at hs'
      cases hs'
    | ok x =>
      rw [hblock] at hs'
      cases hs'
      rw [x.missing_effect, h.missing]
  rw [h.commitBlock_eq, h.announced_eq action hspares hmissing, hblock]
  cases r <;> rfl

namespace WebDeletion

variable {d : WebDeletion} {s : Store}

/-- In all databases that resemble a given one, the deletion has the same result, and does to the
tables what a cascade does, or nothing. -/
structure Acts (d : WebDeletion) (s : Store) (r : Except Failure String) (x : Option Cascade) :
    Prop where
  result : ∀ p : Panel, s.Resembles p.store → d.result p = r
  /-- The tables are those after the cascade. -/
  tables : ∀ p : Panel, s.Resembles p.store →
    (Cascade.effect? x p.store).SameTables (d.after p).store
  missing : ∀ p : Panel, s.Resembles p.store → (d.after p).store.missing = p.store.missing
  /-- At most one key of the outbox is used up. -/
  keys : ∀ p : Panel, s.Resembles p.store →
    (d.after p).store.nextKey? .outbox = p.store.nextKey? .outbox ∨
      ∃ id, p.store.nextKey? .outbox = some id ∧ (d.after p).store.nextKey? .outbox =
        if id < Store.largestKey then some (id + 1) else none

namespace Acts

/-- A deletion that always fails does nothing to the tables. -/
lemma of_fails {e : Failure} (h : ∀ p : Panel, s.Resembles p.store → d.Fails e p) :
    d.Acts s (.error e) none where
  result p hp := (h p hp).1
  tables p hp := by
    rw [(h p hp).2]
    exact fun _ _ => rfl
  missing p hp := by rw [(h p hp).2]
  keys p hp := .inl (by rw [(h p hp).2])

/-- A deletion that is always committed does what its cascade does. -/
lemma of_commits {plan : Plan} {x : Cascade} (hfree : FaultFree d.context s)
    (hplan : ∀ p : Panel, s.Resembles p.store → d.job.plan d.user d.context p.store = .ok plan)
    (hspares : plan.block.Spares .outbox) (hsettles : plan.block.Settles (.ok x))
    (hkey : (s.nextKey? .outbox).isSome = true) : d.Acts s (d.reply plan) (some x) := by
  have hcommits : ∀ p : Panel, s.Resembles p.store → ∃ id,
      p.store.nextKey? .outbox = some id ∧ (x.effect p.store).nextKey? .outbox = some id ∧
      d.result p = d.reply plan ∧
      Outbox.OnlyDispatches (Outbox.append (x.effect p.store) id d.context.now
        (Outbox.shortened plan.action)) (d.after p).store := by
    intro p hp
    obtain ⟨id, hid⟩ := Option.isSome_iff_exists.1 (hp.keys.trans hkey)
    have hfree' : FaultFree d.context p.store := hfree.of_resembles hp
    have hkept : (x.effect p.store).nextKey? .outbox = some id :=
      (hspares.nextKey?_eq (hsettles hfree')).trans hid
    have hcommit := hfree'.commitBlock_announced plan.action hspares hsettles
    simp only [hid] at hcommit
    exact ⟨id, hid, hkept, commits_of_commit (hplan p hp) hcommit⟩
  refine ⟨fun p hp => ?_, fun p hp t ht => ?_, fun p hp => ?_, fun p hp => ?_⟩
  all_goals obtain ⟨id, hid, hkept, hresult, hmarks⟩ := hcommits p hp
  · exact hresult
  · rw [hmarks.rows t ht]
    exact Store.rows_set_of_ne _ _ (Ne.symm ht)
  · rw [hmarks.missing]
    exact x.missing_effect p.store
  · refine .inr ⟨id, hid, ?_⟩
    rw [hmarks.nextKey?_eq, Outbox.nextKey?_append hkept]

/-- A deletion leaves a database that resembles the one before it, if there are keys for two. -/
lemma resembles_after {p : Panel} {r : Except Failure String} {x : Option Cascade}
    (h : d.Acts p.store r x) (hkeys : p.store.HasKeys 2) :
    p.store.Resembles (d.after p).store where
  missing := h.missing p (.refl _)
  sites := by
    have hsites : p.store.SameSites (Cascade.effect? x p.store) := by
      cases x with
      | none => exact .refl _
      | some x => exact x.effect_sameSites p.store
    exact hsites.trans (.of_sameTables (h.tables p (.refl _)))
  keys := by
    rcases h.keys p (.refl _) with hsame | ⟨id, hid, hnext⟩
    · rw [hsame]
    · rw [hnext, hid, if_pos (Outbox.nextKey?_lt_of_hasKeys hkeys hid)]
      rfl

end Acts

/-- Without faults a deletion acts in one way in all databases that resemble the given one, and the
search of its cascade has no choice if the search by a host has none. -/
lemma exists_acts (d : WebDeletion) {s : Store} {changes : Nat}
    (hfree : FaultFreeFor changes d.context s)
    (hunique : s.UniqueGroupNames)
    (hhosts : ∀ host ∈ d.job.searchedHost? d.user s, (FtpGroups.holding host s).length ≤ 1) :
    ∃ r x, d.Acts s r x ∧ ∀ y ∈ x, (y.pruning.candidates s).length ≤ 1 := by
  have hplans : ∀ p : Panel, s.Resembles p.store →
      d.job.plan d.user d.context p.store = d.job.plan d.user d.context s :=
    fun p hp => Job.plan_congr d.web hfree.toFaultFree (hfree.of_resembles hp) hp.sites
  cases hplan : d.job.plan d.user d.context s with
  | error e =>
    exact ⟨_, none, .of_fails fun p hp => fails_of_plan ((hplans p hp).trans hplan), by simp⟩
  | ok plan =>
    have hplanned : ∀ p : Panel, s.Resembles p.store →
        d.job.plan d.user d.context p.store = .ok plan :=
      fun p hp => (hplans p hp).trans hplan
    have hspares : plan.block.Spares .outbox := Job.block_spares_outbox hplan
    obtain ⟨r, hsettles, hchoice⟩ := Job.block_settles d.web hfree.toFaultFree hunique
      hhosts hplan
    have hcommit (p : Panel) (hp : s.Resembles p.store) :=
      (hfree.of_resembles hp).commitBlock_announced plan.action hspares hsettles
    cases r with
    | error e =>
      exact ⟨_, none, .of_fails fun p hp => fails_of_commit (hplanned p hp) (hcommit p hp), by simp⟩
    | ok x =>
      obtain ⟨id, hid, -⟩ := hfree.keys
      refine ⟨_, some x, .of_commits hfree.toFaultFree hplanned hspares hsettles ?_, ?_⟩
      · rw [hid]
        rfl
      · rintro _ ⟨⟩
        exact hchoice x rfl

/-- A deletion has the same result before and after another one. -/
lemma result_after {first second : WebDeletion} {p : Panel} {r r' : Except Failure String}
    {x x' : Option Cascade} (hfirst : first.Acts p.store r x) (hsecond : second.Acts p.store r' x')
    (hkeys : p.store.HasKeys 2) :
    second.result (first.after p) = second.result p := by
  rw [hsecond.result _ (hfirst.resembles_after hkeys), hsecond.result p (.refl _)]

/-- The tables after two deletions are those after their cascades. -/
lemma tables_after {first second : WebDeletion} {p : Panel} {r r' : Except Failure String}
    {x x' : Option Cascade} (hfirst : first.Acts p.store r x) (hsecond : second.Acts p.store r' x')
    (hkeys : p.store.HasKeys 2) :
    (Cascade.effect? x' (Cascade.effect? x p.store)).SameTables
      (second.after (first.after p)).store := by
  have hlast := hsecond.tables _ (hfirst.resembles_after hkeys)
  have hbefore : (Cascade.effect? x' (Cascade.effect? x p.store)).SameTables
      (Cascade.effect? x' (first.after p).store) := by
    have htables := hfirst.tables p (.refl _)
    cases x' with
    | none => exact htables
    | some y => exact y.effect_sameTables htables
  exact fun t ht => (hlast t ht).trans (hbefore t ht)

end WebDeletion

/-- Deletions of web space commute.  Take any database without faults in which the names of the
groups of FTP accounts are unique, and any two deletions of subdomains, subdomains of aliases or
aliases, by any users and with any keys, such that no more than one group holds accounts of the host
by which either of them looks for a group.  In either order each of them gives the same answer or
fails with the same failure, and at the end all tables but the outbox have the same contents. -/
theorem web_deletions_commute (first second : WebDeletion) (p : Panel)
    (hfirst : FaultFreeFor 2 first.context p.store)
    (hsecond : FaultFreeFor 2 second.context p.store) (hunique : p.store.UniqueGroupNames)
    (hhosts : ∀ d ∈ [first, second], ∀ host ∈ d.job.searchedHost? d.user p.store,
      (FtpGroups.holding host p.store).length ≤ 1) :
    first.result (second.after p) = first.result p ∧
      second.result (first.after p) = second.result p ∧
      ∀ t, t ≠ .outbox →
        (second.after (first.after p)).store.rows t =
          (first.after (second.after p)).store.rows t := by
  obtain ⟨r, x, hacts, hx⟩ := first.exists_acts hfirst hunique (hhosts first (by simp))
  obtain ⟨r', y, hacts', hy⟩ := second.exists_acts hsecond hunique (hhosts second (by simp))
  have hswap : Cascade.effect? y (Cascade.effect? x p.store) =
      Cascade.effect? x (Cascade.effect? y p.store) := by
    cases x with
    | none => rfl
    | some x =>
      cases y with
      | none => rfl
      | some y => exact x.effect_comm y hunique (hx x rfl) (hy y rfl)
  refine ⟨WebDeletion.result_after hacts' hacts hfirst.keys,
    WebDeletion.result_after hacts hacts' hfirst.keys, fun t ht => ?_⟩
  have htables := WebDeletion.tables_after hacts hacts' hfirst.keys t ht
  have htables' := WebDeletion.tables_after hacts' hacts hfirst.keys t ht
  rw [htables, htables', hswap]

/-- A panel with a customer whose subdomain and alias have one FTP account each.  The two accounts
are all members of one group. -/
def sampleSharedGroup : Panel where
  store :=
    (((((Store.empty.set .admin
      [{ id := 7, name := some "mona", role := some "user" }]).set .domain
      [{ id := 1, name := some "example.test", ownerId := some (.whole 7) }]).set .subdomain
      [{ id := 2, domainId := some (.whole 1), name := some "shop" }]).set .domainAlias
      [{ id := 4, domainId := some (.whole 1), name := some "mona.test" }]).set .ftpUser
      [sampleFtpUser "anna@shop.example.test" 7 "ok", sampleFtpUser "mona@mona.test" 7 "ok"]).set
        .ftpGroup
      [{ rowNumber := 1, name := some "mona", gid := some (.whole 7),
         members := some "anna@shop.example.test,mona@mona.test" }]
  notifier := Notifier.create {}

/-- The customer deletes the subdomain. -/
def sampleSubdomainDeletion : WebDeletion :=
  ⟨{}, Notifier.create {}, sampleCustomer, .deleteSubdomain (.int 2), rfl⟩

/-- The customer deletes the alias. -/
def sampleAliasDeletion : WebDeletion :=
  ⟨{}, Notifier.create {}, sampleCustomer, .deleteDomainAlias (.int 4), rfl⟩

/-- In either order both deletions succeed, and the group has gone at the end: the first one leaves
it with one member, and the second one takes that one out of it. -/
theorem web_deletions_commute_sample :
    sampleSubdomainDeletion.result (sampleAliasDeletion.after sampleSharedGroup) =
        .ok "Subdomain scheduled for deletion." ∧
      sampleAliasDeletion.result (sampleSubdomainDeletion.after sampleSharedGroup) =
        .ok "Domain alias successfully scheduled for deletion." ∧
      ((sampleSubdomainDeletion.after sampleSharedGroup).store.rows .ftpGroup).map
          (fun (g : FtpGroup) => g.members) = [some "mona@mona.test"] ∧
      (sampleAliasDeletion.after
        (sampleSubdomainDeletion.after sampleSharedGroup)).store.rows .ftpGroup = [] ∧
      (sampleSubdomainDeletion.after
        (sampleAliasDeletion.after sampleSharedGroup)).store.rows .ftpGroup = [] := by
  have hhosts : ∀ d ∈ [sampleSubdomainDeletion, sampleAliasDeletion],
      ∀ host ∈ d.job.searchedHost? d.user sampleSharedGroup.store,
        (FtpGroups.holding host sampleSharedGroup.store).length ≤ 1 := by
    intro d hd host hhost
    exact List.length_filter_le _ _
  obtain ⟨hsubdomain, halias, htables⟩ := web_deletions_commute sampleSubdomainDeletion
    sampleAliasDeletion sampleSharedGroup ⟨⟨rfl, rfl⟩, 1, rfl, by decide⟩
    ⟨⟨rfl, rfl⟩, 1, rfl, by decide⟩ (List.pairwise_singleton _ _) hhosts
  have hgone : (sampleAliasDeletion.after
      (sampleSubdomainDeletion.after sampleSharedGroup)).store.rows .ftpGroup = [] := by
    decide +kernel
  refine ⟨hsubdomain.trans ?_, halias.trans ?_, ?_, hgone, ?_⟩
  · rfl
  · rfl
  · decide +kernel
  · rw [← htables .ftpGroup (by decide), hgone]

end HostingPanel
