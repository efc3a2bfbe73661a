import Mathlib.Algebra.Order.BigOperators.Group.List
import HostingPanel.Proofs.NotifierUse
import HostingPanel.Proofs.StaleChecks

/-!
# Work that the administrator sees

A job changes statuses and tells the daemon afterwards.  If the daemon cannot be told, the work is
still there, and the administrator can tell the daemon by hand: `Debugger.runPending` does so if
`Debugger.countPending` finds that something waits.  The count goes through the registry of items,
which knows neither certificates nor all statuses of a row, so it has to be shown that every job
leaves something behind that the count sees (`Job.hasWork_of_block`).

`Store.HasWork` says that some item waits for the daemon.
-/

namespace HostingPanel

open OperationM

/-- Some item of the registry waits for the daemon. -/
def Store.HasWork (s : Store) : Prop :=
  ∃ t ∈ ItemType.all, ∃ r ∈ s.rows t.table, t.isItem r = true ∧ Status.isPending (t.status r) = true

/-- The tables of all items are there, and no fault keeps them from being read. -/
structure Debugger.CanCount (c : Context) (s : Store) : Prop where
  /-- There is a connection. -/
  connect : c.fault? .connect none = none
  /-- The tables can be read. -/
  select : ∀ t ∈ ItemType.all, c.fault? .select (some t.table.name) = none
  /-- The tables are there. -/
  present : ∀ t ∈ ItemType.all, t.table ∉ s.missing

/-! ### Counting -/

namespace Debugger

/-- How many items wait in a database. -/
def pendingTotal (s : Store) : Nat :=
  (ItemType.all.map fun t => (pendingItems t).answer s).sum

/-- Something waits if and only if the total is not zero. -/
lemma pendingTotal_pos_iff {s : Store} : 1 ≤ pendingTotal s ↔ s.HasWork := by
  have hkind : ∀ t : ItemType, 0 < (pendingItems t).answer s ↔
      ∃ r ∈ s.rows t.table, t.isItem r = true ∧ Status.isPending (t.status r) = true := by
    intro t
    simp only [pendingItems, List.countP_pos_iff, Bool.and_eq_true]
    exact exists_congr fun r => and_congr_right fun _ => and_comm
  constructor
  · intro hsum
    have hne : ¬ ∀ n ∈ ItemType.all.map fun t => (pendingItems t).answer s, n = 0 := by
      intro hzero
      have htotal : pendingTotal s = 0 := List.sum_eq_zero hzero
      omega
    push Not at hne
    obtain ⟨n, hn, hpos⟩ := hne
    obtain ⟨t, ht, rfl⟩ := List.mem_map.1 hn
    exact ⟨t, ht, (hkind t).1 (Nat.pos_of_ne_zero hpos)⟩
  · rintro ⟨t, ht, hrow⟩
    have hpos : 0 < (pendingItems t).answer s := (hkind t).2 hrow
    have hle : (pendingItems t).answer s ≤ pendingTotal s :=
      List.le_sum_of_mem (List.mem_map_of_mem ht)
    omega

/-- Questions that have all been answered have the answers that the store gives. -/
lemma mapM_readOnce_eq_ok {α β : Type} {q : α → Query β} {l : List α} {c : Context} {s : Store}
    {answers : List β} (h : (l.mapM fun x => readOnce c s (q x)) = .ok answers) :
    answers = l.map fun x => (q x).answer s := by
  induction l generalizing answers with
  | nil =>
    cases h
    rfl
  | cons x l ih =>
    rw [List.mapM_cons] at h
    obtain ⟨first, hfirst, h⟩ := except_bind_eq_ok h
    obtain ⟨rest, hrest, h⟩ := except_bind_eq_ok h
    cases h
    rw [readOnce_eq_ok hfirst, ih hrest, List.map_cons]

/-- What the count answers is the total, if it answers. -/
lemma countPending_eq_ok {c : Context} {p : Panel} {n : Nat}
    (h : (run countPending c p).1 = .ok n) : n = pendingTotal p.store := by
  rw [run_countPending] at h
  cases hcounts : ItemType.all.mapM fun t => readOnce c p.store (pendingItems t) with
  | error e =>
    rw [hcounts] at h
    cases h
  | ok counts =>
    rw [hcounts] at h
    cases h
    rw [pendingTotal, ← mapM_readOnce_eq_ok hcounts, List.sum_eq_foldl]

/-- Questions that are answered each for itself are answered in a row. -/
lemma mapM_readOnce_eq {α β : Type} {q : α → Query β} {l : List α} {c : Context} {s : Store}
    (h : ∀ x ∈ l, readOnce c s (q x) = .ok ((q x).answer s)) :
    (l.mapM fun x => readOnce c s (q x)) = .ok (l.map fun x => (q x).answer s) := by
  induction l with
  | nil => rfl
  | cons x l ih =>
    obtain ⟨hx, hl⟩ := List.forall_mem_cons.1 h
    rw [List.mapM_cons, hx, ih hl]
    rfl

lemma bindFailures?_texts (position : Nat) (texts : List String) :
    Json.bindFailures? position (texts.map .text) = none := by
  induction texts generalizing position with
  | nil => rfl
  | cons text texts ih => simp only [List.map_cons, Json.bindFailures?, Json.bindFailure?, ih]

/-- The items of a kind are counted if their table can be read. -/
lemma readOnce_pendingItems {c : Context} {s : Store} (h : CanCount c s) {t : ItemType}
    (ht : t ∈ ItemType.all) :
    readOnce c s (pendingItems t) = .ok ((pendingItems t).answer s) := by
  have hmissing : List.find? s.missing.contains [t.table] = none := by
    simpa using h.present t ht
  have hobstacle : (pendingItems t).footprint.obstacle? c s = none := by
    simp only [Query.footprint, pendingItems, Footprint.obstacle?, h.select t ht, hmissing,
      bindFailures?_texts]
  simp only [readOnce, checkFault, h.connect, checkFootprint, hobstacle]
  rfl

/-- If the tables can be read, the count answers with the total. -/
lemma run_countPending_of_canCount {c : Context} {p : Panel} (h : CanCount c p.store) :
    run countPending c p = (.ok (pendingTotal p.store), p) := by
  rw [run_countPending, mapM_readOnce_eq fun t ht => readOnce_pendingItems h ht, pendingTotal,
    List.sum_eq_foldl]
  rfl

/-- If something waits, a request by hand does not answer that nothing does. -/
lemma runPending_of_hasWork {c : Context} {p : Panel} (hwork : p.store.HasWork) :
    (run runPending c p).1 ≠
      .ok (false, "There is no pending request. Operation canceled.") := by
  rw [run_runPending_eq]
  cases hresult : (run countPending c p).1 with
  | error e => exact fun h => by cases h
  | ok count =>
    have hpos : count ≠ 0 := by
      have htotal := countPending_eq_ok hresult
      have hwaiting := pendingTotal_pos_iff.2 hwork
      omega
    simp only [if_neg hpos]
    rcases run Outbox.notifyAfterCommit c p with ⟨e | told, q⟩
    · exact fun h => by cases h
    · simp only
      split <;> exact fun h => by simp at h

/-- If something waits and can be counted, a request by hand is an announcement. -/
lemma run_runPending_of_hasWork {c : Context} {p : Panel} (hwork : p.store.HasWork)
    (hcan : CanCount c p.store) :
    (run runPending c p).2 = (run Outbox.notifyAfterCommit c p).2 := by
  have hpos : pendingTotal p.store ≠ 0 := by
    have hwaiting := pendingTotal_pos_iff.2 hwork
    omega
  rw [run_runPending_eq, run_countPending_of_canCount hcan]
  simp only [if_neg hpos]
  rcases run Outbox.notifyAfterCommit c p with ⟨e | told, q⟩ <;> rfl

end Debugger

/-! ### Attempts -/

/-- A fresh notifier tries to connect if and only if the daemon waits to be told. -/
lemma Notifier.isSome_contact_send {n : Notifier} (hfresh : n.sent = false) (c : Context) :
    (n.send c).contact.isSome = n.daemonType.isText listeningType := by
  cases htype : n.daemonType.isText listeningType with
  | false => rw [contact_send_eq_none htype, Option.isSome_none]
  | true =>
    unfold send
    simp only [hfresh, htype, Bool.not_true, Bool.false_eq_true, if_false]
    split <;> rfl

/-- An announcement with a fresh notifier is a call of it. -/
lemma Outbox.notifier_notifyAfterCommit_of_fresh {c : Context} {p : Panel}
    (hfresh : p.notifier.sent = false) :
    (run notifyAfterCommit c p).2.notifier = (p.notifier.send c).notifier ∧
      (run notifyAfterCommit c p).2.contacts =
        p.contacts ++ (p.notifier.send c).contact.toList := by
  obtain ⟨journal, hrun⟩ := run_notifyAfterCommit_of_fresh (c := c) hfresh
  rw [hrun]
  simp only
  split <;> exact ⟨rfl, rfl⟩

/-! ### Work that a job leaves -/

namespace Store

open Statement

/-- A statement that makes an item wait leaves work, whatever else has been done to the other
tables. -/
lemma hasWork_of_updateRows {t : ItemType} (ht : t ∈ ItemType.all) {s s' : Store}
    {picks : t.table.Row → Bool} {change : t.table.Row → t.table.Row} {r : t.table.Row}
    (hrows : s'.rows t.table = updateRows picks change (s.rows t.table)) (hr : r ∈ s.rows t.table)
    (hpicked : picks r = true) (hitem : t.isItem (change r) = true)
    (hpending : Status.isPending (t.status (change r)) = true) : s'.HasWork := by
  refine ⟨t, ht, change r, ?_, hitem, hpending⟩
  rw [hrows, updateRows]
  exact List.mem_map.2 ⟨r, hr, if_pos hpicked⟩

lemma HasWork.congr {s s' : Store} (h : s.HasWork)
    (hrows : ∀ t, t ≠ .outbox → s'.rows t = s.rows t) : s'.HasWork := by
  obtain ⟨t, ht, r, hr, hwaits⟩ := h
  exact ⟨t, ht, r, hrows t.table (ItemType.table_ne_outbox ht) ▸ hr, hwaits⟩

/-- A mail account waits for the daemon. -/
def HasMailWork (s : Store) : Prop :=
  ∃ m : Mailbox, m ∈ s.rows .mail ∧ Status.isPending m.status = true

lemma HasMailWork.hasWork {s : Store} (h : s.HasMailWork) : s.HasWork := by
  obtain ⟨m, hm, hpending⟩ := h
  exact ⟨.mail, by simp [ItemType.all], m, hm, rfl, hpending⟩

/-- Taking an address out of a list of targets takes no work away. -/
lemma HasMailWork.detach {s : Store} (h : s.HasMailWork) {address : Option String} {m : Mailbox}
    {st : Statement} (hst : st ∈ Jobs.detach address m) : (st.apply s).HasMailWork := by
  obtain ⟨waiting, hwaiting, hpending⟩ := h
  -- The statement sets statuses that wait, so the account waits whether it is picked or not.
  have hstep : ∀ (params : List Json) (picks : Mailbox → Bool) (change : Mailbox → Mailbox),
      (∀ r, Status.isPending (change r).status = true) →
      ((Statement.update .mail [] params (fun _ => picks) change).apply s).HasMailWork := by
    intro params picks change hchange
    refine ⟨if picks waiting then change waiting else waiting, ?_, ?_⟩
    · simp only [apply, modify, rows_set_self, updateRows]
      exact List.mem_map_of_mem hwaiting
    · split
      · exact hchange waiting
      · exact hpending
  unfold Jobs.detach at hst
  split at hst
  · cases hst
  · split at hst
    · cases hst
    · simp only at hst
      split at hst
      · rw [List.mem_singleton.1 hst]
        exact hstep _ _ _ fun _ => rfl
      · rw [List.mem_singleton.1 hst]
        exact hstep _ _ _ fun _ => rfl

/-- Taking an address out of any lists of targets takes no work away. -/
lemma HasMailWork.detachAll {s : Store} (h : s.HasMailWork) {sts : List Statement}
    (hsts : ∀ st ∈ sts, ∃ address m, st ∈ Jobs.detach address m) :
    (applyAll sts s).HasMailWork := by
  induction sts generalizing s with
  | nil => exact h
  | cons st sts ih =>
    obtain ⟨⟨address, m, hst⟩, hrest⟩ := List.forall_mem_cons.1 hsts
    exact ih (h.detach hst) hrest

end Store

lemma DomainRequest.isPending_target {user : User} {job : Job} {c : Context} {s : Store}
    {x : DomainRequest} (h : job.Requests user c s x) :
    Status.isPending (some x.target) = true := by
  cases job with
  | changeCustomerStatus id action =>
    obtain ⟨y, -, -, -, -, -, -, -, rfl⟩ := h
    obtain ⟨action, hard, id, account, domain⟩ := y
    cases action <;> rfl
  | scheduleBackupRestore =>
    obtain ⟨customer, -, rfl⟩ := h
    rfl
  | _ => cases h

/-- A request about a domain that is open lets the domain wait. -/
lemma Store.hasWork_of_request {user : User} {job : Job} {c : Context} {s s' : Store} {plan : Plan}
    (hjob : job.checksDomain = true) (hplan : job.plan user c s = .ok plan)
    (hblock : plan.block c s = .ok ((), s')) : s'.HasWork := by
  obtain ⟨x, hrequests, hopen, -, hruns⟩ := Job.request_of_plan hjob hplan
  obtain ⟨d, hd, hfor, hchecked⟩ := hopen
  obtain ⟨hdomains, -⟩ := hruns hblock
  have hpicked : (x.isFor d && Cell.isText x.checked d.status) = true := by
    simp [hfor, hchecked, Cell.isText]
  exact hasWork_of_updateRows (t := .domain) (by simp [ItemType.all]) hdomains hd hpicked rfl
    (DomainRequest.isPending_target hrequests)

/-- The deletion of a mail account that is there leaves work, whichever other accounts have the
address in a list. -/
lemma Store.hasMailWork_of_mailAccount {id : Json} {domainId : Int} {m : Mailbox} {s : Store}
    (h : (Jobs.mailAccount id domainId).answer s = some m) {address : Option String}
    (found : List Mailbox) :
    (Jobs.purgeAutoreplies.apply (Statement.applyAll (found.flatMap (Jobs.detach address))
      ((Jobs.scheduleMailbox id).apply s))).HasMailWork := by
  have hm : m ∈ s.rows .mail := List.mem_of_find?_eq_some h
  have hpicked := List.find?_some h
  simp only [Bool.and_eq_true] at hpicked
  have hscheduled : ((Jobs.scheduleMailbox id).apply s).HasMailWork := by
    refine ⟨{ m with status := some Status.toDelete }, ?_, rfl⟩
    simp only [Jobs.scheduleMailbox, Statement.apply, modify, rows_set_self, Statement.updateRows]
    exact List.mem_map.2 ⟨m, hm, if_pos hpicked.1⟩
  have hdetached : (Statement.applyAll (found.flatMap (Jobs.detach address))
      ((Jobs.scheduleMailbox id).apply s)).HasMailWork := by
    refine hscheduled.detachAll fun st hst => ?_
    obtain ⟨referrer, -, hreferrer⟩ := List.mem_flatMap.1 hst
    exact ⟨address, referrer, hreferrer⟩
  -- The last statement is about logs.
  exact hdetached

/-- A statement on items of one kind that has picked an item and lets it wait leaves work. -/
lemma Store.hasWork_of_count {t : ItemType} (ht : t ∈ ItemType.all) {mentions : List Table}
    {params : List Json} {picks : Store → t.table.Row → Bool} {change : t.table.Row → t.table.Row}
    {s : Store} (hcount : (Statement.update t.table mentions params picks change).count s ≠ 0)
    (hitem : ∀ r, t.isItem (change r) = true)
    (hpending : ∀ r, Status.isPending (t.status (change r)) = true) :
    ((Statement.update t.table mentions params picks change).apply s).HasWork := by
  obtain ⟨r, hr, hpicked⟩ := List.countP_pos_iff.1 (Nat.pos_of_ne_zero hcount)
  refine Store.hasWork_of_updateRows ht ?_ hr hpicked (hitem r) (hpending r)
  exact s.rows_set_self t.table _

/-- The block that a job has planned leaves work, in whatever statuses it has found the items. -/
theorem Job.hasWork_of_block {user : User} {job : Job} {c : Context} {s s' : Store} {plan : Plan}
    (hplan : job.plan user c s = .ok plan) (hblock : plan.block c s = .ok ((), s')) :
    s'.HasWork := by
  cases job with
  | deleteSubdomain id =>
    obtain ⟨customer, sub, domain, -, hfound, rfl⟩ := Jobs.planSubdomain_eq_ok hplan
    obtain ⟨stored, hstored, rfl⟩ := Jobs.hostBlock_eq_ok hblock
    obtain ⟨hsub, hkey, -⟩ := Ownership.mem_of_subdomain hfound
    have hspared : (Statement.applyAll stored s).rows .subdomain = s.rows .subdomain :=
      FtpGroups.rows_of_isStored hstored (by decide) s
    exact Store.hasWork_of_updateRows (t := .subdomain) (by simp [ItemType.all]) (by rfl)
      (hspared ▸ hsub) hkey rfl rfl
  | deleteAliasSubdomain id =>
    obtain ⟨customer, sub, parent, -, hfound, rfl⟩ := Jobs.planAliasSubdomain_eq_ok hplan
    obtain ⟨stored, hstored, rfl⟩ := Jobs.hostBlock_eq_ok hblock
    obtain ⟨hsub, hkey, -⟩ := Ownership.mem_of_aliasSubdomain hfound
    have hspared : (Statement.applyAll stored s).rows .aliasSubdomain = s.rows .aliasSubdomain :=
      FtpGroups.rows_of_isStored hstored (by decide) s
    exact Store.hasWork_of_updateRows (t := .aliasSubdomain) (by simp [ItemType.all]) (by rfl)
      (hspared ▸ hsub) hkey rfl rfl
  | deleteDomainAlias id =>
    obtain ⟨customer, row, owner, -, hfound, rfl⟩ := Jobs.planDomainAlias_eq_ok hplan
    obtain ⟨stored, name, hstored, -, rfl⟩ := Jobs.aliasBlock_eq_ok hblock
    obtain ⟨hrow, hkey⟩ := Ownership.mem_of_domainAlias hfound
    have hspared : (Statement.applyAll stored s).rows .domainAlias = s.rows .domainAlias :=
      FtpGroups.rows_of_isStored hstored (by decide) s
    exact Store.hasWork_of_updateRows (t := .domainAlias) (by simp [ItemType.all]) (by rfl)
      (hspared ▸ hrow) hkey rfl rfl
  | deleteCustomer id =>
    obtain ⟨account, domain, hfound, rfl⟩ := Jobs.planCustomer_eq_ok hplan
    obtain ⟨creator, hanswer⟩ := Ownership.needManagedCustomer_eq_ok hfound
    obtain ⟨haccount, hkey, -⟩ := Ownership.mem_of_customer hanswer
    obtain ⟨hrole, -⟩ := Ownership.role_of_customer hanswer
    obtain rfl := TransactionM.executeAll_eq_ok hblock
    have hrows : (Statement.applyAll (Jobs.customerStatements id account.name domain.id) s).rows
        .admin = Statement.updateRows (fun (a : Admin) => id.equalsKey a.id)
          (fun (a : Admin) => { a with status := some Status.toDelete }) (s.rows .admin) := by
      rfl
    -- The registry counts accounts of customers only.
    have hitem : Cell.isText "user" account.role = true := by
      rw [hrole]
      rfl
    exact Store.hasWork_of_updateRows (t := .user) (by simp [ItemType.all]) hrows haccount hkey
      hitem rfl
  | changeCustomerStatus id action =>
    exact Store.hasWork_of_request (by rfl) hplan hblock
  | scheduleBackupRestore => exact Store.hasWork_of_request (by rfl) hplan hblock
  | deleteMailAccount id =>
    obtain ⟨customer, domain, m, -, -, hfound, rfl⟩ := Jobs.planMailAccount_eq_ok hplan
    obtain rfl := Jobs.mailBlock_eq_ok hblock
    exact (Store.hasMailWork_of_mailAccount hfound _).hasWork
  | deleteFtpAccount userid =>
    obtain ⟨customer, owner, -, hfound, rfl⟩ := Jobs.planFtpAccount_eq_ok hplan
    obtain ⟨u, hu, hname, -⟩ := Ownership.mem_of_ftpOwner hfound
    obtain rfl := Jobs.ftpBlock_eq_ok hblock
    have hspared := FtpGroups.rows_of_isStored (Jobs.ftpGroupStatements_isStored userid owner s)
      (t := .ftpUser) (by decide) s
    exact Store.hasWork_of_updateRows (t := .ftp) (by simp [ItemType.all]) (by rfl)
      (hspared ▸ hu) hname rfl rfl
  | deleteDnsRecord id =>
    cases hplan
    obtain ⟨customer, -, hcount, rfl⟩ := Jobs.dnsBlock_eq_ok hblock
    exact Store.hasWork_of_count (t := .dns) (by simp [ItemType.all]) hcount (fun _ => rfl)
      fun _ => rfl
  | deleteProtectedArea id =>
    obtain ⟨customer, domain, -, -, rfl⟩ := Jobs.planProtectedArea_eq_ok hplan
    obtain ⟨hcount, rfl⟩ := Jobs.picking_eq_ok hblock
    exact Store.hasWork_of_count (t := .area) (by simp [ItemType.all]) hcount (fun _ => rfl)
      fun _ => rfl
  | deleteCertificate ownerType ownerId id =>
    obtain ⟨customer, type, name, -, -, hfound, rfl⟩ := Jobs.planCertificate_eq_ok hplan
    obtain ⟨-, rfl⟩ := Jobs.certificateBlock_eq_ok hblock
    -- Certificates are no items, but their owners are.
    obtain ⟨r, hr, hkey, -⟩ := Ownership.mem_of_ownerName hfound
    have hitem : type.item ∈ ItemType.all := type.item_mem_all
    cases type <;> exact Store.hasWork_of_updateRows hitem (by rfl) hr hkey rfl rfl

/-- Scheduled work is always visible to the administrator.  Take any database, whatever the statuses
in it, and any job that succeeds.  In the state after it, the count of what waits is at least one
whenever it can be made, and it can be made unless a fault or a missing table keeps an item from
being read.  So a request by hand with a notifier that has not been used never answers that nothing
is pending: it uses the notifier, which tries to connect if the daemon waits to be told. -/
theorem job_leaves_pending_work {user : User} {job : Job} {c : Context} {p q : Panel}
    {answer : String} (hrun : run (job.run user) c p = (.ok answer, q)) (c' : Context)
    (n : Notifier) (hfresh : n.sent = false) :
    (∀ count, (run Debugger.countPending c' q).1 = .ok count → 1 ≤ count) ∧
      (run Debugger.runPending c' { q with notifier := n }).1 ≠
        .ok (false, "There is no pending request. Operation canceled.") ∧
      (Debugger.CanCount c' q.store →
        (∃ count, run Debugger.countPending c' q = (.ok count, q) ∧ 1 ≤ count) ∧
        (run Debugger.runPending c' { q with notifier := n }).2.notifier.sent = true ∧
        ∃ contact : Option Contact,
          (run Debugger.runPending c' { q with notifier := n }).2.contacts =
            q.contacts ++ contact.toList ∧
          contact.isSome = n.daemonType.isText "imscp") := by
  obtain ⟨plan, hplan, changed, -, -, hblock, -, hrows, -⟩ := commitsWithEntry_of_run_job hrun
  have hwork : q.store.HasWork := (Job.hasWork_of_block hplan hblock).congr hrows
  refine ⟨fun count hcount => ?_, Debugger.runPending_of_hasWork hwork, fun hcan => ⟨?_, ?_⟩⟩
  · rw [Debugger.countPending_eq_ok hcount]
    exact Debugger.pendingTotal_pos_iff.2 hwork
  · exact ⟨_, Debugger.run_countPending_of_canCount hcan, Debugger.pendingTotal_pos_iff.2 hwork⟩
  · have hnotify : (run Debugger.runPending c' { q with notifier := n }).2 =
        (run Outbox.notifyAfterCommit c' { q with notifier := n }).2 :=
      Debugger.run_runPending_of_hasWork hwork hcan
    obtain ⟨hnotifier, hcontacts⟩ := Outbox.notifier_notifyAfterCommit_of_fresh
      (c := c') (p := { q with notifier := n }) hfresh
    rw [hnotify, hnotifier]
    exact ⟨n.sent_send c', _, hcontacts, Notifier.isSome_contact_send hfresh c'⟩

/-- A panel with a certificate for the customer's domain.  The certificate waits for its deletion
already, and the domain is in service. -/
def sampleSecured : Panel where
  store :=
    (Store.empty.set .domain
      [{ id := 1, name := some "example.test", ownerId := some (.whole 7) }]).set .certificate
      [{ id := 9, ownerId := some (.whole 1), ownerType := some "dmn", status := some "todelete" }]
  notifier := Notifier.create {}

/-- The panel after the customer has deleted the certificate once more, while the daemon refused to
be connected to. -/
def sampleSecuredLeft : Panel :=
  (run (Job.run sampleCustomer (.deleteCertificate (.text "dmn") (.int 1) (.int 9)))
    { peer := .refusing "Connection refused" } sampleSecured).2

/-- Certificates are not counted, and this one waited before.  The domain waits now, so a request by
hand tells the daemon, which is willing by then. -/
theorem job_leaves_pending_work_sample :
    run (Job.run sampleCustomer (.deleteCertificate (.text "dmn") (.int 1) (.int 9)))
        { peer := .refusing "Connection refused" } sampleSecured =
        (.ok "SSL certificate successfully scheduled for deletion.", sampleSecuredLeft) ∧
      (∃ count, run Debugger.countPending {} sampleSecuredLeft = (.ok count, sampleSecuredLeft) ∧
        1 ≤ count) ∧
      ∃ contact : Contact,
        (run Debugger.runPending {}
          { sampleSecuredLeft with notifier := Notifier.create {} }).2.contacts =
          sampleSecuredLeft.contacts ++ [contact] := by
  have hrun : run (Job.run sampleCustomer (.deleteCertificate (.text "dmn") (.int 1) (.int 9)))
      { peer := .refusing "Connection refused" } sampleSecured =
      (.ok "SSL certificate successfully scheduled for deletion.", sampleSecuredLeft) :=
    Prod.ext rfl rfl
  have hcan : Debugger.CanCount {} sampleSecuredLeft.store :=
    ⟨rfl, fun _ _ => rfl, fun _ _ => List.not_mem_nil⟩
  obtain ⟨-, -, hcounts⟩ := job_leaves_pending_work hrun {} (Notifier.create {}) rfl
  obtain ⟨hcount, -, contact, hcontacts, hsome⟩ := hcounts hcan
  obtain ⟨contact, rfl⟩ := Option.isSome_iff_exists.1 (hsome.trans (by rfl))
  exact ⟨hrun, hcount, contact, hcontacts⟩

end HostingPanel
