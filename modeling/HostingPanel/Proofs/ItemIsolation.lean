import HostingPanel.Proofs.Atomicity
import HostingPanel.Proofs.FtpIsolation

/-!
# Jobs on a single item

Five jobs are about one item of a customer: an FTP account, a DNS record, a protected area, a
certificate, or the domain whose backup is restored.  Whether the item belongs to the customer is
found out by one question or by the statement itself, and the statements then go by the key of the
item.  `Job.Reaches` says which rows such a job may change.  Every one of them leads to the
customer, and `single_item_jobs_isolated` says that the jobs change no others, and nothing at all if
the item is not there or is not the customer's.
-/

namespace HostingPanel

open OperationM

/-- The table of the item that a job is about, if there is just one such item. -/
def Job.target? : Job → Option Table
  | .deleteFtpAccount _ => some .ftpUser
  | .deleteDnsRecord _ => some .dns
  | .deleteProtectedArea _ => some .area
  | .deleteCertificate _ _ _ => some .certificate
  | .scheduleBackupRestore => some .domain
  | _ => none

/-- An account that has the key of a customer. -/
def Admin.IsOf (customer : Json) (s : Store) (o : Admin) : Prop :=
  o ∈ s.rows .admin ∧ customer.equalsQuantity (some (.whole o.id)) = true

/-- The rows that a job on a single item of a customer may change. -/
inductive Job.Reaches (customer : Json) (s : Store) : Job → (t : Table) → t.Row → Prop where
  | ftpUser {userid : Json} {u : FtpUser} (hname : userid.equalsText u.userid = true)
    (howner : customer.equalsQuantity u.adminId = true) :
    Reaches customer s (.deleteFtpAccount userid) .ftpUser u
  | ftpGroup {userid : Json} {g : FtpGroup} {o : Admin} (ho : o.IsOf customer s)
    (hname : Cell.agree g.name o.name = true) :
    Reaches customer s (.deleteFtpAccount userid) .ftpGroup g
  | quotaLimit {userid : Json} {l : QuotaLimit} {o : Admin} (ho : o.IsOf customer s)
    (hname : Cell.agree l.name o.name = true) :
    Reaches customer s (.deleteFtpAccount userid) .quotaLimit l
  | quotaTally {userid : Json} {l : QuotaTally} {o : Admin} (ho : o.IsOf customer s)
    (hname : Cell.agree l.name o.name = true) :
    Reaches customer s (.deleteFtpAccount userid) .quotaTally l
  | dns {id : Json} {r : DnsRecord} (hkey : id.equalsKey r.id = true)
    (howner : Ownership.isDomainOf s customer r.domainId = true) :
    Reaches customer s (.deleteDnsRecord id) .dns r
  | area {id : Json} {a : ProtectedArea} (hkey : id.equalsKey a.id = true)
    (howner : Ownership.isDomainOf s customer a.domainId = true) :
    Reaches customer s (.deleteProtectedArea id) .area a
  /-- The certificate, if it is for a site of the customer. -/
  | certificate {ownerType ownerId id : Json} {type : Jobs.OwnerType} {r : type.item.table.Row}
    {x : Certificate} (hnamed : Jobs.OwnerType.named? ownerType = some type)
    (hr : r ∈ s.rows type.item.table) (hid : type.item.hasId ownerId r = true)
    (howner : Ownership.OwnsSite customer s type r) (hkey : id.equalsKey x.id = true)
    (hsite : ownerId.equalsQuantity x.ownerId = true) (htype : x.ownerType = some type.name) :
    Reaches customer s (.deleteCertificate ownerType ownerId id) .certificate x
  /-- The site of the certificate, if it is one of the customer. -/
  | site {ownerType ownerId id : Json} {type : Jobs.OwnerType} {r : type.item.table.Row}
    (hnamed : Jobs.OwnerType.named? ownerType = some type) (hid : type.item.hasId ownerId r = true)
    (howner : Ownership.OwnsSite customer s type r) :
    Reaches customer s (.deleteCertificate ownerType ownerId id) type.item.table r
  | domain {d : Domain} (howner : customer.equalsQuantity d.ownerId = true) :
    Reaches customer s .scheduleBackupRestore .domain d

/-! ### Changes of some rows only -/

/-- A statement changes or removes the rows that it picks. -/
lemma Statement.exists_filterMap (st : Statement) (s : Store) :
    ∃ f : st.table.Row → Option st.table.Row,
      (st.apply s).rows st.table = (s.rows st.table).filterMap f ∧
        ∀ r, f r ≠ some r → st.picks s r = true := by
  cases st with
  | update t mentions params picks change =>
    have hrows : ((update t mentions params picks change).apply s).rows t =
        updateRows (picks s) change (s.rows t) :=
      s.rows_set_self t _
    refine ⟨fun (r : t.Row) => some (if picks s r then change r else r), ?_,
      fun (r : t.Row) hr => ?_⟩
    · exact hrows.trans (congrFun List.filterMap_eq_map.symm (s.rows t))
    · by_contra hpicked
      have hnot : ¬ picks s r = true := hpicked
      exact hr (congrArg some (if_neg hnot))
  | delete t mentions params picks =>
    have hrows : ((delete t mentions params picks).apply s).rows t =
        (s.rows t).filter fun r => !picks s r :=
      s.rows_set_self t _
    refine ⟨Option.guard fun (r : t.Row) => !picks s r, ?_, fun (r : t.Row) hr => ?_⟩
    · exact hrows.trans (congrFun List.filterMap_eq_filter.symm (s.rows t))
    · by_contra hpicked
      have hnot : ¬ picks s r = true := hpicked
      exact hr (by simpa [Option.guard] using hnot)

/-- A statement that has picked some rows has picked one of its table. -/
lemma Statement.exists_of_count {st : Statement} {s : Store} (h : st.count s ≠ 0) :
    ∃ r ∈ s.rows st.table, st.picks s r = true := by
  cases st <;> exact List.countP_pos_iff.1 (Nat.pos_of_ne_zero h)

/-- In all tables but the outbox the rows have stayed in their order, and only rows with a property
have been changed or removed. -/
def Store.ChangesOnly (P : (t : Table) → t.Row → Prop) (s s' : Store) : Prop :=
  ∀ t, t ≠ .outbox → ∃ f : t.Row → Option t.Row,
    s'.rows t = (s.rows t).filterMap f ∧ ∀ r ∈ s.rows t, f r ≠ some r → P t r

namespace Store.ChangesOnly

variable {P : (t : Table) → t.Row → Prop} {s s' : Store}

/-- A database that has the same rows has changed none. -/
lemma of_rows_eq (h : ∀ t, t ≠ .outbox → s'.rows t = s.rows t) : s.ChangesOnly P s' :=
  fun t ht => ⟨some, by rw [h t ht, List.filterMap_some], fun _ _ hne => absurd rfl hne⟩

lemma congr {s'' : Store} (h : s.ChangesOnly P s')
    (hrows : ∀ t, t ≠ .outbox → s''.rows t = s'.rows t) : s.ChangesOnly P s'' := by
  intro t ht
  rw [hrows t ht]
  exact h t ht

/-- A further statement changes its table, which no statement has changed before. -/
lemma apply (h : s.ChangesOnly P s') {st : Statement}
    (hrows : s'.rows st.table = s.rows st.table)
    (hpicked : ∀ r ∈ s.rows st.table, st.picks s' r = true → P st.table r) :
    s.ChangesOnly P (st.apply s') := by
  intro t ht
  by_cases htable : st.table = t
  · subst htable
    obtain ⟨f, hf, hpicks⟩ := st.exists_filterMap s'
    exact ⟨f, by rw [hf, hrows], fun r hr hne => hpicked r hr (hpicks r hne)⟩
  · rw [Statement.rows_apply_of_ne st s' htable]
    exact h t ht

/-- Further statements, each on a table of its own that no statement has changed before. -/
lemma applyAll (h : s.ChangesOnly P s') {sts : List Statement}
    (htables : (sts.map Statement.table).Nodup)
    (hrows : ∀ st ∈ sts, s'.rows st.table = s.rows st.table)
    (hpicked : ∀ st ∈ sts, ∀ s'' r, r ∈ s.rows st.table → st.picks s'' r = true → P st.table r) :
    s.ChangesOnly P (Statement.applyAll sts s') := by
  induction sts generalizing s' with
  | nil => exact h
  | cons st sts ih =>
    obtain ⟨hfirst, hrest⟩ := List.forall_mem_cons.1 hrows
    obtain ⟨hpicked, hpickedRest⟩ := List.forall_mem_cons.1 hpicked
    obtain ⟨hnew, htables⟩ := List.nodup_cons.1 htables
    refine ih (h.apply hfirst fun r hr => hpicked s' r hr) htables (fun st' hst' => ?_) hpickedRest
    have hne : st.table ≠ st'.table := fun htable =>
      hnew (htable ▸ List.mem_map_of_mem hst')
    rw [Statement.rows_apply_of_ne st s' hne]
    exact hrest st' hst'

end Store.ChangesOnly

lemma Store.Keyed.eq_of_hasId {s : Store} (h : s.Keyed) {t : ItemType} (ht : t ∈ ItemType.all)
    {id : Json} {q r : t.table.Row} (hq : q ∈ s.rows t.table) (hr : r ∈ s.rows t.table)
    (hqid : t.hasId id q = true) (hrid : t.hasId id r = true) : q = r := by
  obtain ⟨c, hc, hclash⟩ := ItemType.exists_clash_of_hasId ht hqid hrid
  exact (h t.table (ItemType.table_ne_outbox ht)).eq_of_clash hq hr hc hclash

/-! ### What the five jobs do -/

/-- The owner of an FTP account of a customer has the key of the customer. -/
lemma Admin.isOf_of_refersTo {customer : Json} {s : Store} {o : Admin} {column : Option Quantity}
    (ho : o ∈ s.rows .admin) (hcolumn : Cell.refersTo o.id column = true)
    (hcustomer : customer.equalsQuantity column = true) : o.IsOf customer s := by
  have hkey : column = some (.whole o.id) := by
    simpa [Cell.refersTo] using hcolumn
  exact ⟨ho, hkey ▸ hcustomer⟩

/-- The statements on the group of an FTP account go by the name of its owner. -/
lemma Jobs.reaches_of_ftpGroupStatements {userid customer : Json} {owner : Admin} {s : Store}
    (howner : owner.IsOf customer s) :
    ∀ st ∈ ftpGroupStatements userid owner s, ∀ s' r, st.picks s' r = true →
      Job.Reaches customer s (.deleteFtpAccount userid) st.table r := by
  intro st hst s' r hpicked
  unfold ftpGroupStatements at hst
  split at hst
  · rename_i group hgroup
    have hname : Cell.agree group.name owner.name = true := by
      simpa using List.find?_some hgroup
    split at hst
    · rename_i members _
      unfold FtpGroups.store at hst
      split at hst
      · simp only [FtpGroups.removal, List.mem_cons, List.not_mem_nil, or_false] at hst
        rcases hst with rfl | rfl | rfl
        · exact .ftpGroup howner (Cell.agree_trans hpicked hname)
        · exact .quotaLimit howner (Cell.agree_trans hpicked hname)
        · exact .quotaTally howner (Cell.agree_trans hpicked hname)
      · obtain rfl := List.mem_singleton.1 hst
        exact .ftpGroup howner (Cell.agree_trans hpicked hname)
    · cases hst
  · cases hst

/-- The statements on the group of an FTP account are about three tables. -/
lemma Jobs.nodup_tables_ftpStatements (userid : Json) (owner : Admin) (s : Store) :
    ((ftpGroupStatements userid owner s ++ [scheduleFtpUser userid]).map
      Statement.table).Nodup := by
  have hempty : [Table.ftpUser].Nodup := by decide
  have hmembers : [Table.ftpGroup, .ftpUser].Nodup := by decide
  have hremoval : [Table.ftpGroup, .quotaLimit, .quotaTally, .ftpUser].Nodup := by decide
  unfold ftpGroupStatements
  split
  · split
    · unfold FtpGroups.store
      split
      · exact hremoval
      · exact hmembers
    · exact hempty
  · exact hempty

/-- A job has changed only rows that it may change, and a row of the table of its item is among
these. -/
def Job.KeepsTo (customer : Json) (target : Table) (s s' : Store) (job : Job) : Prop :=
  s.ChangesOnly (job.Reaches customer s) s' ∧
    ∃ r ∈ s.rows target, job.Reaches customer s target r

/-- A statement that has picked a row, and picks no rows but those that the job may change. -/
lemma Job.keepsTo_apply {job : Job} {customer : Json} {s : Store} {st : Statement}
    (hcount : st.count s ≠ 0)
    (hreaches : ∀ r, st.picks s r = true → job.Reaches customer s st.table r) :
    job.KeepsTo customer st.table s (st.apply s) := by
  have hstart : s.ChangesOnly (job.Reaches customer s) s := .of_rows_eq fun _ _ => rfl
  obtain ⟨r, hr, hpicked⟩ := Statement.exists_of_count hcount
  exact ⟨hstart.apply rfl fun r _ => hreaches r, r, hr, hreaches r hpicked⟩

section Blocks

variable {user : User} {id customer : Json} {c : Context} {s s' : Store} {plan : Plan}

namespace Jobs

/-- The deletion of an FTP account keeps to the customer: the account is found by its name alone,
which is a key, and the group by the name of the owner. -/
lemma keepsTo_planFtpAccount {userid : Json} (hkeyed : s.Keyed) (hid : user.id = .ok customer)
    (hplan : planFtpAccount user userid c s = .ok plan) (hblock : plan.block c s = .ok ((), s')) :
    (Job.deleteFtpAccount userid).KeepsTo customer .ftpUser s s' := by
  obtain ⟨customer', owner, hid', hfound, rfl⟩ := planFtpAccount_eq_ok hplan
  cases hid.symm.trans hid'
  obtain ⟨u, hu, hname, hcustomer, howner, hrefers⟩ := Ownership.mem_of_ftpOwner hfound
  have hof : owner.IsOf customer s := Admin.isOf_of_refersTo howner hrefers hcustomer
  have hall : s' =
      Statement.applyAll (ftpGroupStatements userid owner s ++ [scheduleFtpUser userid]) s := by
    rw [Statement.applyAll_append]
    exact ftpBlock_eq_ok hblock
  have hstart : s.ChangesOnly (Job.Reaches customer s (.deleteFtpAccount userid)) s :=
    .of_rows_eq fun _ _ => rfl
  refine ⟨?_, u, hu, .ftpUser hname hcustomer⟩
  rw [hall]
  refine hstart.applyAll (nodup_tables_ftpStatements userid owner s) (fun _ _ => rfl) ?_
  intro st hst s'' r hr hpicked
  rcases List.mem_append.1 hst with hst | hst
  · exact reaches_of_ftpGroupStatements hof st hst s'' r hpicked
  · obtain rfl := List.mem_singleton.1 hst
    obtain rfl : r = u :=
      hkeyed.eq_of_hasId (t := .ftp) (by simp [ItemType.all]) hr hu hpicked hname
    exact .ftpUser hname hcustomer

/-- The deletion of a DNS record keeps to the customer: the statement asks for the owner itself. -/
lemma keepsTo_dnsBlock (hid : user.id = .ok customer)
    (hblock : dnsBlock user id c s = .ok ((), s')) :
    (Job.deleteDnsRecord id).KeepsTo customer .dns s s' := by
  obtain ⟨customer', hid', hcount, rfl⟩ := dnsBlock_eq_ok hblock
  cases hid.symm.trans hid'
  refine Job.keepsTo_apply hcount fun r hpicked => ?_
  simp only [scheduleDnsRecord, Statement.picks, Bool.and_eq_true] at hpicked
  exact .dns hpicked.1.1.1 hpicked.2

/-- The deletion of a protected area keeps to the customer: the area is of the main domain. -/
lemma keepsTo_planProtectedArea (hid : user.id = .ok customer)
    (hplan : planProtectedArea user id c s = .ok plan) (hblock : plan.block c s = .ok ((), s')) :
    (Job.deleteProtectedArea id).KeepsTo customer .area s s' := by
  obtain ⟨customer', domain, hid', hfound, rfl⟩ := planProtectedArea_eq_ok hplan
  cases hid.symm.trans hid'
  obtain ⟨hcount, rfl⟩ := picking_eq_ok hblock
  have howner : customer.equalsQuantity domain.ownerId = true := by
    simpa using List.find?_some hfound
  refine Job.keepsTo_apply hcount fun (a : ProtectedArea) hpicked => ?_
  simp only [scheduleArea, Statement.picks, Bool.and_eq_true] at hpicked
  refine .area hpicked.1.1 (List.any_eq_true.2 ⟨domain, List.mem_of_find?_eq_some hfound, ?_⟩)
  simp [hpicked.1.2, howner]

/-- The deletion of a certificate keeps to the customer: certificate and site are found by the key
of a site of the customer. -/
lemma keepsTo_planCertificate {ownerType ownerId : Json} (hkeyed : s.Keyed)
    (hid : user.id = .ok customer)
    (hplan : planCertificate user ownerType ownerId id c s = .ok plan)
    (hblock : plan.block c s = .ok ((), s')) :
    (Job.deleteCertificate ownerType ownerId id).KeepsTo customer .certificate s s' := by
  obtain ⟨customer', type, name, hid', hnamed, hfound, rfl⟩ := planCertificate_eq_ok hplan
  cases hid.symm.trans hid'
  obtain ⟨hcount, rfl⟩ := certificateBlock_eq_ok hblock
  obtain ⟨site, hsite, hkey, howner⟩ := Ownership.mem_of_ownerName hfound
  obtain ⟨hchanges, hexists⟩ : (Job.deleteCertificate ownerType ownerId id).KeepsTo customer
      .certificate s ((scheduleCertificate type ownerId id).apply s) := by
    refine Job.keepsTo_apply hcount fun (x : Certificate) hpicked => ?_
    simp only [scheduleCertificate, Statement.picks, Bool.and_eq_true] at hpicked
    exact .certificate hnamed hsite hkey howner hpicked.1.1 hpicked.1.2
      (by simpa [Cell.isText] using hpicked.2)
  have htable : Table.certificate ≠ type.item.table := by
    cases type <;> decide
  refine ⟨?_, hexists⟩
  rw [scheduleOwner_eq]
  refine hchanges.apply (Statement.rows_apply_of_ne _ s htable) fun r hr hpicked => ?_
  obtain rfl : r = site := hkeyed.eq_of_hasId type.item_mem_all hr hsite hpicked hkey
  exact .site hnamed hkey howner

/-- The restoration of a backup keeps to the customer: the statement goes by the owner. -/
lemma keepsTo_planBackupRestore (hid : user.id = .ok customer)
    (hplan : planBackupRestore user c s = .ok plan) (hblock : plan.block c s = .ok ((), s')) :
    Job.scheduleBackupRestore.KeepsTo customer .domain s s' := by
  obtain ⟨customer', domain, hid', hanswer, hmay, rfl⟩ := planBackupRestore_eq_ok hplan
  cases hid.symm.trans hid'
  obtain rfl := TransactionM.discard_execute_eq_ok hblock
  have howner : customer.equalsQuantity domain.ownerId = true := by
    simpa using List.find?_some hanswer
  have hstart : s.ChangesOnly (Job.Reaches customer s .scheduleBackupRestore) s :=
    .of_rows_eq fun _ _ => rfl
  refine ⟨hstart.apply rfl fun (d : Domain) _ hpicked => ?_, domain,
    List.mem_of_find?_eq_some hanswer, .domain howner⟩
  simp only [scheduleRestore, Statement.picks, Bool.and_eq_true] at hpicked
  exact .domain hpicked.1

end Jobs

/-- A job on a single item that has been planned and runs keeps to the customer. -/
theorem Job.keepsTo_of_block {job : Job} {target : Table} (hjob : job.target? = some target)
    (hkeyed : s.Keyed) (hid : user.id = .ok customer) (hplan : job.plan user c s = .ok plan)
    (hblock : plan.block c s = .ok ((), s')) : job.KeepsTo customer target s s' := by
  cases job with
  | deleteFtpAccount userid =>
    cases hjob
    exact Jobs.keepsTo_planFtpAccount hkeyed hid hplan hblock
  | deleteDnsRecord id =>
    cases hjob
    cases hplan
    exact Jobs.keepsTo_dnsBlock hid hblock
  | deleteProtectedArea id =>
    cases hjob
    exact Jobs.keepsTo_planProtectedArea hid hplan hblock
  | deleteCertificate ownerType ownerId id =>
    cases hjob
    exact Jobs.keepsTo_planCertificate hkeyed hid hplan hblock
  | scheduleBackupRestore =>
    cases hjob
    exact Jobs.keepsTo_planBackupRestore hid hplan hblock
  | _ => cases hjob

end Blocks

/-- A job whose block does not run to its end fails, and nothing has been touched. -/
lemma run_job_of_block_error {user : User} {job : Job} {c : Context} {p : Panel}
    (hblock : ∀ plan, job.plan user c p.store = .ok plan → ∀ s',
      plan.block c p.store ≠ .ok ((), s')) :
    ∃ e q, run (job.run user) c p = (.error e, q) ∧ p.Untouched q := by
  rw [run_job]
  cases hplan : job.plan user c p.store with
  | error e => exact ⟨e, p, rfl, .refl p⟩
  | ok plan =>
    simp only
    rw [run_carryOut, run_scheduledChange]
    cases hcommit : commitBlock c p.store (announced (.text plan.action) plan.block) with
    | error e => exact ⟨_, _, rfl, rfl, rfl, rfl⟩
    | ok done =>
      obtain ⟨changed, id, hrun, -⟩ := announced_eq_enqueue (commitBlock_eq_ok hcommit)
      exact absurd hrun (hblock plan hplan changed)

/-- The jobs on a single item keep to their customer.  Take any database in which keys are keys,
with any faults, and any customer.  Whatever comes of the deletion of an FTP account, a DNS record,
a protected area or a certificate, or of the restoration of a backup, in every table but the outbox
the rows stay in their order, and those that have been changed or removed lead to the customer.  If
no row of the table of the item is one that the job may change, the job fails and touches
nothing. -/
theorem single_item_jobs_isolated {user : User} {job : Job} {target : Table} {customer : Json}
    (hjob : job.target? = some target) (hid : user.id = .ok customer) (c : Context) (p : Panel)
    (hkeyed : p.store.Keyed) :
    (∀ t, t ≠ .outbox → ∃ f : t.Row → Option t.Row,
      (run (job.run user) c p).2.store.rows t = (p.store.rows t).filterMap f ∧
        ∀ r ∈ p.store.rows t, f r ≠ some r → job.Reaches customer p.store t r) ∧
      ((∀ r ∈ p.store.rows target, ¬ job.Reaches customer p.store target r) →
        ∃ e q, run (job.run user) c p = (.error e, q) ∧ p.Untouched q) := by
  refine ⟨?_, fun hnone => run_job_of_block_error fun plan hplan s' hblock => ?_⟩
  · have heffect := effect_job user job c p
    rcases heffect with hsame | ⟨action, block, ⟨plan, hplan, rfl, rfl⟩, changed, -, -, hblock, -,
      hrows, -⟩
    · exact Store.ChangesOnly.of_rows_eq fun t _ => by rw [hsame]
    · exact (Job.keepsTo_of_block hjob hkeyed hid hplan hblock).1.congr hrows
  · obtain ⟨-, r, hr, hreaches⟩ := Job.keepsTo_of_block hjob hkeyed hid hplan hblock
    exact hnone r hr hreaches

/-- A panel with two customers, each with one FTP account in a group and a limit. -/
def sampleGroups : Panel :=
  { sampleTenants "nils@other.test" with
    store :=
      ((sampleTenants "nils@other.test").store.set .ftpGroup
        [{ rowNumber := 1, name := some "mona", members := some "mona@my_site.test" },
          { rowNumber := 2, name := some "nils", members := some "nils@other.test" }]).set
        .quotaLimit [{ rowNumber := 1, name := some "mona" },
          { rowNumber := 2, name := some "nils" }] }

/-- The panel after the first customer has deleted an FTP account. -/
def sampleGroupsLeft (userid : String) : Except Failure String × Panel :=
  run (Job.run sampleCustomer (.deleteFtpAccount (.text userid))) {} sampleGroups

/-- The first customer deletes the own FTP account, whose group and limit go too, and those of the
second customer stay.  The account of the second customer is out of reach. -/
theorem single_item_jobs_isolated_sample :
    sampleGroups.store.Keyed ∧
      (sampleGroupsLeft "mona@my_site.test").1 = .ok "FTP account successfully deleted." ∧
      ((sampleGroupsLeft "mona@my_site.test").2.store.rows .quotaLimit).map
        (fun (l : QuotaLimit) => l.name) = [some "nils"] ∧
      (∃ f : QuotaLimit → Option QuotaLimit,
        (sampleGroupsLeft "mona@my_site.test").2.store.rows .quotaLimit =
          (sampleGroups.store.rows .quotaLimit).filterMap f ∧
          ∀ (l : QuotaLimit), l ∈ sampleGroups.store.rows .quotaLimit → f l ≠ some l →
            Job.Reaches (.int 7) sampleGroups.store (.deleteFtpAccount (.text "mona@my_site.test"))
              .quotaLimit l) ∧
      ∃ e q, sampleGroupsLeft "nils@other.test" = (.error e, q) ∧ sampleGroups.Untouched q := by
  have hkeyed : sampleGroups.store.Keyed := by
    intro t ht
    cases t <;> first
      | exact .nil
      | exact List.pairwise_singleton _ _
      | exact List.pairwise_pair.2 (by decide +kernel)
  have htarget : ∀ userid, Job.target? (.deleteFtpAccount (.text userid)) = some .ftpUser :=
    fun _ => rfl
  have hid : sampleCustomer.id = .ok (.int 7) := rfl
  obtain ⟨hchanges, -⟩ :=
    single_item_jobs_isolated (htarget "mona@my_site.test") hid {} sampleGroups hkeyed
  obtain ⟨-, hforeign⟩ :=
    single_item_jobs_isolated (htarget "nils@other.test") hid {} sampleGroups hkeyed
  refine ⟨hkeyed, by rfl, by decide +kernel, hchanges .quotaLimit (by decide),
    hforeign fun u hu hreaches => ?_⟩
  -- One account has another name, and the other one another owner.
  cases hreaches with
  | ftpUser hname howner =>
    rcases List.mem_cons.1 hu with rfl | hu
    · exact absurd hname (by decide +kernel)
    · obtain rfl := List.mem_singleton.1 hu
      exact absurd howner (by decide +kernel)

end HostingPanel
