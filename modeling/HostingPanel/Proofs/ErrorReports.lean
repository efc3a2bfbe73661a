import HostingPanel.Proofs.FaultFree
import HostingPanel.Proofs.ItemIsolation
import HostingPanel.Proofs.PendingWork

/-!
# The report of errors

The administrator reads in a report which items the daemon could not process, and may give each of
them a new attempt.  `Debugger.errorReport` is the report of a database: whatever the faults, the
panel answers with it or not at all.

Whether an item is in error is decided twice: the report asks for all items of a kind that have no
normal status, and a new attempt looks at the one row with a key.  Both take the same statuses to be
normal.  But the table of the users holds other accounts than those of customers, which are no
items, and a new attempt does not ask about that.  `requeued_item_reported_iff` says that this is
the only difference.
-/

namespace HostingPanel

open OperationM

/-! ### Items -/

namespace ItemType

variable {t : ItemType}

lemma named_name (ht : t ∈ all) : named (.text t.name) = .ok t := by
  revert t
  simp only [all, List.forall_mem_cons]
  exact ⟨rfl, rfl, rfl, rfl, rfl, rfl, rfl, rfl, rfl, rfl, rfl, rfl, rfl, by simp⟩

lemma eq_of_name {u : ItemType} (hu : u ∈ all) (ht : t ∈ all) (hname : u.name = t.name) :
    u = t := by
  have hnamed := named_name hu
  rw [hname, named_name ht] at hnamed
  cases hnamed
  rfl

/-- Only users have rows in their table that are no items. -/
lemma isItem_of_ne_admin (ht : t ∈ all) (htable : t.table ≠ .admin) (r : t.table.Row) :
    t.isItem r = true := by
  revert t
  simp only [all, List.forall_mem_cons]
  exact ⟨fun h => absurd rfl h, fun _ _ => rfl, fun _ _ => rfl, fun _ _ => rfl, fun _ _ => rfl,
    fun _ _ => rfl, fun _ _ => rfl, fun _ _ => rfl, fun _ _ => rfl, fun _ _ => rfl, fun _ _ => rfl,
    fun _ _ => rfl, fun _ _ => rfl, by simp⟩

/-- Rows with the same key have it for the same parameters. -/
lemma hasId_congr (ht : t ∈ all) {r r' : t.table.Row} (hid : t.id r = t.id r') (id : Json) :
    t.hasId id r = t.hasId id r' := by
  have hkey {u : Table} {r r' : u.Row}
      (hid : Json.int (u.keyColumn.get r) = .int (u.keyColumn.get r')) :
      id.equalsKey (u.keyColumn.get r) = id.equalsKey (u.keyColumn.get r') := by
    rw [Number.integer.inj (Json.number.inj hid)]
  have hname {r r' : FtpUser} (hid : Json.ofText? r.userid = Json.ofText? r'.userid) :
      id.equalsText r.userid = id.equalsText r'.userid := by
    have hsame : r.userid = r'.userid := by
      cases hr : r.userid <;> cases hr' : r'.userid <;> simp_all [Json.ofText?]
    rw [hsame]
  revert t
  simp only [all, List.forall_mem_cons]
  exact ⟨hkey (u := .admin), hkey (u := .domain), hkey (u := .domainAlias), hkey (u := .subdomain),
    hkey (u := .aliasSubdomain), hkey (u := .dns), hname, hkey (u := .mail), hkey (u := .area),
    hkey (u := .areaGroup), hkey (u := .areaUser), hkey (u := .serverIp), hkey (u := .plugin),
    by simp⟩

end ItemType

/-! ### The report -/

namespace Debugger

/-- What the report says of an item. -/
def reportOf (t : ItemType) (r : t.table.Row) : Report :=
  ⟨t.id r, t.label r, t.status r, Status.humanize (t.status r) false⟩

/-- What the report says of some rows of a kind. -/
def reportsOf (t : ItemType) (rows : List t.table.Row) : List Report :=
  (rows.filter (isReported t)).map (reportOf t)

/-- The part of the report about one kind. -/
def kindReport (s : Store) (t : ItemType) : String × List Report :=
  (t.name, reportsOf t (s.rows t.table))

/-- The report of a database: the kinds that have items in error. -/
def errorReport (s : Store) : List (String × List Report) :=
  (ItemType.all.map (kindReport s)).filter fun entry => !entry.2.isEmpty

/-- A row is reported if it has no normal status and is an item of the kind. -/
lemma mem_reportsOf {t : ItemType} {rows : List t.table.Row} {rep : Report} :
    rep ∈ reportsOf t rows ↔ ∃ r ∈ rows, isReported t r = true ∧ reportOf t r = rep := by
  simp only [reportsOf, List.mem_map, List.mem_filter, and_assoc]

/-- The question about one kind together with its name. -/
def namedFailures (t : ItemType) : Query (String × List Report) where
  table := t.table
  params := t.normal.map .text
  answer s := kindReport s t

lemma run_listErrors (c : Context) (p : Panel) :
    run listErrors c p =
      ((ItemType.all.mapM fun t => readOnce c p.store (namedFailures t)).map fun found =>
        found.filter fun entry => !entry.2.isEmpty, p) := by
  have hquestion : (fun t : ItemType => do
      return (t.name, ← OperationM.fetch (failedItems t))) =
        fun t => OperationM.fetch (namedFailures t) := by
    funext t c p
    have hfetch : ∀ {α : Type} (q : Query α), run (fetch q) c p = (readOnce c p.store q, p) :=
      fun _ => rfl
    have hfootprint : (namedFailures t).footprint = (failedItems t).footprint := rfl
    refine (run_bind c p (fetch (failedItems t)) _).trans ?_
    rw [hfetch]
    refine Eq.trans ?_ (hfetch (namedFailures t)).symm
    rw [readOnce, readOnce, hfootprint]
    cases checkFault c .connect with
    | error e => rfl
    | ok _ => cases checkFootprint c p.store (failedItems t).footprint <;> rfl
  unfold listErrors
  rw [hquestion, run_bind, run_mapM_fetch]
  cases ItemType.all.mapM fun t => readOnce c p.store (namedFailures t) <;> rfl

/-- What the report answers is the report of the database, if it answers. -/
lemma listErrors_eq_ok {c : Context} {p p' : Panel} {found : List (String × List Report)}
    (h : run listErrors c p = (.ok found, p')) : found = errorReport p.store ∧ p' = p := by
  rw [run_listErrors] at h
  cases hfound : ItemType.all.mapM fun t => readOnce c p.store (namedFailures t) with
  | error e =>
    rw [hfound] at h
    cases h
  | ok kinds =>
    rw [hfound] at h
    cases h
    rw [mapM_readOnce_eq_ok hfound]
    exact ⟨rfl, rfl⟩

/-- A new attempt that succeeds has found an item in error. -/
lemma exists_of_run_requeue {type id : Json} {c : Context} {p q : Panel} {answer : String}
    (h : run (requeue type id) c p = (.ok answer, q)) :
    ∃ t, ItemType.named type = .ok t ∧ ∃ r ∈ p.store.rows t.table, t.hasId id r = true ∧
      Cell.isNoneOf t.normal (t.status r) = true := by
  rw [run_requeue] at h
  cases hnamed : ItemType.named type with
  | error e =>
    rw [hnamed] at h
    cases h
  | ok t =>
    simp only [hnamed] at h
    split at h
    · cases h
    · rename_i hcommit
      obtain ⟨changed, -, hblock, -⟩ := announced_eq_ok (commitBlock_eq_ok hcommit)
      obtain ⟨r, hfound, herror, -⟩ := requeueBlock_eq_ok hblock
      exact ⟨t, rfl, r, List.mem_of_find?_eq_some hfound, List.find?_some hfound, herror⟩

end Debugger

/-- In a database without faults the report is given. -/
lemma FaultFree.run_listErrors {c : Context} {p : Panel} (h : FaultFree c p.store) :
    run Debugger.listErrors c p = (.ok (Debugger.errorReport p.store), p) := by
  have hkind : ∀ t ∈ ItemType.all, readOnce c p.store (Debugger.namedFailures t) =
      .ok ((Debugger.namedFailures t).answer p.store) := by
    intro t _
    have hparams : Json.bindFailures? 1 (Debugger.namedFailures t).params = none :=
      Debugger.bindFailures?_texts 1 t.normal
    rw [h.readOnce_eq, hparams]
  rw [Debugger.run_listErrors, Debugger.mapM_readOnce_eq hkind]
  rfl

/-- A new attempt that succeeds is for a reported item, unless it is for an account that is no
customer.  Take any database in which keys are keys, with any faults, any kind and any key.  If the
new attempt succeeds, there is a row with the key whose status is not normal for the kind.  If the
report can be had just before, it has an item of the kind with the key of this row exactly if the
row is an item, and that is so of every row but those of the other accounts in the table of the
users.  Without faults the report can be had. -/
theorem requeued_item_reported_iff {type id : Json} {c : Context} {p q : Panel} {answer : String}
    (hkeyed : p.store.Keyed) (hrun : run (Debugger.requeue type id) c p = (.ok answer, q))
    (c' : Context) :
    ∃ t, ItemType.named type = .ok t ∧ ∃ r ∈ p.store.rows t.table, t.hasId id r = true ∧
      (∀ found p', run Debugger.listErrors c' p = (.ok found, p') →
        ((∃ reports, (t.name, reports) ∈ found ∧ ∃ rep ∈ reports, rep.id = t.id r) ↔
          t.isItem r = true)) ∧
      (t.table ≠ .admin → t.isItem r = true) ∧
      (FaultFree c' p.store → ∃ found, run Debugger.listErrors c' p = (.ok found, p)) := by
  obtain ⟨t, hnamed, r, hr, hid, herror⟩ := Debugger.exists_of_run_requeue hrun
  have ht : t ∈ ItemType.all := ItemType.mem_all_of_named hnamed
  refine ⟨t, hnamed, r, hr, hid, fun found p' hlist => ?_,
    fun htable => ItemType.isItem_of_ne_admin ht htable r,
    fun hfree => ⟨_, hfree.run_listErrors⟩⟩
  obtain ⟨rfl, -⟩ := Debugger.listErrors_eq_ok hlist
  constructor
  · rintro ⟨reports, hentry, rep, hrep, hsame⟩
    obtain ⟨u, hu, hkind⟩ := List.mem_map.1 (List.mem_filter.1 hentry).1
    obtain ⟨hname, rfl⟩ := Prod.mk.inj hkind
    obtain rfl := ItemType.eq_of_name hu ht hname
    obtain ⟨r', hr', hreported, rfl⟩ := Debugger.mem_reportsOf.1 hrep
    have hid' : u.hasId id r' = true := (ItemType.hasId_congr hu hsame id).trans hid
    obtain rfl : r' = r := hkeyed.eq_of_hasId hu hr' hr hid' hid
    exact (Bool.and_eq_true_iff.1 hreported).2
  · intro hitem
    have hreported : Debugger.reportOf t r ∈ Debugger.reportsOf t (p.store.rows t.table) :=
      Debugger.mem_reportsOf.2 ⟨r, hr, by simp [Debugger.isReported, herror, hitem], rfl⟩
    refine ⟨_, List.mem_filter.2 ⟨List.mem_map.2 ⟨t, ht, rfl⟩, ?_⟩, _, hreported, rfl⟩
    simpa using List.ne_nil_of_mem hreported

/-- A panel with an account that the daemon left in error. -/
def sampleAccount (role : String) : Panel where
  store := Store.empty.set .admin
    [{ id := 2, name := some "rita", role := some role, status := some "disk full" }]
  notifier := Notifier.create {}

/-- The panel after a new attempt for the account. -/
def sampleAccountRequeued (role : String) : Panel :=
  (run (Debugger.requeue (.text "user") (.int 2)) {} (sampleAccount role)).2

/-- The account of a customer is reported and gets its new attempt. -/
theorem requeued_item_reported_iff_sample :
    (sampleAccount "user").store.Keyed ∧
      run (Debugger.requeue (.text "user") (.int 2)) {} (sampleAccount "user") =
        (.ok "Done", sampleAccountRequeued "user") ∧
      ∃ found reports, run Debugger.listErrors {} (sampleAccount "user") =
          (.ok found, sampleAccount "user") ∧
        ("user", reports) ∈ found ∧ ∃ rep ∈ reports, rep.id = .int 2 := by
  have hkeyed : (sampleAccount "user").store.Keyed :=
    Store.keyed_of_length_le_one fun t => by cases t <;> decide
  have hrun : run (Debugger.requeue (.text "user") (.int 2)) {} (sampleAccount "user") =
      (.ok "Done", sampleAccountRequeued "user") :=
    Prod.ext rfl rfl
  obtain ⟨t, hnamed, r, hr, -, hiff, -, hanswer⟩ :=
    requeued_item_reported_iff hkeyed hrun {}
  obtain rfl : ItemType.user = t := Except.ok.inj hnamed
  obtain rfl := List.mem_singleton.1 hr
  obtain ⟨found, hfound⟩ := hanswer ⟨rfl, rfl⟩
  obtain ⟨reports, hentry, hreported⟩ := (hiff found _ hfound).2 rfl
  exact ⟨hkeyed, hrun, found, reports, hfound, hentry, hreported⟩

/-- The account of a reseller is in no report, and it gets a new attempt all the same. -/
theorem unreported_account_requeued :
    run Debugger.listErrors {} (sampleAccount "reseller") = (.ok [], sampleAccount "reseller") ∧
      run (Debugger.requeue (.text "user") (.int 2)) {} (sampleAccount "reseller") =
        (.ok "Done", sampleAccountRequeued "reseller") ∧
      ((sampleAccountRequeued "reseller").store.rows .admin).map (fun (a : Admin) => a.status) =
        [some "tochange"] := by
  refine ⟨rfl, Prod.ext rfl rfl, ?_⟩
  decide +kernel

end HostingPanel
