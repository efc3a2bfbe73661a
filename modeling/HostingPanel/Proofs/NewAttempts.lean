import HostingPanel.Proofs.CertificateOwners
import HostingPanel.Proofs.ErrorReports

/-!
# New attempts

A new attempt takes an item out of the report of errors and lets it wait for the daemon.
`Debugger.Requeued` says this of the databases before and after it: one row of one table has got
the status of a request, and no other row outside the outbox has changed.  What the administrator
reads follows from that: the report loses one entry, the count of what waits grows by one, and the
outbox has one more entry that is pending.

Not every reported item may get its attempt.  Each kind has its own list of normal statuses, and the
table of permitted moves is the same for all kinds, so an item may be in error for its kind while
its status is a request, out of service or awaiting approval for all others.
-/

namespace HostingPanel

open OperationM

/-! ### Lists -/

/-- An element of what a filter has kept and a function has mapped comes from a place of the
list. -/
lemma exists_of_map_filter_eq {α β : Type} {f : α → β} {keep : α → Bool} {l : List α}
    {before after : List β} {y : β} (h : (l.filter keep).map f = before ++ y :: after) :
    ∃ above a below, l = above ++ a :: below ∧ (above.filter keep).map f = before ∧
      keep a = true ∧ f a = y ∧ (below.filter keep).map f = after := by
  obtain ⟨kept, rest, hkept, hbefore, hrest⟩ := List.map_eq_append_iff.1 h
  obtain ⟨a, kept', rfl, rfl, hafter⟩ := List.map_eq_cons_iff.1 hrest
  obtain ⟨above, tail, rfl, habove, htail⟩ := List.filter_eq_append_iff.1 hkept
  obtain ⟨skipped, below, rfl, hskipped, ha, hbelow⟩ := List.filter_eq_cons_iff.1 htail
  refine ⟨above ++ skipped, a, below, by simp, ?_, ha, rfl, by rw [hbelow, hafter]⟩
  rw [List.filter_append, habove, List.filter_eq_nil_iff.2 hskipped, List.append_nil, hbefore]

/-! ### Items -/

namespace ItemType

variable {t : ItemType}

lemma hasId_self (ht : t ∈ all) {r : t.table.Row} (hid : t.id r ≠ .null) :
    t.hasId (t.id r) r = true := by
  have hkey (k : Int) : (Json.int k).equalsKey k = true := by
    simp [Json.equalsKey_int]
  have hname (name : Option String) (hid : Json.ofText? name ≠ .null) :
      (Json.ofText? name).equalsText name = true := by
    cases name with
    | none => exact absurd rfl hid
    | some name => simp [Json.ofText?, Json.equalsText, Json.asText?]
  revert t
  simp only [all, List.forall_mem_cons]
  exact ⟨fun _ => hkey _, fun _ => hkey _, fun _ => hkey _, fun _ => hkey _, fun _ => hkey _,
    fun _ => hkey _, hname _, fun _ => hkey _, fun _ => hkey _, fun _ => hkey _, fun _ => hkey _,
    fun _ => hkey _, fun _ => hkey _, by simp⟩

lemma isItem_setStatus (ht : t ∈ all) (status : Option String) (r : t.table.Row) :
    t.isItem (t.setStatus status r) = t.isItem r := by
  revert t
  simp only [all, List.forall_mem_cons]
  exact ⟨fun _ => rfl, fun _ => rfl, fun _ => rfl, fun _ => rfl, fun _ => rfl, fun _ => rfl,
    fun _ => rfl, fun _ => rfl, fun _ => rfl, fun _ => rfl, fun _ => rfl, fun _ => rfl,
    fun _ => rfl, by simp⟩

lemma status_setStatus (ht : t ∈ all) (status : Option String) (r : t.table.Row) :
    t.status (t.setStatus status r) = status :=
  Table.get_set_of_statusColumn? (statusColumn?_table ht) status r

lemma toChange_mem_normal (ht : t ∈ all) : Status.toChange ∈ t.normal := by
  revert t
  decide

/-- The kinds around one of them are kept in other tables. -/
lemma table_ne_of_all_eq {kinds more : List ItemType} (hall : all = kinds ++ t :: more)
    {u : ItemType} (hu : u ∈ kinds ++ more) : u ∈ all ∧ u.table ≠ t.table := by
  have hnodup := nodup_tables
  rw [hall, List.map_append, List.map_cons, List.perm_middle.nodup_iff, ← List.map_append]
    at hnodup
  refine ⟨hall ▸ List.perm_middle.mem_iff.2 (List.mem_cons_of_mem t hu), fun htable => ?_⟩
  exact (List.nodup_cons.1 hnodup).1 (htable ▸ List.mem_map_of_mem hu)

end ItemType

lemma Store.Keyed.find?_eq {s : Store} (h : s.Keyed) {t : ItemType} (ht : t ∈ ItemType.all)
    {id : Json} {r : t.table.Row} (hr : r ∈ s.rows t.table) (hid : t.hasId id r = true) :
    (s.rows t.table).find? (t.hasId id) = some r := by
  cases hfound : (s.rows t.table).find? (t.hasId id) with
  | none => exact absurd hid (List.find?_eq_none.1 hfound r hr)
  | some found =>
    rw [h.eq_of_hasId ht (List.mem_of_find?_eq_some hfound) hr (List.find?_some hfound) hid]

/-- Of the rows of a table, one has a key, and it alone is changed. -/
lemma Store.Keyed.updateRows_eq {s : Store} (h : s.Keyed) {t : ItemType} (ht : t ∈ ItemType.all)
    {id : Json} {above below : List t.table.Row} {r : t.table.Row}
    (hrows : s.rows t.table = above ++ r :: below) (hid : t.hasId id r = true)
    (change : t.table.Row → t.table.Row) :
    Statement.updateRows (t.hasId id) change (s.rows t.table) = above ++ change r :: below := by
  have hpairwise := h t.table (ItemType.table_ne_outbox ht)
  rw [Table.Keyed, hrows, List.pairwise_append, List.pairwise_cons] at hpairwise
  obtain ⟨-, ⟨hbelow, -⟩, habove⟩ := hpairwise
  have hnot : ∀ x ∈ above ++ below, t.hasId id x = false := by
    intro x hx
    by_contra hidx
    rw [Bool.not_eq_false] at hidx
    rcases List.mem_append.1 hx with hx | hx
    · obtain ⟨column, hcolumn, hclash⟩ := ItemType.exists_clash_of_hasId ht hidx hid
      rw [habove x hx r (by simp) column hcolumn] at hclash
      cases hclash
    · obtain ⟨column, hcolumn, hclash⟩ := ItemType.exists_clash_of_hasId ht hid hidx
      rw [hbelow x hx column hcolumn] at hclash
      cases hclash
  have hsame : ∀ l : List t.table.Row, (∀ x ∈ l, x ∈ above ++ below) →
      (l.map fun x => if t.hasId id x then change x else x) = l := by
    intro l hl
    refine (List.map_congr_left fun x hx => ?_).trans (List.map_id l)
    rw [hnot x (hl x hx)]
    rfl
  rw [hrows, Statement.updateRows, List.map_append, List.map_cons, if_pos hid,
    hsame above fun x => List.mem_append_left _, hsame below fun x => List.mem_append_right _]

/-! ### What a new attempt does -/

/-- The tables other than the outbox do not change with a further entry. -/
lemma Outbox.rows_append_of_ne (s : Store) (id now : Int) (reason : String) {t : Table}
    (ht : t ≠ .outbox) : (Outbox.append s id now reason).rows t = s.rows t :=
  Store.rows_set_of_ne _ _ ht.symm

/-- A value that can be bound at one position can be bound at any. -/
lemma Json.bindFailures?_cons_text {v : Json} (text : String)
    (h : bindFailures? 1 [v] = none) : bindFailures? 1 [.text text, v] = none := by
  have hposition : ∀ position, v.bindFailure? position = none := by
    intro position
    cases v with
    | list l => cases h
    | object l => cases h
    | brokenText points => cases h
    | number n =>
      cases n with
      | integer n =>
        simp only [bindFailures?, bindFailure?] at h ⊢
        split
        · rfl
        · rename_i hfits
          simp [hfits] at h
      | real x => rfl
    | _ => rfl
  simp only [bindFailures?, hposition]
  rfl

namespace Debugger

/-- One item has got the request for a change, the outbox has got one entry about it, and no other
row has changed. -/
structure Requeued (t : ItemType) (above : List t.table.Row) (r : t.table.Row)
    (below : List t.table.Row) (s s' : Store) : Prop where
  before : s.rows t.table = above ++ r :: below
  /-- Its status is now the request. -/
  after : s'.rows t.table = above ++ t.setStatus (some Status.toChange) r :: below
  /-- The outbox has a further entry, which is pending. -/
  entry : ∃ entry : OutboxEntry, s'.rows .outbox = s.rows .outbox ++ [entry] ∧
    entry.reason = Outbox.shortened (requeueAction t (t.id r)) ∧ entry.dispatchedAt = none
  others : ∀ u : Table, u ≠ t.table → u ≠ .outbox → s'.rows u = s.rows u
  missing : s'.missing = s.missing

variable {t : ItemType} {id : Json} {c : Context} {s : Store} {above below : List t.table.Row}
  {r : t.table.Row}

/-- Without faults, the block of a new attempt for an item in error runs exactly if the item may get
the request. -/
lemma requeueBlock_eq (hfree : FaultFree c s) (hbind : Json.bindFailures? 1 [id] = none)
    (hfound : (s.rows t.table).find? (t.hasId id) = some r)
    (herror : Cell.isNoneOf t.normal (t.status r) = true) :
    requeueBlock t id c s =
      if Status.mayMove (t.status r) Status.toChange then
        .ok ((), (setStatus t Status.toChange id).apply s)
      else .error (.forbiddenMove (.ofText? (t.status r)) (.text Status.toChange)) := by
  have hquestion : Json.bindFailures? 1 (statusOf t id).params = none := hbind
  have hstatement : Json.bindFailures? 1 (setStatus t Status.toChange id).footprint.params = none :=
    Json.bindFailures?_cons_text Status.toChange hbind
  have hanswer : (statusOf t id).answer s = some (t.status r) := by
    simp only [statusOf, hfound, Option.map_some]
  have hiserror : Status.isError (t.status r) (some t.normal) = true := herror
  unfold requeueBlock
  rw [hfree.query_bind, hquestion, hanswer]
  simp only [hiserror, Bool.not_true, Bool.false_eq_true, if_false, Status.checkTransition]
  cases Status.mayMove (t.status r) Status.toChange with
  | false => rfl
  | true =>
    refine (TransactionM.discard_apply _ c s).trans ?_
    rw [TransactionM.execute, hfree.checkFootprint_eq, hstatement]
    rfl

/-- The database after a new attempt. -/
def requeuedStore (t : ItemType) (id : Json) (k now : Int) (s : Store) : Store :=
  Outbox.append ((setStatus t Status.toChange id).apply s) k now
    (Outbox.shortened (requeueAction t id))

/-- Without faults, and if the outbox has a key left, a new attempt for an item in error is made
exactly if the item may get the request; else it is refused, and nothing has changed. -/
lemma run_requeue_eq {p : Panel} (hfree : FaultFree c p.store) (ht : t ∈ ItemType.all)
    (hbind : Json.bindFailures? 1 [id] = none)
    (hfound : (p.store.rows t.table).find? (t.hasId id) = some r)
    (herror : Cell.isNoneOf t.normal (t.status r) = true) {k : Int}
    (hkey : p.store.nextKey? .outbox = some k) :
    ∃ journal, run (requeue (.text t.name) id) c p =
      if Status.mayMove (t.status r) Status.toChange then
        (.ok "Done", { p with store := requeuedStore t id k c.now p.store, journal })
      else (.error (.forbiddenMove (.ofText? (t.status r)) (.text Status.toChange)), p) := by
  have hblock := requeueBlock_eq hfree hbind hfound herror
  have hmissing : ∀ s', requeueBlock t id c p.store = .ok ((), s') → s'.missing = [] := by
    intro s' hdone
    obtain ⟨-, -, -, rfl⟩ := requeueBlock_eq_ok hdone
    rw [Statement.missing_apply, hfree.missing]
  rw [run_requeue, ItemType.named_name ht]
  simp only
  rw [hfree.commitBlock_eq, hfree.announced_eq _ (requeueBlock_spares_outbox ht id) hmissing,
    hblock]
  cases Status.mayMove (t.status r) Status.toChange with
  | true =>
    simp only [hkey, if_true]
    exact ⟨_, rfl⟩
  | false => exact ⟨[], rfl⟩

/-- A new attempt changes the status of its item and adds its entry. -/
lemma requeued_requeuedStore (hkeyed : s.Keyed) (ht : t ∈ ItemType.all)
    (hrows : s.rows t.table = above ++ r :: below) (hid : t.hasId (t.id r) r = true) (k now : Int) :
    Requeued t above r below s (requeuedStore t (t.id r) k now s) where
  before := hrows
  after := by
    rw [requeuedStore, Outbox.rows_append_of_ne _ _ _ _ (ItemType.table_ne_outbox ht)]
    exact (s.rows_set_self t.table _).trans (hkeyed.updateRows_eq ht hrows hid _)
  entry := by
    have hspared : ((setStatus t Status.toChange (t.id r)).apply s).rows .outbox = s.rows .outbox :=
      Statement.rows_apply_of_ne _ s (ItemType.table_ne_outbox ht)
    rw [requeuedStore, Outbox.rows_append, hspared]
    exact ⟨_, rfl, rfl, rfl⟩
  others u htable houtbox := by
    rw [requeuedStore, Outbox.rows_append_of_ne _ _ _ _ houtbox]
    exact Statement.rows_apply_of_ne _ s htable.symm
  missing := Statement.missing_apply _ s

/-- If more items of one kind wait, and the other kinds are the same, so many more items wait. -/
lemma pendingTotal_eq_add {s s' : Store} {n : Nat} (ht : t ∈ ItemType.all)
    (hothers : ∀ u ∈ ItemType.all, u.table ≠ t.table → s'.rows u.table = s.rows u.table)
    (hkind : (pendingItems t).answer s' = (pendingItems t).answer s + n) :
    pendingTotal s' = pendingTotal s + n := by
  obtain ⟨kinds, more, hall⟩ := List.append_of_mem ht
  have hother : ∀ u ∈ kinds ++ more, (pendingItems u).answer s' = (pendingItems u).answer s := by
    intro u hu
    obtain ⟨hmem, htable⟩ := ItemType.table_ne_of_all_eq hall hu
    simp only [pendingItems, hothers u hmem htable]
  simp only [pendingTotal, hall, List.map_append, List.map_cons, List.sum_append, List.sum_cons,
    hkind, List.map_congr_left fun u hu => hother u (List.mem_append_left _ hu),
    List.map_congr_left fun u hu => hother u (List.mem_append_right _ hu)]
  omega

namespace Requeued

variable {s' : Store}

lemma rows_eq (h : Requeued t above r below s s') {kinds more : List ItemType}
    (hall : ItemType.all = kinds ++ t :: more) {u : ItemType} (hu : u ∈ kinds ++ more) :
    s'.rows u.table = s.rows u.table := by
  obtain ⟨hmem, htable⟩ := ItemType.table_ne_of_all_eq hall hu
  exact h.others u.table htable (ItemType.table_ne_outbox hmem)

/-- The report about the kind loses the entry of the item. -/
lemma reportsOf (h : Requeued t above r below s s') (ht : t ∈ ItemType.all) :
    Debugger.reportsOf t (s'.rows t.table) =
      Debugger.reportsOf t above ++ Debugger.reportsOf t below := by
  have hnormal : isReported t (t.setStatus (some Status.toChange) r) = false := by
    have hmem := ItemType.toChange_mem_normal ht
    simp [isReported, ItemType.status_setStatus ht, Cell.isNoneOf, hmem]
  simp only [Debugger.reportsOf]
  rw [h.after, List.filter_append, List.filter_cons_of_neg (by simp [hnormal]), List.map_append]

lemma pendingItems (h : Requeued t above r below s s') (ht : t ∈ ItemType.all)
    (hitem : t.isItem r = true) (hwaits : Status.isPending (t.status r) = false) :
    (Debugger.pendingItems t).answer s' = (Debugger.pendingItems t).answer s + 1 := by
  have hnow : (Status.isPending (t.status (t.setStatus (some Status.toChange) r)) &&
      t.isItem (t.setStatus (some Status.toChange) r)) = true := by
    rw [ItemType.status_setStatus ht, ItemType.isItem_setStatus ht, hitem]
    rfl
  have hbefore : (Status.isPending (t.status r) && t.isItem r) = false := by
    rw [hwaits, Bool.false_and]
  simp only [Debugger.pendingItems, h.before, h.after, List.countP_append, List.countP_cons, hnow,
    hbefore, if_true, Bool.false_eq_true, if_false]
  omega

/-- The report loses the entry of the item, and the part about its kind if nothing is left of it. -/
lemma errorReport (h : Requeued t above r below s s') {kinds more : List ItemType}
    (hall : ItemType.all = kinds ++ t :: more) :
    Debugger.errorReport s' =
      ((kinds.map (kindReport s)) ++
        (t.name, Debugger.reportsOf t above ++ Debugger.reportsOf t below) ::
          more.map (kindReport s)).filter fun entry => !entry.2.isEmpty := by
  have hother : ∀ u ∈ kinds ++ more, kindReport s' u = kindReport s u := by
    intro u hu
    simp only [kindReport, h.rows_eq hall hu]
  have hkind : kindReport s' t = (t.name, _) :=
    congrArg (Prod.mk t.name) (h.reportsOf (by simp [hall]))
  rw [Debugger.errorReport, hall, List.map_append, List.map_cons, hkind,
    List.map_congr_left fun u hu => hother u (List.mem_append_left _ hu),
    List.map_congr_left fun u hu => hother u (List.mem_append_right _ hu)]

lemma pendingTotal (h : Requeued t above r below s s') (ht : t ∈ ItemType.all)
    (hitem : t.isItem r = true) (hwaits : Status.isPending (t.status r) = false) :
    Debugger.pendingTotal s' = Debugger.pendingTotal s + 1 :=
  pendingTotal_eq_add ht (fun u hu htable => h.others u.table htable (ItemType.table_ne_outbox hu))
    (h.pendingItems ht hitem hwaits)

lemma length_pending (h : Requeued t above r below s s') :
    (Outbox.pending s').length = (Outbox.pending s).length + 1 := by
  obtain ⟨entry, hrows, -, hpending⟩ := h.entry
  simp [Outbox.pending, hrows, hpending]

/-- There are no faults after a new attempt if there were none before. -/
lemma faultFree (h : Requeued t above r below s s') (hfree : FaultFree c s) : FaultFree c s' :=
  ⟨hfree.faults, h.missing.trans hfree.missing⟩

end Requeued

lemma isPending_of_mayMove {status : Option String} {target : String}
    (h : Status.mayMove status target = true) : Status.isPending status = false := by
  cases status with
  | none => rfl
  | some current =>
    have hnone : ∀ s ∈ Status.pending, Status.allowedFrom (some s) = [] := by
      decide
    have hallowed : target ∈ Status.allowedFrom (some current) := by
      simpa using (Bool.and_eq_true_iff.1 h).2
    have hwaits : current ∉ Status.pending := by
      intro hmem
      rw [hnone current hmem] at hallowed
      cases hallowed
    simpa [Status.isPending] using hwaits

end Debugger

lemma FaultFree.canCount {c : Context} {s : Store} (h : FaultFree c s) :
    Debugger.CanCount c s where
  connect := h.fault?_eq_none .connect none
  select _ _ := h.fault?_eq_none .select _
  present _ _ := by simp [h.missing]

/-- Without faults the pending entries of the outbox can be counted. -/
lemma FaultFree.run_pendingCount {c : Context} {p : Panel} (h : FaultFree c p.store) :
    run (fetch Outbox.pendingCount) c p = (.ok (Outbox.pending p.store).length, p) := by
  have hfetch : run (fetch Outbox.pendingCount) c p =
      (readOnce c p.store Outbox.pendingCount, p) := rfl
  rw [hfetch, h.readOnce_eq]
  rfl

/-- A reported item comes from one place of the table of its kind. -/
lemma Debugger.exists_of_errorReport_eq {s : Store} {earlier later : List (String × List Report)}
    {name : String} {before after : List Report} {rep : Report}
    (h : errorReport s = earlier ++ (name, before ++ rep :: after) :: later) :
    ∃ kinds t more, ItemType.all = kinds ++ t :: more ∧ t.name = name ∧
      (kinds.map (kindReport s)).filter (fun entry => !entry.2.isEmpty) = earlier ∧
      (more.map (kindReport s)).filter (fun entry => !entry.2.isEmpty) = later ∧
      ∃ (above : List t.table.Row) (r : t.table.Row) (below : List t.table.Row),
        s.rows t.table = above ++ r :: below ∧ isReported t r = true ∧ reportOf t r = rep ∧
          reportsOf t above = before ∧ reportsOf t below = after := by
  rw [errorReport, List.filter_map] at h
  obtain ⟨kinds, t, more, hall, hearlier, -, hkind, hlater⟩ := exists_of_map_filter_eq h
  obtain ⟨hname, hreports⟩ := Prod.mk.inj hkind
  obtain ⟨above, r, below, hrows, hbefore, hreported, hrep, hafter⟩ :=
    exists_of_map_filter_eq hreports
  exact ⟨kinds, t, more, hall, hname, by rw [List.filter_map, hearlier],
    by rw [List.filter_map, hlater], above, r, below, hrows, hreported, hrep, hbefore, hafter⟩

/-- A new attempt moves a reported item to where it waits, and does nothing else.  Take any database
without faults in which keys are keys, and any item of its report that has a key, one that can be
bound.  The new attempt succeeds exactly if the status of the item is
neither a request nor that of an item out of service or awaiting approval.  If it succeeds, the
report is the former one without this entry, and without the part about the kind if that is empty
now; one more item waits; one more entry of the outbox is pending; and the row of the item, which
has got the request for a change, and the new entry are all that has changed.  Else the move is
refused, and nothing has changed. -/
theorem requeue_moves_reported_error {c : Context} {p q : Panel} {result : Except Failure String}
    {earlier later : List (String × List Debugger.Report)} {name : String}
    {before after : List Debugger.Report} {rep : Debugger.Report}
    (hfree : FaultFreeFor 1 c p.store) (hkeyed : p.store.Keyed)
    (hlist : run Debugger.listErrors c p =
      (.ok (earlier ++ (name, before ++ rep :: after) :: later), p))
    (hid : rep.id ≠ .null) (hbind : Json.bindFailures? 1 [rep.id] = none)
    (hrun : run (Debugger.requeue (.text name) rep.id) c p = (result, q)) :
    ((∃ answer, result = .ok answer) ↔
        ∃ status, rep.status = some status ∧ status ≠ "ordered" ∧ status ≠ "disabled" ∧
          status ∉ Status.pending) ∧
      (∀ answer, result = .ok answer →
        run Debugger.listErrors c q =
            (.ok ((earlier ++ (name, before ++ after) :: later).filter fun entry =>
              !entry.2.isEmpty), q) ∧
          (∃ n, run Debugger.countPending c p = (.ok n, p) ∧
            run Debugger.countPending c q = (.ok (n + 1), q)) ∧
          (∃ n, run (fetch Outbox.pendingCount) c p = (.ok n, p) ∧
            run (fetch Outbox.pendingCount) c q = (.ok (n + 1), q)) ∧
          ∃ t ∈ ItemType.all, t.name = name ∧ ∃ above r below, Debugger.reportOf t r = rep ∧
            Debugger.Requeued t above r below p.store q.store) ∧
      ∀ e, result = .error e →
        e = .forbiddenMove (.ofText? rep.status) (.text "tochange") ∧ q = p := by
  obtain ⟨hreport, -⟩ := Debugger.listErrors_eq_ok hlist
  obtain ⟨kinds, t, more, hall, rfl, rfl, rfl, above, r, below, hrows, hreported, rfl, rfl, rfl⟩ :=
    Debugger.exists_of_errorReport_eq hreport.symm
  have ht : t ∈ ItemType.all := by
    simp [hall]
  obtain ⟨herror, hitem⟩ := Bool.and_eq_true_iff.1 hreported
  have hself : t.hasId (t.id r) r = true := ItemType.hasId_self ht hid
  have hmem : r ∈ p.store.rows t.table := by
    simp [hrows]
  have hfound := hkeyed.find?_eq ht hmem hself
  obtain ⟨k, hkey, -⟩ := hfree.keys
  obtain ⟨journal, hresult⟩ := Debugger.run_requeue_eq hfree.toFaultFree ht hbind hfound herror hkey
  have hmove : Status.mayMove (t.status r) Status.toChange = true ↔
      ∃ status, t.status r = some status ∧ status ≠ "ordered" ∧ status ≠ "disabled" ∧
        status ∉ Status.pending := Status.mayMove_toChange_iff
  rw [hresult] at hrun
  cases hallowed : Status.mayMove (t.status r) Status.toChange with
  | false =>
    simp only [hallowed, Bool.false_eq_true, if_false] at hrun
    obtain ⟨rfl, rfl⟩ := Prod.mk.inj hrun
    refine ⟨iff_of_false (by simp) fun hstatus => ?_, by simp, fun e he => ?_⟩
    · rw [hmove.2 hstatus] at hallowed
      cases hallowed
    · cases he
      exact ⟨rfl, rfl⟩
  | true =>
    simp only [hallowed, if_true] at hrun
    have hrequeued : Debugger.Requeued t above r below p.store q.store := by
      obtain ⟨-, rfl⟩ := Prod.mk.inj hrun
      exact Debugger.requeued_requeuedStore hkeyed ht hrows hself k c.now
    obtain ⟨rfl, -⟩ := Prod.mk.inj hrun
    have hfree' : FaultFree c q.store := hrequeued.faultFree hfree.toFaultFree
    have hwaits := Debugger.isPending_of_mayMove hallowed
    refine ⟨iff_of_true ⟨_, rfl⟩ (hmove.1 hallowed), fun answer _ => ⟨?_, ?_, ?_, ?_⟩, by simp⟩
    · rw [hfree'.run_listErrors, hrequeued.errorReport hall]
      simp only [List.filter_append, List.filter_cons, List.filter_filter, Bool.and_self]
    · refine ⟨_, Debugger.run_countPending_of_canCount hfree.canCount, ?_⟩
      rw [Debugger.run_countPending_of_canCount hfree'.canCount,
        hrequeued.pendingTotal ht hitem hwaits]
    · refine ⟨_, hfree.run_pendingCount, ?_⟩
      rw [hfree'.run_pendingCount, hrequeued.length_pending]
    · exact ⟨t, ht, rfl, above, r, below, rfl, hrequeued⟩

/-- The panel after a new attempt for the plugin of the sample. -/
def samplePluginRequeued : Panel :=
  (run (Debugger.requeue (.text "plugin") (.int 3)) {} sampleSite).2

/-- The plugin, which is alone in the report, leaves it, and then it waits. -/
theorem requeue_moves_reported_error_sample :
    run Debugger.listErrors {} sampleSite =
        (.ok [("plugin", [⟨.int 3, some "monitor", some "disk full", some "Unexpected error"⟩])],
          sampleSite) ∧
      run (Debugger.requeue (.text "plugin") (.int 3)) {} sampleSite =
        (.ok "Done", samplePluginRequeued) ∧
      run Debugger.listErrors {} samplePluginRequeued = (.ok [], samplePluginRequeued) ∧
      ∃ n, run Debugger.countPending {} sampleSite = (.ok n, sampleSite) ∧
        run Debugger.countPending {} samplePluginRequeued =
          (.ok (n + 1), samplePluginRequeued) := by
  have hkeyed : sampleSite.store.Keyed :=
    Store.keyed_of_length_le_one fun t => by cases t <;> decide
  have hfree : FaultFreeFor 1 {} sampleSite.store := ⟨⟨rfl, rfl⟩, 1, rfl, by decide⟩
  have hlist : run Debugger.listErrors {} sampleSite = (.ok
      ([] ++ ("plugin", [] ++ ⟨.int 3, some "monitor", some "disk full", some "Unexpected error"⟩ ::
        []) :: []), sampleSite) := rfl
  have hrun : run (Debugger.requeue (.text "plugin") (.int 3)) {} sampleSite =
      (.ok "Done", samplePluginRequeued) :=
    Prod.ext rfl rfl
  obtain ⟨-, hdone, -⟩ :=
    requeue_moves_reported_error hfree hkeyed hlist nofun (by decide) hrun
  obtain ⟨hreport, hcount, -, -⟩ := hdone "Done" rfl
  exact ⟨hlist, hrun, hreport, hcount⟩

end HostingPanel
