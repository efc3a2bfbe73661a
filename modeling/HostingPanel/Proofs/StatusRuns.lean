import Mathlib.Data.List.Pairwise
import HostingPanel.Proofs.StatusMoves

/-!
# Statuses over whole runs

Two laws about the statuses that the panel leaves behind, whatever happens in a run.

The panel writes requests only (`statuses_stay_or_are_requested`): a status that is no request of
the panel has been there from the start.

A deletion is not taken back by the jobs that delete, by the restoration of a backup or by a new
attempt (`deletions_stay`).  A new attempt looks at the first item with a key and sets the status of
all of them, so this needs that the keys are keys: `Store.Keyed` says so, and no operation spoils
it.
-/

namespace HostingPanel

/-! ### Requests only -/

namespace Status

/-- The requests that the panel writes. -/
def written : List String :=
  [toChange, toDelete, toDisable, toEnable, toRestore]

lemma isPending_of_mem_written : ∀ request ∈ written, isPending (some request) = true := by
  decide

/-- A status stays as it is or becomes a request. -/
def StaysOrRequested (old new : Option String) : Prop :=
  new = old ∨ ∃ request ∈ written, new = some request

instance : Std.Refl StaysOrRequested :=
  ⟨fun _ => .inl rfl⟩

instance : IsTrans _ StaysOrRequested where
  trans _ _ _ h h' := by
    rcases h' with rfl | hrequested
    · exact h
    · exact .inr hrequested

end Status

lemma Job.Step.staysOrRequested {job : Job} {old new : Option String} (h : job.Step old new) :
    Status.StaysOrRequested old new := by
  rcases h with rfl | ⟨status, rfl, hwrites⟩
  · exact .inl rfl
  · refine .inr ⟨status, ?_, rfl⟩
    cases job with
    | changeCustomerStatus id action =>
      obtain ⟨named, -, rfl⟩ := hwrites
      cases named <;> decide
    | deleteMailAccount id => rcases hwrites with rfl | rfl <;> decide
    | deleteCertificate ownerType ownerId id => rcases hwrites with rfl | rfl <;> decide
    | scheduleBackupRestore =>
      obtain ⟨-, rfl⟩ := hwrites
      decide
    | _ =>
      obtain rfl := hwrites
      decide

lemma Call.Step.staysOrRequested {call : Call} {old new : Option String} (h : call.Step old new) :
    Status.StaysOrRequested old new := by
  cases call with
  | job user task => exact Job.Step.staysOrRequested h
  | requeue type id =>
    rcases h with rfl | rfl
    · exact .inl rfl
    · exact .inr ⟨Status.toChange, by decide, rfl⟩
  | _ => exact .inl h

lemma Turn.staysOrRequested_run (turns : List Turn) (p : Panel) :
    p.store.Descends Status.StaysOrRequested (Turn.run turns p).store :=
  Turn.descends_run (I := fun _ => True) (fun _ _ _ _ => trivial)
    (fun turn _ p _ => (turn.call.descends turn.context { p with notifier := turn.notifier }).mono
      fun _ _ h => h.staysOrRequested) trivial

/-- The panel never writes the answer of the daemon.  After any run of jobs, new attempts and other
operations, with any faults and any daemon, the rows of a table with a status are rows of the start
in the same order, of which some may have gone.  Each has its key, and its status is the one that
it had or one of five requests, all of which wait for the daemon.  So a status that is no such
request has been in its row from the start. -/
theorem statuses_stay_or_are_requested (turns : List Turn) (p : Panel) {t : Table}
    {column : StatusColumn t.Row} (hcolumn : t.statusColumn? = some column) :
    List.SublistForall₂
        (fun r' r => t.keyColumn.get r' = t.keyColumn.get r ∧
          (column.get r' = column.get r ∨
            ∃ request ∈ ["tochange", "todelete", "todisable", "toenable", "torestore"],
              column.get r' = some request))
        ((Turn.run turns p).store.rows t) (p.store.rows t) ∧
      (∀ request ∈ ["tochange", "todelete", "todisable", "toenable", "torestore"],
        Status.isPending (some request) = true) ∧
      ∀ r' ∈ (Turn.run turns p).store.rows t, Status.isPending (column.get r') = false →
        ∃ r ∈ p.store.rows t, t.keyColumn.get r = t.keyColumn.get r' ∧
          column.get r = column.get r' := by
  have htable : t ≠ .outbox := by
    rintro rfl
    cases hcolumn
  have hrows := Turn.staysOrRequested_run turns p t htable
  refine ⟨?_, Status.isPending_of_mem_written, fun r' hr' hpending => ?_⟩
  · obtain ⟨kept, hmoved, hkept⟩ := List.sublistForall₂_iff.1 hrows
    exact List.sublistForall₂_iff.2
      ⟨kept, hmoved.imp fun _ _ h => ⟨h.keys.key, h.status column hcolumn⟩, hkept⟩
  · obtain ⟨r, hr, hmoved⟩ := hrows.exists_mem hr'
    rcases hmoved.status column hcolumn with hsame | ⟨request, hrequest, hnew⟩
    · exact ⟨r, hr, hmoved.keys.key.symm, hsame.symm⟩
    · rw [hnew, Status.isPending_of_mem_written request hrequest] at hpending
      cases hpending

/-- A customer. -/
def sampleCustomer : User :=
  ⟨.object [("user_id", .int 7), ("username", .text "mona"), ("role", .text "user")]⟩

/-- A panel with the customer's domain and a DNS record in service and a plugin that the daemon left
in error. -/
def sampleSite : Panel where
  store :=
    ((Store.empty.set .domain
      [{ id := 1, name := some "example.test", ownerId := some (.whole 7) }]).set .dns
      [{ id := 5, domainId := some (.whole 1), record := some "www" }]).set .plugin
      [{ id := 3, name := some "monitor", status := some "disk full" }]
  notifier := Notifier.create {}

/-- A run on the sample: the customer deletes the record, and the plugin and the record each get a
new attempt, which is refused for the record. -/
def sampleTurns : List Turn :=
  [⟨{}, Notifier.create {}, .job sampleCustomer (.deleteDnsRecord (.int 5))⟩,
    ⟨{}, Notifier.create {}, .requeue (.text "plugin") (.int 3)⟩,
    ⟨{}, Notifier.create {}, .requeue (.text "custom_dns") (.int 5)⟩]

/-- After the run the record waits for its deletion and the plugin for its new attempt, and the
domain is in service because it has been so from the start. -/
theorem statuses_stay_or_are_requested_sample :
    ((Turn.run sampleTurns sampleSite).store.rows .dns).map
        (fun (r : DnsRecord) => r.status) = [some "todelete"] ∧
      ((Turn.run sampleTurns sampleSite).store.rows .plugin).map
        (fun (r : Plugin) => r.status) = [some "tochange"] ∧
      ∀ d' ∈ (Turn.run sampleTurns sampleSite).store.rows .domain,
        Status.isPending (d' : Domain).status = false →
          ∃ d ∈ sampleSite.store.rows .domain, (d : Domain).id = (d' : Domain).id ∧
            (d : Domain).status = (d' : Domain).status :=
  ⟨by decide +kernel, by decide +kernel,
    (statuses_stay_or_are_requested sampleTurns sampleSite (t := .domain) rfl).2.2⟩

/-! ### Keys -/

lemma Column.clash_comm {ρ : Type} (c : Column ρ) (q r : ρ) : c.clash q r = c.clash r q := by
  cases c with
  | key k => exact BEq.comm
  | unique _ get _ =>
    simp only [Column.clash, Cell.agree]
    cases get q <;> cases get r <;> simp [BEq.comm]
  | _ => rfl

/-- No two rows of a list may not stand in one table. -/
def Table.Keyed (t : Table) (rows : List t.Row) : Prop :=
  rows.Pairwise fun q r => ∀ c ∈ .key t.keyColumn :: t.columns, c.clash q r = false

namespace Table.Keyed

variable {t : Table} {rows rows' : List t.Row} {W : Option String → Option String → Prop}

lemma eq_of_clash (h : t.Keyed rows) {q r : t.Row} (hq : q ∈ rows) (hr : r ∈ rows)
    {c : Column t.Row} (hc : c ∈ .key t.keyColumn :: t.columns) (hclash : c.clash q r = true) :
    q = r := by
  by_contra hne
  have : Std.Symm fun q r : t.Row => ∀ c ∈ .key t.keyColumn :: t.columns, c.clash q r = false :=
    ⟨fun q r hqr c hc => (c.clash_comm r q).trans (hqr c hc)⟩
  rw [List.Pairwise.forall h hq hr hne c hc] at hclash
  cases hclash

lemma eq_of_key (h : t.Keyed rows) {q r : t.Row} (hq : q ∈ rows) (hr : r ∈ rows)
    (hkey : t.keyColumn.get q = t.keyColumn.get r) : q = r :=
  h.eq_of_clash hq hr (c := .key t.keyColumn) (by simp) (by simp [Column.clash, hkey])

/-- A row that clashes with none of the others may be put into its place. -/
lemma place (h : t.Keyed rows) {r : t.Row} (hclash : t.clash? r rows = none) :
    t.Keyed (t.place r rows) := by
  have hnone : ∀ q ∈ rows, ∀ c ∈ .key t.keyColumn :: t.columns, c.clash r q = false := by
    intro q hq c hc
    have hfind := List.find?_eq_none.1 (Option.map_eq_none_iff.1 hclash) c hc
    simpa using fun hclash => hfind (List.any_eq_true.2 ⟨q, hq, hclash⟩)
  have hperm : (t.place r rows).Perm (r :: rows) :=
    List.perm_middle.trans (by rw [List.takeWhile_append_dropWhile])
  have hsymm : ∀ {q r : t.Row}, (∀ c ∈ .key t.keyColumn :: t.columns, c.clash q r = false) →
      ∀ c ∈ .key t.keyColumn :: t.columns, c.clash r q = false :=
    fun hqr c hc => (c.clash_comm _ _).trans (hqr c hc)
  exact (hperm.pairwise_iff hsymm).2 (List.pairwise_cons.2 ⟨hnone, h⟩)

lemma descend (hdescend : t.Descend W rows rows') (h : t.Keyed rows) : t.Keyed rows' := by
  induction hdescend with
  | nil => exact .nil
  | @cons q' q rows' rows hmoved htail ih =>
    obtain ⟨hhead, hrows⟩ := List.pairwise_cons.1 h
    refine List.pairwise_cons.2 ⟨fun r' hr' c hc => ?_, ih hrows⟩
    obtain ⟨r, hr, hmoved'⟩ := Descend.exists_mem htail hr'
    rw [(hmoved'.keys c hc q').1, (hmoved.keys c hc r).2]
    exact hhead r hr c hc
  | cons_right _ ih => exact ih (List.pairwise_cons.1 h).2

end Table.Keyed

/-- In all tables but the outbox no two rows clash. -/
def Store.Keyed (s : Store) : Prop :=
  ∀ t : Table, t ≠ .outbox → t.Keyed (s.rows t)

namespace Store

/-- A database with one row at most in each table is keyed. -/
lemma keyed_of_length_le_one {s : Store} (h : ∀ t, (s.rows t).length ≤ 1) : s.Keyed := by
  intro t _
  have hlength := h t
  rw [Table.Keyed]
  cases hrows : s.rows t with
  | nil => exact .nil
  | cons r rest =>
    rw [hrows, List.length_cons] at hlength
    obtain rfl : rest = [] := List.length_eq_zero_iff.1 (by omega)
    exact List.pairwise_singleton _ _

lemma Keyed.descends {W : Option String → Option String → Prop} {s s' : Store} (h : s.Keyed)
    (hdescends : s.Descends W s') : s'.Keyed :=
  fun t ht => Table.Keyed.descend (hdescends t ht) (h t ht)

end Store

lemma Json.eq_of_equalsKey {id : Json} {j k : Int} (hj : id.equalsKey j = true)
    (hk : id.equalsKey k = true) : j = k := by
  simp only [equalsKey, beq_iff_eq] at hj hk
  exact Option.some.inj (hj.symm.trans hk)

lemma Json.agree_of_equalsText {id : Json} {a b : Option String} (ha : id.equalsText a = true)
    (hb : id.equalsText b = true) : Cell.agree a b = true := by
  simp only [equalsText, Option.any_eq_true, beq_iff_eq] at ha hb
  obtain ⟨x, rfl, hx⟩ := ha
  obtain ⟨y, rfl, hy⟩ := hb
  obtain rfl := Option.some.inj (hx.symm.trans hy)
  simp [Cell.agree]

/-- Two items with one key clash, those of the FTP accounts by their name. -/
lemma ItemType.exists_clash_of_hasId {t : ItemType} (ht : t ∈ ItemType.all) {id : Json}
    {q r : t.table.Row} (hq : t.hasId id q = true) (hr : t.hasId id r = true) :
    ∃ c ∈ .key t.table.keyColumn :: t.table.columns, c.clash q r = true := by
  have hkey {u : Table} {q r : u.Row} (hq : id.equalsKey (u.keyColumn.get q) = true)
      (hr : id.equalsKey (u.keyColumn.get r) = true) :
      ∃ c ∈ .key u.keyColumn :: u.columns, c.clash q r = true :=
    ⟨.key u.keyColumn, by simp, beq_iff_eq.2 (Json.eq_of_equalsKey hq hr)⟩
  by_cases hftp : t = ftp
  · subst hftp
    exact ⟨.unique "userid" (·.userid) fun v u => { u with userid := v }, .tail _ (.head _),
      Json.agree_of_equalsText hq hr⟩
  · simp only [all, List.mem_cons, List.not_mem_nil, or_false] at ht
    rcases ht with rfl | rfl | rfl | rfl | rfl | rfl | rfl | rfl | rfl | rfl | rfl | rfl | rfl
    case inr.inr.inr.inr.inr.inr.inl => exact absurd rfl hftp
    all_goals exact hkey hq hr

/-! ### Deletions -/

/-- A status that asks for a deletion stays. -/
def Status.StaysDeleted (old new : Option String) : Prop :=
  old = some Status.toDelete → new = some Status.toDelete

instance : Std.Refl Status.StaysDeleted :=
  ⟨fun _ h => h⟩

instance : IsTrans _ Status.StaysDeleted :=
  ⟨fun _ _ _ h h' hdeleted => h' (h hdeleted)⟩

/-- Whether a job deletes something or has a backup restored.  Left out are the jobs that change an
item: the suspension of a customer, the deletion of a mail account, which changes other accounts,
and the deletion of a certificate, which changes its owner. -/
def Job.isDeletion : Job → Bool
  | .changeCustomerStatus _ _ => false
  | .deleteMailAccount _ => false
  | .deleteCertificate _ _ _ => false
  | _ => true

/-- Whether an operation is not one of the other jobs. -/
def Call.isDeletion : Call → Bool
  | .job _ task => task.isDeletion
  | _ => true

lemma Job.Step.staysDeleted {job : Job} (hjob : job.isDeletion = true) {old new : Option String}
    (h : job.Step old new) : Status.StaysDeleted old new := by
  intro hdeleted
  rcases h with rfl | ⟨status, rfl, hwrites⟩
  · exact hdeleted
  · cases job with
    | changeCustomerStatus | deleteMailAccount | deleteCertificate => cases hjob
    | scheduleBackupRestore =>
      -- Only what is in service is restored.
      obtain ⟨hok, -⟩ := hwrites
      rw [hok] at hdeleted
      exact absurd hdeleted (by decide)
    | _ =>
      obtain rfl := hwrites
      rfl

/-- An item that waits for its deletion is not in error. -/
lemma ItemType.isError_toDelete {t : ItemType} (ht : t ∈ ItemType.all) :
    Status.isError (some Status.toDelete) (some t.normal) = false := by
  revert t
  decide

/-- A new attempt takes no deletion back, if keys are keys. -/
lemma Debugger.staysDeleted_requeueBlock {t : ItemType} {id : Json} {c : Context} {s s' : Store}
    (ht : t ∈ ItemType.all) (hkeyed : s.Keyed)
    (hrun : Debugger.requeueBlock t id c s = .ok ((), s')) :
    s.Descends Status.StaysDeleted s' := by
  refine Debugger.descends_requeueBlock ht (fun r hr hid hdeleted => ?_) hrun
  obtain ⟨found, hfind, herror, -⟩ := Debugger.requeueBlock_eq_ok hrun
  obtain ⟨c, hc, hclash⟩ := ItemType.exists_clash_of_hasId ht hid (List.find?_some hfind)
  obtain rfl := (hkeyed t.table (ItemType.table_ne_outbox ht)).eq_of_clash hr
    (List.mem_of_find?_eq_some hfind) hc hclash
  rw [hdeleted, ItemType.isError_toDelete ht] at herror
  cases herror

/-- No operation but the other jobs takes a deletion back. -/
lemma Call.staysDeleted {call : Call} (hcall : call.isDeletion = true) (c : Context) {p : Panel}
    (hkeyed : p.store.Keyed) :
    p.store.Descends Status.StaysDeleted (call.after c p).store := by
  refine (call.effect_after c p).descends fun action block changed hschedules hrun => ?_
  cases call with
  | job user task =>
    obtain ⟨plan, hplan, -, rfl⟩ := hschedules
    exact (Job.descends_of_run hplan hrun).mono fun _ _ => Job.Step.staysDeleted hcall
  | requeue type id =>
    obtain ⟨t, hnamed, -, rfl⟩ := hschedules
    exact Debugger.staysDeleted_requeueBlock (ItemType.mem_all_of_named hnamed) hkeyed hrun
  | _ => exact hschedules.elim

/-- Through a run without the other jobs, deletions stay. -/
lemma Turn.staysDeleted_run {turns : List Turn}
    (hturns : ∀ turn ∈ turns, turn.call.isDeletion = true) {p : Panel} (hkeyed : p.store.Keyed) :
    p.store.Descends Status.StaysDeleted (Turn.run turns p).store :=
  Turn.descends_run (fun _ _ => Store.Keyed.descends)
    (fun turn hturn p => Call.staysDeleted (p := { p with notifier := turn.notifier })
      (hturns turn hturn) turn.context) hkeyed

/-- A deletion is not taken back.  Take any run of new attempts, jobs that delete, restorations of
backups and announcements, with any faults and any daemon, on a database in which keys are keys.  A
row that waits for its deletion at some moment of the run does so at every later moment, unless it
has gone. -/
theorem deletions_stay {before later : List Turn} {p : Panel} (hkeyed : p.store.Keyed)
    (hturns : ∀ turn ∈ before ++ later, turn.call.isDeletion = true) {t : Table}
    {column : StatusColumn t.Row} (hcolumn : t.statusColumn? = some column) {r r' : t.Row}
    (hr : r ∈ (Turn.run before p).store.rows t) (hdeleted : column.get r = some Status.toDelete)
    (hr' : r' ∈ (Turn.run (before ++ later) p).store.rows t)
    (hkey : t.keyColumn.get r' = t.keyColumn.get r) : column.get r' = some Status.toDelete := by
  have htable : t ≠ .outbox := by
    rintro rfl
    cases hcolumn
  have hbefore : (Turn.run before p).store.Keyed :=
    hkeyed.descends (Turn.staysDeleted_run (fun turn hturn => hturns turn (by simp [hturn])) hkeyed)
  have hafter : ∀ turn ∈ later, turn.call.isDeletion = true :=
    fun turn hturn => hturns turn (by simp [hturn])
  have hlater := Turn.staysDeleted_run hafter hbefore
  rw [Turn.run, List.foldl_append] at hr'
  obtain ⟨origin, horigin, hmoved⟩ := (hlater t htable).exists_mem hr'
  obtain rfl := (hbefore t htable).eq_of_key horigin hr (hmoved.keys.key.symm.trans hkey)
  exact hmoved.status column hcolumn hdeleted

/-- On the sample, a new attempt for the record that the customer has deleted leaves it deleted. -/
theorem deletions_stay_sample :
    sampleSite.store.Keyed ∧
      ∀ r' ∈ (Turn.run sampleTurns sampleSite).store.rows .dns,
        (r' : DnsRecord).id = 5 → (r' : DnsRecord).status = some "todelete" := by
  have hkeyed : sampleSite.store.Keyed := by
    intro t ht
    cases t <;> first | exact .nil | exact List.pairwise_singleton _ _
  have hturns : ∀ turn ∈ sampleTurns.take 1 ++ sampleTurns.drop 1, turn.call.isDeletion = true := by
    decide
  have hdeleted :
      ({ id := 5, domainId := some (.whole 1), record := some "www",
          status := some "todelete" } : DnsRecord) ∈
        (Turn.run (sampleTurns.take 1) sampleSite).store.rows .dns := by
    decide +kernel
  refine ⟨hkeyed, fun r' hr' hid => ?_⟩
  rw [← List.take_append_drop 1 sampleTurns] at hr'
  exact deletions_stay hkeyed hturns (t := .dns) rfl hdeleted rfl hr' hid

end HostingPanel
