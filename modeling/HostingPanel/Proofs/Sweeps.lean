import HostingPanel.Proofs.StatusMoves

/-!
# Statements that change places

Two statements can change places if they leave the same store in either order
(`Statement.Commutes`), and two lists of statements can if each statement of the one can change
places with each of the other (`Statement.applyAll_comm`).

The statements by which web space is deleted are sweeps (`Statement.IsSweep`): they schedule rows
for deletion or remove rows, and which rows they pick depends neither on a status nor on anything
that a sweep changes.  So sweeps can change places, whichever two deletions they belong to.

A sweep leaves itself nothing to do (`Statement.Idle`), and sweeps that come after it leave it
nothing to do either, since they could have come before.
-/

namespace HostingPanel

/-! ### The rows of a table after two changes -/

lemma Store.modify_comm (s : Store) {t u : Table} (f : List t.Row → List t.Row)
    (g : List u.Row → List u.Row) (h : t ≠ u) :
    (s.modify t f).modify u g = (s.modify u g).modify t f := by
  simp only [modify]
  rw [rows_set_of_ne s _ h, rows_set_of_ne s _ (Ne.symm h), set_comm s _ _ h]

lemma Store.modify_modify (s : Store) (t : Table) (f g : List t.Row → List t.Row) :
    (s.modify t f).modify t g = s.modify t fun rows => g (f rows) := by
  simp only [modify, rows_set_self, set_set]

namespace Statement

/-- Two changes of rows can change places if neither has a part in what the other one picks, and on
a row that both pick they can. -/
lemma updateRows_comm {ρ : Type} {p q : ρ → Bool} {f g : ρ → ρ} (hp : ∀ r, p (g r) = p r)
    (hq : ∀ r, q (f r) = q r) (hfg : ∀ r, p r = true → q r = true → g (f r) = f (g r))
    (rows : List ρ) :
    updateRows q g (updateRows p f rows) = updateRows p f (updateRows q g rows) := by
  simp only [updateRows, List.map_map]
  refine List.map_congr_left fun r _ => ?_
  simp only [Function.comp_apply]
  cases hpr : p r <;> cases hqr : q r <;> simp [hp, hq, hpr, hqr, hfg]

/-- A change changes no row exactly if every row that is picked is as it would be made. -/
lemma updateRows_eq_self_iff {ρ : Type} {p : ρ → Bool} {f : ρ → ρ} {rows : List ρ} :
    updateRows p f rows = rows ↔ ∀ r ∈ rows, p r = true → f r = r := by
  induction rows with
  | nil => simp [updateRows]
  | cons r rows ih =>
    rw [updateRows, List.map_cons, List.cons_eq_cons, List.forall_mem_cons]
    refine and_congr ?_ ih
    cases p r <;> simp

/-- After a change, the same change of other rows changes nothing exactly if they were picked before
or were as they would be made. -/
lemma updateRows_updateRows_eq_iff {ρ : Type} {p q : ρ → Bool} {f : ρ → ρ} {rows : List ρ}
    (hf : ∀ r, f (f r) = f r) (hq : ∀ r, q (f r) = q r) :
    updateRows q f (updateRows p f rows) = updateRows p f rows ↔
      ∀ r ∈ rows, q r = true → p r = true ∨ f r = r := by
  rw [updateRows_eq_self_iff, updateRows, List.forall_mem_map]
  refine forall₂_congr fun r _ => ?_
  cases p r <;> simp [hf, hq]

/-- Two statements that leave the same store in either order. -/
def Commutes (st st' : Statement) : Prop :=
  ∀ s, st'.apply (st.apply s) = st.apply (st'.apply s)

/-- The order in which two statements are named does not matter. -/
lemma Commutes.symm {st st' : Statement} (h : st.Commutes st') : st'.Commutes st :=
  fun s => (h s).symm

/-- What a statement does to the rows of its table. -/
def change : (st : Statement) → Store → List st.table.Row → List st.table.Row
  | .update _ _ _ picks change, s => updateRows (picks s) change
  | .delete _ _ _ picks, s => List.filter fun r => !picks s r

lemma apply_eq_modify (st : Statement) (s : Store) :
    st.apply s = s.modify st.table (st.change s) := by
  cases st <;> rfl

lemma rows_apply_self (st : Statement) (s : Store) :
    (st.apply s).rows st.table = st.change s (s.rows st.table) := by
  rw [apply_eq_modify, Store.modify, Store.rows_set_self]

section Criteria

variable {st st' : Statement}

/-- Statements on two tables can change places if what one does to its table does not depend on the
other one. -/
lemma commutes_of_ne (hne : st.table ≠ st'.table)
    (h : ∀ s, st.change (st'.apply s) = st.change s)
    (h' : ∀ s, st'.change (st.apply s) = st'.change s) : st.Commutes st' := by
  intro s
  rw [st'.apply_eq_modify (st.apply s), h', st.apply_eq_modify (st'.apply s), h,
    st.apply_eq_modify s, st'.apply_eq_modify s]
  exact s.modify_comm (st.change s) (st'.change s) hne

/-- Statements on one table can change places if their changes of the rows can. -/
lemma commutes_of_rows {t : Table} {f g : Store → List t.Row → List t.Row}
    (hst : ∀ s, st.apply s = s.modify t (f s)) (hst' : ∀ s, st'.apply s = s.modify t (g s))
    (hf : ∀ s, f (st'.apply s) = f s) (hg : ∀ s, g (st.apply s) = g s)
    (hrows : ∀ s rows, g s (f s rows) = f s (g s rows)) : st.Commutes st' := by
  intro s
  rw [hst' (st.apply s), hg, hst s, hst (st'.apply s), hf, hst' s, Store.modify_modify,
    Store.modify_modify]
  exact congrArg (s.modify t) (funext (hrows s))

end Criteria

/-- A statement that can change places with each of some statements can be moved past them. -/
lemma apply_applyAll_comm {st : Statement} {sts : List Statement}
    (h : ∀ st' ∈ sts, st.Commutes st') (s : Store) :
    applyAll sts (st.apply s) = st.apply (applyAll sts s) := by
  induction sts generalizing s with
  | nil => rfl
  | cons st' sts ih =>
    obtain ⟨hfirst, hrest⟩ := List.forall_mem_cons.1 h
    rw [applyAll_cons, applyAll_cons, hfirst s, ih hrest]

/-- Two lists of statements can change places if each statement of the one can with each of the
other. -/
theorem applyAll_comm {sts sts' : List Statement}
    (h : ∀ st ∈ sts, ∀ st' ∈ sts', st.Commutes st') (s : Store) :
    applyAll sts' (applyAll sts s) = applyAll sts (applyAll sts' s) := by
  induction sts generalizing s with
  | nil => rfl
  | cons st sts ih =>
    obtain ⟨hfirst, hrest⟩ := List.forall_mem_cons.1 h
    rw [applyAll_cons, applyAll_cons, ih hrest, apply_applyAll_comm hfirst]

end Statement

/-! ### Sweeps -/

/-- A row that is scheduled for deletion, if its table keeps a status. -/
def Table.scheduled (t : Table) (r : t.Row) : t.Row :=
  match t.statusColumn? with
  | some column => column.set (some Status.toDelete) r
  | none => r

lemma Table.scheduled_scheduled (t : Table) (r : t.Row) :
    t.scheduled (t.scheduled r) = t.scheduled r := by
  cases t <;> rfl

/-- Scheduling a row changes nothing exactly if the row waits for its deletion already. -/
lemma Table.scheduled_eq_self_iff {t : Table} {column : StatusColumn t.Row}
    (h : t.statusColumn? = some column) {r : t.Row} :
    t.scheduled r = r ↔ column.get r = some Status.toDelete := by
  have hscheduled : t.scheduled r = column.set (some Status.toDelete) r := by
    rw [scheduled, h]
  have hset : column.set (column.get r) r = r := by
    cases t <;> cases h <;> rfl
  rw [hscheduled]
  constructor
  · intro hsame
    rw [← hsame, get_set_of_statusColumn? h]
  · intro hstatus
    rw [← hstatus, hset]

/-- The keys of the subdomains of aliases, each with its alias. -/
def Store.aliasChildren (s : Store) : List (Int × Option Quantity) :=
  (s.rows .aliasSubdomain).map fun (sub : AliasSubdomain) => (sub.id, sub.aliasId)

/-- Whether something belongs to a subdomain of an alias can be told from the keys. -/
lemma Jobs.isSubdomainOfAlias_eq (s : Store) (id : Json) (column : Option Quantity) :
    isSubdomainOfAlias s id column =
      s.aliasChildren.any fun k => Cell.refersTo k.1 column && id.equalsQuantity k.2 := by
  simp only [isSubdomainOfAlias, Store.aliasChildren, List.any_map]
  rfl

namespace Statement

/-- A choice of rows that does not depend on a status, and on other tables only by the keys of the
subdomains of aliases. -/
structure Blind {t : Table} (picks : Store → t.Row → Bool) : Prop where
  /-- It does not matter whether a row has been scheduled for deletion. -/
  scheduled : ∀ s r, picks s (t.scheduled r) = picks s r
  /-- It does not matter what else has changed. -/
  steady : ∀ s s', s'.aliasChildren = s.aliasChildren → picks s' = picks s

/-- The tables whose rows are scheduled by sweeps. -/
def scheduledTables : List Table :=
  [.ftpUser, .mail, .certificate, .area, .subdomain, .aliasSubdomain, .domainAlias]

/-- The tables whose rows are removed by sweeps. -/
def removedTables : List Table :=
  [.dns, .php]

/-- A statement that schedules the rows that it picks for deletion, or removes them. -/
inductive IsSweep : Statement → Prop where
  /-- Rows are scheduled. -/
  | schedule {t : Table} {mentions : List Table} {params : List Json}
    {picks : Store → t.Row → Bool} {change : t.Row → t.Row} (ht : t ∈ scheduledTables)
    (hchange : change = t.scheduled) (hblind : Blind picks) :
    IsSweep (.update t mentions params picks change)
  /-- Rows are removed. -/
  | remove {t : Table} {mentions : List Table} {params : List Json} {picks : Store → t.Row → Bool}
    (ht : t ∈ removedTables) (hblind : Blind picks) : IsSweep (.delete t mentions params picks)

namespace IsSweep

variable {st st' : Statement}

lemma table_mem (h : st.IsSweep) : st.table ∈ scheduledTables ++ removedTables := by
  cases h with
  | schedule ht => exact List.mem_append_left _ ht
  | remove ht => exact List.mem_append_right _ ht

/-- What a sweep does not look at stays as it is in all rows, in tables from which it does not
remove rows. -/
lemma map_rows (h : st.IsSweep) {t : Table} (ht : t ∉ removedTables) {β : Type} {view : t.Row → β}
    (hview : ∀ r, view (t.scheduled r) = view r) (s : Store) :
    ((st.apply s).rows t).map view = (s.rows t).map view := by
  cases h with
  | @remove u _ _ _ hu _ =>
    have hne : u ≠ t := fun hsame => ht (hsame ▸ hu)
    exact congrArg (List.map view) (s.rows_set_of_ne _ hne)
  | @schedule u _ _ picks _ _ hchange _ =>
    by_cases htable : u = t
    · subst htable hchange
      simp only [apply, Store.modify, Store.rows_set_self, updateRows, List.map_map]
      refine List.map_congr_left fun r _ => ?_
      simp only [Function.comp_apply]
      split
      · exact hview r
      · rfl
    · exact congrArg (List.map view) (s.rows_set_of_ne _ htable)

/-- What a row has after a sweep a row has had before, but for the status. -/
lemma exists_of_mem (h : st.IsSweep) {s : Store} {t : Table}
    {α : Type} {f : t.Row → α} (hf : ∀ r, f (t.scheduled r) = f r) {r : t.Row}
    (hr : r ∈ (st.apply s).rows t) : ∃ r₀ ∈ s.rows t, f r₀ = f r := by
  by_cases htable : st.table = t
  · subst htable
    rw [rows_apply_self] at hr
    cases h with
    | @schedule t _ _ picks _ _ hchange _ =>
      subst hchange
      obtain ⟨r₀, hr₀, rfl⟩ := List.mem_map.1 hr
      refine ⟨r₀, hr₀, ?_⟩
      by_cases hpicked : picks s r₀ = true
      · exact ((congrArg f (if_pos hpicked)).trans (hf r₀)).symm
      · exact (congrArg f (if_neg hpicked)).symm
    | remove => exact ⟨r, List.mem_of_mem_filter hr, rfl⟩
  · rw [rows_apply_of_ne st s htable] at hr
    exact ⟨r, hr, rfl⟩

/-- A sweep keeps the keys of the subdomains of aliases. -/
lemma aliasChildren_apply (h : st.IsSweep) (s : Store) :
    (st.apply s).aliasChildren = s.aliasChildren :=
  h.map_rows (t := .aliasSubdomain) (by decide) (fun _ => rfl) s

/-- What a sweep does depends on nothing else in the database but the keys of the subdomains of
aliases. -/
lemma change_eq (h : st.IsSweep) {s s' : Store} (hchildren : s'.aliasChildren = s.aliasChildren) :
    st.change s' = st.change s := by
  cases h with
  | schedule _ _ hblind => exact congrArg (updateRows · _) (hblind.steady s s' hchildren)
  | remove _ hblind =>
    exact congrArg (fun picks => List.filter fun r => !picks r) (hblind.steady s s' hchildren)

lemma ne_of_mem {t u : Table} (ht : t ∈ scheduledTables) (hu : u ∈ removedTables) : t ≠ u := by
  rintro rfl
  revert ht hu
  cases t <;> decide

theorem commutes (h : st.IsSweep) (h' : st'.IsSweep) : st.Commutes st' := by
  have hfirst (s : Store) := h.change_eq (h'.aliasChildren_apply s)
  have hsecond (s : Store) := h'.change_eq (h.aliasChildren_apply s)
  by_cases htable : st.table = st'.table
  · cases h with
    | @schedule t _ _ p _ ht hchange hp =>
      cases h' with
      | @schedule u _ _ q _ _ hchange' hq =>
        obtain rfl : t = u := htable
        subst hchange hchange'
        refine commutes_of_rows (fun _ => rfl) (fun _ => rfl) hfirst hsecond fun s rows => ?_
        exact updateRows_comm (hp.scheduled s) (hq.scheduled s) (fun _ _ _ => rfl) rows
      | remove hu _ => exact absurd htable (ne_of_mem ht hu)
    | @remove t _ _ p ht hp =>
      cases h' with
      | schedule hu _ _ => exact absurd htable.symm (ne_of_mem hu ht)
      | @remove u _ _ q _ hq =>
        obtain rfl : t = u := htable
        refine commutes_of_rows (fun _ => rfl) (fun _ => rfl) hfirst hsecond fun s rows => ?_
        exact List.filter_comm _ _ rows
  · exact commutes_of_ne htable hfirst hsecond

/-- A sweep can change places with a statement on a table that is not swept, if what that one does
does not depend on the database. -/
lemma commutes_of_notMem (h : st.IsSweep) (ht : st'.table ∉ scheduledTables ++ removedTables)
    (hchange : ∀ s s', st'.change s' = st'.change s) : st'.Commutes st := by
  refine commutes_of_ne (fun hsame => ht (hsame ▸ h.table_mem)) (fun s => hchange s _) fun s => ?_
  have hother : st'.table ≠ .aliasSubdomain := fun hsame => ht (hsame ▸ by decide)
  exact h.change_eq (congrArg (List.map _) (rows_apply_of_ne st' s hother))

end IsSweep

lemma Blind.of_row {t : Table} {p : t.Row → Bool} (h : ∀ r, p (t.scheduled r) = p r) :
    Blind fun _ : Store => p :=
  ⟨fun _ => h, fun _ _ _ => rfl⟩

end Statement

/-! ### Statements that have nothing left to do -/

namespace Statement

/-- A statement has nothing left to do if it changes nothing. -/
def Idle (st : Statement) (s : Store) : Prop :=
  st.apply s = s

variable {st st' : Statement} {s : Store}

/-- A statement that has nothing left to do does nothing. -/
lemma Idle.apply_eq (h : st.Idle s) : st.apply s = s :=
  h

/-- A statement has nothing left to do exactly if it changes no row of its table. -/
lemma idle_iff : st.Idle s ↔ st.change s (s.rows st.table) = s.rows st.table := by
  constructor
  · intro h
    rw [← rows_apply_self, h]
  · intro h
    rw [Idle, apply_eq_modify, Store.modify, h, Store.set_rows_self]

section

variable {t : Table} {mentions : List Table} {params : List Json} {picks : Store → t.Row → Bool}

/-- An update has nothing left to do exactly if every row that it picks is as it would make it. -/
lemma idle_update_iff {change : t.Row → t.Row} :
    (update t mentions params picks change).Idle s ↔
      ∀ r ∈ s.rows t, picks s r = true → change r = r :=
  idle_iff.trans updateRows_eq_self_iff

/-- A removal has nothing left to do exactly if it picks no row. -/
lemma idle_delete_iff :
    (delete t mentions params picks).Idle s ↔ ∀ r ∈ s.rows t, picks s r = false := by
  refine idle_iff.trans (List.filter_eq_self.trans (forall₂_congr fun r _ => ?_))
  simp

end

/-- Where a statement has nothing left to do, another one that can change places with it leaves it
nothing to do. -/
lemma Idle.apply (h : st.Idle s) (hcommutes : st.Commutes st') : st.Idle (st'.apply s) := by
  rw [Idle, ← hcommutes s, h]

/-- Where a statement has nothing left to do, others that can change places with it leave it nothing
to do. -/
lemma Idle.applyAll (h : st.Idle s) {sts : List Statement}
    (hcommutes : ∀ st' ∈ sts, st.Commutes st') : st.Idle (applyAll sts s) := by
  rw [Idle, ← apply_applyAll_comm hcommutes, h]

lemma IsSweep.idle_apply (h : st.IsSweep) (s : Store) : st.Idle (st.apply s) := by
  rw [idle_iff, h.change_eq (h.aliasChildren_apply s), rows_apply_self]
  cases h with
  | @schedule t _ _ picks _ _ hchange hblind =>
    subst hchange
    exact (updateRows_updateRows_eq_iff t.scheduled_scheduled (hblind.scheduled s)).2
      fun _ _ => .inl
  | remove => simp only [change, List.filter_filter, Bool.and_self]

/-- After some sweeps none of them has anything left to do. -/
lemma idle_of_mem {sts : List Statement} (hsweeps : ∀ st ∈ sts, st.IsSweep) (hst : st ∈ sts)
    (s : Store) : st.Idle (applyAll sts s) := by
  obtain ⟨before, after, rfl⟩ := List.append_of_mem hst
  rw [applyAll_append, applyAll_cons]
  refine ((hsweeps st hst).idle_apply _).applyAll fun st' hst' => ?_
  exact (hsweeps st hst).commutes (hsweeps st' (by simp [hst']))

end Statement

/-! ### The statements on web space -/

namespace Jobs

open Statement

lemma isSweep_removePhp (id : Json) (ownerType : String) : (removePhp id ownerType).IsSweep :=
  .remove (by decide) (.of_row fun _ => rfl)

lemma isSweep_scheduleCertificates (id : Json) (ownerType : String) :
    (scheduleCertificates id ownerType).IsSweep :=
  .schedule (by decide) rfl (.of_row fun _ => rfl)

lemma isSweep_scheduleAreasUnder (domainId : Option Quantity) (mount : Option String) :
    (scheduleAreasUnder domainId mount).IsSweep :=
  .schedule (by decide) rfl (.of_row fun _ => rfl)

lemma isSweep_of_mem_shared {id : Json} {host php family certificates : String}
    {domainId : Option Quantity} {mount : Option String} {last : Statement} (hlast : last.IsSweep) :
    ∀ st ∈ [removePhp id php, scheduleFtpOfHost host, scheduleMailUnder id family,
      scheduleCertificates id certificates, scheduleAreasUnder domainId mount, last],
      st.IsSweep := by
  simp only [List.forall_mem_cons, List.not_mem_nil, false_imp_iff, implies_true, and_true]
  exact ⟨isSweep_removePhp _ _, .schedule (by decide) rfl (.of_row fun _ => rfl),
    .schedule (by decide) rfl (.of_row fun _ => rfl), isSweep_scheduleCertificates _ _,
    isSweep_scheduleAreasUnder _ _, hlast⟩

lemma isSweep_of_mem_subdomainStatements (id : Json) (sub : Subdomain) (host : String) :
    ∀ st ∈ subdomainStatements id sub host, st.IsSweep :=
  isSweep_of_mem_shared (.schedule (by decide) rfl (.of_row fun _ => rfl))

lemma isSweep_of_mem_aliasSubdomainStatements (id : Json) (sub : AliasSubdomain)
    (parent : DomainAlias) (host : String) :
    ∀ st ∈ aliasSubdomainStatements id sub parent host, st.IsSweep :=
  isSweep_of_mem_shared (.schedule (by decide) rfl (.of_row fun _ => rfl))

/-- A choice that looks at the row and at the subdomains of an alias. -/
lemma blind_of_isSubdomainOfAlias {t : Table} {id : Json} (column : t.Row → Option Quantity)
    (p : Bool → t.Row → Bool) (hcolumn : ∀ r, column (t.scheduled r) = column r)
    (hp : ∀ b r, p b (t.scheduled r) = p b r) :
    Blind fun s r => p (isSubdomainOfAlias s id (column r)) r where
  scheduled s r := by rw [hcolumn, hp]
  steady s s' hchildren := by
    funext r
    rw [isSubdomainOfAlias_eq, isSubdomainOfAlias_eq, hchildren]

lemma isSweep_of_mem_aliasCascade (id : Json) (row : DomainAlias) (name : String) :
    ∀ st ∈ aliasCascade id row name, st.IsSweep := by
  simp only [aliasCascade, aliasRemovals, aliasStatements, List.cons_append, List.nil_append,
    List.forall_mem_cons, List.not_mem_nil, false_imp_iff, implies_true, and_true]
  refine ⟨.remove (by decide) (.of_row fun _ => rfl), isSweep_removePhp _ _,
    .remove (by decide) ?_, .schedule (by decide) rfl (.of_row fun _ => rfl),
    .schedule (by decide) rfl ?_, .schedule (by decide) rfl ?_, isSweep_scheduleCertificates _ _,
    isSweep_scheduleAreasUnder _ _, .schedule (by decide) rfl (.of_row fun _ => rfl),
    .schedule (by decide) rfl (.of_row fun _ => rfl)⟩
  · exact blind_of_isSubdomainOfAlias (t := .php) (fun (p : PhpSetting) => p.ownerId)
      (fun b (p : PhpSetting) => Cell.isText "subals" p.ownerType && b) (fun _ => rfl)
      fun _ _ => rfl
  · exact blind_of_isSubdomainOfAlias (t := .mail) (fun (m : Mailbox) => m.subId)
      (fun b (m : Mailbox) =>
        (id.equalsQuantity m.subId && Cell.isLike (Text.containing "alias_") m.kind) ||
          (b && Cell.isLike (Text.containing "alssub_") m.kind)) (fun _ => rfl) fun _ _ => rfl
  · exact blind_of_isSubdomainOfAlias (t := .certificate) (fun (x : Certificate) => x.ownerId)
      (fun b (x : Certificate) => Cell.isText "alssub" x.ownerType && b) (fun _ => rfl)
      fun _ _ => rfl

end Jobs

end HostingPanel
