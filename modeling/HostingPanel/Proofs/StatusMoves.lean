import Mathlib.Data.List.Forall2
import HostingPanel.Proofs.Ledger

/-!
# How statuses move

Fourteen tables keep a status for each of their rows (`Table.statusColumn?`).  A row that stays in
its table keeps its key and its unique values, and its status moves.  This module follows the rows
through statements, operations and whole runs.

`Table.Moved W` says of a row before and after that its status has moved along a relation `W`, and
`Store.Descends W` says of two stores that each row of the later one is a moved row of the earlier
one, in the same order; the other rows have gone.  Both are transitive if `W` is, so a question
about runs becomes a question about single statements (`Statement.Moves`).

`Job.Step` is the relation that belongs to a job: what it writes, and in place of which statuses.
`Job.MayRun.moves` says that every statement of the job moves statuses along it.
-/

namespace HostingPanel

/-! ### The status of a row -/

/-- The column in which a kind of row keeps its status. -/
structure StatusColumn (ρ : Type) where
  name : String
  get : ρ → Option String
  set : Option String → ρ → ρ

namespace Table

/-- The status column of a table, if its rows have a status. -/
def statusColumn? : (t : Table) → Option (StatusColumn t.Row)
  | .admin => some ⟨"admin_status", (·.status), fun v r => { r with status := v }⟩
  | .domain => some ⟨"domain_status", (·.status), fun v r => { r with status := v }⟩
  | .subdomain => some ⟨"subdomain_status", (·.status), fun v r => { r with status := v }⟩
  | .domainAlias => some ⟨"alias_status", (·.status), fun v r => { r with status := v }⟩
  | .aliasSubdomain =>
    some ⟨"subdomain_alias_status", (·.status), fun v r => { r with status := v }⟩
  | .dns => some ⟨"domain_dns_status", (·.status), fun v r => { r with status := v }⟩
  | .mail => some ⟨"status", (·.status), fun v r => { r with status := v }⟩
  | .ftpUser => some ⟨"status", (·.status), fun v r => { r with status := v }⟩
  | .certificate => some ⟨"status", (·.status), fun v r => { r with status := v }⟩
  | .area => some ⟨"status", (·.status), fun v r => { r with status := v }⟩
  | .areaGroup => some ⟨"status", (·.status), fun v r => { r with status := v }⟩
  | .areaUser => some ⟨"status", (·.status), fun v r => { r with status := v }⟩
  | .serverIp => some ⟨"ip_status", (·.status), fun v r => { r with status := v }⟩
  | .plugin => some ⟨"plugin_status", (·.status), fun v r => { r with status := v }⟩
  | _ => none

example : (all.filter (·.statusColumn?.isSome)).map name =
    ["admin", "domain", "subdomain", "domain_aliases", "subdomain_alias", "domain_dns",
      "mail_users", "ftp_users", "ssl_certs", "htaccess", "htaccess_groups", "htaccess_users",
      "server_ips", "plugin"] := by
  decide

variable {t : Table} {column : StatusColumn t.Row}

lemma get_set_of_statusColumn? (h : t.statusColumn? = some column) (v : Option String)
    (r : t.Row) : column.get (column.set v r) = v := by
  cases t <;> cases h <;> rfl

/-- A row clashes with the same rows as before: it has the same key and the same unique values. -/
def SameKeys (t : Table) (r r' : t.Row) : Prop :=
  ∀ c ∈ .key t.keyColumn :: t.columns, ∀ q, c.clash q r' = c.clash q r ∧ c.clash r' q = c.clash r q

lemma sameKeys_set (h : t.statusColumn? = some column) (v : Option String) (r : t.Row) :
    t.SameKeys r (column.set v r) := by
  cases t <;> cases h <;> simp [SameKeys, columns, keyColumn, Column.clash]

/-- A row keeps its key and its unique values, and its status moves along a relation. -/
structure Moved (W : Option String → Option String → Prop) (t : Table) (r r' : t.Row) : Prop where
  /-- The key and the unique values stay. -/
  keys : t.SameKeys r r'
  /-- The status moves. -/
  status : ∀ column, t.statusColumn? = some column → W (column.get r) (column.get r')

lemma sameKeys_mail {m m' : Mailbox} (h : m'.id = m.id) : SameKeys .mail m m' := by
  simp [SameKeys, columns, keyColumn, Column.clash, h]

variable {W V : Option String → Option String → Prop} {r r' : t.Row}

/-- A row that clashes with the same rows has the same key. -/
lemma SameKeys.key (h : t.SameKeys r r') : t.keyColumn.get r' = t.keyColumn.get r := by
  have hself := (h (.key t.keyColumn) (by simp) r).1
  simp only [Column.clash, BEq.rfl, beq_iff_eq] at hself
  exact hself.symm

lemma moved_refl [Std.Refl W] (r : t.Row) : t.Moved W r r where
  keys _ _ _ := ⟨rfl, rfl⟩
  status column _ := refl (column.get r)

lemma Moved.trans [IsTrans _ W] {r'' : t.Row} (h : t.Moved W r r') (h' : t.Moved W r' r'') :
    t.Moved W r r'' where
  keys c hc q := ⟨(h'.keys c hc q).1.trans (h.keys c hc q).1,
    (h'.keys c hc q).2.trans (h.keys c hc q).2⟩
  status column hcolumn := IsTrans.trans _ _ _ (h.status column hcolumn) (h'.status column hcolumn)

/-- A row that has moved along a relation has moved along a weaker one. -/
lemma Moved.mono (hWV : ∀ old new, W old new → V old new) (h : t.Moved W r r') :
    t.Moved V r r' where
  keys := h.keys
  status column hcolumn := hWV _ _ (h.status column hcolumn)

/-- The rows of a table later on: each of them is an earlier row that has moved, in the same order,
and the other rows have gone. -/
abbrev Descend (W : Option String → Option String → Prop) (t : Table) (rows rows' : List t.Row) :
    Prop :=
  List.SublistForall₂ (fun r' r => t.Moved W r r') rows' rows

lemma Descend.of_forall₂ {rows rows' : List t.Row} (h : List.Forall₂ (t.Moved W) rows rows') :
    t.Descend W rows rows' :=
  List.sublistForall₂_iff.2 ⟨rows, h.flip, .refl rows⟩

lemma Descend.of_sublist [Std.Refl W] {rows rows' : List t.Row} (h : rows'.Sublist rows) :
    t.Descend W rows rows' :=
  List.sublistForall₂_iff.2 ⟨rows', List.forall₂_same.2 fun r _ => moved_refl r, h⟩

/-- What comes of rows in two steps comes of them in one. -/
lemma Descend.trans [IsTrans _ W] {rows rows' rows'' : List t.Row} (h : t.Descend W rows rows')
    (h' : t.Descend W rows' rows'') : t.Descend W rows rows'' :=
  have : IsTrans t.Row fun r' r => t.Moved W r r' := ⟨fun _ _ _ h' h => h.trans h'⟩
  List.SublistForall₂.is_trans.trans _ _ _ h' h

lemma Descend.exists_mem {rows rows' : List t.Row} (h : t.Descend W rows rows') (hr : r' ∈ rows') :
    ∃ r ∈ rows, t.Moved W r r' := by
  induction h with
  | nil => cases hr
  | cons hmoved _ ih =>
    rcases List.mem_cons.1 hr with rfl | hr
    · exact ⟨_, by simp, hmoved⟩
    · obtain ⟨r, hmem, hmoved⟩ := ih hr
      exact ⟨r, by simp [hmem], hmoved⟩
  | cons_right _ ih =>
    obtain ⟨r, hmem, hmoved⟩ := ih hr
    exact ⟨r, by simp [hmem], hmoved⟩

end Table

/-! ### Stores -/

/-- In all tables but the outbox the rows of a later store are moved rows of an earlier one. -/
def Store.Descends (W : Option String → Option String → Prop) (s s' : Store) : Prop :=
  ∀ t : Table, t ≠ .outbox → t.Descend W (s.rows t) (s'.rows t)

namespace Store.Descends

variable {W V : Option String → Option String → Prop} {s s' s'' : Store}

lemma of_rows_eq [Std.Refl W] (h : ∀ t, t ≠ .outbox → s'.rows t = s.rows t) : s.Descends W s' := by
  intro t ht
  rw [h t ht]
  exact .of_sublist (.refl _)

lemma trans [IsTrans _ W] (h : s.Descends W s') (h' : s'.Descends W s'') : s.Descends W s'' :=
  fun t ht => (h t ht).trans (h' t ht)

lemma mono (hWV : ∀ old new, W old new → V old new) (h : s.Descends W s') : s.Descends V s' := by
  intro t ht
  obtain ⟨kept, hmoved, hkept⟩ := List.sublistForall₂_iff.1 (h t ht)
  exact List.sublistForall₂_iff.2 ⟨kept, hmoved.imp fun _ _ => Table.Moved.mono hWV, hkept⟩

end Store.Descends

/-! ### Statements -/

namespace Statement

variable {W V : Option String → Option String → Prop}

/-- In a store, a statement moves the statuses of the rows that it changes along a relation. -/
def MovesIn (W : Option String → Option String → Prop) (s : Store) : Statement → Prop
  | .update t _ _ picks change => ∀ r ∈ s.rows t, picks s r = true → t.Moved W r (change r)
  | .delete _ _ _ _ => True

/-- In every store, a statement moves statuses along a relation. -/
def Moves (W : Option String → Option String → Prop) (st : Statement) : Prop :=
  ∀ s, st.MovesIn W s

/-- The rows after a statement are the moved rows before it. -/
lemma MovesIn.descends [Std.Refl W] {st : Statement} {s : Store} (h : st.MovesIn W s) :
    s.Descends W (st.apply s) := by
  intro t ht
  by_cases htable : st.table = t
  · subst htable
    cases st with
    | update t _ _ picks change =>
      rw [table, apply, Store.modify, Store.rows_set_self]
      refine .of_forall₂ (List.forall₂_map_right_iff.2 (List.forall₂_same.2 fun r hr => ?_))
      split
      · rename_i hpicked
        exact h r hr hpicked
      · exact Table.moved_refl r
    | delete t _ _ picks =>
      rw [table, apply, Store.modify, Store.rows_set_self]
      exact .of_sublist List.filter_sublist
  · rw [rows_apply_of_ne st s htable]
    exact .of_sublist (.refl _)

/-- The rows after some statements are the moved rows before them. -/
lemma descends_applyAll [Std.Refl W] [IsTrans _ W] {sts : List Statement}
    (h : ∀ st ∈ sts, st.Moves W) (s : Store) : s.Descends W (applyAll sts s) := by
  induction sts generalizing s with
  | nil => exact .of_rows_eq fun _ _ => rfl
  | cons st sts ih =>
    have hfirst : s.Descends W (st.apply s) := (h st (by simp) s).descends
    exact hfirst.trans (ih (fun st' hst' => h st' (by simp [hst'])) (st.apply s))

/-! ### The forms of statements -/

section Forms

variable {t : Table} {mentions : List Table} {params : List Json} {picks : Store → t.Row → Bool}
  {change : t.Row → t.Row} {column : StatusColumn t.Row}

lemma moves_delete : (delete t mentions params picks).Moves W :=
  fun _ => trivial

/-- A change moves statuses as it moves those of the rows that it picks. -/
lemma moves_update (hcolumn : t.statusColumn? = some column)
    (hkeys : ∀ r, t.SameKeys r (change r))
    (hstatus : ∀ s r, picks s r = true → W (column.get r) (column.get (change r))) :
    (update t mentions params picks change).Moves W := by
  intro s r _ hpicked
  refine ⟨hkeys r, fun column' hcolumn' => ?_⟩
  obtain rfl := Option.some.inj (hcolumn.symm.trans hcolumn')
  exact hstatus s r hpicked

/-- Setting a status moves the statuses of the picked rows there. -/
lemma moves_set {status : Option String} (hcolumn : t.statusColumn? = some column)
    (hchange : change = column.set status)
    (hstatus : ∀ s r, picks s r = true → W (column.get r) status) :
    (update t mentions params picks change).Moves W := by
  subst hchange
  refine moves_update hcolumn (Table.sameKeys_set hcolumn status) fun s r hpicked => ?_
  rw [Table.get_set_of_statusColumn? hcolumn]
  exact hstatus s r hpicked

lemma moves_schedule {status : Option String} (hcolumn : t.statusColumn? = some column)
    (hchange : change = column.set status) (hstatus : ∀ old, W old status) :
    (update t mentions params picks change).Moves W :=
  moves_set hcolumn hchange fun _ r _ => hstatus (column.get r)

end Forms

end Statement

/-! ### Jobs -/

/-- The statuses that a job writes, each with what may have been there before. -/
def Job.Writes : Job → Option String → String → Prop
  | .changeCustomerStatus _ action, _, status =>
    ∃ named, Jobs.CustomerAction.named? action = some named ∧ status = named.target
  | .deleteMailAccount _, _, status => status = Status.toDelete ∨ status = Status.toChange
  | .deleteCertificate _ _ _, _, status => status = Status.toDelete ∨ status = Status.toChange
  | .scheduleBackupRestore, old, status => old = some Status.ok ∧ status = Status.toRestore
  | _, _, status => status = Status.toDelete

/-- What a job may do to a status: leave it or write another one. -/
def Job.Step (job : Job) (old new : Option String) : Prop :=
  new = old ∨ ∃ status, new = some status ∧ job.Writes old status

section Blocks

variable {W : Option String → Option String → Prop}

lemma FtpGroups.IsStored.moves {st : Statement} (h : FtpGroups.IsStored st) : st.Moves W := by
  obtain ⟨name, members, hst⟩ := h
  unfold FtpGroups.store at hst
  split at hst
  · revert st
    simp only [FtpGroups.removal, List.forall_mem_cons]
    exact ⟨Statement.moves_delete, Statement.moves_delete, Statement.moves_delete, by simp⟩
  · rw [List.mem_singleton.1 hst]
    intro s g _ _
    refine ⟨?_, by simp [Table.statusColumn?]⟩
    simp [Table.SameKeys, Table.columns, Table.keyColumn, Column.clash]

namespace Jobs

open Statement Status

/-- The statements on a subdomain write that it is to be deleted. -/
lemma moves_subdomainStatements (hW : ∀ old, W old (some toDelete)) (id : Json) (sub : Subdomain)
    (host : String) : ∀ st ∈ subdomainStatements id sub host, st.Moves W := by
  simp only [subdomainStatements, List.forall_mem_cons]
  exact ⟨moves_delete, moves_schedule rfl rfl hW, moves_schedule rfl rfl hW,
    moves_schedule rfl rfl hW, moves_schedule rfl rfl hW, moves_schedule rfl rfl hW, by simp⟩

/-- The statements on a subdomain of an alias write that it is to be deleted. -/
lemma moves_aliasSubdomainStatements (hW : ∀ old, W old (some toDelete)) (id : Json)
    (sub : AliasSubdomain) (parent : DomainAlias) (host : String) :
    ∀ st ∈ aliasSubdomainStatements id sub parent host, st.Moves W := by
  simp only [aliasSubdomainStatements, List.forall_mem_cons]
  exact ⟨moves_delete, moves_schedule rfl rfl hW, moves_schedule rfl rfl hW,
    moves_schedule rfl rfl hW, moves_schedule rfl rfl hW, moves_schedule rfl rfl hW, by simp⟩

/-- Removing what only the panel knows of an alias moves no status. -/
lemma moves_aliasRemovals (id : Json) : ∀ st ∈ aliasRemovals id, st.Moves W := by
  simp only [aliasRemovals, List.forall_mem_cons]
  exact ⟨moves_delete, moves_delete, moves_delete, by simp⟩

/-- The statements on an alias write that it is to be deleted. -/
lemma moves_aliasStatements (hW : ∀ old, W old (some toDelete)) (id : Json) (row : DomainAlias) :
    ∀ st ∈ aliasStatements id row, st.Moves W := by
  simp only [aliasStatements, List.forall_mem_cons]
  exact ⟨moves_schedule rfl rfl hW, moves_schedule rfl rfl hW, moves_schedule rfl rfl hW,
    moves_schedule rfl rfl hW, moves_schedule rfl rfl hW, moves_schedule rfl rfl hW, by simp⟩

/-- The statements on a customer write that everything is to be deleted. -/
lemma moves_customerStatements (hW : ∀ old, W old (some toDelete)) (id : Json)
    (name : Option String) (domainId : Int) :
    ∀ st ∈ customerStatements id name domainId, st.Moves W := by
  have hgroup : ∀ st ∈ FtpGroups.store name [], st.Moves W :=
    fun st hst => FtpGroups.IsStored.moves ⟨_, _, hst⟩
  simp only [customerStatements, customerRemovals, customerSchedules, List.forall_mem_append,
    List.forall_mem_cons]
  refine ⟨⟨⟨⟨?_, hgroup⟩, ?_⟩, ?_⟩, moves_delete, by simp⟩
  · exact ⟨moves_delete, moves_delete, moves_delete, moves_delete, moves_delete, moves_delete,
      by simp⟩
  · exact ⟨moves_delete, moves_delete, moves_delete, by simp⟩
  · exact ⟨moves_schedule rfl rfl hW, moves_schedule rfl rfl hW, moves_schedule rfl rfl hW,
      moves_schedule rfl rfl hW, moves_schedule rfl rfl hW, moves_schedule rfl rfl hW,
      moves_schedule rfl rfl hW, moves_schedule rfl rfl hW, moves_schedule rfl rfl hW,
      moves_schedule rfl rfl hW, moves_schedule rfl rfl hW, by simp⟩

/-- A change of a mail account that leaves the key alone moves its status. -/
lemma moves_mail {mentions : List Table} {params : List Json} {picks : Store → Mailbox → Bool}
    {change : Mailbox → Mailbox} (hkey : ∀ m, (change m).id = m.id)
    (hstatus : ∀ s m, picks s m = true → W m.status (change m).status) :
    (update .mail mentions params picks change).Moves W := by
  exact moves_update (t := .mail) rfl (fun m => Table.sameKeys_mail (hkey m)) hstatus

/-- The statements on the mail accounts of a customer who is suspended or resumed write the status
of the action, if any. -/
lemma moves_customerMail [Std.Refl W] {action : CustomerAction}
    (hW : ∀ old, W old (some action.target)) (hard : Bool) (domainId : Int) :
    ∀ st ∈ (match action with
      | .deactivate => closeMail hard domainId
      | .activate => openMail domainId), st.Moves W := by
  have hsame : ∀ m : Mailbox, W m.status m.status := fun m => refl m.status
  cases action with
  | activate =>
    simp only [openMail, List.forall_mem_cons]
    exact ⟨moves_mail (fun _ => rfl) fun _ m _ => hW m.status,
      moves_mail (fun _ => rfl) fun _ m _ => hsame m, by simp⟩
  | deactivate =>
    cases hard with
    | true =>
      simp only [closeMail, if_true, List.forall_mem_cons]
      exact ⟨moves_mail (fun _ => rfl) fun _ m _ => hW m.status, by simp⟩
    | false =>
      simp only [closeMail, Bool.false_eq_true, if_false, List.forall_mem_cons]
      exact ⟨moves_mail (fun _ => rfl) fun _ m _ => hsame m, by simp⟩

/-- The statements on a customer who is suspended or resumed write the status of the action. -/
lemma moves_customerStatusStatements [Std.Refl W] {action : CustomerAction}
    (hW : ∀ old, W old (some action.target)) (hard : Bool) (id : Json) (domainId : Int) :
    ∀ st ∈ customerStatusStatements action hard id domainId, st.Moves W := by
  simp only [customerStatusStatements, List.forall_mem_append]
  refine ⟨moves_customerMail hW hard domainId, ?_⟩
  simp only [statusStatements, List.forall_mem_cons]
  exact ⟨moves_schedule rfl rfl hW, moves_schedule rfl rfl hW, moves_schedule rfl rfl hW,
    moves_schedule rfl rfl hW, moves_schedule rfl rfl hW, moves_schedule rfl rfl hW,
    moves_schedule rfl rfl hW, moves_schedule rfl rfl hW, moves_schedule rfl rfl hW, by simp⟩

/-- Taking an address out of a list of targets writes that the account is to be deleted or
changed. -/
lemma moves_detach (hdelete : ∀ old, W old (some toDelete)) (hchange : ∀ old, W old (some toChange))
    {address : Option String} {m : Mailbox} {st : Statement} (h : st ∈ detach address m) :
    st.Moves W := by
  unfold detach at h
  split at h
  · simp at h
  · split at h
    · simp at h
    · simp only at h
      split at h
      · rw [List.mem_singleton.1 h]
        exact moves_schedule rfl rfl hdelete
      · rw [List.mem_singleton.1 h]
        exact moves_mail (fun _ => rfl) fun _ m _ => hchange m.status

end Jobs

end Blocks

/-- A job may leave every status as it is. -/
instance Job.refl_step (job : Job) : Std.Refl job.Step :=
  ⟨fun _ => .inl rfl⟩

/-- Every statement of a job moves statuses as the job may. -/
theorem Job.MayRun.moves {job : Job} {st : Statement} (h : job.MayRun st) : st.Moves job.Step := by
  cases job with
  | deleteSubdomain id =>
    rcases h with h | ⟨sub, host, h⟩
    · exact h.moves
    · exact Jobs.moves_subdomainStatements (fun _ => .inr ⟨_, rfl, rfl⟩) id sub host st h
  | deleteAliasSubdomain id =>
    rcases h with h | ⟨sub, parent, host, h⟩
    · exact h.moves
    · exact Jobs.moves_aliasSubdomainStatements (fun _ => .inr ⟨_, rfl, rfl⟩) id sub parent host
        st h
  | deleteDomainAlias id =>
    rcases h with h | h | ⟨name, rfl⟩ | ⟨row, h⟩
    · exact h.moves
    · exact Jobs.moves_aliasRemovals id st h
    · exact Statement.moves_schedule rfl rfl fun _ => .inr ⟨_, rfl, rfl⟩
    · exact Jobs.moves_aliasStatements (fun _ => .inr ⟨_, rfl, rfl⟩) id row st h
  | deleteCustomer id =>
    obtain ⟨name, domainId, h⟩ := h
    exact Jobs.moves_customerStatements (fun _ => .inr ⟨_, rfl, rfl⟩) id name domainId st h
  | changeCustomerStatus id action =>
    obtain ⟨named, hard, domainId, hnamed, h⟩ := h
    exact Jobs.moves_customerStatusStatements (fun _ => .inr ⟨_, rfl, named, hnamed, rfl⟩) hard id
      domainId st h
  | deleteMailAccount id =>
    rcases h with rfl | ⟨address, m, h⟩ | rfl
    · exact Statement.moves_schedule rfl rfl fun _ => .inr ⟨_, rfl, .inl rfl⟩
    · exact Jobs.moves_detach (fun _ => .inr ⟨_, rfl, .inl rfl⟩)
        (fun _ => .inr ⟨_, rfl, .inr rfl⟩) h
    · exact Statement.moves_delete
  | deleteFtpAccount userid =>
    rcases h with h | rfl
    · exact h.moves
    · exact Statement.moves_schedule rfl rfl fun _ => .inr ⟨_, rfl, rfl⟩
  | deleteDnsRecord id =>
    obtain ⟨customer, rfl⟩ := h
    exact Statement.moves_schedule rfl rfl fun _ => .inr ⟨_, rfl, rfl⟩
  | deleteProtectedArea id =>
    obtain ⟨domainId, rfl⟩ := h
    exact Statement.moves_schedule rfl rfl fun _ => .inr ⟨_, rfl, rfl⟩
  | deleteCertificate ownerType ownerId id =>
    obtain ⟨type, rfl | rfl⟩ := h
    · exact Statement.moves_schedule rfl rfl fun _ => .inr ⟨_, rfl, .inl rfl⟩
    · cases type with
      | domain => exact Statement.moves_schedule rfl rfl fun _ => .inr ⟨_, rfl, .inr rfl⟩
      | domainAlias => exact Statement.moves_schedule rfl rfl fun _ => .inr ⟨_, rfl, .inr rfl⟩
      | subdomain => exact Statement.moves_schedule rfl rfl fun _ => .inr ⟨_, rfl, .inr rfl⟩
      | aliasSubdomain => exact Statement.moves_schedule rfl rfl fun _ => .inr ⟨_, rfl, .inr rfl⟩
  | scheduleBackupRestore =>
    obtain ⟨customer, rfl⟩ := h
    refine Statement.moves_set rfl rfl fun s (d : Domain) hpicked => ?_
    simp only [Cell.isText, Bool.and_eq_true, beq_iff_eq] at hpicked
    exact .inr ⟨_, rfl, hpicked.2, rfl⟩

/-- What a job may do to a status in two steps it may do in one. -/
instance Job.isTrans_step (job : Job) : IsTrans _ job.Step where
  trans old middle new h h' := by
    rcases h' with rfl | ⟨status, rfl, hwrites⟩
    · exact h
    · cases job with
      | scheduleBackupRestore =>
        rcases h with rfl | ⟨earlier, rfl, hearlier⟩
        · exact .inr ⟨_, rfl, hwrites⟩
        · -- What is to be restored is not in service, so it is not scheduled again.
          obtain ⟨hok, -⟩ := hwrites
          obtain ⟨-, rfl⟩ := hearlier
          exact absurd hok (by decide)
      | _ => exact .inr ⟨_, rfl, hwrites⟩

/-- What a planned block leaves are the moved rows of before. -/
lemma Job.descends_of_run {user : User} {job : Job} {c : Context} {s s' : Store} {made : Plan}
    (hplan : job.plan user c s = .ok made) (hrun : made.block c s = .ok ((), s')) :
    s.Descends job.Step s' := by
  obtain ⟨sts, hsts, rfl⟩ := Job.block_only hplan hrun
  exact Statement.descends_applyAll (fun st hst => (hsts st hst).moves) s

/-! ### New attempts -/

/-- The status of an item is in the status column of its table. -/
lemma ItemType.statusColumn?_table {t : ItemType} (ht : t ∈ ItemType.all) :
    t.table.statusColumn? = some ⟨t.statusColumn, t.status, t.setStatus⟩ := by
  revert t
  simp only [ItemType.all, List.forall_mem_cons]
  exact ⟨rfl, rfl, rfl, rfl, rfl, rfl, rfl, rfl, rfl, rfl, rfl, rfl, rfl, by simp⟩

/-- What a new attempt leaves are the rows of before; only those with its key have moved. -/
lemma Debugger.descends_requeueBlock {W : Option String → Option String → Prop} [Std.Refl W]
    {t : ItemType} {id : Json} {c : Context} {s s' : Store} (ht : t ∈ ItemType.all)
    (hW : ∀ r ∈ s.rows t.table, t.hasId id r = true → W (t.status r) (some Status.toChange))
    (hrun : Debugger.requeueBlock t id c s = .ok ((), s')) : s.Descends W s' := by
  obtain ⟨-, -, -, rfl⟩ := Debugger.requeueBlock_eq_ok hrun
  have hcolumn := ItemType.statusColumn?_table ht
  refine Statement.MovesIn.descends fun r hr hpicked => ⟨Table.sameKeys_set hcolumn _ r, ?_⟩
  intro column hcolumn'
  obtain rfl := Option.some.inj (hcolumn.symm.trans hcolumn')
  have hset : t.status (t.setStatus (some Status.toChange) r) = some Status.toChange :=
    Table.get_set_of_statusColumn? hcolumn _ r
  simp only [hset]
  exact hW r hr hpicked

/-! ### Operations -/

/-- What an operation may do to a status. -/
def Call.Step : Call → Option String → Option String → Prop
  | .job _ task, old, new => task.Step old new
  | .requeue _ _, old, new => new = old ∨ new = some Status.toChange
  | _, old, new => new = old

/-- An operation may leave every status as it is. -/
instance Call.refl_step (call : Call) : Std.Refl call.Step where
  refl old := by
    cases call with
    | job user task => exact refl (r := task.Step) old
    | requeue type id => exact .inl rfl
    | _ => rfl

/-- Rows descend through an operation if they descend through what it commits. -/
lemma Call.Effect.descends {W : Option String → Option String → Prop} [Std.Refl W] {call : Call}
    {c : Context} {s s' : Store} (h : call.Effect c s s')
    (hblock : ∀ action block changed, call.Schedules c s action block →
      block c s = .ok ((), changed) → s.Descends W changed) : s.Descends W s' := by
  unfold Call.Effect at h
  split at h
  · rcases h with rfl | ⟨action, block, hschedules, hcommits⟩
    · exact .of_rows_eq fun _ _ => rfl
    · obtain ⟨changed, _, _, hrun, -, hrows, -⟩ := hcommits
      intro t ht
      rw [hrows t ht]
      exact hblock action block changed hschedules hrun t ht
  · exact .of_rows_eq h.rows

/-- The rows that any operation leaves are the rows of before, with statuses that have moved as the
operation may move them. -/
theorem Call.descends (call : Call) (c : Context) (p : Panel) :
    p.store.Descends call.Step (call.after c p).store := by
  refine (call.effect_after c p).descends fun action block changed hschedules hrun => ?_
  cases call with
  | job user task =>
    obtain ⟨plan, hplan, -, rfl⟩ := hschedules
    exact Job.descends_of_run hplan hrun
  | requeue type id =>
    obtain ⟨t, hnamed, -, rfl⟩ := hschedules
    exact Debugger.descends_requeueBlock (W := Call.Step (.requeue type id))
      (ItemType.mem_all_of_named hnamed) (fun _ _ _ => .inr rfl) hrun
  | _ => exact hschedules.elim

/-- Rows descend through a run if they descend through each of its operations, where a condition on
stores may be used that descends too. -/
lemma Turn.descends_run {W : Option String → Option String → Prop} [Std.Refl W] [IsTrans _ W]
    {I : Store → Prop} (hI : ∀ s s', I s → s.Descends W s' → I s') {turns : List Turn}
    (hstep : ∀ turn ∈ turns, ∀ p : Panel, I p.store → p.store.Descends W (turn.after p).store)
    {p : Panel}
    (hp : I p.store) : p.store.Descends W (Turn.run turns p).store := by
  induction turns generalizing p with
  | nil => exact .of_rows_eq fun _ _ => rfl
  | cons turn turns ih =>
    have hfirst : p.store.Descends W (turn.after p).store := hstep turn (by simp) p hp
    have hrest : (turn.after p).store.Descends W (Turn.run turns (turn.after p)).store :=
      ih (fun turn' hturn' => hstep turn' (by simp [hturn'])) (hI _ _ hp hfirst)
    exact hfirst.trans hrest

end HostingPanel
