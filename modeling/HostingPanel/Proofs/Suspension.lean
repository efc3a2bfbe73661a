import HostingPanel.Proofs.StatusRuns

/-!
# Suspension and pending deletions

When a customer is suspended or resumed, nine tables of items follow.  Only the domain has its
status looked at first; most items get the new status whatever they were waiting for, also for
their deletion.  `Suspension.overwrites` says which items these are, and
`suspension_keeps_deletions_iff` that pending deletions survive exactly if none of them is among
these items.
-/

namespace HostingPanel

open Status

/-- In some tables all rows stay, and those that wait for their deletion go on waiting. -/
def Store.KeepsDeletions (tables : List Table) (s s' : Store) : Prop :=
  ∀ t ∈ tables, List.Forall₂ (t.Moved StaysDeleted) (s.rows t) (s'.rows t)

/-- A suspension or resumption: what is done, how the mail accounts are closed, the parameter that
stands for the key of the account, the account and its domain. -/
structure Suspension where
  action : Jobs.CustomerAction
  /-- Whether mail accounts are disabled too. -/
  hard : Bool
  id : Json
  account : Admin
  domain : Domain

namespace Suspension

open Statement

/-- The tables of the items of a customer. -/
def tables : List Table :=
  [.subdomain, .domainAlias, .aliasSubdomain, .dns, .mail, .ftpUser, .area, .areaGroup, .areaUser]

/-- The statements. -/
def statements (x : Suspension) : List Statement :=
  Jobs.customerStatusStatements x.action x.hard x.id x.domain.id

/-- Whether a row gets the new status whatever its status is.  On resumption a mail account gets it
only if it is disabled. -/
def overwrites (x : Suspension) (s : Store) : (t : Table) → t.Row → Bool
  | .subdomain, sub => Cell.refersTo x.domain.id (sub : Subdomain).domainId
  | .domainAlias, a => Cell.refersTo x.domain.id (a : DomainAlias).domainId
  | .aliasSubdomain, sub => Jobs.isAliasOf s x.domain.id (sub : AliasSubdomain).aliasId
  | .dns, r => Cell.refersTo x.domain.id (r : DnsRecord).domainId
  | .mail, m =>
    x.action == .deactivate && x.hard && Cell.refersTo x.domain.id (m : Mailbox).domainId
  | .ftpUser, u => x.id.equalsQuantity (u : FtpUser).adminId
  | .area, a => Cell.refersTo x.domain.id (a : ProtectedArea).domainId
  | .areaGroup, g => Cell.refersTo x.domain.id (g : AreaGroup).domainId
  | .areaUser, u => Cell.refersTo x.domain.id (u : AreaUser).domainId
  | _, _ => false

lemma target_ne_toDelete (action : Jobs.CustomerAction) : action.target ≠ toDelete := by
  cases action <;> decide

/-- Rows that are all still there, where a pending deletion is lost exactly if its row is picked. -/
def Loses (t : Table) (picks : t.Row → Bool) (rows rows' : List t.Row) : Prop :=
  ∃ f, rows' = rows.map f ∧ ∀ r, t.SameKeys r (f r) ∧ ∀ column, t.statusColumn? = some column →
    column.get r = some toDelete → (column.get (f r) = some toDelete ↔ picks r = false)

/-- A change to another status loses the deletions of the picked rows. -/
lemma loses_updateRows {t : Table} {column : StatusColumn t.Row} {picks : t.Row → Bool}
    {change : t.Row → t.Row} (hcolumn : t.statusColumn? = some column)
    (hkeys : ∀ r, t.SameKeys r (change r)) (hstatus : ∀ r, column.get (change r) ≠ some toDelete)
    (rows : List t.Row) : Loses t picks rows (updateRows picks change rows) := by
  refine ⟨_, rfl, fun r => ?_⟩
  cases hr : picks r with
  | false => exact ⟨fun _ _ _ => ⟨rfl, rfl⟩, fun column' _ hdeleted => by simpa using hdeleted⟩
  | true =>
    refine ⟨hkeys r, fun column' hcolumn' _ => ?_⟩
    obtain rfl := Option.some.inj (hcolumn.symm.trans hcolumn')
    simpa using hstatus r

/-- Setting another status loses the deletions of the picked rows. -/
lemma loses_set {t : Table} {column : StatusColumn t.Row} {picks : t.Row → Bool}
    {change : t.Row → t.Row} {status : String} (hcolumn : t.statusColumn? = some column)
    (hchange : change = column.set (some status)) (hstatus : status ≠ toDelete)
    (rows : List t.Row) : Loses t picks rows (updateRows picks change rows) := by
  subst hchange
  refine loses_updateRows hcolumn (Table.sameKeys_set hcolumn _) (fun r => ?_) rows
  simpa [Table.get_set_of_statusColumn? hcolumn] using hstatus

/-- Whose alias an alias is does not depend on its status. -/
lemma isAliasOf_of_map {s s' : Store} {f : DomainAlias → DomainAlias}
    (hrows : s'.rows .domainAlias = (s.rows .domainAlias).map f)
    (hf : ∀ a, (f a).id = a.id ∧ (f a).domainId = a.domainId) (domainId : Int) :
    Jobs.isAliasOf s' domainId = Jobs.isAliasOf s domainId := by
  funext column
  rw [Jobs.isAliasOf, Jobs.isAliasOf, hrows, List.any_map]
  simp only [Function.comp_def, (hf _).1, (hf _).2]

/-- The statements on the other items give the new status to the rows that they overwrite, and
leave the rest alone. -/
lemma rows_statusStatements (x : Suspension) (s : Store) {t : Table} (ht : t ∈ tables)
    (hmail : t ≠ .mail) :
    ∃ column, t.statusColumn? = some column ∧
      (applyAll (Jobs.statusStatements x.id x.domain.id x.action.target x.action.expected) s).rows
          t =
        updateRows (x.overwrites s t) (column.set (some x.action.target)) (s.rows t) := by
  cases t with
  | mail => exact absurd rfl hmail
  | aliasSubdomain =>
    -- The aliases have got the new status by then, but they are the same aliases.
    set earlier := (Jobs.statusStatements x.id x.domain.id x.action.target x.action.expected).take 7
    have haliases : (applyAll earlier s).rows .domainAlias = (s.rows .domainAlias).map
        fun (a : DomainAlias) => if Cell.refersTo x.domain.id a.domainId then
          { a with status := some x.action.target } else a :=
      rfl
    have hsame : Jobs.isAliasOf (applyAll earlier s) x.domain.id =
        Jobs.isAliasOf s x.domain.id := by
      refine isAliasOf_of_map haliases (fun a => ?_) x.domain.id
      split <;> exact ⟨rfl, rfl⟩
    have hrows : (applyAll (Jobs.statusStatements x.id x.domain.id x.action.target
        x.action.expected) s).rows .aliasSubdomain =
        updateRows (fun (sub : AliasSubdomain) =>
            Jobs.isAliasOf (applyAll earlier s) x.domain.id sub.aliasId)
          (fun (sub : AliasSubdomain) => { sub with status := some x.action.target })
          (s.rows .aliasSubdomain) :=
      rfl
    refine ⟨_, rfl, ?_⟩
    rw [hrows, hsame]
    rfl
  | subdomain => exact ⟨_, rfl, rfl⟩
  | domainAlias => exact ⟨_, rfl, rfl⟩
  | dns => exact ⟨_, rfl, rfl⟩
  | ftpUser => exact ⟨_, rfl, rfl⟩
  | area => exact ⟨_, rfl, rfl⟩
  | areaGroup => exact ⟨_, rfl, rfl⟩
  | areaUser => exact ⟨_, rfl, rfl⟩
  | _ => exact absurd ht (by decide)

/-- Changing mail accounts loses no deletion if it keeps their keys and that status. -/
lemma loses_mail_map {f : Mailbox → Mailbox} (hid : ∀ m, (f m).id = m.id)
    (hstatus : ∀ m, m.status = some toDelete → (f m).status = some toDelete)
    (rows : List Mailbox) : Loses .mail (fun _ => false) rows (rows.map f) := by
  refine ⟨f, rfl, fun (m : Mailbox) => ⟨?_, fun column hcolumn hdeleted => ?_⟩⟩
  · exact Table.sameKeys_mail (hid m)
  · cases hcolumn
    simpa using hstatus m hdeleted

/-- The statements on the mail accounts lose deletions only where accounts are disabled. -/
lemma loses_mail (x : Suspension) (s : Store) :
    Loses .mail (x.overwrites s .mail) (s.rows .mail)
      ((applyAll x.statements s).rows .mail) := by
  obtain ⟨action, hard, id, account, domain⟩ := x
  cases action with
  | deactivate =>
    cases hard with
    | true =>
      have hstatus : some toDisable ≠ some toDelete := by
        decide
      refine loses_updateRows (t := .mail) rfl (fun m => ?_) (fun m => ?_) _
      · exact Table.sameKeys_mail rfl
      · exact hstatus
    | false =>
      refine loses_mail_map (f := fun m => if Cell.refersTo domain.id m.domainId then
        { m with poActive := some "no" } else m) (fun m => ?_) (fun m hdeleted => ?_) _
      · split <;> rfl
      · split <;> exact hdeleted
  | activate =>
    have hrows : (applyAll (statements ⟨.activate, hard, id, account, domain⟩) s).rows .mail =
        (s.rows .mail).map ((fun m => if Cell.refersTo domain.id m.domainId &&
            Cell.isOther disabled m.status && Cell.isOther toEnable m.status
          then Jobs.openMailbox m else m) ∘ fun m => if Cell.refersTo domain.id m.domainId &&
            Cell.isText disabled m.status
          then { Jobs.openMailbox m with status := some toEnable } else m) :=
      List.map_map
    rw [hrows]
    refine loses_mail_map (fun m => ?_) (fun m hdeleted => ?_) _
    · simp only [Function.comp_apply]
      split <;> split <;> rfl
    · -- An account that waits for its deletion is not disabled, so only its mailbox is opened.
      have hother : Cell.isText disabled m.status = false := by
        rw [hdeleted]
        decide
      simp only [Function.comp_apply, hother, Bool.and_false, Bool.false_eq_true, if_false]
      split <;> exact hdeleted

/-- The statements on the mail accounts. -/
def mailStatements (x : Suspension) : List Statement :=
  match x.action with
  | .deactivate => Jobs.closeMail x.hard x.domain.id
  | .activate => Jobs.openMail x.domain.id

lemma table_of_mem_mailStatements {x : Suspension} {st : Statement} (h : st ∈ x.mailStatements) :
    st.table = .mail := by
  obtain ⟨action, hard, id, account, domain⟩ := x
  revert st
  cases action <;> cases hard <;> simp [mailStatements, Jobs.closeMail, Jobs.openMail, table]

lemma overwrites_congr {s s' : Store} (haliases : s'.rows .domainAlias = s.rows .domainAlias)
    (x : Suspension) (t : Table) : x.overwrites s' t = x.overwrites s t := by
  funext r
  cases t <;> simp only [overwrites, Jobs.isAliasOf, haliases]

/-- Outside the table of mail accounts the statements give the new status to the rows that they
overwrite, and leave the rest alone. -/
lemma rows_statements (x : Suspension) (s : Store) {t : Table} (ht : t ∈ tables)
    (hmail : t ≠ .mail) :
    ∃ column, t.statusColumn? = some column ∧ (applyAll x.statements s).rows t =
      updateRows (x.overwrites s t) (column.set (some x.action.target)) (s.rows t) := by
  have hothers : ∀ u, u ≠ .mail → (applyAll x.mailStatements s).rows u = s.rows u := by
    intro u hu
    refine rows_applyAll_of_ne (fun st hst => ?_) s
    rw [table_of_mem_mailStatements hst]
    exact Ne.symm hu
  have hrows := x.rows_statusStatements (applyAll x.mailStatements s) ht hmail
  rw [overwrites_congr (hothers .domainAlias (by decide)), hothers t hmail,
    ← applyAll_append] at hrows
  exact hrows

/-- The statements lose the deletions that they overwrite. -/
theorem loses_statements (x : Suspension) (s : Store) {t : Table} (ht : t ∈ tables) :
    Loses t (x.overwrites s t) (s.rows t) ((applyAll x.statements s).rows t) := by
  by_cases hmail : t = .mail
  · subst hmail
    exact x.loses_mail s
  · obtain ⟨column, hcolumn, hrows⟩ := x.rows_statements s ht hmail
    rw [hrows]
    exact loses_set hcolumn rfl (target_ne_toDelete x.action) _

/-- Pending deletions survive the statements exactly if none of them is overwritten. -/
theorem keepsDeletions_iff (x : Suspension) (s : Store) :
    s.KeepsDeletions tables (applyAll x.statements s) ↔
      ∀ t ∈ tables, ∀ column, t.statusColumn? = some column → ∀ r ∈ s.rows t,
        column.get r = some toDelete → x.overwrites s t r = false := by
  refine forall₂_congr fun t ht => ?_
  obtain ⟨f, hrows, hf⟩ := x.loses_statements s ht
  rw [hrows, List.forall₂_map_right_iff, List.forall₂_same]
  constructor
  · intro h column hcolumn r hr hdeleted
    exact ((hf r).2 column hcolumn hdeleted).1 ((h r hr).status column hcolumn hdeleted)
  · intro h r hr
    exact ⟨(hf r).1, fun column hcolumn hdeleted =>
      ((hf r).2 column hcolumn hdeleted).2 (h column hcolumn r hr hdeleted)⟩

end Suspension

/-- When a customer is suspended or resumed, pending deletions survive exactly if none of them is
overwritten.  Take any database and any customer, either action, and either way with mail accounts.
If the job succeeds, then all rows that were waiting for their deletion in the nine tables of items
go on waiting if and only if none of them belongs to the customer in the way that the statements
ask: an FTP account by the account, a mail account by the domain, on suspension with mail accounts
disabled, a subdomain of an alias by an alias of the domain, anything else by the domain. -/
theorem suspension_keeps_deletions_iff {user : User} {id action : Json} {c : Context} {p q : Panel}
    {answer : String}
    (hrun : OperationM.run (Jobs.changeCustomerStatus user id action) c p = (.ok answer, q)) :
    ∃ x : Suspension, x.id = id ∧ Jobs.CustomerAction.named? action = some x.action ∧
      x.hard = c.settings.hardMailSuspension ∧ x.account ∈ p.store.rows .admin ∧
      id.equalsKey x.account.id = true ∧ x.domain ∈ p.store.rows .domain ∧
      Cell.refersTo x.account.id x.domain.ownerId = true ∧
      (p.store.KeepsDeletions Suspension.tables q.store ↔
        ∀ t ∈ Suspension.tables, ∀ column, t.statusColumn? = some column →
          ∀ r ∈ p.store.rows t, column.get r = some "todelete" →
            x.overwrites p.store t r = false) := by
  have hjob : OperationM.run (Job.run user (.changeCustomerStatus id action)) c p =
      (.ok answer, q) :=
    hrun
  obtain ⟨plan, hplan, hcommits⟩ := commitsWithEntry_of_run_job hjob
  obtain ⟨named, account, domain, hnamed, hfound, rfl⟩ := Jobs.planCustomerStatus_eq_ok hplan
  obtain ⟨creator, hanswer⟩ := Ownership.needManagedCustomer_eq_ok hfound
  obtain ⟨haccount, hequals, hfind⟩ := Ownership.mem_of_customer hanswer
  obtain ⟨changed, -, -, hblock, -, hrows, -⟩ := hcommits
  obtain ⟨x, rfl, hhard, rfl, rfl, rfl⟩ : ∃ x : Suspension, x.action = named ∧
      x.hard = c.settings.hardMailSuspension ∧ x.id = id ∧ x.account = account ∧
      x.domain = domain :=
    ⟨⟨named, c.settings.hardMailSuspension, id, account, domain⟩, rfl, rfl, rfl, rfl, rfl⟩
  have hchanged : changed = Statement.applyAll x.statements p.store := by
    rw [Suspension.statements, hhard]
    exact TransactionM.executeAll_eq_ok hblock
  have howner : Cell.refersTo x.account.id x.domain.ownerId = true := by
    simpa using List.find?_some hfind
  refine ⟨x, rfl, hnamed, hhard, haccount, hequals, List.mem_of_find?_eq_some hfind, howner,
    Iff.trans ?_ (x.keepsDeletions_iff p.store)⟩
  refine forall₂_congr fun t ht => ?_
  have houtbox : t ≠ .outbox := by
    rintro rfl
    exact absurd ht (by decide)
  rw [hrows t houtbox, hchanged]

/-- A reseller. -/
def sampleReseller : User :=
  ⟨.object [("user_id", .int 2), ("username", .text "rita"), ("role", .text "reseller")]⟩

/-- A panel with a customer of the reseller, whose domain has a subdomain in service and a mail
account that waits for its deletion. -/
def sampleHosting : Panel where
  store :=
    (((Store.empty.set .admin
      [{ id := 7, name := some "mona", role := some "user", createdBy := some (.whole 2) }]).set
      .domain [{ id := 1, name := some "example.test", ownerId := some (.whole 7) }]).set
      .subdomain [{ id := 3, domainId := some (.whole 1), name := some "shop" }]).set
      .mail [{ id := 9, domainId := some (.whole 1), status := some "todelete" }]
  notifier := Notifier.create {}

/-- If mail accounts are not disabled, the suspension leaves the deletion of the mail account
alone. -/
theorem suspension_keeps_deletions_iff_sample :
    ∃ q, OperationM.run (Jobs.changeCustomerStatus sampleReseller (.int 7) (.text "deactivate"))
        { settings := { hardMailSuspension := false } } sampleHosting =
        (.ok "Customer account successfully scheduled for deactivation.", q) ∧
      sampleHosting.store.KeepsDeletions Suspension.tables q.store := by
  have hrun : OperationM.run
      (Jobs.changeCustomerStatus sampleReseller (.int 7) (.text "deactivate"))
      { settings := { hardMailSuspension := false } } sampleHosting =
      (.ok "Customer account successfully scheduled for deactivation.", (OperationM.run
        (Jobs.changeCustomerStatus sampleReseller (.int 7) (.text "deactivate"))
        { settings := { hardMailSuspension := false } } sampleHosting).2) :=
    Prod.ext rfl rfl
  obtain ⟨x, -, -, hhard, -, -, -, -, hiff⟩ := suspension_keeps_deletions_iff hrun
  refine ⟨_, hrun, hiff.2 fun t ht column hcolumn r hr hdeleted => ?_⟩
  cases t with
  | mail => simp [Suspension.overwrites, hhard]
  | subdomain =>
    cases hcolumn
    obtain rfl := List.mem_singleton.1 hr
    exact absurd hdeleted (by decide)
  | _ => first | exact absurd ht (by decide) | cases hr

/-- The sample after the customer has deleted the subdomain. -/
def sampleDeleted : Panel :=
  (OperationM.run (Jobs.deleteSubdomain sampleCustomer (.int 3)) {} sampleHosting).2

/-- The sample after the reseller has suspended the customer too. -/
def sampleSuspended : Panel :=
  (OperationM.run (Jobs.changeCustomerStatus sampleReseller (.int 7) (.text "deactivate")) {}
    sampleDeleted).2

/-- The subdomain of the sample with a status. -/
def sampleShop (status : String) : Subdomain :=
  { id := 3, domainId := some (.whole 1), name := some "shop", status := some status }

/-- A customer deletes a subdomain, and before the daemon has got round to it the reseller suspends
the customer: the subdomain is no longer to be deleted but to be disabled. -/
theorem suspension_cancels_deletion :
    OperationM.run (Jobs.changeCustomerStatus sampleReseller (.int 7) (.text "deactivate")) {}
        sampleDeleted =
        (.ok "Customer account successfully scheduled for deactivation.", sampleSuspended) ∧
      sampleDeleted.store.rows .subdomain = [sampleShop "todelete"] ∧
      sampleSuspended.store.rows .subdomain = [sampleShop "todisable"] ∧
      ¬ sampleDeleted.store.KeepsDeletions Suspension.tables sampleSuspended.store := by
  have hbefore : sampleDeleted.store.rows .subdomain = [sampleShop "todelete"] := by
    decide +kernel
  have hafter : sampleSuspended.store.rows .subdomain = [sampleShop "todisable"] := by
    decide +kernel
  refine ⟨Prod.ext rfl rfl, hbefore, hafter, fun hkeeps => ?_⟩
  have hrows := hkeeps .subdomain (by decide)
  rw [hbefore, hafter] at hrows
  cases hrows with
  | cons hmoved =>
    have hstatus : some toDisable = some toDelete := hmoved.status _ rfl rfl
    exact absurd hstatus (by decide)

end HostingPanel
