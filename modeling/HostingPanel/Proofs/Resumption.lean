import HostingPanel.Proofs.StaleChecks

/-!
# Mailboxes of a resumed customer

When a customer is resumed, two statements go over the mail accounts of the domain.  The first one
schedules the disabled accounts to be enabled and opens their mailboxes, and the second one opens
the mailboxes of the others.  So that it does not come back to what the first one has just
scheduled, the second one passes over all accounts that wait to be enabled, and that includes those
that were waiting for it before.

`Jobs.resumed` is what the two statements make of an account together, and
`resumption_opens_mailboxes_iff` says that all mailboxes are open afterwards exactly if those that
the statements pass over were open before.
-/

namespace HostingPanel

open OperationM Status

namespace Jobs

/-! ### Account by account -/

/-- A mail account that neither of the two statements picks: it waits to be enabled, or has no
status. -/
def IsPassedOver (m : Mailbox) : Prop :=
  m.status = none ∨ m.status = some toEnable

instance (m : Mailbox) : Decidable (IsPassedOver m) :=
  inferInstanceAs (Decidable (_ ∨ _))

/-- A mail account after the domain with a key has been resumed. -/
def resumed (domainId : Int) (m : Mailbox) : Mailbox :=
  if Cell.refersTo domainId m.domainId = false ∨ IsPassedOver m then m
  else if m.status = some disabled then { openMailbox m with status := some toEnable }
  else openMailbox m

section Resumed

variable {domainId : Int} {m : Mailbox}

/-- Another domain's account stays as it is, and so does one that is passed over. -/
lemma resumed_of_spared (h : Cell.refersTo domainId m.domainId = false ∨ IsPassedOver m) :
    resumed domainId m = m :=
  if_pos h

/-- A disabled account is scheduled to be enabled, with its mailbox open. -/
lemma resumed_of_disabled (hdomain : Cell.refersTo domainId m.domainId = true)
    (hstatus : m.status = some disabled) :
    resumed domainId m = { openMailbox m with status := some toEnable } := by
  have hpicked : ¬ (Cell.refersTo domainId m.domainId = false ∨ IsPassedOver m) := by
    rw [hdomain, IsPassedOver, hstatus]
    decide
  rw [resumed, if_neg hpicked, if_pos hstatus]

/-- Any other account of the domain gets its mailbox opened. -/
lemma resumed_of_other (hdomain : Cell.refersTo domainId m.domainId = true)
    (hpicked : ¬ IsPassedOver m) (hstatus : m.status ≠ some disabled) :
    resumed domainId m = openMailbox m := by
  rw [resumed, if_neg (by simp [hdomain, hpicked]), if_neg hstatus]

/-- The two statements one after the other on one account. -/
lemma resumed_eq (domainId : Int) (m : Mailbox) :
    (fun m' : Mailbox => if Cell.refersTo domainId m'.domainId && Cell.isOther disabled m'.status &&
        Cell.isOther toEnable m'.status then openMailbox m' else m')
      (if Cell.refersTo domainId m.domainId && Cell.isText disabled m.status then
        { openMailbox m with status := some toEnable } else m) = resumed domainId m := by
  cases hdomain : Cell.refersTo domainId m.domainId with
  | false =>
    rw [resumed_of_spared (.inl hdomain)]
    simp [hdomain]
  | true =>
    by_cases hdisabled : m.status = some disabled
    · -- The second statement passes over what the first one has just made.
      have hscheduled : Cell.isOther toEnable (some toEnable) = false := by
        decide
      rw [resumed_of_disabled hdomain hdisabled]
      simp [hdisabled, hscheduled, Cell.isText]
    · have hfirst : Cell.isText disabled m.status = false := by
        simpa [Cell.isText] using hdisabled
      have hsecond : (Cell.isOther disabled m.status && Cell.isOther toEnable m.status) = true ↔
          ¬ IsPassedOver m := by
        cases hstatus : m.status with
        | none => simp [IsPassedOver, Cell.isOther, hstatus]
        | some status =>
          rw [hstatus] at hdisabled
          simpa [IsPassedOver, Cell.isOther, hstatus] using fun _ h => hdisabled (congrArg some h)
      simp only [hfirst, Bool.and_false, Bool.false_eq_true, if_false, hdomain, Bool.true_and,
        hsecond]
      by_cases hpassed : IsPassedOver m
      · rw [resumed_of_spared (.inr hpassed), if_neg (not_not.2 hpassed)]
      · rw [resumed_of_other hdomain hpassed hdisabled, if_pos hpassed]

/-- An account keeps everything but its status and its mailbox. -/
lemma resumed_eq_with (domainId : Int) (m : Mailbox) :
    resumed domainId m =
      { m with status := (resumed domainId m).status
               poActive := (resumed domainId m).poActive } := by
  unfold resumed openMailbox
  split
  · rfl
  · split <;> rfl

lemma poActive_resumed_of_not_isMailbox (hkind : isMailbox m = false) :
    (resumed domainId m).poActive = m.poActive := by
  unfold resumed openMailbox
  simp only [hkind, Bool.false_eq_true, if_false]
  split
  · rfl
  · split <;> rfl

/-- A mailbox of the domain is open afterwards, unless its account is passed over. -/
lemma poActive_resumed_of_isMailbox (hdomain : Cell.refersTo domainId m.domainId = true)
    (hkind : isMailbox m = true) (hpicked : ¬ IsPassedOver m) :
    (resumed domainId m).poActive = some "yes" := by
  by_cases hdisabled : m.status = some disabled
  · rw [resumed_of_disabled hdomain hdisabled]
    simp [openMailbox, hkind]
  · rw [resumed_of_other hdomain hpicked hdisabled]
    simp [openMailbox, hkind]

/-- An account of the domain that is not disabled keeps its status. -/
lemma status_resumed_of_ne (hstatus : m.status ≠ some disabled) :
    (resumed domainId m).status = m.status := by
  unfold resumed
  rw [if_neg hstatus]
  split <;> rfl

end Resumed

/-- A mail account before and after the domain with a key has been resumed. -/
structure Resumed (domainId : Int) (m m' : Mailbox) : Prop where
  /-- An account of another domain stays as it is. -/
  other : Cell.refersTo domainId m.domainId = false → m' = m
  /-- An account that is passed over stays as it is. -/
  passedOver : IsPassedOver m → m' = m
  /-- A disabled account of the domain is scheduled to be enabled. -/
  disabled : Cell.refersTo domainId m.domainId = true → m.status = some "disabled" →
    m'.status = some "toenable"
  /-- Any other account keeps its status. -/
  status : m.status ≠ some "disabled" → m'.status = m.status
  /-- A mailbox of the domain is open, unless its account is passed over. -/
  opened : Cell.refersTo domainId m.domainId = true → isMailbox m = true → ¬ IsPassedOver m →
    m'.poActive = some "yes"
  /-- An account without a mailbox keeps what it has in place of one. -/
  noMailbox : isMailbox m = false → m'.poActive = m.poActive
  /-- Nothing else changes. -/
  rest : m' = { m with status := m'.status, poActive := m'.poActive }

/-- This is what the two statements make of an account. -/
lemma resumed_resumed (domainId : Int) (m : Mailbox) :
    Resumed domainId m (resumed domainId m) where
  other h := resumed_of_spared (.inl h)
  passedOver h := resumed_of_spared (.inr h)
  disabled hdomain hstatus := by
    rw [resumed_of_disabled hdomain hstatus]
    rfl
  status := status_resumed_of_ne
  opened := poActive_resumed_of_isMailbox
  noMailbox := poActive_resumed_of_not_isMailbox
  rest := resumed_eq_with domainId m

/-- Whether an account is a mailbox, and whose it is, stays. -/
lemma Resumed.kept {domainId : Int} {m m' : Mailbox} (h : Resumed domainId m m') :
    isMailbox m' = isMailbox m ∧ m'.domainId = m.domainId := by
  rw [h.rest]
  exact ⟨rfl, rfl⟩

/-! ### Whole tables -/

/-- All mailboxes of a domain among some accounts are open. -/
def AreOpen (domainId : Int) (mailboxes : List Mailbox) : Prop :=
  ∀ m ∈ mailboxes, Cell.refersTo domainId m.domainId = true → isMailbox m = true →
    m.poActive = some "yes"

/-- After the domain has been resumed all its mailboxes are open exactly if those that were passed
over had been open. -/
lemma areOpen_resumed_iff {domainId : Int} {rows : List Mailbox} :
    AreOpen domainId (rows.map (resumed domainId)) ↔
      AreOpen domainId (rows.filter fun m => decide (IsPassedOver m)) := by
  have hkept : ∀ m, _ := fun m => (resumed_resumed domainId m).kept
  simp only [AreOpen, List.forall_mem_map, List.mem_filter, decide_eq_true_eq, and_imp,
    (hkept _).1, (hkept _).2]
  refine forall₂_congr fun m _ => ⟨fun h hpassed hdomain hkind => ?_, fun h hdomain hkind => ?_⟩
  · have hsame : resumed domainId m = m := resumed_of_spared (.inr hpassed)
    rw [← hsame]
    exact h hdomain hkind
  · by_cases hpassed : IsPassedOver m
    · rw [resumed_of_spared (.inr hpassed)]
      exact h hpassed hdomain hkind
    · exact poActive_resumed_of_isMailbox hdomain hkind hpassed

/-- The mail accounts after the statements of a resumption. -/
lemma rows_statements_activate (hard : Bool) (id : Json) (domainId : Int) (s : Store) :
    (Statement.applyAll (customerStatusStatements .activate hard id domainId) s).rows .mail =
      (s.rows .mail).map (resumed domainId) := by
  have hrows : (Statement.applyAll (customerStatusStatements .activate hard id domainId) s).rows
      .mail = ((s.rows .mail).map _).map _ :=
    rfl
  rw [hrows, List.map_map]
  exact List.map_congr_left fun m _ => resumed_eq domainId m

end Jobs

/-- After a customer has been resumed, all mailboxes are open exactly if those that the statements
pass over were open before.  Take any database and any customer.  If the resumption succeeds, then
the domain was disabled, and of its mail accounts the disabled ones are scheduled to be enabled, the
others keep their statuses, all mailboxes are open whose accounts have a status other than the one
that requests to be enabled, and nothing else changes.  A mailbox that had that status before, or
none, stays as it was. -/
theorem resumption_opens_mailboxes_iff {user : User} {id : Json} {c : Context} {p q : Panel}
    {answer : String}
    (hrun : run (Jobs.changeCustomerStatus user id (.text "activate")) c p = (.ok answer, q)) :
    ∃ (account : Admin) (domain : Domain), account ∈ p.store.rows .admin ∧
      id.equalsKey account.id = true ∧ domain ∈ p.store.rows .domain ∧
      Cell.refersTo account.id domain.ownerId = true ∧ domain.status = some "disabled" ∧
      List.Forall₂ (Jobs.Resumed domain.id) (p.store.rows .mail) (q.store.rows .mail) ∧
      (Jobs.AreOpen domain.id (q.store.rows .mail) ↔
        Jobs.AreOpen domain.id
          ((p.store.rows .mail).filter fun m => decide (Jobs.IsPassedOver m))) := by
  have hjob : run (Job.run user (.changeCustomerStatus id (.text "activate"))) c p =
      (.ok answer, q) :=
    hrun
  obtain ⟨plan, hplan, hcommits⟩ := commitsWithEntry_of_run_job hjob
  have hplanned : Jobs.planCustomerStatus user id (.text "activate") c p.store = .ok plan :=
    hplan
  obtain ⟨named, account, domain, hnamed, hfound, hmay, rfl⟩ :=
    Jobs.planCustomerStatus_eq_ok_of_checked hplanned
  obtain rfl : Jobs.CustomerAction.activate = named := Option.some.inj hnamed
  obtain ⟨creator, hanswer⟩ := Ownership.needManagedCustomer_eq_ok hfound
  obtain ⟨haccount, hequals, hfind⟩ := Ownership.mem_of_customer hanswer
  have howner : Cell.refersTo account.id domain.ownerId = true := by
    simpa using List.find?_some hfind
  obtain ⟨changed, -, -, hblock, -, hrows, -⟩ := hcommits
  have hmail : q.store.rows .mail = (p.store.rows .mail).map (Jobs.resumed domain.id) := by
    rw [hrows .mail (by decide), TransactionM.executeAll_eq_ok hblock,
      Jobs.rows_statements_activate]
  refine ⟨account, domain, haccount, hequals, List.mem_of_find?_eq_some hfind, howner,
    eq_disabled_of_mayMove hmay, ?_, ?_⟩
  · rw [hmail, List.forall₂_map_right_iff, List.forall₂_same]
    exact fun m _ => Jobs.resumed_resumed domain.id m
  · rw [hmail, Jobs.areOpen_resumed_iff]

/-- A customer of the reseller whose domain has a status, with some mail accounts. -/
def sampleWithMail (status : String) (mailboxes : List Mailbox) : Panel where
  store :=
    ((Store.empty.set .admin
      [{ id := 7, name := some "mona", role := some "user", createdBy := some (.whole 2) }]).set
      .domain
      [{ id := 1, name := some "example.test", ownerId := some (.whole 7),
         status := some status }]).set .mail mailboxes
  notifier := Notifier.create {}

/-- A mailbox of that domain. -/
def sampleAccess (id : Int) (status poActive : String) : Mailbox :=
  { id, domainId := some (.whole 1), kind := some "normal_mail", status := some status,
    poActive := some poActive }

/-- A disabled mailbox of the customer's domain and one that the suspension has only closed are both
opened. -/
theorem resumption_opens_mailboxes_iff_sample :
    ∃ q, run (Jobs.changeCustomerStatus sampleReseller (.int 7) (.text "activate")) {}
        (sampleWithMail "disabled" [sampleAccess 9 "disabled" "no", sampleAccess 10 "ok" "no"]) =
        (.ok "Customer account successfully scheduled for activation.", q) ∧
      Jobs.AreOpen 1 (q.store.rows .mail) := by
  have hrun : run (Jobs.changeCustomerStatus sampleReseller (.int 7) (.text "activate")) {}
      (sampleWithMail "disabled" [sampleAccess 9 "disabled" "no", sampleAccess 10 "ok" "no"]) =
      (.ok "Customer account successfully scheduled for activation.",
        (run (Jobs.changeCustomerStatus sampleReseller (.int 7) (.text "activate")) {}
          (sampleWithMail "disabled"
            [sampleAccess 9 "disabled" "no", sampleAccess 10 "ok" "no"])).2) :=
    Prod.ext rfl rfl
  obtain ⟨account, domain, -, -, hdomain, -, -, -, hiff⟩ := resumption_opens_mailboxes_iff hrun
  obtain rfl := List.mem_singleton.1 hdomain
  refine ⟨_, hrun, hiff.2 fun m hm => ?_⟩
  have hnone : ((sampleWithMail "disabled" [sampleAccess 9 "disabled" "no",
      sampleAccess 10 "ok" "no"]).store.rows .mail).filter
      (fun m => decide (Jobs.IsPassedOver m)) = [] := by
    decide +kernel
  rw [hnone] at hm
  exact absurd hm List.not_mem_nil

/-- A customer who has just been resumed, with a mailbox that still waits to be enabled, after the
customer has been suspended again without the mail accounts being disabled. -/
def sampleSuspendedAgain : Panel :=
  (run (Jobs.changeCustomerStatus sampleReseller (.int 7) (.text "deactivate"))
    { settings := { hardMailSuspension := false } }
    (sampleWithMail "ok" [sampleAccess 9 "toenable" "yes"])).2

/-- A suspension closes a mailbox that waits to be enabled.  Once the daemon has disabled the
domain, the next resumption succeeds, and the mailbox stays closed. -/
theorem waiting_mailbox_stays_closed :
    sampleSuspendedAgain.store.rows .mail = [sampleAccess 9 "toenable" "no"] ∧
      (run (Jobs.changeCustomerStatus sampleReseller (.int 7) (.text "activate")) {}
        (sampleWithMail "disabled" (sampleSuspendedAgain.store.rows .mail))).1 =
        .ok "Customer account successfully scheduled for activation." ∧
      (run (Jobs.changeCustomerStatus sampleReseller (.int 7) (.text "activate")) {}
        (sampleWithMail "disabled" (sampleSuspendedAgain.store.rows .mail))).2.store.rows .mail =
        [sampleAccess 9 "toenable" "no"] ∧
      Jobs.isMailbox (sampleAccess 9 "toenable" "no") = true := by
  refine ⟨?_, rfl, ?_, ?_⟩
  · decide +kernel
  · decide +kernel
  · decide +kernel

end HostingPanel
