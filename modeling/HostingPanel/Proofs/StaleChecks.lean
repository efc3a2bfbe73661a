import HostingPanel.Proofs.Suspension

/-!
# Checks that have become stale

A customer is suspended or resumed, and a backup is restored, in two steps.  First the status of the
domain is read and checked; later a transaction makes the change.  In between others may commit, and
the check is about a database that is no more.  The statement on the domain asks for the checked
status once more, but nobody looks at the number of rows that it has picked, and the statements on
the other items do not ask at all.

`DomainRequest` is what such a job is going to do, `DomainRequest.IsOpen` says that it can still be
done, and `DomainRequest.Moves` that it has been done.  The first half of a job is `Job.plan` on one
database and the second half is `Plan.carryOut` on another one, which may be any:
`checked_change_moves_domain_iff` says that a job that succeeds has moved the domain exactly if its
request was still open, and that the other items have been overwritten in any case.
-/

namespace HostingPanel

open OperationM

/-! ### Statuses that may be moved -/

namespace Status

/-- What the panel may move, and where: an item in service and an item out of service have moves of
their own, and any other item may at most be added or get a request that follows a failure. -/
lemma mayMove_cases {current : Option String} {target : String}
    (h : mayMove current target = true) :
    (current = some ok ∧ target ∈ [toChange, toChangePassword, toDelete, toDisable, toRestore]) ∨
      (current = some disabled ∧ target ∈ [toEnable, toDelete]) ∨
      target ∈ toAdd :: afterFailure := by
  have hallowed : target ∈ allowedFrom current := by
    simpa using (Bool.and_eq_true_iff.1 h).2
  unfold allowedFrom at hallowed
  split at hallowed
  · exact .inr (.inr (List.mem_cons.2 (.inl (List.mem_singleton.1 hallowed))))
  · split_ifs at hallowed with hordered hok hdisabled hpending
    · exact .inr (.inr (List.mem_cons.2 (.inl (List.mem_singleton.1 hallowed))))
    · exact .inl ⟨congrArg some hok, hallowed⟩
    · exact .inr (.inl ⟨congrArg some hdisabled, hallowed⟩)
    · exact absurd hallowed List.not_mem_nil
    · exact .inr (.inr (List.mem_cons_of_mem _ hallowed))

/-- Only what is in service may be disabled or restored, or get another password. -/
lemma eq_ok_of_mayMove {current : Option String} {target : String}
    (htarget : target ∈ [toDisable, toRestore, toChangePassword])
    (h : mayMove current target = true) : current = some ok := by
  have hothers : ∀ t ∈ [toDisable, toRestore, toChangePassword],
      t ∉ [toEnable, toDelete] ∧ t ∉ toAdd :: afterFailure := by
    decide
  obtain ⟨hdisabled, hfailed⟩ := hothers target htarget
  rcases mayMove_cases h with ⟨hok, -⟩ | ⟨-, hother⟩ | hother
  · exact hok
  · exact absurd hother hdisabled
  · exact absurd hother hfailed

lemma eq_disabled_of_mayMove {current : Option String} (h : mayMove current toEnable = true) :
    current = some disabled := by
  rcases mayMove_cases h with ⟨-, hother⟩ | ⟨hdisabled, -⟩ | hother
  · exact absurd hother (by decide)
  · exact hdisabled
  · exact absurd hother (by decide)

end Status

/-- A domain that may get the status of an action has the status that the action expects. -/
lemma Jobs.CustomerAction.eq_expected_of_mayMove {action : CustomerAction} {current : Option String}
    (h : Status.mayMove current action.target = true) : current = some action.expected := by
  cases action with
  | activate => exact Status.eq_disabled_of_mayMove h
  | deactivate => exact Status.eq_ok_of_mayMove (by decide) h

/-- The status that an action expects is not the one that it requests. -/
lemma Jobs.CustomerAction.expected_ne_target (action : CustomerAction) :
    action.expected ≠ action.target := by
  cases action <;> decide

/-! ### Requests -/

/-- What a job that has checked the status of a domain is going to do. -/
structure DomainRequest where
  /-- Which domains it is about. -/
  isFor : Domain → Bool
  /-- The status that has been checked. -/
  checked : String
  /-- The status that is requested. -/
  target : String
  /-- The tables of the other items that follow. -/
  dependents : List Table
  /-- Which of their rows get the requested status, whatever status they have. -/
  covers : Store → (t : Table) → t.Row → Bool

namespace DomainRequest

open Statement

/-- A domain of the request still has the status that has been checked. -/
def IsOpen (x : DomainRequest) (s : Store) : Prop :=
  ∃ d : Domain, d ∈ s.rows .domain ∧ x.isFor d = true ∧ d.status = some x.checked

/-- A domain of the request has got the requested status, and had another one before. -/
def Moves (x : DomainRequest) (s s' : Store) : Prop :=
  ∃ (i : Nat) (d d' : Domain), (s.rows .domain)[i]? = some d ∧ (s'.rows .domain)[i]? = some d' ∧
    x.isFor d = true ∧ d.status ≠ some x.target ∧ d'.status = some x.target

/-- The rows of the dependent tables that are covered have the requested status afterwards. -/
def Overwrites (x : DomainRequest) (s s' : Store) : Prop :=
  ∀ t ∈ x.dependents, ∃ column, t.statusColumn? = some column ∧
    List.Forall₂ (fun r r' => x.covers s t r = true → column.get r' = some x.target) (s.rows t)
      (s'.rows t)

/-- The suspension or resumption of a customer as a request. -/
def ofSuspension (y : Suspension) : DomainRequest where
  isFor d := d.id == y.domain.id
  checked := y.action.expected
  target := y.action.target
  dependents := Suspension.tables
  covers := y.overwrites

/-- The restoration of a backup as a request. -/
def ofRestore (customer : Json) : DomainRequest where
  isFor d := customer.equalsQuantity d.ownerId
  checked := Status.ok
  target := Status.toRestore
  dependents := []
  covers _ _ _ := false

/-- The domains after a statement that gives the requested status to those that still have the
checked one. -/
def guarded (x : DomainRequest) (domains : List Domain) : List Domain :=
  updateRows (fun (d : Domain) => x.isFor d && Cell.isText x.checked d.status)
    (fun (d : Domain) => { d with status := some x.target }) domains

/-- The guarded statement moves a domain exactly if the request is open. -/
lemma moves_iff_isOpen {x : DomainRequest} {s s' : Store} (hne : x.checked ≠ x.target)
    (hrows : s'.rows .domain = x.guarded (s.rows .domain)) : x.Moves s s' ↔ x.IsOpen s := by
  constructor
  · rintro ⟨i, d, d', hd, hd', hfor, hbefore, hafter⟩
    rw [hrows, guarded, updateRows, List.getElem?_map, hd, Option.map_some,
      Option.some.injEq] at hd'
    split at hd'
    · rename_i hpicked
      have hchecked : d.status = some x.checked := by
        simpa [Cell.isText] using (Bool.and_eq_true_iff.1 hpicked).2
      exact ⟨d, List.mem_of_getElem? hd, hfor, hchecked⟩
    · -- A domain that is not picked stays as it is.
      rw [← hd'] at hafter
      exact absurd hafter hbefore
  · rintro ⟨d, hd, hfor, hchecked⟩
    obtain ⟨i, hi⟩ := List.mem_iff_getElem?.1 hd
    have hpicked : (x.isFor d && Cell.isText x.checked d.status) = true := by
      simp [hfor, hchecked, Cell.isText]
    refine ⟨i, d, { d with status := some x.target }, hi, ?_, hfor, ?_, rfl⟩
    · rw [hrows, guarded, updateRows, List.getElem?_map, hi, Option.map_some, if_pos hpicked]
    · rw [hchecked]
      simpa using hne

/-- The statements of a suspension or resumption are on the domain and the items that follow. -/
lemma table_of_mem_statements {y : Suspension} {st : Statement} (h : st ∈ y.statements) :
    st.table = .domain ∨ st.table ∈ Suspension.tables := by
  obtain ⟨action, hard, id, account, domain⟩ := y
  revert st
  cases action <;> cases hard <;>
    simp [Suspension.statements, Jobs.customerStatusStatements, Jobs.closeMail, Jobs.openMail,
      Jobs.statusStatements, Suspension.tables, table]

/-- The statements of a suspension or resumption move the domain if it still has the status. -/
lemma domains_statements (y : Suspension) (s : Store) :
    (applyAll y.statements s).rows .domain = (ofSuspension y).guarded (s.rows .domain) := by
  obtain ⟨action, hard, id, account, domain⟩ := y
  cases action <;> cases hard <;> rfl

/-- The mail accounts that a suspension or resumption covers have the new status afterwards. -/
lemma mail_statements (y : Suspension) (s : Store) :
    List.Forall₂ (fun (m m' : Mailbox) =>
        y.overwrites s .mail m = true → m'.status = some y.action.target)
      (s.rows .mail) ((applyAll y.statements s).rows .mail) := by
  cases hcloses : y.action == .deactivate && y.hard with
  | true =>
    obtain ⟨action, hard, id, account, domain⟩ := y
    obtain ⟨rfl, rfl⟩ : action = .deactivate ∧ hard = true := by
      simpa using hcloses
    refine List.forall₂_map_right_iff.2 (List.forall₂_same.2 fun m _ hcovered => ?_)
    have hpicked : Cell.refersTo domain.id m.domainId = true := hcovered
    rw [if_pos hpicked]
    rfl
  | false =>
    -- No mail account is covered, and all of them are still there.
    obtain ⟨f, hrows, -⟩ := y.loses_mail s
    rw [hrows]
    refine List.forall₂_map_right_iff.2 (List.forall₂_same.2 fun m _ hcovered => ?_)
    simp only [Suspension.overwrites, hcloses, Bool.false_and] at hcovered
    cases hcovered

/-- The statements of a suspension or resumption overwrite the other items in any case. -/
lemma overwrites_statements (y : Suspension) (s : Store) :
    (ofSuspension y).Overwrites s (applyAll y.statements s) := by
  intro t ht
  by_cases hmail : t = .mail
  · subst hmail
    exact ⟨_, rfl, mail_statements y s⟩
  · obtain ⟨column, hcolumn, hrows⟩ := y.rows_statements s ht hmail
    refine ⟨column, hcolumn, ?_⟩
    rw [hrows, updateRows, List.forall₂_map_right_iff, List.forall₂_same]
    intro r _ hcovered
    have hpicked : y.overwrites s t r = true := hcovered
    rw [if_pos hpicked]
    exact Table.get_set_of_statusColumn? hcolumn _ r

end DomainRequest

/-- Whether a job checks the status of a domain before its transaction. -/
def Job.checksDomain : Job → Bool
  | .changeCustomerStatus _ _ => true
  | .scheduleBackupRestore => true
  | _ => false

/-- What a job that checks the status of a domain has found in a database, and is going to do: to
the domain of a managed customer, or to the domains of the customer who asks. -/
def Job.Requests (user : User) (c : Context) (s : Store) : Job → DomainRequest → Prop
  | .changeCustomerStatus id action, x =>
    ∃ y : Suspension, y.id = id ∧ Jobs.CustomerAction.named? action = some y.action ∧
      y.hard = c.settings.hardMailSuspension ∧ y.account ∈ s.rows .admin ∧
      id.equalsKey y.account.id = true ∧ y.domain ∈ s.rows .domain ∧
      Cell.refersTo y.account.id y.domain.ownerId = true ∧ x = .ofSuspension y
  | .scheduleBackupRestore, x =>
    ∃ customer, user.id = .ok customer ∧ x = .ofRestore customer
  | _, _ => False

/-- What a job that checks the status of a domain plans: its request is open when it is planned, and
the transaction moves the domain if it is still open then, and overwrites the other items. -/
theorem Job.request_of_plan {user : User} {job : Job} {c : Context} {s : Store} {plan : Plan}
    (hjob : job.checksDomain = true) (hplan : job.plan user c s = .ok plan) :
    ∃ x : DomainRequest, job.Requests user c s x ∧ x.IsOpen s ∧ x.checked ≠ x.target ∧
      ∀ {c' : Context} {s' changed : Store}, plan.block c' s' = .ok ((), changed) →
        changed.rows .domain = x.guarded (s'.rows .domain) ∧ x.Overwrites s' changed ∧
        ∀ t, t ≠ .domain → t ∉ x.dependents → changed.rows t = s'.rows t := by
  cases job with
  | changeCustomerStatus id action =>
    obtain ⟨named, account, domain, hnamed, hfound, hmay, rfl⟩ :=
      Jobs.planCustomerStatus_eq_ok_of_checked hplan
    obtain ⟨creator, hanswer⟩ := Ownership.needManagedCustomer_eq_ok hfound
    obtain ⟨haccount, hequals, hfind⟩ := Ownership.mem_of_customer hanswer
    have hdomain := List.mem_of_find?_eq_some hfind
    have howner : Cell.refersTo account.id domain.ownerId = true := by
      simpa using List.find?_some hfind
    let y : Suspension := ⟨named, c.settings.hardMailSuspension, id, account, domain⟩
    refine ⟨.ofSuspension y, ⟨y, rfl, hnamed, rfl, haccount, hequals, hdomain, howner, rfl⟩,
      ⟨domain, hdomain, by simp [DomainRequest.ofSuspension, y],
        Jobs.CustomerAction.eq_expected_of_mayMove hmay⟩, ?_, ?_⟩
    · exact named.expected_ne_target
    · intro c' s' changed hblock
      obtain rfl : changed = Statement.applyAll y.statements s' :=
        TransactionM.executeAll_eq_ok hblock
      refine ⟨DomainRequest.domains_statements y s', DomainRequest.overwrites_statements y s',
        fun t hdomain hdependent => Statement.rows_applyAll_of_ne (fun st hst htable => ?_) s'⟩
      rcases DomainRequest.table_of_mem_statements hst with hst | hst
      · exact hdomain (htable.symm.trans hst)
      · exact hdependent (htable ▸ hst)
  | scheduleBackupRestore =>
    obtain ⟨customer, domain, hcustomer, hanswer, hmay, rfl⟩ := Jobs.planBackupRestore_eq_ok hplan
    have howner : customer.equalsQuantity domain.ownerId = true := by
      simpa using List.find?_some hanswer
    have hne : Status.ok ≠ Status.toRestore := by
      decide
    refine ⟨.ofRestore customer, ⟨customer, hcustomer, rfl⟩,
      ⟨domain, List.mem_of_find?_eq_some hanswer, howner,
        Status.eq_ok_of_mayMove (by decide) hmay⟩, hne, ?_⟩
    intro c' s' changed hblock
    obtain rfl := TransactionM.discard_execute_eq_ok hblock
    refine ⟨rfl, fun t ht => absurd ht List.not_mem_nil, fun t hdomain _ => ?_⟩
    exact Statement.rows_apply_of_ne _ s' (Ne.symm hdomain)
  | _ => cases hjob

/-- A job that checks a status and changes it later reports success whether or not it has made the
change.  Let the suspension or resumption of a customer, or the restoration of a backup, be planned
in one database, after its check has passed, and carried out in another one, which is whatever other
requests and the daemon have made of the first.  The request was open when it was planned.  If the
job succeeds, a domain of the request has been moved to the requested status if and only if the
request is open in the second database too, that is, a domain of it still has the checked status
there.  All the same the items that follow get the requested status, and no other table changes
except for the outbox. -/
theorem checked_change_moves_domain_iff {user : User} {job : Job} {before c : Context} {s : Store}
    {plan : Plan} {p q : Panel} {answer : String} (hjob : job.checksDomain = true)
    (hplan : job.plan user before s = .ok plan)
    (hrun : run (plan.carryOut user) c p = (.ok answer, q)) :
    ∃ x : DomainRequest, job.Requests user before s x ∧ x.IsOpen s ∧
      (x.Moves p.store q.store ↔ x.IsOpen p.store) ∧ x.Overwrites p.store q.store ∧
      ∀ t, t ≠ .domain → t ≠ .outbox → t ∉ x.dependents → q.store.rows t = p.store.rows t := by
  obtain ⟨x, hrequests, hopen, hne, hblock⟩ := Job.request_of_plan hjob hplan
  obtain ⟨changed, -, -, hrun, -, hrows, -⟩ :=
    commitsWithEntry_of_run_carryOut (Job.block_spares_outbox hplan) hrun
  obtain ⟨hdomains, hoverwrites, hothers⟩ := hblock hrun
  refine ⟨x, hrequests, hopen, ?_, ?_, ?_⟩
  · exact DomainRequest.moves_iff_isOpen hne ((hrows .domain (by decide)).trans hdomains)
  · intro t ht
    obtain ⟨column, hcolumn, hset⟩ := hoverwrites t ht
    have houtbox : t ≠ .outbox := by
      rintro rfl
      cases hcolumn
    rw [hrows t houtbox]
    exact ⟨column, hcolumn, hset⟩
  · intro t hdomain houtbox hdependent
    rw [hrows t houtbox]
    exact hothers t hdomain hdependent

/-- The suspension of the customer of the sample. -/
def sampleSuspensionJob : Job :=
  .changeCustomerStatus (.int 7) (.text "deactivate")

/-- The sample after its reseller has deleted the customer. -/
def sampleLeaving : Panel :=
  (run (Job.run sampleReseller (.deleteCustomer (.int 7))) {} sampleHosting).2

/-- What comes of the suspension that was planned for the sample if it is carried out on a panel. -/
def sampleCarriedOut (p : Panel) : Except Failure String × Panel :=
  match sampleSuspensionJob.plan sampleReseller {} sampleHosting.store with
  | .ok plan => run (plan.carryOut sampleReseller) {} p
  | .error e => (.error e, p)

/-- If the customer has deleted a subdomain since, the domain is still in service, and the
suspension moves it. -/
theorem checked_change_moves_domain_iff_sample :
    ∃ plan, sampleSuspensionJob.plan sampleReseller {} sampleHosting.store = .ok plan ∧
      run (plan.carryOut sampleReseller) {} sampleDeleted =
        (.ok "Customer account successfully scheduled for deactivation.",
          (sampleCarriedOut sampleDeleted).2) ∧
      ∃ x : DomainRequest, x.target = "todisable" ∧
        x.Moves sampleDeleted.store (sampleCarriedOut sampleDeleted).2.store := by
  obtain ⟨plan, hplan, hrun⟩ :
      ∃ plan, sampleSuspensionJob.plan sampleReseller {} sampleHosting.store = .ok plan ∧
        run (plan.carryOut sampleReseller) {} sampleDeleted =
          (.ok "Customer account successfully scheduled for deactivation.",
            (sampleCarriedOut sampleDeleted).2) :=
    ⟨_, rfl, Prod.ext rfl rfl⟩
  obtain ⟨x, hrequests, hopen, hiff, -⟩ := checked_change_moves_domain_iff (by rfl) hplan hrun
  obtain ⟨y, -, haction, -, -, -, -, -, rfl⟩ := hrequests
  have htarget : y.action.target = "todisable" := by
    rw [← Option.some.inj haction]
    rfl
  -- The deletion of the subdomain has not touched the domain.
  have hdomains : sampleDeleted.store.rows .domain = sampleHosting.store.rows .domain := by
    decide +kernel
  have hstill : (DomainRequest.ofSuspension y).IsOpen sampleDeleted.store := by
    rw [DomainRequest.IsOpen, hdomains]
    exact hopen
  exact ⟨plan, hplan, hrun, _, htarget, hiff.2 hstill⟩

/-- A reseller suspends a customer.  After the status of the domain has been checked, and before the
transaction, the reseller deletes the customer in another request.  The suspension succeeds all the
same: the domain still waits for its deletion, and its subdomain is to be disabled. -/
theorem stale_check_reports_success :
    (∃ plan, sampleSuspensionJob.plan sampleReseller {} sampleHosting.store = .ok plan ∧
      run (plan.carryOut sampleReseller) {} sampleLeaving = sampleCarriedOut sampleLeaving) ∧
      (sampleCarriedOut sampleLeaving).1 =
        .ok "Customer account successfully scheduled for deactivation." ∧
      (sampleLeaving.store.rows .domain).map (fun (d : Domain) => d.status) = [some "todelete"] ∧
      (sampleCarriedOut sampleLeaving).2.store.rows .domain = sampleLeaving.store.rows .domain ∧
      sampleLeaving.store.rows .subdomain = [sampleShop "todelete"] ∧
      (sampleCarriedOut sampleLeaving).2.store.rows .subdomain = [sampleShop "todisable"] := by
  refine ⟨⟨_, rfl, rfl⟩, rfl, ?_, ?_, ?_, ?_⟩
  · decide +kernel
  · decide +kernel
  · decide +kernel
  · decide +kernel

end HostingPanel
