import HostingPanel.Proofs.Atomicity
import HostingPanel.Proofs.FaultFree
import HostingPanel.Proofs.ItemIsolation
import HostingPanel.Proofs.Suspension

/-!
# DNS records that wait already

A customer cannot delete a DNS record that waits for the daemon.  The statement that schedules the
deletion says so itself: it passes over the records with one of three statuses (`Jobs.dnsGuard`).
There are six more requests that a record may be waiting for, and a suspension writes one of them
into the same column.

`Jobs.mayNameRecord` says which records a customer may name, and `Jobs.Guarded` which statuses the
statement passes over.  `dns_deletion_keeps_pending_iff` says that a pending record is left to the
daemon exactly if its status is one of the three.
-/

namespace HostingPanel

open OperationM

/-- A statement picks no row exactly if it picks none of its table. -/
lemma Statement.count_eq_zero_iff {st : Statement} {s : Store} :
    st.count s = 0 ↔ ∀ r ∈ s.rows st.table, st.picks s r = false := by
  cases st <;> (simp only [count, List.countP_eq_zero, Bool.not_eq_true]; rfl)

namespace Jobs

/-- Whether a record has a key, is kept by the panel's own feature and belongs to a customer. -/
def mayNameRecord (id customer : Json) (s : Store) (r : DnsRecord) : Bool :=
  id.equalsKey r.id && Cell.isText "custom_dns_feature" r.ownedBy &&
    Ownership.isDomainOf s customer r.domainId

/-- A status that the deletion of a record passes over: one of the guard, and the absent one. -/
def Guarded (status : Option String) : Prop :=
  ∀ current, status = some current → current ∈ dnsGuard

/-- A status is either guarded or the statement finds it. -/
lemma isNoneOf_dnsGuard_eq_false_iff {status : Option String} :
    Cell.isNoneOf dnsGuard status = false ↔ Guarded status := by
  cases status <;> simp [Cell.isNoneOf, Guarded]

/-- A record whose deletion is scheduled may be named, and its status is not guarded. -/
lemma picks_scheduleDnsRecord (id customer : Json) (s : Store) (r : DnsRecord) :
    (scheduleDnsRecord id customer).picks s r =
      (mayNameRecord id customer s r && Cell.isNoneOf dnsGuard r.status) := by
  simp only [scheduleDnsRecord, Statement.picks, mayNameRecord]
  grind

/-- No record is found exactly if all that may be named have guarded statuses. -/
lemma count_scheduleDnsRecord_eq_zero_iff {id customer : Json} {s : Store} :
    (scheduleDnsRecord id customer).count s = 0 ↔
      ∀ r : DnsRecord, r ∈ s.rows .dns → mayNameRecord id customer s r = true →
        Guarded r.status := by
  rw [Statement.count_eq_zero_iff]
  refine forall₂_congr fun (r : DnsRecord) _ => ?_
  rw [picks_scheduleDnsRecord, ← isNoneOf_dnsGuard_eq_false_iff, Bool.and_eq_false_imp]

/-- A record stays as it is if it may not be named or its status is guarded, and only then: the
status that is written is guarded itself. -/
lemma scheduled_eq_self_iff {named : Bool} {r : DnsRecord} :
    (if named && Cell.isNoneOf dnsGuard r.status then
      { r with status := some Status.toDelete } else r) = r ↔
      (named = true → Guarded r.status) := by
  have htoDelete : Cell.isNoneOf dnsGuard (some Status.toDelete) = false := by
    decide
  rw [← isNoneOf_dnsGuard_eq_false_iff]
  split
  · rename_i hfound
    obtain ⟨hnamed, hstatus⟩ := Bool.and_eq_true_iff.1 hfound
    refine iff_of_false (fun hsame => ?_) (by simp [hnamed, hstatus])
    rw [← hsame] at hstatus
    exact absurd hstatus (by simp [htoDelete])
  · simp_all

variable {user : User} {id customer : Json} {c : Context} {s : Store}

/-- Without faults, and if the key and the customer can be bound, the deletion of a record fails
only if it finds none. -/
lemma dnsBlock_eq (hid : user.id = .ok customer) (hfree : FaultFree c s)
    (hbind : Json.bindFailures? 1 [.text Status.toDelete, id, customer] = none) :
    dnsBlock user id c s =
      if (scheduleDnsRecord id customer).count s = 0 then .error (.notFound .dnsRecord)
      else .ok ((), (scheduleDnsRecord id customer).apply s) := by
  have hlift : (liftM user.id : TransactionM Json) c s = .ok (customer, s) := by
    rw [hid]
    rfl
  have hparams : (scheduleDnsRecord id customer).footprint.params =
      [.text Status.toDelete, id, customer] := rfl
  have hexecute : TransactionM.execute (scheduleDnsRecord id customer) c s =
      .ok ((scheduleDnsRecord id customer).count s, (scheduleDnsRecord id customer).apply s) := by
    rw [TransactionM.execute, hfree.checkFootprint_eq, hparams, hbind]
  unfold dnsBlock
  rw [TransactionM.bind_apply, hlift]
  simp only
  rw [TransactionM.bind_apply, hexecute]
  simp only
  split <;> rfl

end Jobs

/-- A failure that is meant for the user, and is not the message of the plan itself, leaves a job
as it has stopped its block. -/
lemma interrupted_of_run_job {user : User} {job : Job} {plan : Plan} {c : Context} {p q : Panel}
    {e : Failure} (hplan : job.plan user c p.store = .ok plan) (hshown : e.isShown = true)
    (hkind : ∀ message, e ≠ .rolledBack message) (hrun : run (job.run user) c p = (.error e, q)) :
    Interrupted c p.store (.text plan.action) plan.block e := by
  rw [run_job, hplan] at hrun
  simp only at hrun
  rw [run_carryOut, run_scheduledChange] at hrun
  cases hcommit : commitBlock c p.store (announced (.text plan.action) plan.block) with
  | error stopped =>
    simp only [hcommit, Prod.mk.injEq, Except.error.injEq, Failure.wrapped] at hrun
    obtain ⟨hsame, -⟩ := hrun
    split at hsame
    · exact commitBlock_announced_eq_error_iff.1 (hsame ▸ hcommit)
    · exact absurd hsame.symm (hkind _)
  | ok done =>
    obtain ⟨⟨⟩, middle⟩ := done
    simp only [hcommit] at hrun
    rcases htold : run Outbox.notifyAfterCommit c { p with store := middle } with ⟨late | told, q'⟩
    · obtain ⟨-, hhidden⟩ := Outbox.run_notifyAfterCommit_eq_error htold
      simp only [htold, Except.map] at hrun
      cases hrun
      rw [hshown] at hhidden
      cases hhidden
    · simp only [htold, Except.map] at hrun
      cases hname : user.name with
      | error late =>
        simp only [hname] at hrun
        cases hrun
        rw [User.isShown_of_name_eq_error hname] at hshown
        cases hshown
      | ok name =>
        simp only [hname] at hrun
        cases hrun

section Deletion

variable {user : User} {id customer : Json} {c : Context} {p q : Panel}
  {result : Except Failure String}

/-- The records after a deletion: those that were found wait for their deletion, and the others are
as they were.  If the deletion has failed before its commit, all are as they were. -/
lemma rows_of_run_deleteDnsRecord (hid : user.id = .ok customer)
    (hrun : run (Job.run user (.deleteDnsRecord id)) c p = (result, q)) :
    q.store = p.store ∨
      q.store.rows .dns = (p.store.rows .dns).map fun r : DnsRecord =>
        if Jobs.mayNameRecord id customer p.store r && Cell.isNoneOf Jobs.dnsGuard r.status then
          { r with status := some Status.toDelete }
        else r := by
  have heffect := effect_job user (.deleteDnsRecord id) c p
  rw [hrun] at heffect
  rcases heffect with hsame | ⟨action, block, ⟨plan, hplan, rfl, rfl⟩, changed, -, -, hblock, -,
    hrows, -⟩
  · exact .inl hsame
  · cases hplan
    obtain ⟨customer', hid', -, rfl⟩ := Jobs.dnsBlock_eq_ok hblock
    cases hid.symm.trans hid'
    refine .inr ((hrows .dns (by decide)).trans ?_)
    have happly : ((Jobs.scheduleDnsRecord id customer).apply p.store).rows .dns =
        (p.store.rows .dns).map fun r : DnsRecord =>
          if (Jobs.scheduleDnsRecord id customer).picks p.store r then
            { r with status := some Status.toDelete }
          else r := p.store.rows_set_self .dns _
    simp only [happly, Jobs.picks_scheduleDnsRecord]

/-- Without faults, and if the key and the customer can be bound, a deletion is refused exactly if
all records that may be named have guarded statuses. -/
lemma run_deleteDnsRecord_eq_notFound_iff (hid : user.id = .ok customer)
    (hfree : FaultFree c p.store)
    (hbind : Json.bindFailures? 1 [.text Status.toDelete, id, customer] = none)
    (hrun : run (Job.run user (.deleteDnsRecord id)) c p = (result, q)) :
    result = .error (.notFound .dnsRecord) ↔
      ∀ r : DnsRecord, r ∈ p.store.rows .dns → Jobs.mayNameRecord id customer p.store r = true →
        Jobs.Guarded r.status := by
  have hplan : Job.plan user (.deleteDnsRecord id) c p.store = .ok (Jobs.dnsPlan user id) := rfl
  have hspares := Job.block_spares_outbox hplan
  have hblock : (Jobs.dnsPlan user id).block c p.store = _ := Jobs.dnsBlock_eq hid hfree hbind
  have hmissing : ∀ s', (Jobs.dnsPlan user id).block c p.store = .ok ((), s') →
      s'.missing = [] := by
    intro s' hdone
    obtain ⟨customer', -, -, rfl⟩ := Jobs.dnsBlock_eq_ok hdone
    rw [Statement.missing_apply, hfree.missing]
  have hcommit : commitBlock c p.store (announced (.text (Jobs.dnsPlan user id).action)
      (Jobs.dnsPlan user id).block) = _ :=
    (hfree.commitBlock_eq _).trans (hfree.announced_eq _ hspares hmissing)
  rw [← Jobs.count_scheduleDnsRecord_eq_zero_iff]
  constructor
  · rintro rfl
    have hstopped := commitBlock_announced_eq_error_iff.2
      (interrupted_of_run_job hplan rfl (by simp) hrun)
    by_contra hsome
    rw [hcommit, hblock, if_neg hsome] at hstopped
    simp only at hstopped
    split at hstopped <;> cases hstopped
  · intro hnone
    rw [hblock, if_pos hnone] at hcommit
    rw [run_job, hplan] at hrun
    simp only at hrun
    rw [run_carryOut, run_scheduledChange, hcommit] at hrun
    cases hrun
    rfl

/-- The deletion of a DNS record leaves a record that waits for the daemon alone exactly if the
record waits to be added, changed or deleted.  Take any database, with any statuses and any faults,
any customer and any key.  The call leaves all pending records as they are if and only if it changes
nothing at all or every pending record that may be named has one of these three statuses.  If all
records that may be named have one of them or no status, the call fails and touches nothing.
Without faults, and if the parameters can be bound, it then says that there is no such record, and
it says so only then. -/
theorem dns_deletion_keeps_pending_iff (hid : user.id = .ok customer)
    (hrun : run (Job.run user (.deleteDnsRecord id)) c p = (result, q)) :
    (List.Forall₂ (fun r r' : DnsRecord => Status.isPending r.status = true → r' = r)
        (p.store.rows .dns) (q.store.rows .dns) ↔
      q.store = p.store ∨
        ∀ r : DnsRecord, r ∈ p.store.rows .dns → Jobs.mayNameRecord id customer p.store r = true →
          Status.isPending r.status = true → Jobs.Guarded r.status) ∧
      ((∀ r : DnsRecord, r ∈ p.store.rows .dns → Jobs.mayNameRecord id customer p.store r = true →
          Jobs.Guarded r.status) → (∃ e, result = .error e) ∧ p.Untouched q) ∧
      (FaultFree c p.store →
        Json.bindFailures? 1 [.text Status.toDelete, id, customer] = none →
        (result = .error (.notFound .dnsRecord) ↔
          ∀ r : DnsRecord, r ∈ p.store.rows .dns →
            Jobs.mayNameRecord id customer p.store r = true → Jobs.Guarded r.status)) := by
  have hsame : q.store = p.store → List.Forall₂ (fun r r' : DnsRecord =>
      Status.isPending r.status = true → r' = r) (p.store.rows .dns) (q.store.rows .dns) := by
    intro hstore
    rw [hstore]
    exact List.forall₂_same.2 fun _ _ _ => rfl
  refine ⟨?_, fun hguarded => ?_, fun hfree hbind =>
    run_deleteDnsRecord_eq_notFound_iff hid hfree hbind hrun⟩
  · rcases rows_of_run_deleteDnsRecord hid hrun with hstore | hrows
    · exact iff_of_true (hsame hstore) (.inl hstore)
    · refine ⟨fun hkept => .inr ?_, fun hright => hright.elim hsame fun hguarded => ?_⟩
      · rw [hrows, List.forall₂_map_right_iff, List.forall₂_same] at hkept
        intro r hr hnamed hpending
        exact Jobs.scheduled_eq_self_iff.1 (hkept r hr hpending) hnamed
      · rw [hrows, List.forall₂_map_right_iff, List.forall₂_same]
        intro r hr hpending
        exact Jobs.scheduled_eq_self_iff.2 fun hnamed => hguarded r hr hnamed hpending
  · have hcount := Jobs.count_scheduleDnsRecord_eq_zero_iff.2 hguarded
    obtain ⟨e, q', hfailed, huntouched⟩ : ∃ e q', run (Job.run user (.deleteDnsRecord id)) c p =
        (.error e, q') ∧ p.Untouched q' := by
      refine run_job_of_block_error fun plan hplan s' hblock => ?_
      cases hplan
      obtain ⟨customer', hid', hfound, -⟩ := Jobs.dnsBlock_eq_ok hblock
      cases hid.symm.trans hid'
      exact hfound hcount
    cases hrun.symm.trans hfailed
    exact ⟨⟨e, rfl⟩, huntouched⟩

end Deletion

/-- A DNS record of the customer of the samples, with a status. -/
def sampleRecord (status : String) : DnsRecord :=
  { id := 5, domainId := some (.whole 1), record := some "www", status := some status }

/-- A panel with a customer of the reseller, who has a DNS record. -/
def sampleZone (status : String) : Panel where
  store :=
    ((Store.empty.set .admin
      [{ id := 7, name := some "mona", role := some "user", createdBy := some (.whole 2) }]).set
        .domain [{ id := 1, name := some "example.test", ownerId := some (.whole 7) }]).set .dns
          [sampleRecord status]
  notifier := Notifier.create {}

/-- What comes of the deletion of the record on a panel. -/
def sampleRecordDeletion (p : Panel) : Except Failure String × Panel :=
  run (Job.run sampleCustomer (.deleteDnsRecord (.int 5))) {} p

/-- A record that waits to be changed stays, and the customer is told that there is none. -/
theorem dns_deletion_keeps_pending_iff_sample :
    (sampleRecordDeletion (sampleZone "tochange")).1 = .error (.notFound .dnsRecord) ∧
      (sampleZone "tochange").Untouched (sampleRecordDeletion (sampleZone "tochange")).2 := by
  have hid : sampleCustomer.id = .ok (.int 7) := rfl
  have hfree : FaultFree {} (sampleZone "tochange").store := ⟨rfl, rfl⟩
  have hbind : Json.bindFailures? 1 [.text Status.toDelete, .int 5, .int 7] = none := by
    decide
  have hrun : run (Job.run sampleCustomer (.deleteDnsRecord (.int 5))) {} (sampleZone "tochange") =
      ((sampleRecordDeletion (sampleZone "tochange")).1,
        (sampleRecordDeletion (sampleZone "tochange")).2) := rfl
  obtain ⟨-, huntouched, hrefused⟩ := dns_deletion_keeps_pending_iff hid hrun
  have hguarded : ∀ r : DnsRecord, r ∈ (sampleZone "tochange").store.rows .dns →
      Jobs.mayNameRecord (.int 5) (.int 7) (sampleZone "tochange").store r = true →
        Jobs.Guarded r.status := by
    intro r hr _
    obtain rfl := List.mem_singleton.1 hr
    exact Jobs.isNoneOf_dnsGuard_eq_false_iff.1 (by decide)
  exact ⟨(hrefused hfree hbind).2 hguarded, (huntouched hguarded).2⟩

/-- The panel after the reseller has suspended the customer. -/
def sampleClosedZone : Panel :=
  (run (Job.run sampleReseller (.changeCustomerStatus (.int 7) (.text "deactivate"))) {}
    (sampleZone "ok")).2

/-- A reseller suspends a customer, and before the daemon has got round to it the customer deletes a
DNS record: the record no longer waits to be disabled but to be deleted. -/
theorem suspended_record_scheduled :
    sampleClosedZone.store.rows .dns = [sampleRecord "todisable"] ∧
      Status.isPending (sampleRecord "todisable").status = true ∧
      (sampleRecordDeletion sampleClosedZone).1 =
        .ok "Custom DNS record successfully scheduled for deletion." ∧
      (sampleRecordDeletion sampleClosedZone).2.store.rows .dns = [sampleRecord "todelete"] := by
  refine ⟨?_, ?_, ?_, ?_⟩
  · decide +kernel
  · decide
  · rfl
  · decide +kernel

end HostingPanel
