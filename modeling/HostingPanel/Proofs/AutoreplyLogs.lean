import HostingPanel.Proofs.CustomerEstate
import HostingPanel.Proofs.MailPruning

/-!
# Logs of automatic replies

When a mail account or a customer goes, the logs of senders are removed who have no mail account any
more that stays.  The statement that does so compares a column which may be absent with a list of
addresses which may be empty, and it is run last, so that it sees which accounts the deletion itself
has scheduled.

`Jobs.KeepsLog` says of which senders the logs are kept.  The purge is a filter by it
(`Jobs.rows_purge`), and a deletion that ends with the purge and leaves the logs alone until then
filters them by the accounts as they are in the end (`Jobs.EndsWithPurge.rows_autoreply`).
-/

namespace HostingPanel

open OperationM Statement

/-- An address has a mail account with a status that is not that of a pending deletion. -/
def Store.HasLive (s : Store) (address : String) : Prop :=
  ∃ m : Mailbox, m ∈ s.rows .mail ∧ m.address = some address ∧
    ∃ status, m.status = some status ∧ status ≠ "todelete"

namespace Jobs

/-! ### The purge -/

/-- The log of a sender is kept if the sender has a live account, and the log of an absent sender if
there is any live account with an address. -/
def KeepsLog (s : Store) (l : AutoreplyLog) : Prop :=
  (∀ sender, l.sender = some sender → s.HasLive sender) ∧
    (l.sender = none → ∃ address, s.HasLive address)

lemma mem_liveAddresses {s : Store} {address : String} :
    address ∈ liveAddresses s ↔ s.HasLive address := by
  have hother : ∀ column : Option String, Cell.isOther Status.toDelete column = true ↔
      ∃ status, column = some status ∧ status ≠ "todelete" := by
    simp [Cell.isOther, Option.any_eq_true, Status.toDelete]
  simp only [liveAddresses, List.mem_filterMap, Option.ite_none_right_eq_some, hother,
    Store.HasLive]
  exact exists_congr fun m => and_congr_right fun _ => and_comm

lemma isNoneOfAddresses_eq_false_iff {s : Store} {l : AutoreplyLog} :
    isNoneOfAddresses (liveAddresses s) l.sender = false ↔ KeepsLog s l := by
  have hempty : (liveAddresses s).isEmpty = false ↔ ∃ address, s.HasLive address := by
    simp only [List.isEmpty_eq_false_iff_exists_mem, mem_liveAddresses]
  rw [isNoneOfAddresses, Bool.or_eq_false_iff, hempty, KeepsLog]
  cases l.sender with
  | none => simp [Cell.isNoneOf]
  | some sender =>
    -- If the sender has a live account, there is one.
    simp only [Cell.isNoneOf, Option.any_some, Bool.not_eq_false', List.contains_eq_mem,
      decide_eq_true_eq, mem_liveAddresses, Option.some.injEq, forall_eq', reduceCtorEq,
      false_implies, and_true, and_iff_right_iff_imp]
    exact fun hlive => ⟨sender, hlive⟩

instance (s : Store) (l : AutoreplyLog) : Decidable (KeepsLog s l) :=
  decidable_of_iff _ isNoneOfAddresses_eq_false_iff

lemma rows_purge (s : Store) :
    (purgeAutoreplies.apply s).rows .autoreply =
      (s.rows .autoreply).filter fun l => decide (KeepsLog s l) := by
  refine (s.rows_set_self .autoreply _).trans (List.filter_congr fun (l : AutoreplyLog) _ => ?_)
  rw [Bool.eq_iff_iff, Bool.not_eq_true', isNoneOfAddresses_eq_false_iff, decide_eq_true_iff]

/-- Which logs are kept depends on the mail accounts only. -/
lemma keepsLog_congr {s s' : Store} (hmail : s'.rows .mail = s.rows .mail) (l : AutoreplyLog) :
    KeepsLog s' l ↔ KeepsLog s l := by
  simp only [KeepsLog, Store.HasLive, hmail]

/-! ### Blocks that end with the purge -/

/-- Between two stores the purge has been run last, and the logs have been left alone before. -/
def EndsWithPurge (s s' : Store) : Prop :=
  ∃ between : Store, between.rows .autoreply = s.rows .autoreply ∧
    s' = purgeAutoreplies.apply between

/-- With the purge last, the logs are kept by the accounts as they are in the end. -/
lemma EndsWithPurge.rows_autoreply {s s' : Store} (h : EndsWithPurge s s') :
    s'.rows .autoreply = (s.rows .autoreply).filter fun l => decide (KeepsLog s' l) := by
  obtain ⟨between, hlogs, rfl⟩ := h
  have hmail : (purgeAutoreplies.apply between).rows .mail = between.rows .mail :=
    rows_apply_of_ne _ _ (by decide)
  simp only [rows_purge, hlogs, keepsLog_congr hmail]

lemma endsWithPurge_applyAll {statements : List Statement} {s : Store}
    (h : ∀ st ∈ statements, st.table ≠ .autoreply) :
    EndsWithPurge s (purgeAutoreplies.apply (applyAll statements s)) :=
  ⟨_, rows_applyAll_of_ne h s, rfl⟩

/-- The deletion of a mail account ends with the purge. -/
lemma endsWithPurge_mailBlock {id : Json} {address : Option String} {c : Context} {s s' : Store}
    {u : Unit} (h : mailBlock id address c s = .ok (u, s')) : EndsWithPurge s s' := by
  rw [mailBlock_eq_ok h, ← applyAll_cons]
  refine endsWithPurge_applyAll fun st hst => ?_
  have htable : st.table = .mail := by
    rcases List.mem_cons.1 hst with rfl | hst
    · rfl
    · obtain ⟨m, -, hm⟩ := List.mem_flatMap.1 hst
      exact table_of_mem_detach hm
  rw [htable]
  decide

lemma endsWithPurge_customerStatements (id : Json) (name : Option String) (domainId : Int)
    (s : Store) : EndsWithPurge s (applyAll (customerStatements id name domainId) s) := by
  rw [customerStatements, applyAll_append]
  refine endsWithPurge_applyAll fun st hst => ?_
  revert st
  simp [customerRemovals, customerSchedules, FtpGroups.store, FtpGroups.removal,
    scheduleCertificatesOf, table]

end Jobs

/-- Whether a job removes logs of automatic replies. -/
def Job.purgesLogs : Job → Bool
  | .deleteMailAccount _ => true
  | .deleteCustomer _ => true
  | _ => false

/-- A job that removes logs does so at the end of its transaction. -/
lemma Job.endsWithPurge {user : User} {job : Job} {c c' : Context} {s s' changed : Store}
    {plan : Plan} {u : Unit} (hjob : job.purgesLogs = true)
    (hplan : job.plan user c s = .ok plan) (hblock : plan.block c' s' = .ok (u, changed)) :
    Jobs.EndsWithPurge s' changed := by
  cases job with
  | deleteMailAccount id =>
    obtain ⟨customer, domain, m, -, -, -, rfl⟩ := Jobs.planMailAccount_eq_ok hplan
    exact Jobs.endsWithPurge_mailBlock hblock
  | deleteCustomer id =>
    obtain ⟨account, domain, -, rfl⟩ := Jobs.planCustomer_eq_ok hplan
    rw [TransactionM.executeAll_eq_ok hblock]
    exact Jobs.endsWithPurge_customerStatements id account.name domain.id s'
  | _ => cases hjob

/-- The logs of automatic replies follow the live addresses.  Take any database, and let a mail
account or a customer be deleted with success.  An address is live if some mail account has it and
ends up with a status other than that of a pending deletion.  The logs that are left are those of
live senders and, if there is a live address at all, those without a sender, in their order.  So no
log of a live sender is lost, and none is left of a sender whose accounts are all to be deleted or
have no status. -/
theorem autoreply_logs_follow_live_addresses {user : User} {job : Job} {c : Context} {p q : Panel}
    {answer : String} (hjob : job.purgesLogs = true)
    (hrun : run (job.run user) c p = (.ok answer, q)) :
    q.store.rows .autoreply =
        (p.store.rows .autoreply).filter (fun l => decide (Jobs.KeepsLog q.store l)) ∧
      ∀ (l : AutoreplyLog) (sender : String), l ∈ p.store.rows .autoreply →
        l.sender = some sender →
          (q.store.HasLive sender → l ∈ q.store.rows .autoreply) ∧
          ((∀ m : Mailbox, m ∈ q.store.rows .mail → m.address = some sender →
            m.status = none ∨ m.status = some "todelete") → l ∉ q.store.rows .autoreply) := by
  obtain ⟨plan, hplan, changed, -, -, hblock, -, hrows, -⟩ := commitsWithEntry_of_run_job hrun
  have hlogs : q.store.rows .autoreply =
      (p.store.rows .autoreply).filter fun l => decide (Jobs.KeepsLog q.store l) := by
    have hmail := hrows .mail (by decide)
    rw [hrows .autoreply (by decide), (Job.endsWithPurge hjob hplan hblock).rows_autoreply]
    simp only [Jobs.keepsLog_congr hmail]
  refine ⟨hlogs, fun l sender hl hsender => ⟨fun hlive => ?_, fun hdeleted hstays => ?_⟩⟩
  · rw [hlogs, List.mem_filter, decide_eq_true_iff, Jobs.KeepsLog, hsender]
    refine ⟨hl, fun address haddress => ?_, nofun⟩
    rwa [← Option.some.inj haddress]
  · rw [hlogs, List.mem_filter, decide_eq_true_iff] at hstays
    obtain ⟨m, hm, haddress, status, hstatus, hother⟩ := hstays.2.1 sender hsender
    rcases hdeleted m hm haddress with hnone | hgone
    · rw [hnone] at hstatus
      cases hstatus
    · rw [hgone] at hstatus
      exact hother (Option.some.inj hstatus).symm

/-- A panel with a mail account, a forward that lists nothing else, and an account of its own, and
with a log for each of the three and one without a sender. -/
def sampleReplies : Panel :=
  { sampleMail "anna@example.test" "ok" with
    store :=
      ((sampleMail "anna@example.test" "ok").store.set .mail
        [sampleMailbox "ok", sampleForward "anna@example.test" "ok",
          { id := 7, domainId := some (.whole 1), address := some "bert@example.test" }]).set
        .autoreply
        [{ rowNumber := 1, sender := some "anna@example.test" },
          { rowNumber := 2, sender := some "team@example.test" },
          { rowNumber := 3, sender := some "bert@example.test" }, { rowNumber := 4 }] }

/-- With the mail account its log goes, and the log of the forward that the deletion empties. -/
theorem autoreply_logs_follow_live_addresses_sample :
    ∃ q, run (Job.run sampleCustomer (.deleteMailAccount (.int 5))) {} sampleReplies =
        (.ok "Mail account successfully scheduled for deletion.", q) ∧
      (q.store.rows .autoreply).map (fun (l : AutoreplyLog) => l.rowNumber) = [3, 4] ∧
      ∀ l ∈ sampleReplies.store.rows .autoreply, Jobs.KeepsLog q.store l →
        l ∈ q.store.rows .autoreply := by
  have hrun : run (Job.run sampleCustomer (.deleteMailAccount (.int 5))) {} sampleReplies =
      (.ok "Mail account successfully scheduled for deletion.",
        (run (Job.run sampleCustomer (.deleteMailAccount (.int 5))) {} sampleReplies).2) :=
    Prod.ext rfl rfl
  obtain ⟨hlogs, -⟩ := autoreply_logs_follow_live_addresses (by rfl) hrun
  refine ⟨_, hrun, by decide +kernel, fun l hl hkeeps => ?_⟩
  rw [hlogs]
  exact List.mem_filter.2 ⟨hl, decide_eq_true hkeeps⟩

end HostingPanel
