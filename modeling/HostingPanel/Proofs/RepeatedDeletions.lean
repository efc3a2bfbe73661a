import HostingPanel.Proofs.Commutation
import HostingPanel.Proofs.SettledTables

/-!
# Deletions that are repeated

A deletion that has succeeded can be made once more, and then it changes nothing but the outbox.
For that two things are needed of it (`Job.Repeats`): in what it has left behind it plans the same
as before, although items that it looks up wait for their deletion now, and what it plans runs to
its end and finds every row as it would make it.

Deletions of web space are cascades, and a cascade is a projection as long as the search for a group
has no choice (`Cascade.effect_self`).  Deletions of customers and of mail accounts settle their
tables.
-/

namespace HostingPanel

open OperationM Statement

open FtpGroups (Pruning)

/-! ### Cascades -/

namespace Statement

/-- Statements that have nothing left to do do nothing together. -/
lemma applyAll_of_idle {sts : List Statement} {s : Store} (h : ∀ st ∈ sts, st.Idle s) :
    applyAll sts s = s := by
  induction sts with
  | nil => rfl
  | cons st sts ih =>
    obtain ⟨hfirst, hrest⟩ := List.forall_mem_cons.1 h
    rw [applyAll_cons, hfirst.apply_eq, ih hrest]

end Statement

/-- No group has an absent name, so leaving it changes nothing. -/
lemma FtpGroups.leave_none (members : List String) (s : Store) : leave none members s = s := by
  have hnone : ∀ name : Option String, Cell.agree name none = false := by
    intro name
    cases name <;> rfl
  refine applyAll_of_idle fun st hst => ?_
  unfold store at hst
  split at hst
  · simp only [removal, List.mem_cons, List.not_mem_nil, or_false] at hst
    rcases hst with rfl | rfl | rfl
    all_goals exact idle_delete_iff.2 fun _ _ => hnone _
  · rw [List.mem_singleton.1 hst]
    refine idle_update_iff.2 fun (g : FtpGroup) _ hpicked => ?_
    rw [hnone] at hpicked
    cases hpicked

/-- A pruning is a projection if its search has no choice. -/
lemma FtpGroups.Pruning.apply_self {q : Pruning} {s : Store} (h : (q.candidates s).length ≤ 1) :
    q.apply (q.apply s) = q.apply s := by
  rcases hfound : q.candidates s with _ | ⟨g, _ | ⟨g', rest⟩⟩
  · rw [apply_of_nil hfound, apply_of_nil hfound]
  · rw [apply_of_singleton hfound]
    cases hname : g.name with
    | none => rw [leave_none, apply_of_singleton hfound, hname, leave_none]
    | some name =>
      refine apply_leave (fun g' hg' => ?_) (fun m hm => ?_) fun m hm => ?_
      · rw [hfound] at hg'
        rw [List.mem_singleton.1 hg', hname]
        exact Cell.agree_some_iff.2 rfl
      · exact Text.proper_of_mem_items (List.mem_of_mem_filter hm)
      · simpa using (List.mem_filter.1 hm).2
  · simp [hfound] at h

/-- A cascade is a projection if the search of its pruning has no choice. -/
lemma Cascade.effect_self {x : Cascade} {s : Store} (h : (x.pruning.candidates s).length ≤ 1) :
    x.effect (x.effect s) = x.effect s := by
  rw [effect_effect (Pruning.apply_self h)]
  exact applyAll_of_idle fun st hst => idle_of_mem x.sweeps hst _

/-! ### Jobs that are run again -/

/-- After what a planned job has left, whatever has become of the outbox, the same is planned once
more, and it runs to its end and changes nothing. -/
def Job.Repeats (user : User) (job : Job) (c : Context) (plan : Plan) (changed : Store) : Prop :=
  ∀ s, FaultFree c s → changed.SameTables s →
    job.plan user c s = .ok plan ∧
      ∃ again, plan.block c s = .ok ((), again) ∧ s.SameTables again

/-- The notifier has been used when an announcement is over. -/
lemma Outbox.sent_notifyAfterCommit (c : Context) (p : Panel) :
    (run notifyAfterCommit c p).2.notifier.sent = true := by
  cases hsent : p.notifier.sent with
  | true => rw [run_notifyAfterCommit_of_sent hsent, hsent]
  | false =>
    rw [(notifier_notifyAfterCommit_of_fresh hsent).1]
    exact Notifier.sent_send p.notifier c

/-- A job answers if the call of the notifier does and the user has a name. -/
lemma Plan.reply_eq_ok_iff {plan : Plan} {user : User} {n : Notifier} {c : Context}
    {answer : String} : plan.reply user n c = .ok answer ↔
      (∃ told, (n.send c).answer = .ok told) ∧ (∃ name, user.name = .ok name) ∧
        plan.answer = answer := by
  unfold Plan.reply
  cases (n.send c).answer with
  | error e => exact iff_of_false nofun fun ⟨⟨_, htold⟩, _⟩ => nomatch htold
  | ok told =>
    cases user.name with
    | error e => exact iff_of_false nofun fun ⟨_, ⟨_, hname⟩, _⟩ => nomatch hname
    | ok name => exact ⟨fun h => ⟨⟨_, rfl⟩, ⟨_, rfl⟩, Except.ok.inj h⟩, fun h => congrArg _ h.2.2⟩

/-- A call answers if the notifier has been used, or if somebody can try to connect and the version
can be sent. -/
lemma Notifier.exists_answer {n : Notifier} {c : Context}
    (h : n.sent = true ∨
      isAscii n.version.shown = true ∧ c.misuse? n.host n.port n.timeout = none) :
    ∃ told, (n.send c).answer = .ok told := by
  rcases h with hsent | ⟨hversion, hconnects⟩
  · exact ⟨n.result, by rw [send_of_sent hsent]⟩
  · cases hanswer : (n.send c).answer with
    | error e =>
      obtain ⟨-, ⟨misuse, hmisuse, -⟩ | ⟨-, hunsendable⟩⟩ := answer_send_eq_error hanswer
      · rw [reached_eq_error_iff, hconnects] at hmisuse
        cases hmisuse
      · rw [hunsendable] at hversion
        cases hversion
    | ok told => exact ⟨told, rfl⟩

/-- A plan that has been carried out has used the notifier. -/
lemma sent_of_run_carryOut {plan : Plan} {user : User} {c : Context} {p q : Panel}
    {answer : String} (hrun : run (plan.carryOut user) c p = (.ok answer, q)) :
    q.notifier.sent = true := by
  rw [run_carryOut, run_scheduledChange] at hrun
  cases hcommit : commitBlock c p.store (announced (.text plan.action) plan.block) with
  | error e =>
    rw [hcommit] at hrun
    cases hrun
  | ok done =>
    have hsent := Outbox.sent_notifyAfterCommit c { p with store := done.2 }
    rw [hcommit] at hrun
    rcases hnotify : run Outbox.notifyAfterCommit c { p with store := done.2 } with ⟨e | told, q'⟩
    · simp only [hnotify] at hrun
      cases hrun
    · rw [hnotify] at hsent
      simp only [hnotify] at hrun
      cases hname : user.name with
      | error e =>
        rw [hname] at hrun
        cases hrun
      | ok name =>
        rw [hname] at hrun
        cases hrun
        exact hsent

/-- A job that succeeds has run its block, added an entry and used the notifier. -/
lemma run_job_eq_ok {user : User} {job : Job} {c : Context} {p q : Panel} {answer : String}
    (hrun : run (job.run user) c p = (.ok answer, q)) :
    ∃ plan changed id, job.plan user c p.store = .ok plan ∧
      plan.block c p.store = .ok ((), changed) ∧ changed.nextKey? .outbox = some id ∧
      plan.reply user p.notifier c = .ok answer ∧
      Outbox.OnlyDispatches (Outbox.append changed id c.now (Outbox.shortened plan.action))
        q.store ∧ q.notifier.sent = true := by
  cases hplan : job.plan user c p.store with
  | error e =>
    rw [run_job, hplan] at hrun
    cases hrun
  | ok plan =>
    have hcarried : run (plan.carryOut user) c p = (.ok answer, q) := by
      rw [← hrun, run_job]
      simp only [hplan]
    cases hcommit : commitBlock c p.store (announced (.text plan.action) plan.block) with
    | error e =>
      rw [run_carryOut, run_scheduledChange, hcommit] at hcarried
      cases hcarried
    | ok done =>
      obtain ⟨hresult, hmarks⟩ := run_job_of_commit hplan hcommit
      rw [hrun] at hresult hmarks
      obtain ⟨changed, id, hblock, hkey, hcommitted⟩ :=
        announced_eq_ok (commitBlock_eq_ok hcommit)
      rw [hcommitted] at hmarks
      exact ⟨plan, changed, id, rfl, hblock, hkey, hresult.symm, hmarks,
        sent_of_run_carryOut hcarried⟩

lemma FaultFree.of_block {user : User} {job : Job} {c c' : Context} {s s' changed : Store}
    {plan : Plan} (h : FaultFree c s) (hplan : job.plan user c' s' = .ok plan)
    (hblock : plan.block c s = .ok ((), changed)) : FaultFree c changed := by
  obtain ⟨sts, -, rfl⟩ := Job.block_only hplan hblock
  exact h.applyAll sts

/-- A job that has succeeded without faults can be run again, and changes nothing but the outbox, if
what it has planned repeats.  The daemon may behave in another way the second time. -/
lemma run_job_again {user : User} {job : Job} {c : Context} {p q : Panel} {answer : String}
    (hfree : FaultFreeFor 2 c p.store) (hrun : run (job.run user) c p = (.ok answer, q))
    (hrepeats : ∀ plan changed, job.plan user c p.store = .ok plan →
      plan.block c p.store = .ok ((), changed) → job.Repeats user c plan changed)
    {n : Notifier}
    (hn : n = q.notifier ∨
      isAscii n.version.shown = true ∧ c.misuse? n.host n.port n.timeout = none)
    (peer : Peer) :
    ∃ q', run (job.run user) { c with peer := peer } { q with notifier := n } = (.ok answer, q') ∧
      q.store.SameTables q'.store := by
  obtain ⟨plan, changed, id, hplan, hblock, hkey, hreply, hmarks, hsent⟩ := run_job_eq_ok hrun
  have hspares : plan.block.Spares .outbox := Job.block_spares_outbox hplan
  have hfree' : FaultFree c q.store :=
    ⟨hfree.faults, hmarks.missing.trans (hfree.of_block hplan hblock).missing⟩
  have htables : changed.SameTables q.store := fun t ht =>
    (hmarks.rows t ht).trans (Store.rows_set_of_ne _ _ (Ne.symm ht))
  obtain ⟨hplan', again, hblock', hsame⟩ :=
    hrepeats plan changed hplan hblock q.store hfree' htables
  have hnext : q.store.nextKey? .outbox = some (id + 1) := by
    have hbefore : p.store.nextKey? .outbox = some id :=
      (hspares.nextKey?_eq hblock).symm.trans hkey
    rw [hmarks.nextKey?_eq, Outbox.nextKey?_append hkey,
      if_pos (Outbox.nextKey?_lt_of_hasKeys hfree.keys hbefore)]
  have hcommit : commitBlock c q.store (announced (.text plan.action) plan.block) =
      .ok ((), Outbox.append again (id + 1) c.now (Outbox.shortened plan.action)) := by
    have hmissing : ∀ s', plan.block c q.store = .ok ((), s') → s'.missing = [] :=
      fun s' hs' => (hfree'.of_block hplan' hs').missing
    rw [hfree'.commitBlock_eq, hfree'.announced_eq plan.action hspares hmissing, hblock', hnext]
  have halike : c.Alike { c with peer := peer } := ⟨rfl, rfl, rfl, rfl⟩
  obtain ⟨hresult, hmarks'⟩ := run_job_of_commit
    (c := { c with peer := peer }) (p := { q with notifier := n })
    ((Job.plan_steady user job halike q.store).trans hplan')
    (((Job.block_steady hplan).announced _ |>.commitBlock_eq halike q.store).trans hcommit)
  refine ⟨_, Prod.ext (hresult.trans ?_) rfl, fun t ht => ?_⟩
  · obtain ⟨-, hname, hanswer⟩ := Plan.reply_eq_ok_iff.1 hreply
    have hready : n.sent = true ∨
        isAscii n.version.shown = true ∧ c.misuse? n.host n.port n.timeout = none :=
      hn.imp_left fun hsame => by rw [hsame, hsent]
    exact Plan.reply_eq_ok_iff.2 ⟨Notifier.exists_answer hready, hname, hanswer⟩
  · exact (hmarks'.rows t ht).trans ((Store.rows_set_of_ne _ _ (Ne.symm ht)).trans (hsame t ht))

/-! ### Deletions of web space -/

/-- A deletion of web space repeats: its cascade has nothing left to do. -/
lemma Job.repeats_of_isWebDeletion {user : User} {job : Job} {c : Context} {s changed : Store}
    {plan : Plan} (hweb : job.isWebDeletion = true) (hfree : FaultFree c s)
    (hunique : s.UniqueGroupNames)
    (hhosts : ∀ host ∈ job.searchedHost? user s, (FtpGroups.holding host s).length ≤ 1)
    (hplan : job.plan user c s = .ok plan) (hblock : plan.block c s = .ok ((), changed)) :
    job.Repeats user c plan changed := by
  obtain ⟨r, hsettles, hchoice⟩ := Job.block_settles hweb hfree hunique hhosts hplan
  cases r with
  | error e =>
    rw [hsettles hfree] at hblock
    cases hblock
  | ok x =>
    rw [hsettles hfree] at hblock
    cases hblock
    intro s' hfree' htables
    have hsites : s.SameSites s' := (x.effect_sameSites s).trans (.of_sameTables htables)
    refine ⟨(Job.plan_congr hweb hfree hfree' hsites).trans hplan, _, hsettles hfree', ?_⟩
    have hagain := x.effect_sameTables htables
    rw [x.effect_self (hchoice x rfl)] at hagain
    exact fun t ht => (hagain t ht).trans (htables t ht).symm

/-! ### Deletions of customers and of mail accounts -/

/-- The deletion of a customer repeats: the estate has been settled. -/
lemma Job.repeats_deleteCustomer {user : User} {id : Json} {c : Context} {s changed : Store}
    {plan : Plan} (hfree : FaultFree c s) (hplan : Jobs.planCustomer user id c s = .ok plan)
    (hblock : plan.block c s = .ok ((), changed)) :
    (Job.deleteCustomer id).Repeats user c plan changed := by
  obtain ⟨account, domain, -, rfl⟩ := Jobs.planCustomer_eq_ok hplan
  obtain ⟨e, rfl, rfl, rfl⟩ :
      ∃ e : Estate, e.id = id ∧ e.account = account ∧ e.domain = domain :=
    ⟨⟨id, account, domain⟩, rfl, rfl, rfl⟩
  intro s' hfree' htables
  have hsettled : e.IsSettled s s' := by
    intro t ht
    rw [htables t ht, TransactionM.executeAll_eq_ok hblock]
    exact Estate.rows_customerStatements t
  have hagain := hfree'.executeAll_eq (Jobs.customerStatements e.id e.account.name e.domain.id)
  rw [hfree.bindFailure?_eq_none hblock] at hagain
  refine ⟨(hsettled.planCustomer_eq hfree hfree').trans hplan, _, hagain, fun t ht => ?_⟩
  rw [Estate.rows_customerStatements, hsettled.settle_eq_self ht]

/-- The deletion of a mail account repeats: the address has left the lists. -/
lemma Job.repeats_deleteMailAccount {user : User} {id : Json} {c : Context} {s changed : Store}
    {plan : Plan} (hfree : FaultFree c s) (hkeyed : Table.Keyed .mail (s.rows .mail))
    (hmark : ∀ m : Mailbox, m ∈ s.rows .mail → Jobs.MarkStandsAlone m)
    (hplan : Jobs.planMailAccount user id c s = .ok plan)
    (hblock : plan.block c s = .ok ((), changed)) :
    (Job.deleteMailAccount id).Repeats user c plan changed := by
  obtain ⟨customer, domain, m, -, -, hfound, rfl⟩ := Jobs.planMailAccount_eq_ok hplan
  have hpicked := List.find?_some hfound
  simp only [Bool.and_eq_true] at hpicked
  intro s' hfree' htables
  have hleft : Jobs.MailLeft id m.address s s' :=
    (Jobs.mailLeft_of_mailBlock hkeyed.nodup_id hpicked.1 hblock).of_sameTables htables
  obtain ⟨again, hagain⟩ : ∃ again, Jobs.mailBlock id m.address c s' = .ok ((), again) := by
    obtain ⟨hid, hsearch, hdetach⟩ := (Jobs.mailBlock_isOk_iff hfree).1 ⟨_, hblock⟩
    refine (Jobs.mailBlock_isOk_iff hfree').2 ⟨hid, hsearch, ?_⟩
    rw [Statement.bindFailure?_eq_none_iff] at hdetach ⊢
    exact fun st hst => hdetach st (hleft.mem_detach hpicked.1 hmark hst)
  have hids := hleft.ids_eq ▸ hkeyed.nodup_id
  exact ⟨(hleft.planMailAccount_eq hfree hfree').trans hplan, again, hagain,
    hleft.sameTables (Jobs.mailLeft_of_mailBlock hids hpicked.1 hagain) hmark⟩

/-- Deletions are idempotent.  Take any database without faults in which the names of the groups of
FTP accounts are unique, no two mail accounts have the same key, and in no list the mark of a
catch-all stands among other entries.  Let a subdomain, a subdomain of an alias, an alias, a
customer or a mail account be deleted with success, such that no more than one group holds accounts
of the host by which the deletion looks for a group.  The same deletion made once more gives the
same answer and leaves all tables but the outbox as the first one has left them.  That is so whatever the
daemon does the second time, with the notifier as it is then, or with any other one that can send its
version and try to connect. -/
theorem deletions_idempotent {user : User} {job : Job} {c : Context} {p q : Panel}
    {answer : String} (hjob : job.isWebDeletion = true ∨ job.purgesLogs = true)
    (hfree : FaultFreeFor 2 c p.store) (hunique : p.store.UniqueGroupNames)
    (hhosts : ∀ host ∈ job.searchedHost? user p.store,
      (FtpGroups.holding host p.store).length ≤ 1)
    (hkeyed : Table.Keyed .mail (p.store.rows .mail))
    (hmark : ∀ m : Mailbox, m ∈ p.store.rows .mail → "_no_" ∈ Text.items m.forward →
      ∀ e ∈ Text.items m.forward, e = "_no_")
    (hrun : run (job.run user) c p = (.ok answer, q)) (peer : Peer) (n : Notifier)
    (hn : n = q.notifier ∨
      isAscii n.version.shown = true ∧ c.misuse? n.host n.port n.timeout = none) :
    ∃ q', run (job.run user) { c with peer := peer } { q with notifier := n } = (.ok answer, q') ∧
      ∀ t, t ≠ .outbox → q'.store.rows t = q.store.rows t := by
  refine run_job_again hfree hrun (fun plan changed hplan hblock => ?_) hn peer
  rcases hjob with hweb | hpurges
  · exact Job.repeats_of_isWebDeletion hweb hfree.toFaultFree hunique hhosts hplan hblock
  · cases job with
    | deleteCustomer id => exact Job.repeats_deleteCustomer hfree.toFaultFree hplan hblock
    | deleteMailAccount id =>
      exact Job.repeats_deleteMailAccount hfree.toFaultFree hkeyed hmark hplan hblock
    | _ => cases hpurges

/-- The customer deletes the mail account twice.  The forward that lists nothing else keeps its list
and is scheduled for deletion both times. -/
theorem deletions_idempotent_sample :
    run (Job.run sampleCustomer (.deleteMailAccount (.int 5))) {}
        (sampleMail "anna@example.test" "ok") =
        (.ok "Mail account successfully scheduled for deletion.",
          sampleMailLeft "anna@example.test" "ok") ∧
      ∃ q, run (Job.run sampleCustomer (.deleteMailAccount (.int 5)))
          { peer := .refusing "Connection refused" } (sampleMailLeft "anna@example.test" "ok") =
          (.ok "Mail account successfully scheduled for deletion.", q) ∧
        q.store.rows .mail =
          [sampleMailbox "todelete", sampleForward "anna@example.test" "todelete"] := by
  have hrun : run (Job.run sampleCustomer (.deleteMailAccount (.int 5))) {}
      (sampleMail "anna@example.test" "ok") =
      (.ok "Mail account successfully scheduled for deletion.",
        sampleMailLeft "anna@example.test" "ok") :=
    Prod.ext rfl rfl
  have hmark : ∀ m : Mailbox, m ∈ (sampleMail "anna@example.test" "ok").store.rows .mail →
      "_no_" ∈ Text.items m.forward → ∀ e ∈ Text.items m.forward, e = "_no_" := by
    decide +kernel
  have hfirst : (sampleMailLeft "anna@example.test" "ok").store.rows .mail =
      [sampleMailbox "todelete", sampleForward "anna@example.test" "todelete"] := by
    decide +kernel
  have hunique : (sampleMail "anna@example.test" "ok").store.UniqueGroupNames :=
    List.Pairwise.nil
  have hhosts : (Job.deleteMailAccount (.int 5)).searchedHost? sampleCustomer
      (sampleMail "anna@example.test" "ok").store = none :=
    rfl
  obtain ⟨q, hagain, htables⟩ := deletions_idempotent (.inr rfl) ⟨⟨rfl, rfl⟩, 1, rfl, by decide⟩
    hunique (by simp [hhosts]) (keyed_sampleMail _ _) hmark hrun (.refusing "Connection refused") _
    (.inl rfl)
  exact ⟨hrun, q, hagain, (htables .mail (by decide)).trans hfirst⟩

end HostingPanel
