import HostingPanel.Proofs.Ledger
import HostingPanel.Proofs.Quiet

/-!
# One exchange per notifier

A notifier is shared by everything that happens in one request: jobs, other scheduled changes,
announcements, requests by hand.  It is used up by its first call, whatever comes of that call, and
three parts of the panel look at it.  `Panel.Spends` says what may become of the notifier, and of
the contacts with the daemon, between two states of one panel: a notifier that has been used stays
as it is and contacts nobody, one that has not been used has contacted nobody, and in all there is
at most one contact.  The relation is transitive, and every operation that has no notifier of its
own keeps to it (`OperationM.Spends`), so it holds of runs of any length.

What a used notifier cannot do any more is mark entries: what comes after its use does nothing to
the database but commit its own transactions (`NotifierUse.store_after_of_sent`).
-/

namespace HostingPanel

/-- What may become of the notifier of a panel and of its contacts with the daemon. -/
structure Panel.Spends (p q : Panel) : Prop where
  /-- A notifier that has been used stays as it is, and contacts nobody. -/
  used : p.notifier.sent = true → q.notifier = p.notifier ∧ q.contacts = p.contacts
  /-- A notifier that has not been used is as it was, and has contacted nobody. -/
  fresh : q.notifier.sent = false → q.notifier = p.notifier ∧ q.contacts = p.contacts
  /-- There is at most one more contact, and none if the daemon does not wait to be told. -/
  contacts : ∃ contact : Option Contact, q.contacts = p.contacts ++ contact.toList ∧
    (p.notifier.daemonType.isText listeningType = false → contact = none)
  daemonType : q.notifier.daemonType = p.notifier.daemonType

namespace Panel.Spends

variable {p q r : Panel}

lemma of_same (hnotifier : q.notifier = p.notifier) (hcontacts : q.contacts = p.contacts) :
    p.Spends q where
  used _ := ⟨hnotifier, hcontacts⟩
  fresh _ := ⟨hnotifier, hcontacts⟩
  contacts := ⟨none, by rw [hcontacts]; simp, fun _ => rfl⟩
  daemonType := by rw [hnotifier]

lemma refl (p : Panel) : p.Spends p :=
  .of_same rfl rfl

/-- What may happen in two steps may happen in one: if the first one has used the notifier, the
second one does nothing with it, and else the first one has done nothing with it. -/
lemma trans (h : p.Spends q) (h' : q.Spends r) : p.Spends r := by
  refine ⟨?_, ?_, ?_, h'.daemonType.trans h.daemonType⟩
  · intro hsent
    obtain ⟨hnotifier, hcontacts⟩ := h.used hsent
    obtain ⟨hnotifier', hcontacts'⟩ := h'.used (by rw [hnotifier, hsent])
    exact ⟨hnotifier'.trans hnotifier, hcontacts'.trans hcontacts⟩
  · intro hfresh
    obtain ⟨hnotifier', hcontacts'⟩ := h'.fresh hfresh
    obtain ⟨hnotifier, hcontacts⟩ := h.fresh (by rw [← hnotifier', hfresh])
    exact ⟨hnotifier'.trans hnotifier, hcontacts'.trans hcontacts⟩
  · cases hsent : q.notifier.sent with
    | true =>
      rw [(h'.used hsent).2]
      exact h.contacts
    | false =>
      obtain ⟨hnotifier, hcontacts⟩ := h.fresh hsent
      rw [← hnotifier, ← hcontacts]
      exact h'.contacts

end Panel.Spends

namespace Notifier

/-- A call does not change the flavour of the daemon. -/
lemma daemonType_send (n : Notifier) (c : Context) :
    (n.send c).notifier.daemonType = n.daemonType := by
  unfold send
  split
  · rfl
  · split
    · rfl
    · simp only
      split <;> rfl

/-- A daemon that does not wait to be told is not contacted. -/
lemma contact_send_eq_none {n : Notifier} (htype : n.daemonType.isText listeningType = false)
    (c : Context) : (n.send c).contact = none := by
  unfold send
  split
  · rfl
  · simp [htype]

end Notifier

namespace OperationM

variable {α β : Type}

/-- An operation that uses no notifier but that of the panel. -/
def Spends (op : OperationM α) : Prop :=
  ∀ (c : Context) (p : Panel), p.Spends (run op c p).2

namespace Spends

lemma pure (a : α) : Spends (Pure.pure a : OperationM α) :=
  fun _ p => .refl p

lemma throw (e : Failure) : Spends (MonadExcept.throw e : OperationM α) :=
  fun _ p => .refl p

lemma of_quiet {op : OperationM α} (hop : Quiet op) : Spends op :=
  fun c p => .of_same (hop c p).notifier (hop c p).contacts

lemma log (level : Level) (source : Source) (text : String) :
    Spends (OperationM.log level source text) :=
  .of_quiet (Quiet.log level source text)

/-- A statement on a connection of its own uses no notifier. -/
lemma executeNow (st : Statement) : Spends (OperationM.executeNow st) := by
  intro c p
  rw [run, OperationM.executeNow]
  cases executeOnce c p.store st <;> exact .of_same rfl rfl

lemma transaction (body : TransactionM α) : Spends (OperationM.transaction body) := by
  intro c p
  rw [run_transaction]
  cases commitBlock c p.store body <;> exact .of_same rfl rfl

lemma bind {op : OperationM α} {f : α → OperationM β} (hop : Spends op) (hf : ∀ a, Spends (f a)) :
    Spends (op >>= f) := by
  intro c p
  have hfirst := hop c p
  rw [run_bind]
  rcases hrun : run op c p with ⟨e | a, q⟩
  · rw [hrun] at hfirst
    exact hfirst
  · rw [hrun] at hfirst
    exact hfirst.trans (hf a c q)

lemma map {op : OperationM α} (f : α → β) (hop : Spends op) : Spends (f <$> op) :=
  hop.bind fun a => Spends.pure (f a)

lemma discard {op : OperationM α} (hop : Spends op) : Spends (Functor.discard op) :=
  hop.map _

lemma attempt {op : OperationM α} (hop : Spends op) : Spends (OperationM.attempt op) :=
  fun c p => hop c p

/-- Telling the daemon through the notifier of the panel: the first call uses it up, and talks to
the daemon if it waits to be told. -/
lemma sendRequest : Spends OperationM.sendRequest := by
  intro c p
  rw [run_sendRequest]
  cases hsent : p.notifier.sent with
  | true =>
    rw [Notifier.send_of_sent hsent]
    exact .of_same rfl (List.append_nil _)
  | false =>
    refine ⟨?_, ?_, ⟨_, rfl, ?_⟩, Notifier.daemonType_send p.notifier c⟩
    · intro hused
      rw [hsent] at hused
      cases hused
    · intro hunused
      rw [Notifier.sent_send] at hunused
      cases hunused
    · exact fun htype => Notifier.contact_send_eq_none htype c

/-! ### Announcements and scheduled changes -/

lemma markTold (latest : Option Int) : Spends (Outbox.markTold latest) := by
  cases latest with
  | none => exact Spends.pure _
  | some id =>
    refine (of_quiet Quiet.read).bind fun c => (Spends.executeNow _).attempt.bind fun marked => ?_
    cases marked with
    | ok count => exact Spends.pure _
    | error e => exact (Spends.log _ _ _).bind fun _ => Spends.pure _

lemma during {op : OperationM α} (phase : Phase) (hop : Spends op) :
    Spends (OperationM.during phase op) :=
  fun c p => hop (c.during phase) p

/-- The announcement after a change begins without a notifier. -/
lemma inquire_afterCommit : Spends Outbox.afterCommit.inquire := by
  refine (of_quiet Quiet.get).bind fun p => ?_
  simp only
  split
  · exact Spends.pure _
  · exact (of_quiet Quiet.readLatest).bind fun latest => Spends.pure _

lemma tell_afterCommit : Spends Outbox.afterCommit.tell := by
  refine sendRequest.bind fun told => ?_
  split
  · exact Spends.pure _
  · exact (Spends.log _ _ _).bind fun _ => Spends.pure _

lemma notifyAfterCommit : Spends Outbox.notifyAfterCommit := by
  refine (during .inquiry inquire_afterCommit).bind fun found => ?_
  rcases found with answer | latest
  · exact Spends.pure _
  · refine tell_afterCommit.bind fun told => ?_
    rcases told with _ | answer
    · exact during .marking (markTold latest)
    · exact Spends.pure _

lemma scheduledChange (action failureMessage : Json) (body : TransactionM α) :
    Spends (HostingPanel.scheduledChange action failureMessage body) := by
  refine (Spends.transaction _).attempt.bind fun committed => ?_
  cases committed with
  | ok a => exact notifyAfterCommit.discard.bind fun _ => Spends.pure a
  | error e =>
    simp only
    split
    · exact Spends.throw e
    · exact (Spends.log _ _ _).bind fun _ => Spends.throw _

lemma schedule (user : User) (planning : LookupM Plan) : Spends (Jobs.schedule user planning) := by
  refine (of_quiet (Quiet.lookup planning)).bind fun plan => ?_
  refine (scheduledChange _ _ _).bind fun _ => ?_
  refine (of_quiet (Quiet.lift user.name)).bind fun name => ?_
  exact (Spends.log _ _ _).bind fun _ => Spends.pure plan.answer

lemma job (user : User) (task : Job) : Spends (task.run user) := by
  rw [Job.run_eq_schedule]
  exact schedule user (task.plan user)

/-- A request by hand uses the notifier of the panel, if something waits. -/
lemma runPending : Spends Debugger.runPending := by
  refine (of_quiet Quiet.countPending).bind fun count => ?_
  split
  · exact Spends.pure _
  · refine notifyAfterCommit.bind fun told => ?_
    split <;> exact Spends.pure _

/-! ### Requests -/

lemma requeue (type id : Json) : Spends (Debugger.requeue type id) := by
  refine (of_quiet (Quiet.lift _)).bind fun t => (Spends.transaction _).bind fun _ => ?_
  exact (Spends.log _ _ _).bind fun _ => Spends.pure _

lemma withCustomer (user : User) (id : Json) {act : OperationM Response} (hact : Spends act) :
    Spends (Api.withCustomer user id act) := by
  refine (of_quiet (Quiet.canManage user id)).bind fun managed => ?_
  split
  · exact hact
  · exact Spends.pure _

/-- Suspending or resuming a customer over HTTP uses the notifier of the panel. -/
lemma changeStatus (r : Request) (user : User) (id : Json) :
    Spends (Api.changeStatus r user id) := by
  unfold Api.changeStatus
  cases r.fields with
  | error response => exact Spends.pure response
  | ok fields =>
    simp only
    split
    · exact Spends.pure _
    · refine withCustomer user id ?_
      exact (job user (.changeCustomerStatus id _)).bind fun _ => Spends.pure _

/-- An endpoint for users uses the notifier of the panel. -/
lemma serveGuarded (r : Request) (user : User) (e : GuardedEndpoint) :
    Spends (Api.serveGuarded r user e) := by
  have hjob (task : Job) : Spends (do return Response.done (← task.run user)) :=
    (job user task).bind fun _ => Spends.pure _
  cases e with
  | identity => exact Spends.pure _
  | subdomain id => exact hjob (.deleteSubdomain (.int id))
  | aliasSubdomain id => exact hjob (.deleteAliasSubdomain (.int id))
  | domainAlias id => exact hjob (.deleteDomainAlias (.int id))
  | mailAccount id => exact hjob (.deleteMailAccount (.int id))
  | ftpAccount name => exact hjob (.deleteFtpAccount (.text name))
  | dnsRecord id => exact hjob (.deleteDnsRecord (.int id))
  | protectedArea id => exact hjob (.deleteProtectedArea (.int id))
  | certificate type ownerId id =>
    exact hjob (.deleteCertificate (.text type) (.int ownerId) (.int id))
  | backupRestore => exact hjob .scheduleBackupRestore
  | customer id => exact withCustomer user _ (hjob (.deleteCustomer (.int id)))
  | customerStatus id => exact changeStatus r user _
  | overview => exact .of_quiet Quiet.overview
  | pendingRun =>
    refine runPending.bind fun told => ?_
    simp only
    split <;> exact Spends.pure _
  | requeue type id => exact (requeue _ _).bind fun _ => Spends.pure _

/-- The answer to a request uses the notifier of the panel. -/
lemma answer (r : Request) : Spends (Api.answer r) := by
  unfold Api.answer
  cases r.destination with
  | notFound => exact Spends.pure _
  | methodNotAllowed => exact Spends.pure _
  | elsewhere => exact Spends.pure _
  | endpoint e =>
    simp only
    split
    · exact Spends.pure _
    · cases e with
      | unguarded e => exact .of_quiet (Quiet.serveOpen r e)
      | guarded e =>
        refine (of_quiet Quiet.read).bind fun c => ?_
        cases Guard.enter c r e with
        | error response => exact Spends.pure response
        | ok user => exact serveGuarded r user e

end Spends

end OperationM

/-! ### Uses of one notifier -/

open OperationM

/-- What a notifier can be used for. -/
inductive NotifierUse where
  | send
  | notify
  | job (user : User) (task : Job)
  | change (action failureMessage : Json) (body : TransactionM Unit)
  | runPending

namespace NotifierUse

/-- The state that a use leaves, whatever comes of it. -/
def after (c : Context) (p : Panel) : NotifierUse → Panel
  | .send => (OperationM.run sendRequest c p).2
  | .notify => (OperationM.run Outbox.notifyAfterCommit c p).2
  | .job user task => (OperationM.run (task.run user) c p).2
  | .change action failureMessage body =>
    (OperationM.run (scheduledChange action failureMessage body) c p).2
  | .runPending => (OperationM.run Debugger.runPending c p).2

/-- The state after some uses of the notifier of a panel, each in surroundings of its own. -/
def run (uses : List (Context × NotifierUse)) (p : Panel) : Panel :=
  uses.foldl (fun p use => use.2.after use.1 p) p

/-- The database after a block of statements has been committed, or has failed. -/
def committed (c : Context) (s : Store) (body : TransactionM Unit) : Store :=
  match commitBlock c s body with
  | .ok (_, s') => s'
  | .error _ => s

/-- The database as the transaction of a use leaves it, if it has one. -/
def commit (c : Context) (s : Store) : NotifierUse → Store
  | .job user task =>
    match task.plan user c s with
    | .ok plan => committed c s (announced (.text plan.action) plan.block)
    | .error _ => s
  | .change action _ body => committed c s (announced action body)
  | _ => s

/-- The database as the transactions of some uses leave it. -/
def commits (uses : List (Context × NotifierUse)) (s : Store) : Store :=
  uses.foldl (fun s use => use.2.commit use.1 s) s

/-- A use whose own statements leave the outbox alone.  Those of a job always do. -/
def SparesOutbox : NotifierUse → Prop
  | .change _ _ body => body.Spares .outbox
  | _ => True

/-! ### At most one contact -/

lemma spends_after (use : NotifierUse) (c : Context) (p : Panel) : p.Spends (use.after c p) := by
  cases use with
  | send => exact Spends.sendRequest c p
  | notify => exact Spends.notifyAfterCommit c p
  | job user task => exact Spends.job user task c p
  | change action failureMessage body => exact Spends.scheduledChange _ _ body c p
  | runPending => exact Spends.runPending c p

lemma spends_run (uses : List (Context × NotifierUse)) (p : Panel) : p.Spends (run uses p) := by
  induction uses generalizing p with
  | nil => exact .refl p
  | cons use uses ih => exact (use.2.spends_after use.1 p).trans (ih _)

/-! ### No marks after the first use -/

/-- After its commit a scheduled change does nothing more to the database, if the notifier has been
used. -/
lemma store_scheduledChange_of_sent {action failureMessage : Json} {body : TransactionM Unit}
    {c : Context} {p : Panel} (hsent : p.notifier.sent = true) :
    (OperationM.run (scheduledChange action failureMessage body) c p).2.store =
      committed c p.store (announced action body) := by
  rw [run_scheduledChange, committed]
  cases commitBlock c p.store (announced action body) with
  | error e => rfl
  | ok done =>
    obtain ⟨_, s⟩ := done
    have hused : ({ p with store := s } : Panel).notifier.sent = true := hsent
    simp only [Outbox.run_notifyAfterCommit_of_sent hused]

/-- With a notifier that has been used, a use does nothing to the database but commit its own
transaction. -/
theorem store_after_of_sent {p : Panel} (hsent : p.notifier.sent = true) (use : NotifierUse)
    (c : Context) : (use.after c p).store = use.commit c p.store := by
  cases use with
  | send =>
    unfold after
    rw [run_sendRequest]
    rfl
  | notify =>
    unfold after
    rw [Outbox.run_notifyAfterCommit_of_sent hsent]
    rfl
  | job user task =>
    simp only [after, commit]
    rw [run_job]
    cases task.plan user c p.store with
    | error e => rfl
    | ok plan =>
      simp only [store_carryOut]
      exact store_scheduledChange_of_sent hsent
  | change action failureMessage body => exact store_scheduledChange_of_sent hsent
  | runPending =>
    unfold after commit
    rcases run_runPending c p with hrun | hrun
    · rw [hrun]
    · rw [hrun, Outbox.run_notifyAfterCommit_of_sent hsent]

lemma store_run_of_sent {p : Panel} (hsent : p.notifier.sent = true)
    (uses : List (Context × NotifierUse)) : (run uses p).store = commits uses p.store := by
  induction uses generalizing p with
  | nil => rfl
  | cons use uses ih =>
    have hused : (use.2.after use.1 p).notifier.sent = true := by
      rw [((use.2.spends_after use.1 p).used hsent).1, hsent]
    have hrest := ih hused
    rw [store_after_of_sent hsent] at hrest
    exact hrest

/-! ### Entries that wait -/

/-- A later outbox has all the entries of an earlier one as they were, and then entries that wait.
-/
def OnlyAdds (s s' : Store) : Prop :=
  ∃ new, s'.rows .outbox = s.rows .outbox ++ new ∧
    ∀ e ∈ new, (e : OutboxEntry).dispatchedAt = none

lemma OnlyAdds.refl (s : Store) : OnlyAdds s s :=
  ⟨[], (List.append_nil _).symm, by simp⟩

lemma OnlyAdds.trans {s₁ s₂ s₃ : Store} (h₁ : OnlyAdds s₁ s₂) (h₂ : OnlyAdds s₂ s₃) :
    OnlyAdds s₁ s₃ := by
  obtain ⟨new, hrows, hwait⟩ := h₁
  obtain ⟨new', hrows', hwait'⟩ := h₂
  refine ⟨new ++ new', by rw [hrows', hrows, List.append_assoc], ?_⟩
  intro e he
  rcases List.mem_append.1 he with he | he
  · exact hwait e he
  · exact hwait' e he

/-- The commit of a block that spares the outbox adds an entry that waits, or nothing. -/
lemma onlyAdds_committed {action : Json} {body : TransactionM Unit} (hspares : body.Spares .outbox)
    (c : Context) (s : Store) : OnlyAdds s (committed c s (announced action body)) := by
  unfold committed
  cases hcommit : commitBlock c s (announced action body) with
  | error e => exact .refl s
  | ok done =>
    obtain ⟨_, s'⟩ := done
    obtain ⟨changed, id, hbody, hentry⟩ := announced_eq_enqueue (commitBlock_eq_ok hcommit)
    obtain ⟨short, -, -, rfl⟩ := Outbox.enqueue_eq_append hentry
    refine ⟨[⟨id, short.shown, Calendar.timestamp c.now, none⟩], ?_, by simp⟩
    rw [← (hspares hbody).1]
    exact Outbox.rows_append changed id c.now short.shown

/-- The transaction of a use that spares the outbox adds an entry that waits, or nothing. -/
lemma onlyAdds_commit {use : NotifierUse} (hspares : use.SparesOutbox) (c : Context) (s : Store) :
    OnlyAdds s (use.commit c s) := by
  cases use with
  | job user task =>
    simp only [commit]
    cases hplan : task.plan user c s with
    | error e => exact .refl s
    | ok plan => exact onlyAdds_committed (Job.block_spares_outbox hplan) c s
  | change action failureMessage body => exact onlyAdds_committed hspares c s
  | send => exact .refl s
  | notify => exact .refl s
  | runPending => exact .refl s

/-- The transactions of uses that spare the outbox add entries that wait. -/
lemma onlyAdds_commits {uses : List (Context × NotifierUse)}
    (hspares : ∀ use ∈ uses, use.2.SparesOutbox) (s : Store) : OnlyAdds s (commits uses s) := by
  induction uses generalizing s with
  | nil => exact .refl s
  | cons use uses ih =>
    obtain ⟨hfirst, hrest⟩ := List.forall_mem_cons.1 hspares
    exact (onlyAdds_commit hfirst use.1 s).trans (ih hrest _)

end NotifierUse

/-! ### The law -/

/-- A request has a notifier of its own, and with it at most one contact. -/
lemma contacts_handle (r : Request) (c : Context) (p : Panel) :
    ∃ contact : Option Contact,
      (run (Api.handle r) c p).2.contacts = p.contacts ++ contact.toList ∧
        (c.settings.daemonType.isText listeningType = false → contact = none) := by
  rw [Api.state_handle]
  exact (Spends.answer r c { p with notifier := Notifier.create c.settings }).contacts

/-- A notifier talks to the daemon at most once.  Take any uses of the notifier of a panel, one
after the other: calls of its own, announcements, jobs, other scheduled changes, requests by hand,
each with any faults and any behaviour of the daemon, and whatever comes of them.  In all there is
at most one attempt to connect, and none if the daemon does not wait to be told; so it is with every
request over HTTP, which has a notifier of its own.  A call uses the notifier up.  From the moment
it is used up it stays as it is, with its result, and contacts nobody; every later call answers with
that result and does nothing else; and the later uses do nothing to the database but commit their
own transactions, so of the outbox they leave every entry as it is and add entries that wait. -/
theorem notifier_exchanges_once (before later : List (Context × NotifierUse)) (p : Panel) :
    (∃ contact : Option Contact,
      (NotifierUse.run (before ++ later) p).contacts = p.contacts ++ contact.toList ∧
        (p.notifier.daemonType.isText listeningType = false → contact = none)) ∧
      (∀ (r : Request) (c : Context), ∃ contact : Option Contact,
        (run (Api.handle r) c p).2.contacts = p.contacts ++ contact.toList ∧
          (c.settings.daemonType.isText listeningType = false → contact = none)) ∧
      (∀ c, (run sendRequest c (NotifierUse.run before p)).2.notifier.sent = true) ∧
      ((NotifierUse.run before p).notifier.sent = true →
        (NotifierUse.run (before ++ later) p).notifier = (NotifierUse.run before p).notifier ∧
        (NotifierUse.run (before ++ later) p).contacts = (NotifierUse.run before p).contacts ∧
        (∀ c, run sendRequest c (NotifierUse.run (before ++ later) p) =
          (.ok (NotifierUse.run before p).notifier.result,
            NotifierUse.run (before ++ later) p)) ∧
        (NotifierUse.run (before ++ later) p).store =
          NotifierUse.commits later (NotifierUse.run before p).store ∧
        ((∀ use ∈ later, use.2.SparesOutbox) →
          NotifierUse.OnlyAdds (NotifierUse.run before p).store
            (NotifierUse.run (before ++ later) p).store)) := by
  have hsplit : NotifierUse.run (before ++ later) p =
      NotifierUse.run later (NotifierUse.run before p) := by
    simp only [NotifierUse.run, List.foldl_append]
  refine ⟨(NotifierUse.spends_run (before ++ later) p).contacts, fun r c => contacts_handle r c p,
    fun c => ?_, fun hsent => ?_⟩
  · rw [run_sendRequest]
    exact Notifier.sent_send _ c
  · rw [hsplit]
    obtain ⟨hnotifier, hcontacts⟩ :=
      (NotifierUse.spends_run later (NotifierUse.run before p)).used hsent
    have hstore := NotifierUse.store_run_of_sent hsent later
    refine ⟨hnotifier, hcontacts, fun c => ?_, hstore, fun hspares => ?_⟩
    · have hused : (NotifierUse.run later (NotifierUse.run before p)).notifier.sent = true := by
        rw [hnotifier, hsent]
      rw [run_sendRequest, Notifier.send_of_sent hused, ← hnotifier]
      simp only [troubleRecords, Option.map_none, Option.toList_none, List.append_nil]
    · rw [hstore]
      exact NotifierUse.onlyAdds_commits hspares (NotifierUse.run before p).store

/-- A call of the notifier, which finds a daemon that refuses to be connected to. -/
def sampleRefusal : List (Context × NotifierUse) :=
  [({ peer := .refusing "Connection refused" }, .send)]

/-- The deletion of a DNS record, which finds a daemon that is willing. -/
def sampleDeletion : List (Context × NotifierUse) :=
  [({}, .job (sampleUser ["user_id", "username"]) (.deleteDnsRecord (.int 5)))]

/-- The daemon refuses the first call on the sample panel.  The job that comes next does not tell
the daemon, which is willing by then, and its entry waits; a call after that still answers that the
daemon could not be told. -/
theorem notifier_exchanges_once_sample :
    (NotifierUse.run sampleRefusal samplePanel).notifier.sent = true ∧
      (NotifierUse.run (sampleRefusal ++ sampleDeletion) samplePanel).contacts.length = 1 ∧
      (∀ c, (run sendRequest c
        (NotifierUse.run (sampleRefusal ++ sampleDeletion) samplePanel)).1 = .ok (some false)) ∧
      ((NotifierUse.run (sampleRefusal ++ sampleDeletion) samplePanel).store.rows .outbox).map
          (fun (e : OutboxEntry) => (e.reason, e.dispatchedAt)) =
        [("delete custom DNS record 5", none)] := by
  have hsent : (NotifierUse.run sampleRefusal samplePanel).notifier.sent = true := by decide
  obtain ⟨-, -, -, hlater⟩ := notifier_exchanges_once sampleRefusal sampleDeletion samplePanel
  obtain ⟨-, hcontacts, hanswer, hstore, -⟩ := hlater hsent
  refine ⟨hsent, ?_, fun c => ?_, ?_⟩
  · rw [hcontacts]
    decide
  · rw [hanswer c]
    rfl
  · rw [hstore]
    decide +kernel

end HostingPanel
