import HostingPanel.Proofs.Atomicity
import HostingPanel.Proofs.Ledger

/-!
# Jobs do not depend on the daemon

After its commit a job tells the daemon, and around that it reads the outbox and marks entries.
None of this can change what the job answers, and of the database it can change only the marks.

Two surroundings are alike if they differ in the daemon and in faults of that bookkeeping only
(`Context.Alike`).  What is steady does the same in alike surroundings: a question or a statement
that is not about the outbox (`Footprint.obstacle?_eq`), everything that is put together from such
questions and statements (`LookupM.Steady`, `TransactionM.Steady`), and so the commit of every job.
The announcement is not steady, but it only marks entries, and the one failure that escapes from it
depends on the notifier and the network alone.
-/

namespace HostingPanel

open OperationM

/-! ### Alike surroundings -/

/-- Whether a fault is one of the bookkeeping around an announcement: the outbox cannot be read, or
its entries cannot be marked. -/
def Fault.isBookkeeping (f : Fault) : Bool :=
  (f.verb == .select || f.verb == .update) && f.table == some Table.outbox.name

namespace Context

/-- Two surroundings that differ at most in the behaviour of the daemon, in faults of the
bookkeeping, and in faults that come while it is done. -/
structure Alike (c c' : Context) : Prop where
  settings : c'.settings = c.settings
  now : c'.now = c.now
  /-- It is the same addresses and timeouts with which nobody can try to connect. -/
  misuse? : c'.misuse? = c.misuse?
  /-- The other faults are the same. -/
  faults : c'.faults.filter (fun f => !f.isBookkeeping) = c.faults.filter fun f => !f.isBookkeeping

namespace Alike

variable {c c' : Context}

/-- Which fault hits an operation does not depend on faults that do not hit it. -/
lemma fault?_eq_filter (c : Context) {verb : Verb} {table : Option String}
    (h : ∀ f : Fault, f.verb = verb → f.table = table → f.isBookkeeping = false) :
    c.fault? verb table = ((c.faults.filter fun f => !f.isBookkeeping).find? fun f =>
      f.verb == verb && f.table == table).map (·.message) := by
  have hsame : (fun f : Fault => decide ((!f.isBookkeeping) = true ∧
      (f.verb == verb && f.table == table) = true)) =
      fun f => f.verb == verb && f.table == table := by
    funext f
    cases hhits : f.verb == verb && f.table == table with
    | false => simp
    | true =>
      obtain ⟨hverb, htable⟩ : f.verb = verb ∧ f.table = table := by
        simpa using hhits
      simp [h f hverb htable]
  rw [fault?, List.find?_filter, hsame]

/-- Operations outside the bookkeeping meet the same faults. -/
lemma fault?_eq (h : c.Alike c') {verb : Verb} {table : Option String}
    (hother : ∀ f : Fault, f.verb = verb → f.table = table → f.isBookkeeping = false) :
    c'.fault? verb table = c.fault? verb table := by
  rw [fault?_eq_filter c hother, fault?_eq_filter c' hother, h.faults]

/-- Connections and transactions meet the same faults. -/
lemma checkFault_eq (h : c.Alike c') (verb : Verb) : checkFault c' verb = checkFault c verb := by
  have hother : ∀ f : Fault, f.verb = verb → f.table = none → f.isBookkeeping = false := by
    intro f _ htable
    simp [Fault.isBookkeeping, htable]
  rw [checkFault, checkFault, h.fault?_eq hother]

/-- A question or statement that is not about the outbox meets the same obstacles, and so does an
entry that is added to the outbox. -/
lemma obstacle?_eq (h : c.Alike c') {f : Footprint} (hother : f.table ≠ .outbox ∨ f.verb = .insert)
    (s : Store) : f.obstacle? c' s = f.obstacle? c s := by
  have hfaults : ∀ g : Fault, g.verb = f.verb → g.table = some f.table.name →
      g.isBookkeeping = false := by
    intro g hverb htable
    rcases hother with hother | hother
    · have hname : f.table.name ≠ Table.outbox.name := by
        intro hsame
        have hfound := congrArg Table.named? hsame
        rw [Table.named?_name, Table.named?_name] at hfound
        exact hother (Option.some.inj hfound)
      simp [Fault.isBookkeeping, htable, hname]
    · simp [Fault.isBookkeeping, hverb, hother]
  rw [Footprint.obstacle?, Footprint.obstacle?, h.fault?_eq hfaults]

/-- Whether a question or statement can run does not depend on the daemon, unless it belongs to the
bookkeeping. -/
lemma checkFootprint_eq (h : c.Alike c') {f : Footprint}
    (hother : f.table ≠ .outbox ∨ f.verb = .insert) (s : Store) :
    checkFootprint c' s f = checkFootprint c s f := by
  rw [checkFootprint, checkFootprint, h.obstacle?_eq hother]

end Alike

end Context

/-! ### Steady lookups -/

namespace LookupM

variable {α β : Type}

/-- A lookup that finds the same in alike surroundings. -/
def Steady (l : LookupM α) : Prop :=
  ∀ ⦃c c' : Context⦄, c.Alike c' → ∀ s, l c' s = l c s

namespace Steady

lemma pure (a : α) : Steady (Pure.pure a : LookupM α) :=
  fun _ _ _ _ => rfl

lemma throw (e : Failure) : Steady (MonadExcept.throw e : LookupM α) :=
  fun _ _ _ _ => rfl

lemma lift (r : Except Failure α) : Steady (liftM r : LookupM α) :=
  fun _ _ _ _ => rfl

/-- A question that is not about the outbox is steady. -/
lemma fetch {q : Query α} (hq : (q.table == .outbox) = false) : Steady (LookupM.fetch q) := by
  intro c c' h s
  have hother : q.table ≠ .outbox := by
    simpa using hq
  rw [LookupM.fetch, LookupM.fetch, readOnce, readOnce, h.checkFault_eq,
    h.checkFootprint_eq (f := q.footprint) (.inl hother)]

lemma bind {l : LookupM α} {f : α → LookupM β} (hl : Steady l) (hf : ∀ a, Steady (f a)) :
    Steady (l >>= f) := by
  intro c c' h s
  have hrun : ∀ c : Context, (l >>= f) c s = l c s >>= fun a => f a c s := fun _ => rfl
  rw [hrun, hrun, hl h s]
  cases l c s with
  | error e => rfl
  | ok a => exact hf a h s

/-- Asking for something that has to be there, and going on with it, is steady. -/
lemma fetchSome {q : Query (Option α)} {f : Option α → LookupM β} {e : Failure}
    (hq : (q.table == .outbox) = false) (hnone : f none = MonadExcept.throw e)
    (hsome : ∀ a, Steady (f (some a))) : Steady (LookupM.fetch q >>= f) := by
  refine (Steady.fetch hq).bind fun found => ?_
  cases found with
  | none =>
    rw [hnone]
    exact Steady.throw e
  | some a => exact hsome a

lemma map {l : LookupM α} (f : α → β) (hl : Steady l) : Steady (f <$> l) :=
  hl.bind fun a => Steady.pure (f a)

/-- A lookup that looks at nothing but the settings is steady. -/
lemma read {f : Context → LookupM β} (hf : ∀ c, Steady (f c))
    (hsettings : ∀ c c' : Context, c'.settings = c.settings → f c' = f c) :
    Steady (MonadReader.read >>= f) := by
  intro c c' h s
  have hrun : ∀ c : Context, (MonadReader.read >>= f : LookupM β) c s = f c c s := fun _ => rfl
  rw [hrun, hrun, hsettings c c' h.settings]
  exact hf c h s

end Steady

end LookupM

open LookupM (Steady)

lemma Ownership.needMainDomain_steady (customer : Json) : Steady (needMainDomain customer) :=
  Steady.fetchSome rfl rfl fun d => Steady.pure d

lemma Ownership.needManagedCustomer_steady (user : User) (id : Json) :
    Steady (needManagedCustomer user id) := by
  refine (Steady.lift _).bind fun role => ?_
  simp only
  split
  case' isTrue => refine (Steady.pure _).bind fun creator => ?_
  case' isFalse => refine ((Steady.lift _).map some).bind fun creator => ?_
  all_goals exact Steady.fetchSome rfl rfl fun found => Steady.pure found

theorem Job.plan_steady (user : User) (job : Job) : Steady (job.plan user) := by
  cases job with
  | deleteSubdomain id =>
    refine (Steady.lift _).bind fun customer => ?_
    exact Steady.fetchSome rfl rfl fun found => Steady.pure _
  | deleteAliasSubdomain id =>
    refine (Steady.lift _).bind fun customer => ?_
    exact Steady.fetchSome rfl rfl fun found => Steady.pure _
  | deleteDomainAlias id =>
    refine (Steady.lift _).bind fun customer => ?_
    exact Steady.fetchSome rfl rfl fun found => Steady.pure _
  | deleteCustomer id =>
    refine (Ownership.needManagedCustomer_steady user id).bind fun found => ?_
    refine (Steady.fetch rfl).bind fun count => ?_
    simp only
    split
    · exact (Steady.throw _).bind fun _ => Steady.pure _
    · exact Steady.pure _
  | changeCustomerStatus id action =>
    simp only [Job.plan, Jobs.planCustomerStatus]
    cases Jobs.CustomerAction.named? action with
    | none => exact Steady.throw _
    | some named =>
      refine (Ownership.needManagedCustomer_steady user id).bind fun found => ?_
      refine ((Steady.lift _).bind fun _ => Steady.pure ()).bind fun _ => ?_
      exact Steady.read (fun c => Steady.pure _) fun c c' h => by rw [h]
  | deleteMailAccount id =>
    refine (Steady.lift _).bind fun customer => ?_
    refine (Ownership.needMainDomain_steady customer).bind fun domain => ?_
    refine Steady.fetchSome rfl rfl fun m => ?_
    refine Steady.read (fun c => ?_) fun c c' h => by rw [h]
    split
    · exact (Steady.throw _).bind fun _ => Steady.pure _
    · exact Steady.pure _
  | deleteFtpAccount userid =>
    refine (Steady.lift _).bind fun customer => ?_
    exact Steady.fetchSome rfl rfl fun owner => Steady.pure _
  | deleteDnsRecord id => exact Steady.pure _
  | deleteProtectedArea id =>
    refine (Steady.lift _).bind fun customer => ?_
    exact (Ownership.needMainDomain_steady customer).bind fun domain => Steady.pure _
  | deleteCertificate ownerType ownerId id =>
    simp only [Job.plan, Jobs.planCertificate]
    cases Jobs.OwnerType.named? ownerType with
    | none => exact Steady.throw _
    | some type =>
      refine (Steady.lift _).bind fun customer => ?_
      exact Steady.fetchSome (by cases type <;> rfl) rfl fun owner => Steady.pure _
  | scheduleBackupRestore =>
    refine (Steady.lift _).bind fun customer => ?_
    refine (Ownership.needMainDomain_steady customer).bind fun domain => ?_
    exact ((Steady.lift _).bind fun _ => Steady.pure ()).bind fun _ => Steady.pure _

/-! ### Steady blocks -/

namespace TransactionM

variable {α : Type}

/-- A block that does the same in alike surroundings. -/
def Steady (t : TransactionM α) : Prop :=
  ∀ ⦃c c' : Context⦄, c.Alike c' → ∀ s, t c' s = t c s

/-- A block that is put together from questions and statements about other tables than the outbox is
steady. -/
theorem Built.steady {P : Statement → Prop} (hP : ∀ st, P st → st.table ≠ .outbox)
    {t : TransactionM α} (h : Built P (· ≠ .outbox) t) : Steady t := by
  induction h with
  | pure a => exact fun _ _ _ _ => rfl
  | throw e => exact fun _ _ _ _ => rfl
  | query q hq =>
    intro c c' h s
    rw [TransactionM.query, TransactionM.query, h.checkFootprint_eq (f := q.footprint) (.inl hq)]
  | @execute st hst =>
    intro c c' h s
    have hother : st.footprint.table ≠ .outbox := by
      cases st <;> exact hP _ hst
    rw [TransactionM.execute, TransactionM.execute, h.checkFootprint_eq (.inl hother)]
  | bind _ _ ih ihf =>
    intro c c' h s
    rw [bind_apply, bind_apply, ih h s]
    split
    · exact ihf _ h _
    · rfl

lemma Steady.announced {t : TransactionM α} (ht : Steady t) (action : Json) :
    Steady (announced action t) := by
  have hentry : Steady (Outbox.enqueue action) := by
    intro c c' h s
    rw [Outbox.enqueue, Outbox.enqueue]
    cases Outbox.shorten action with
    | error e => rfl
    | ok reason =>
      have hcheck := h.checkFootprint_eq (f := ⟨.insert, .outbox, [], [reason]⟩) (.inr rfl) s
      simp only [hcheck, h.now]
  intro c c' h s
  rw [announced_apply, announced_apply, ht h s]
  rcases t c s with e | ⟨a, changed⟩
  · rfl
  · simp only [hentry h changed]

/-- The commit of a steady block does not depend on the daemon. -/
lemma Steady.commitBlock_eq {t : TransactionM α} (ht : Steady t) {c c' : Context} (h : c.Alike c')
    (s : Store) : commitBlock c' s t = commitBlock c s t := by
  rw [commitBlock, commitBlock, ht h s, h.checkFault_eq, h.checkFault_eq, h.checkFault_eq]

end TransactionM

lemma Job.block_steady {user : User} {job : Job} {c : Context} {s : Store} {plan : Plan}
    (h : job.plan user c s = .ok plan) : plan.block.Steady :=
  (Job.block_built h).steady fun _ hst => hst.table_ne_outbox

/-! ### Marks -/

/-- A database without the marks of its outbox entries. -/
def Store.withoutMarks (s : Store) : Store :=
  s.set .outbox ((s.rows .outbox).map fun (e : OutboxEntry) => { e with dispatchedAt := none })

lemma Outbox.MarksOnly.withoutMarks_eq {now : Int} {s s' : Store} (h : MarksOnly now s s') :
    s'.withoutMarks = s.withoutMarks := by
  rcases h with rfl | ⟨id, rfl⟩
  · rfl
  · have hentries : (((markDispatched now (.int id)).apply s).rows .outbox).map
          (fun (e : OutboxEntry) => { e with dispatchedAt := none }) =
        (s.rows .outbox).map fun (e : OutboxEntry) => { e with dispatchedAt := none } := by
      rw [markDispatched, Statement.apply, Store.modify, Store.rows_set_self, Statement.updateRows,
        List.map_map]
      refine List.map_congr_left fun e _ => ?_
      simp only [Function.comp_apply]
      split <;> rfl
    rw [Store.withoutMarks, Store.withoutMarks, hentries]
    exact Store.set_set s .outbox _ _

/-! ### Jobs -/

/-- A failure that escapes from a notifier whose version can be sent does not depend on the
daemon. -/
lemma Notifier.answer_send_of_alike {c c' : Context} (halike : c.Alike c') {n : Notifier}
    {e : Failure} (hversion : isAscii n.version.shown = true) (h : (n.send c).answer = .error e) :
    (n.send c').answer = .error e := by
  obtain ⟨htalks, ⟨misuse, hmisuse, rfl⟩ | ⟨-, hunsendable⟩⟩ := answer_send_eq_error h
  · have hmisuse' : n.reached c' = .error misuse := by
      rw [reached_eq_error_iff] at hmisuse ⊢
      rw [halike.misuse?, hmisuse]
    rw [send_of_misuse htalks hmisuse']
  · rw [hversion] at hunsendable
    cases hunsendable

lemma Context.Alike.symm {c c' : Context} (h : c.Alike c') : c'.Alike c :=
  ⟨h.settings.symm, h.now.symm, h.misuse?.symm, h.faults.symm⟩

/-- A call fails in both of two alike surroundings or in none. -/
lemma Notifier.map_answer_send_alike {α : Type} {c c' : Context} (halike : c.Alike c')
    {n : Notifier} (hversion : isAscii n.version.shown = true) (a : α) :
    ((n.send c').answer.map fun _ => a) = (n.send c).answer.map fun _ => a := by
  cases h : (n.send c).answer with
  | error e => rw [answer_send_of_alike halike hversion h]
  | ok answer =>
    cases h' : (n.send c').answer with
    | error e =>
      rw [answer_send_of_alike halike.symm hversion h'] at h
      cases h
    | ok answer' => rfl

/-- What a scheduled change comes to: if it is committed, its answer is that of the commit unless a
failure escapes from the notifier, and its database is that of the commit, except for the marks. -/
lemma run_scheduledChange_but_marks {α : Type} (action failureMessage : Json)
    (body : TransactionM α) (c : Context) (p : Panel) :
    (run (scheduledChange action failureMessage body) c p).1 =
        (match commitBlock c p.store (announced action body) with
          | .ok (a, _) => (p.notifier.send c).answer.map fun _ => a
          | .error e => .error (e.wrapped failureMessage)) ∧
      (run (scheduledChange action failureMessage body) c p).2.store.withoutMarks =
        (match commitBlock c p.store (announced action body) with
          | .ok (_, s) => s.withoutMarks
          | .error _ => p.store.withoutMarks) := by
  rw [run_scheduledChange]
  cases commitBlock c p.store (announced action body) with
  | error e => exact ⟨rfl, rfl⟩
  | ok done =>
    obtain ⟨a, s⟩ := done
    exact ⟨Outbox.map_result_notifyAfterCommit c { p with store := s } a,
      (Outbox.marksOnly_notifyAfterCommit c { p with store := s }).withoutMarks_eq⟩

/-- A scheduled change around a steady block comes to the same in alike surroundings. -/
lemma run_scheduledChange_alike {α : Type} (action failureMessage : Json) {body : TransactionM α}
    (hsteady : body.Steady) {c c' : Context} (halike : c.Alike c') {p : Panel}
    (hversion : isAscii p.notifier.version.shown = true) :
    (run (scheduledChange action failureMessage body) c' p).1 =
        (run (scheduledChange action failureMessage body) c p).1 ∧
      (run (scheduledChange action failureMessage body) c' p).2.store.withoutMarks =
        (run (scheduledChange action failureMessage body) c p).2.store.withoutMarks := by
  obtain ⟨hresult, hstore⟩ := run_scheduledChange_but_marks action failureMessage body c p
  obtain ⟨hresult', hstore'⟩ := run_scheduledChange_but_marks action failureMessage body c' p
  rw [hresult, hresult', hstore, hstore', (hsteady.announced action).commitBlock_eq halike]
  refine ⟨?_, rfl⟩
  split
  · exact Notifier.map_answer_send_alike halike hversion _
  · rfl

/-- What a job answers when its change has been made depends on the change and on the name of the
user. -/
lemma result_carryOut (plan : Plan) (user : User) (c : Context) (p : Panel) :
    (run (plan.carryOut user) c p).1 = do
      (run (scheduledChange (.text plan.action) (.text plan.failureMessage) plan.block) c p).1
      discard user.name
      return plan.answer := by
  rw [run_carryOut]
  rcases run (scheduledChange (.text plan.action) (.text plan.failureMessage) plan.block) c p with
    ⟨_ | _, q⟩
  · rfl
  · cases user.name <;> rfl

/-- The outcome of a job does not depend on the daemon.  Take any database, any user, any job, and a
notifier with a version that can be sent, used before or not.  Run the job in two surroundings that
differ in the behaviour of the daemon, and in faults on reading the outbox or marking its entries.
Both runs give the same answer or fail with the same failure, and they leave the same database but
for the marks of the outbox entries. -/
theorem job_outcome_independent_of_daemon {c c' : Context} (halike : c.Alike c') {p : Panel}
    (hversion : isAscii p.notifier.version.shown = true) (user : User) (job : Job) :
    (run (job.run user) c' p).1 = (run (job.run user) c p).1 ∧
      (run (job.run user) c' p).2.store.withoutMarks =
        (run (job.run user) c p).2.store.withoutMarks := by
  rw [run_job, run_job, Job.plan_steady user job halike p.store]
  cases hplan : job.plan user c p.store with
  | error e => exact ⟨rfl, rfl⟩
  | ok plan =>
    obtain ⟨hresult, hstore⟩ := run_scheduledChange_alike (.text plan.action)
      (.text plan.failureMessage) (Job.block_steady hplan) halike hversion
    simp only [result_carryOut, store_carryOut, hresult, hstore]
    exact ⟨trivial, trivial⟩

/-- Surroundings with a daemon that refuses to be connected to, and an outbox that cannot be read.
-/
def sampleSilence : Context where
  peer := .refusing "Connection refused"
  faults := [⟨.select, some "daemon_outbox", "table is crashed"⟩]

/-- The customer of the sample deletes the DNS record.  The daemon that refuses and the daemon that
is told make no difference. -/
theorem job_outcome_independent_of_daemon_sample :
    (run (Job.run (sampleUser ["user_id", "username"]) (.deleteDnsRecord (.int 5))) sampleSilence
        samplePanel).1 = .ok "Custom DNS record successfully scheduled for deletion." ∧
      (run (Job.run (sampleUser ["user_id", "username"]) (.deleteDnsRecord (.int 5))) sampleSilence
        samplePanel).2.store.withoutMarks =
      (run (Job.run (sampleUser ["user_id", "username"]) (.deleteDnsRecord (.int 5))) {}
        samplePanel).2.store.withoutMarks := by
  have halike : Context.Alike {} sampleSilence :=
    ⟨rfl, rfl, rfl, by decide⟩
  obtain ⟨hresult, hstore⟩ := job_outcome_independent_of_daemon halike (p := samplePanel)
    (by decide) (sampleUser ["user_id", "username"]) (.deleteDnsRecord (.int 5))
  exact ⟨hresult.trans rfl, hstore⟩

end HostingPanel
