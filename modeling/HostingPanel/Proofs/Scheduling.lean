import HostingPanel.Debugger
import HostingPanel.Jobs.Catalogue
import HostingPanel.Proofs.Announcement
import HostingPanel.Proofs.Blocks

/-!
# Runs of scheduled changes

Every operation that schedules something commits one block of statements together with its outbox
entry.  This module runs these operations down to that one commit: `scheduledChange`, the second
half of a job (`Plan.carryOut`), a whole job (`Job.run`) and a new attempt (`Debugger.requeue`).
`announced_eq_ok` says what the commit consists of.
-/

namespace HostingPanel

open OperationM

/-! ### The commit -/

/-- An announced block step by step: the block, and then its entry. -/
lemma announced_apply {α : Type} (action : Json) (body : TransactionM α) (c : Context) (s : Store) :
    announced action body c s =
      match body c s with
      | .error e => .error e
      | .ok (a, changed) =>
        match Outbox.enqueue action c changed with
        | .error e => .error e
        | .ok (_, final) => .ok (a, final) := by
  unfold announced
  rw [TransactionM.bind_apply]
  rcases body c s with e | ⟨a, changed⟩
  · rfl
  · simp only
    rw [TransactionM.bind_apply, TransactionM.discard_apply]
    rcases Outbox.enqueue action c changed with e | ⟨id, final⟩ <;> rfl

/-- An entry gets the next key and the shortened reason. -/
lemma Outbox.enqueue_eq_append {reason : Json} {c : Context} {s s' : Store} {id : Int}
    (h : Outbox.enqueue reason c s = .ok (id, s')) :
    ∃ short, shorten reason = .ok short ∧ s.nextKey? .outbox = some id ∧
      s' = append s id c.now short.shown := by
  unfold Outbox.enqueue at h
  cases hshort : shorten reason with
  | error e =>
    rw [hshort] at h
    cases h
  | ok short =>
    simp only [hshort] at h
    split at h
    · cases h
    · cases h
    · rename_i hkey
      cases h
      exact ⟨short, rfl, hkey, rfl⟩

/-- An entry with a text as its reason gets the next key and the shortened text. -/
lemma Outbox.enqueue_eq_ok {reason : String} {c : Context} {s s' : Store} {id : Int}
    (h : Outbox.enqueue (.text reason) c s = .ok (id, s')) :
    s.nextKey? .outbox = some id ∧ s' = append s id c.now (shortened reason) := by
  obtain ⟨short, hshort, hkey, happend⟩ := Outbox.enqueue_eq_append h
  cases hshort
  exact ⟨hkey, happend⟩

lemma Outbox.rows_append (s : Store) (id now : Int) (reason : String) :
    (Outbox.append s id now reason).rows .outbox =
      s.rows .outbox ++ [{ id, reason, createdAt := Calendar.timestamp now }] := by
  simp [append, Store.modify, Store.set]

/-- An announced block that ran has run the block and then added an entry to what the block has
left. -/
lemma announced_eq_enqueue {α : Type} {action : Json} {body : TransactionM α} {c : Context}
    {s s' : Store} {a : α} (h : announced action body c s = .ok (a, s')) :
    ∃ changed id, body c s = .ok (a, changed) ∧ Outbox.enqueue action c changed = .ok (id, s') := by
  rw [announced_apply] at h
  rcases hbody : body c s with e | ⟨a', changed⟩
  · rw [hbody] at h
    cases h
  · simp only [hbody] at h
    rcases hentry : Outbox.enqueue action c changed with e | ⟨id, final⟩
    · rw [hentry] at h
      cases h
    · rw [hentry] at h
      cases h
      exact ⟨changed, id, rfl, hentry⟩

/-- If what is scheduled is a text, the entry has its beginning for a reason. -/
theorem announced_eq_ok {α : Type} {action : String} {body : TransactionM α} {c : Context}
    {s s' : Store} {a : α} (h : announced (.text action) body c s = .ok (a, s')) :
    ∃ changed id, body c s = .ok (a, changed) ∧ changed.nextKey? .outbox = some id ∧
      s' = Outbox.append changed id c.now (Outbox.shortened action) := by
  obtain ⟨changed, id, hbody, hentry⟩ := announced_eq_enqueue h
  obtain ⟨hkey, happend⟩ := Outbox.enqueue_eq_ok hentry
  exact ⟨changed, id, hbody, hkey, happend⟩

/-- A transaction either commits or leaves everything as it was. -/
lemma run_transaction {α : Type} (body : TransactionM α) (c : Context) (p : Panel) :
    run (transaction body) c p =
      match commitBlock c p.store body with
      | .ok (a, s) => (.ok a, { p with store := s })
      | .error e => (.error e, p) := rfl

/-! ### Scheduled changes -/

lemma run_discard_return {α β : Type} (op : OperationM β) (a : α) (c : Context) (p : Panel) :
    run (do discard op; return a) c p = ((run op c p).1.map fun _ => a, (run op c p).2) := by
  have hdiscard : run (discard op) c p = run (do let _ ← op; return ()) c p := rfl
  rw [run_bind, hdiscard, run_bind]
  rcases run op c p with ⟨_ | _, q⟩ <;> rfl

/-- A failure as it leaves a scheduled change. -/
def Failure.wrapped (failureMessage : Json) (e : Failure) : Failure :=
  if e.isShown then e else .rolledBack failureMessage

/-- The record of a failure that is not meant for the user. -/
def Failure.cascadeRecords (action : Json) (e : Failure) : List LogRecord :=
  if e.isShown then []
  else [⟨.error, .cascade, "System was unable to " ++ action.shown ++ ": " ++ e.message⟩]

/-- A scheduled change is one commit, and after it the announcement. -/
lemma run_scheduledChange {α : Type} (action failureMessage : Json) (body : TransactionM α)
    (c : Context) (p : Panel) :
    run (scheduledChange action failureMessage body) c p =
      match commitBlock c p.store (announced action body) with
      | .ok (a, s) =>
        let (told, q) := run Outbox.notifyAfterCommit c { p with store := s }
        (told.map fun _ => a, q)
      | .error e =>
        (.error (e.wrapped failureMessage),
          { p with journal := p.journal ++ e.cascadeRecords action }) := by
  unfold scheduledChange
  rw [run_bind, run_attempt, run_transaction]
  cases commitBlock c p.store (announced action body) with
  | ok done =>
    obtain ⟨a, s⟩ := done
    exact run_discard_return Outbox.notifyAfterCommit a c { p with store := s }
  | error e =>
    simp only [Failure.wrapped, Failure.cascadeRecords]
    cases hshown : e.isShown with
    | true =>
      simp only [if_true, List.append_nil]
      rfl
    | false => rfl

/-! ### Jobs -/

/-- Carrying out a plan is its scheduled change, and then a record with the name of the user. -/
lemma run_carryOut (plan : Plan) (user : User) (c : Context) (p : Panel) :
    run (plan.carryOut user) c p =
      match run (scheduledChange (.text plan.action) (.text plan.failureMessage) plan.block)
        c p with
      | (.error e, q) => (.error e, q)
      | (.ok _, q) =>
        match user.name with
        | .error e => (.error e, q)
        | .ok name =>
          (.ok plan.answer,
            { q with journal := q.journal ++ [⟨.info, .jobs, plan.notice name.shown⟩] }) := by
  unfold Plan.carryOut
  rw [run_bind]
  rcases run (scheduledChange (.text plan.action) (.text plan.failureMessage) plan.block) c p with
    ⟨_ | _, q⟩
  · rfl
  · simp only
    cases hname : user.name <;> rfl

/-- A job carries out what it plans from the database as it is. -/
lemma run_job (user : User) (job : Job) (c : Context) (p : Panel) :
    run (job.run user) c p =
      match job.plan user c p.store with
      | .error e => (.error e, p)
      | .ok plan => run (plan.carryOut user) c p := by
  have hlookup : run (lookup (job.plan user)) c p = (job.plan user c p.store, p) := rfl
  rw [Job.run_eq_schedule]
  unfold Jobs.schedule
  rw [run_bind, hlookup]
  cases job.plan user c p.store <;> rfl

/-! ### New attempts and requests by hand -/

/-- A new attempt is one commit, and the daemon is not told. -/
lemma run_requeue (type id : Json) (c : Context) (p : Panel) :
    run (Debugger.requeue type id) c p =
      match ItemType.named type with
      | .error e => (.error e, p)
      | .ok t =>
        match commitBlock c p.store
            (announced (.text (Debugger.requeueAction t id)) (Debugger.requeueBlock t id)) with
        | .error e => (.error e, p)
        | .ok (_, s) =>
          (.ok "Done", { p with
            store := s
            journal := p.journal ++ [⟨.info, .debugger,
              "Status of " ++ t.name ++ " item " ++ id.shown ++ " changed to " ++
                Status.toChange ++ " for a new attempt"⟩] }) := by
  unfold Debugger.requeue
  rw [run_bind]
  have hnamed : run (liftM (ItemType.named type) : OperationM ItemType) c p =
      (ItemType.named type, p) := by
    cases ItemType.named type <;> rfl
  rw [hnamed]
  cases ItemType.named type with
  | error e => rfl
  | ok t =>
    simp only
    rw [run_bind, run_transaction]
    cases commitBlock c p.store
        (announced (.text (Debugger.requeueAction t id)) (Debugger.requeueBlock t id)) <;> rfl

end HostingPanel
