import HostingPanel.Http.Api
import HostingPanel.Proofs.Atomicity

/-!
# Operations that only look

Much of what the panel does is to look at the database and to answer, with a log record here and
there.  Such an operation leaves the database, the notifier and the daemon alone, whatever comes of
it (`OperationM.Quiet`).  Operations that are put together from quiet ones are quiet; so are signing
in, the check of who manages a customer, and what the administrator is shown.
-/

namespace HostingPanel

/-- What has not been touched in two steps has not been touched. -/
lemma Panel.Untouched.trans {p q r : Panel} (h : p.Untouched q) (h' : q.Untouched r) :
    p.Untouched r :=
  ⟨h'.store.trans h.store, h'.notifier.trans h.notifier, h'.contacts.trans h.contacts⟩

namespace OperationM

variable {α β : Type}

/-- An operation that touches nothing, whatever comes of it. -/
def Quiet (op : OperationM α) : Prop :=
  ∀ (c : Context) (p : Panel), p.Untouched (run op c p).2

namespace Quiet

/-! ### Closure -/

lemma pure (a : α) : Quiet (Pure.pure a : OperationM α) :=
  fun _ p => .refl p

lemma throw (e : Failure) : Quiet (MonadExcept.throw e : OperationM α) :=
  fun _ p => .refl p

lemma lift (r : Except Failure α) : Quiet (liftM r : OperationM α) := by
  cases r with
  | error e => exact Quiet.throw e
  | ok a => exact Quiet.pure a

lemma read : Quiet (MonadReader.read : OperationM Context) :=
  fun _ p => .refl p

lemma get : Quiet (MonadState.get : OperationM Panel) :=
  fun _ p => .refl p

lemma log (level : Level) (source : Source) (text : String) :
    Quiet (OperationM.log level source text) :=
  fun _ _ => ⟨rfl, rfl, rfl⟩

lemma fetch (q : Query α) : Quiet (OperationM.fetch q) :=
  fun _ p => .refl p

lemma lookup (l : LookupM α) : Quiet (OperationM.lookup l) :=
  fun _ p => .refl p

lemma bind {op : OperationM α} {f : α → OperationM β} (hop : Quiet op) (hf : ∀ a, Quiet (f a)) :
    Quiet (op >>= f) := by
  intro c p
  have hfirst := hop c p
  rw [run_bind]
  rcases hrun : run op c p with ⟨e | a, q⟩
  · rw [hrun] at hfirst
    exact hfirst
  · rw [hrun] at hfirst
    exact hfirst.trans (hf a c q)

/-- A quiet operation whose failures are kept is quiet. -/
lemma attempt {op : OperationM α} (hop : Quiet op) : Quiet (OperationM.attempt op) :=
  fun c p => hop c p

/-- A quiet operation for each of some things is quiet. -/
lemma mapM {f : α → OperationM β} (hf : ∀ a, Quiet (f a)) (l : List α) : Quiet (l.mapM f) := by
  induction l with
  | nil => exact Quiet.pure []
  | cons a l ih =>
    rw [List.mapM_cons]
    exact (hf a).bind fun b => ih.bind fun bs => Quiet.pure (b :: bs)

/-! ### Quiet operations of the panel -/

lemma readLatest : Quiet Outbox.readLatest := by
  refine (Quiet.fetch _).attempt.bind fun found => ?_
  cases found with
  | ok latest => exact Quiet.pure latest
  | error e => exact (Quiet.log _ _ _).bind fun _ => Quiet.pure none

lemma countPending : Quiet Debugger.countPending :=
  (Quiet.mapM (fun _ => Quiet.fetch _) _).bind fun _ => Quiet.pure _

lemma listErrors : Quiet Debugger.listErrors := by
  refine (Quiet.mapM (fun t => ?_) _).bind fun _ => Quiet.pure _
  exact (Quiet.fetch _).bind fun _ => Quiet.pure _

lemma canManage (user : User) (customer : Json) : Quiet (Access.canManage user customer) := by
  unfold Access.canManage
  split
  · exact Quiet.pure true
  · split
    · exact Quiet.pure false
    · refine (Quiet.fetch _).bind fun found => ?_
      cases found with
      | none => exact Quiet.pure false
      | some creator => exact (Quiet.lift user.id).bind fun id => Quiet.pure _

lemma checkCustomer (a : Admin) : Quiet (Login.checkCustomer a) := by
  refine (Quiet.fetch _).bind fun found => ?_
  cases found with
  | none => exact (Quiet.log _ _ _).bind fun _ => Quiet.throw _
  | some account =>
    obtain ⟨d, a⟩ := account
    have hexpiry : Quiet (do
        if ← Login.hasExpired (← MonadReader.read).now d then
          MonadExcept.throw Failure.accountExpired) := by
      refine Quiet.read.bind fun c => (Quiet.lift _).bind fun expired => ?_
      split
      · exact Quiet.throw _
      · exact Quiet.pure ()
    simp only
    split
    · exact (Quiet.throw _).bind fun _ => hexpiry
    · exact (Quiet.pure ()).bind fun _ => hexpiry

lemma authenticate (name password : Json) : Quiet (Login.authenticate name password) := by
  refine (Quiet.fetch _).bind fun found => ?_
  cases found with
  | none => exact Quiet.pure none
  | some a =>
    refine (Quiet.lift _).bind fun right => ?_
    split
    · exact Quiet.pure none
    · simp only
      split
      · exact (checkCustomer a).bind fun _ => Quiet.pure (some a)
      · exact Quiet.pure (some a)

lemma login (r : Request) : Quiet (Api.login r) := by
  unfold Api.login
  cases r.fields with
  | error response => exact Quiet.pure response
  | ok fields =>
    simp only
    split
    · exact Quiet.pure _
    · refine (authenticate _ _).bind fun found => ?_
      cases found with
      | none => exact Quiet.pure _
      | some a =>
        refine Quiet.read.bind fun c => (Quiet.lift _).bind fun token => ?_
        exact (Quiet.log _ _ _).bind fun _ => Quiet.pure _

lemma serveOpen (r : Request) (e : OpenEndpoint) : Quiet (Api.serveOpen r e) := by
  cases e with
  | login => exact login r
  | health => exact Quiet.read.bind fun _ => Quiet.pure _
  | file => exact Quiet.pure _

lemma overview : Quiet Api.overview :=
  countPending.bind fun _ => listErrors.bind fun _ => Quiet.pure _

end Quiet

/-- What answers with something else leaves the same state. -/
lemma state_map (op : OperationM α) (f : α → β) (c : Context) (p : Panel) :
    (run (op >>= fun a => Pure.pure (f a)) c p).2 = (run op c p).2 := by
  rw [run_bind]
  rcases run op c p with ⟨_ | _, _⟩ <;> rfl

end OperationM

/-- A request leaves what its answer leaves on a panel with a fresh notifier. -/
lemma Api.state_handle (r : Request) (c : Context) (p : Panel) :
    (OperationM.run (Api.handle r) c p).2 =
      (OperationM.run (Api.answer r) c { p with notifier := Notifier.create c.settings }).2 := by
  have hrenew : OperationM.run OperationM.renewNotifier c p =
      (.ok (), { p with notifier := Notifier.create c.settings }) := rfl
  unfold Api.handle
  rw [OperationM.run_bind, hrenew]
  simp only
  rw [OperationM.run_bind, OperationM.run_attempt]
  simp only
  cases (OperationM.run (Api.answer r) c { p with notifier := Notifier.create c.settings }).1 <;>
    rfl

end HostingPanel
