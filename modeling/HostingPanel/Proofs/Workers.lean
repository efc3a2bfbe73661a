import Mathlib.Logic.Function.Basic
import HostingPanel.Proofs.Scheduling

/-!
# Panels side by side

Many web requests and relays work on one database at the same time.  `System` is the database with
the stage at which each worker stands, and `System.Step` is one atomic step of one worker: a
scheduled change is committed, the largest pending key is read, an exchange with the daemon begins
or ends, or entries are marked.  Between two steps of a worker the others may do anything, and any
worker may stop for ever.

The steps are those of the operations.  A change is committed by the transaction of
`scheduledChange`, and an announcement takes the steps of `Outbox.afterCommit` or `Outbox.relay`, of
which `Outbox.notifyAfterCommit` and `Outbox.relayOnce` consist; a worker takes each of them on a
panel with its own notifier and the database as the others have left it.  The beginning of an
exchange and its end are two steps, so that others can commit while it lasts.

A run is kept as a list of moments, each with the worker, what it did, and the database before.
-/

namespace HostingPanel

open OperationM

/-- The two announcements. -/
inductive Errand where
  /-- The one after a change, with the notifier of the operation. -/
  | change
  /-- The one of the relay, with a notifier of its own. -/
  | relay

namespace Errand

/-- What is learnt before the daemon is told. -/
def Key : Errand → Type
  | .change => Option Int
  | .relay => Int

/-- What comes of the announcement. -/
def Answer : Errand → Type
  | .change => Option Bool
  | .relay => Nat

/-- The steps of the announcement. -/
def steps : (errand : Errand) → Outbox.Announcement errand.Key errand.Answer
  | .change => Outbox.afterCommit
  | .relay => Outbox.relay

end Errand

/-- Where a worker stands. -/
inductive Stage where
  | idle
  | waking (errand : Errand) (notifier : Notifier)
  /-- It knows up to which key there are pending entries, and is about to tell the daemon. -/
  | informed (errand : Errand) (latest : errand.Key) (notifier : Notifier)
  | talking (errand : Errand) (latest : errand.Key) (notifier : Notifier)
  /-- The exchange has succeeded, and it is about to mark entries. -/
  | told (errand : Errand) (latest : errand.Key) (notifier : Notifier)

/-- What a worker does in one step. -/
inductive Deed where
  | committed
  /-- It begins to announce, or it finds that nothing is to be done. -/
  | turned
  | read
  | began
  /-- Its exchange ends, with success or without. -/
  | ended (success : Bool)
  | marked
deriving DecidableEq

/-- The database with all workers. -/
structure System where
  store : Store
  stage : Nat → Stage

namespace System

/-- A database at which no worker has begun anything. -/
def start (s : Store) : System :=
  ⟨s, fun _ => .idle⟩

/-- The system after a step of a worker. -/
def next (σ : System) (i : Nat) (s : Store) (stage : Stage) : System :=
  ⟨s, Function.update σ.stage i stage⟩

@[simp] lemma store_next (σ : System) (i : Nat) (s : Store) (stage : Stage) :
    (σ.next i s stage).store = s := rfl

@[simp] lemma stage_next_self (σ : System) (i : Nat) (s : Store) (stage : Stage) :
    (σ.next i s stage).stage i = stage :=
  Function.update_self _ _ _

lemma stage_next_of_ne (σ : System) {i j : Nat} (s : Store) (stage : Stage) (h : j ≠ i) :
    (σ.next i s stage).stage j = σ.stage j :=
  Function.update_of_ne h _ _

/-- The steps of the workers.  A worker takes a step on a panel with the database as it is and with
its own notifier.  Every step may find other surroundings: another time, other faults, another
daemon. -/
inductive Step (σ : System) (i : Nat) : Deed → System → Prop where
  /-- A change is committed with its entry, and is to be announced. -/
  | commit (c : Context) (action : String) (block : TransactionM Unit) {p q : Panel}
    (hstage : σ.stage i = .idle) (hstore : p.store = σ.store) (hspares : block.Spares .outbox)
    (hrun : run (transaction (announced (.text action) block)) c p = (.ok (), q)) :
    Step σ i .committed (σ.next i q.store (.waking .change q.notifier))
  /-- An announcement begins without a change, or a run of the relay. -/
  | wake (errand : Errand) (notifier : Notifier) (hstage : σ.stage i = .idle) :
    Step σ i .turned (σ.next i σ.store (.waking errand notifier))
  /-- The largest pending key is read, and the daemon is to be told. -/
  | read (c : Context) {errand : Errand} {latest : errand.Key} {p q : Panel}
    (hstage : σ.stage i = .waking errand p.notifier) (hstore : p.store = σ.store)
    (hrun : run errand.steps.inquire c p = (.ok (.inr latest), q)) :
    Step σ i .read (σ.next i q.store (.informed errand latest q.notifier))
  /-- There is nothing to tell, or the key cannot be read. -/
  | pass (c : Context) {errand : Errand} {p : Panel}
    (hstage : σ.stage i = .waking errand p.notifier) (hstore : p.store = σ.store)
    (hends : ∀ latest, (run errand.steps.inquire c p).1 ≠ .ok (.inr latest)) :
    Step σ i .turned (σ.next i (run errand.steps.inquire c p).2.store .idle)
  /-- An exchange begins. -/
  | begin {errand : Errand} {latest : errand.Key} {notifier : Notifier}
    (hstage : σ.stage i = .informed errand latest notifier) :
    Step σ i .began (σ.next i σ.store (.talking errand latest notifier))
  /-- An exchange succeeds. -/
  | succeed (c : Context) {errand : Errand} {latest : errand.Key} {p q : Panel}
    (hstage : σ.stage i = .talking errand latest p.notifier) (hstore : p.store = σ.store)
    (hrun : run errand.steps.tell c p = (.ok none, q)) :
    Step σ i (.ended true) (σ.next i q.store (.told errand latest q.notifier))
  /-- An exchange does not succeed, and nothing will be marked. -/
  | fail (c : Context) {errand : Errand} {latest : errand.Key} {p : Panel}
    (hstage : σ.stage i = .talking errand latest p.notifier) (hstore : p.store = σ.store)
    (hends : (run errand.steps.tell c p).1 ≠ .ok none) :
    Step σ i (.ended false) (σ.next i (run errand.steps.tell c p).2.store .idle)
  /-- The entries up to the key that was read are marked, or that fails. -/
  | mark (c : Context) {errand : Errand} {latest : errand.Key} {p : Panel}
    (hstage : σ.stage i = .told errand latest p.notifier) (hstore : p.store = σ.store) :
    Step σ i .marked (σ.next i (run (errand.steps.mark latest) c p).2.store .idle)

/-- A moment of a run. -/
structure Moment where
  worker : Nat
  deed : Deed
  before : Store

/-- The runs of a system, with their moments in order. -/
inductive Run (σ₀ : System) : List Moment → System → Prop where
  | nil : Run σ₀ [] σ₀
  | snoc {moments : List Moment} {σ σ' : System} {i : Nat} {deed : Deed}
    (hrun : Run σ₀ moments σ) (hstep : Step σ i deed σ') :
    Run σ₀ (moments ++ [⟨i, deed, σ.store⟩]) σ'

lemma Step.stage_of_ne {σ σ' : System} {i j : Nat} {deed : Deed} (h : Step σ i deed σ')
    (hne : j ≠ i) : σ'.stage j = σ.stage j := by
  cases h <;> exact stage_next_of_ne σ _ _ hne

/-! ### Workers whom nobody interrupts -/

/-- Of two steps of one worker the second one says where it stands. -/
@[simp] lemma next_next (σ : System) (i : Nat) (s s' : Store) (stage stage' : Stage) :
    (σ.next i s stage).next i s' stage' = σ.next i s' stage' := by
  simp only [next, Function.update_idem]

lemma Run.trans {σ₀ σ₁ σ₂ : System} {moments moments' : List Moment} (h : Run σ₀ moments σ₁)
    (h' : Run σ₁ moments' σ₂) : Run σ₀ (moments ++ moments') σ₂ := by
  induction h' with
  | nil => rwa [List.append_nil]
  | snoc _ hstep ih =>
    rw [← List.append_assoc]
    exact ih.snoc hstep

/-- What a worker does who announces without an interruption: it finds nothing to tell, or its
exchange fails, or it marks entries. -/
def deedsAlone : List (List Deed) :=
  [[.turned], [.read, .began, .ended false], [.read, .began, .ended true, .marked]]

/-- A worker who announces without an interruption takes the steps of the announcement, and leaves
the database as it does. -/
theorem run_announcement_alone {σ : System} {i : Nat} {errand : Errand} {p : Panel} (c : Context)
    (hstage : σ.stage i = .waking errand p.notifier) (hstore : p.store = σ.store) :
    ∃ moments, Run σ moments (σ.next i (run errand.steps.run c p).2.store .idle) ∧
      moments.map (·.deed) ∈ deedsAlone := by
  by_cases hinquire : ∃ latest q,
      run errand.steps.inquire (c.during .inquiry) p = (.ok (.inr latest), q)
  · obtain ⟨latest, q, hinquire⟩ := hinquire
    have hread := Run.nil.snoc (Step.read (c.during .inquiry) hstage hstore hinquire)
    have hbegan := hread.snoc (Step.begin (stage_next_self _ _ _ _))
    have htalking := stage_next_self (σ.next i q.store (.informed errand latest q.notifier)) i
      q.store (.talking errand latest q.notifier)
    by_cases htell : ∃ q', run errand.steps.tell c q = (.ok none, q')
    · obtain ⟨q', htell⟩ := htell
      have hended := hbegan.snoc (Step.succeed c htalking rfl htell)
      have hmarked := hended.snoc
        (Step.mark (c.during .marking) (stage_next_self _ _ _ _) rfl)
      rw [Outbox.run_announcement_of_told hinquire htell]
      simp only [next_next] at hmarked
      exact ⟨_, hmarked, by simp [deedsAlone]⟩
    · have huntold : (run errand.steps.tell c q).1 ≠ .ok none :=
        fun h => htell ⟨_, Prod.ext h rfl⟩
      have hended := hbegan.snoc (Step.fail c htalking rfl huntold)
      rw [Outbox.run_announcement_of_untold hinquire huntold]
      simp only [next_next] at hended
      exact ⟨_, hended, by simp [deedsAlone]⟩
  · have hends : ∀ latest,
        (run errand.steps.inquire (c.during .inquiry) p).1 ≠ .ok (.inr latest) :=
      fun latest h => hinquire ⟨latest, _, Prod.ext h rfl⟩
    rw [Outbox.run_announcement_of_passed hends]
    exact ⟨_, Run.nil.snoc (Step.pass (c.during .inquiry) hstage hstore hends),
      by simp [deedsAlone]⟩

/-- A worker who makes a scheduled change without an interruption commits it and announces it, and
leaves the database as `scheduledChange` does. -/
theorem run_scheduledChange_alone {σ : System} {i : Nat} {p q : Panel} (c : Context)
    (action : String) (failureMessage : Json) {block : TransactionM Unit}
    (hspares : block.Spares .outbox) (hstage : σ.stage i = .idle) (hstore : p.store = σ.store)
    (hcommit : run (transaction (announced (.text action) block)) c p = (.ok (), q)) :
    ∃ moments, Run σ moments
        (σ.next i (run (scheduledChange (.text action) failureMessage block) c p).2.store .idle) ∧
      ∃ deeds ∈ deedsAlone, moments.map (·.deed) = .committed :: deeds := by
  have hcommitted := Run.nil.snoc (Step.commit c action block hstage hstore hspares hcommit)
  obtain ⟨moments, hrest, hdeeds⟩ :=
    run_announcement_alone c (stage_next_self σ i q.store (.waking .change q.notifier)) rfl
  have hrun : (run (scheduledChange (.text action) failureMessage block) c p).2 =
      (run Outbox.notifyAfterCommit c q).2 := by
    rw [run_transaction] at hcommit
    rw [run_scheduledChange]
    rcases hblock : commitBlock c p.store (announced (.text action) block) with e | ⟨⟨⟩, s⟩
    · rw [hblock] at hcommit
      cases hcommit
    · rw [hblock] at hcommit
      cases hcommit
      rfl
  rw [hrun]
  simp only [next_next] at hrest
  exact ⟨_, hcommitted.trans hrest, _, hdeeds, rfl⟩

end System

end HostingPanel
