import HostingPanel.Proofs.Plans
import HostingPanel.Proofs.Scheduling

/-!
# Databases without faults

If no operation of the database is made to fail and no table is missing (`FaultFree`), a question or
a statement can fail only because of its parameters.  Then the commit of a block is the block, and
some statements run to their end if all their parameters can be bound.

Changes need more: a database that is full takes no entry for them.  `FaultFreeFor` says that there
are no faults and that the outbox has a key left for each of some changes.
-/

namespace HostingPanel

/-- No operation is made to fail, and no table is missing. -/
structure FaultFree (c : Context) (s : Store) : Prop where
  faults : c.faults = []
  missing : s.missing = []

/-- The outbox has a key left for the entry of each of a number of changes. -/
def Store.HasKeys (s : Store) (changes : Nat) : Prop :=
  ∃ id, s.nextKey? .outbox = some id ∧ id + changes ≤ Store.largestKey + 1

/-- A database in which nothing stops a number of changes: there are no faults, and it is not full
before the last of them has its entry. -/
structure FaultFreeFor (changes : Nat) (c : Context) (s : Store) : Prop extends FaultFree c s where
  keys : s.HasKeys changes

/-- A block that spares the outbox uses up none of its keys. -/
lemma TransactionM.Spares.nextKey?_eq {α : Type} {b : TransactionM α} (h : b.Spares .outbox)
    {c : Context} {s s' : Store} {a : α} (hrun : b c s = .ok (a, s')) :
    s'.nextKey? .outbox = s.nextKey? .outbox := by
  obtain ⟨hrows, hlast⟩ := h hrun
  rw [Store.nextKey?, Store.nextKey?, hrows, hlast]

/-- Why the first of some statements that cannot run for its parameters cannot run. -/
def Statement.bindFailure? (sts : List Statement) : Option Failure :=
  sts.findSome? fun st => Json.bindFailures? 1 st.footprint.params

/-- Some statements can run if the parameters of all of them can be bound. -/
lemma Statement.bindFailure?_eq_none_iff {sts : List Statement} : bindFailure? sts = none ↔
    ∀ st ∈ sts, Json.bindFailures? 1 st.footprint.params = none :=
  List.findSome?_eq_none_iff

namespace FaultFree

variable {c : Context} {s : Store}

lemma fault?_eq_none (h : FaultFree c s) (verb : Verb) (table : Option String) :
    c.fault? verb table = none := by
  rw [Context.fault?, h.faults]
  rfl

/-- A question or statement is stopped by its parameters only. -/
lemma obstacle?_eq (h : FaultFree c s) (f : Footprint) :
    f.obstacle? c s = Json.bindFailures? 1 f.params := by
  have hthere : (f.table :: f.mentions).find? s.missing.contains = none := by
    simp [h.missing]
  rw [Footprint.obstacle?, h.fault?_eq_none]
  simp only [hthere]

/-- Whether a question or statement can run depends on its parameters. -/
lemma checkFootprint_eq (h : FaultFree c s) (f : Footprint) :
    checkFootprint c s f =
      match Json.bindFailures? 1 f.params with
      | some e => .error e
      | none => .ok () := by
  have hcheck : checkFootprint c s f = (fun obstacle : Option Failure =>
      match obstacle with
      | some e => .error e
      | none => .ok ()) (f.obstacle? c s) := rfl
  rw [hcheck, h.obstacle?_eq]

lemma apply (h : FaultFree c s) (st : Statement) : FaultFree c (st.apply s) :=
  ⟨h.faults, by rw [Statement.missing_apply, h.missing]⟩

lemma applyAll (h : FaultFree c s) (sts : List Statement) :
    FaultFree c (Statement.applyAll sts s) :=
  ⟨h.faults, by rw [Statement.missing_applyAll, h.missing]⟩

/-! ### Questions, statements and commits -/

/-- A question on a connection of its own is answered if its parameters can be bound. -/
lemma readOnce_eq (h : FaultFree c s) {α : Type} (q : Query α) :
    readOnce c s q =
      match Json.bindFailures? 1 q.params with
      | some e => .error e
      | none => .ok (q.answer s) := by
  rw [readOnce, checkFault, h.fault?_eq_none, h.checkFootprint_eq]
  simp only [Query.footprint]
  cases Json.bindFailures? 1 q.params <;> rfl

/-- A question in a row of lookups is answered if its parameters can be bound. -/
lemma fetch_bind (h : FaultFree c s) {α β : Type} (q : Query α) (f : α → LookupM β) :
    (LookupM.fetch q >>= f) c s =
      match Json.bindFailures? 1 q.params with
      | some e => .error e
      | none => f (q.answer s) c s := by
  have hstep : (LookupM.fetch q >>= f) c s = (readOnce c s q).bind fun a => f a c s := rfl
  rw [hstep, h.readOnce_eq]
  cases Json.bindFailures? 1 q.params <;> rfl

/-- A question in a block is answered if its parameters can be bound. -/
lemma query_bind (h : FaultFree c s) {α β : Type} (q : Query α) (f : α → TransactionM β) :
    (TransactionM.query q >>= f) c s =
      match Json.bindFailures? 1 q.params with
      | some e => .error e
      | none => f (q.answer s) c s := by
  rw [TransactionM.bind_apply, TransactionM.query, h.checkFootprint_eq]
  simp only [Query.footprint]
  cases Json.bindFailures? 1 q.params <;> rfl

/-- A statement in a block is run if its parameters can be bound. -/
lemma execute_bind (h : FaultFree c s) (st : Statement) {β : Type} (f : Unit → TransactionM β) :
    (discard (TransactionM.execute st) >>= f) c s =
      match Json.bindFailures? 1 st.footprint.params with
      | some e => .error e
      | none => f () c (st.apply s) := by
  rw [TransactionM.bind_apply, TransactionM.discard_apply, TransactionM.execute,
    h.checkFootprint_eq]
  cases Json.bindFailures? 1 st.footprint.params <;> rfl

/-- Statements run to their end if all their parameters can be bound. -/
lemma executeAll_eq (h : FaultFree c s) (sts : List Statement) :
    TransactionM.executeAll sts c s =
      match Statement.bindFailure? sts with
      | some e => .error e
      | none => .ok ((), Statement.applyAll sts s) := by
  induction sts generalizing s with
  | nil => rfl
  | cons st sts ih =>
    have hstep : TransactionM.executeAll (st :: sts) =
        discard (TransactionM.execute st) >>= fun _ => TransactionM.executeAll sts := rfl
    rw [hstep, h.execute_bind, Statement.bindFailure?, List.findSome?_cons]
    cases Json.bindFailures? 1 st.footprint.params with
    | some e => rfl
    | none => exact ih (h.apply st)

/-- Statements that have run to their end can all be bound. -/
lemma bindFailure?_eq_none (h : FaultFree c s) {sts : List Statement} {r : Unit × Store}
    (hrun : TransactionM.executeAll sts c s = .ok r) : Statement.bindFailure? sts = none := by
  rw [h.executeAll_eq] at hrun
  cases hbind : Statement.bindFailure? sts with
  | none => rfl
  | some e =>
    rw [hbind] at hrun
    cases hrun

lemma commitBlock_eq (h : FaultFree c s) {α : Type} (body : TransactionM α) :
    commitBlock c s body = body c s := by
  rw [HostingPanel.commitBlock_eq, h.fault?_eq_none, h.fault?_eq_none, h.fault?_eq_none]
  cases body c s <;> rfl

/-- An announced block that has run fails only if the outbox has no key left. -/
lemma announced_eq (h : FaultFree c s) (action : String) {body : TransactionM Unit}
    (hspares : body.Spares .outbox) (hmissing : ∀ s', body c s = .ok ((), s') → s'.missing = []) :
    announced (.text action) body c s =
      match body c s with
      | .error e => .error e
      | .ok ((), changed) =>
        match s.nextKey? .outbox with
        | none => .error .keysExhausted
        | some id => .ok ((), Outbox.append changed id c.now (Outbox.shortened action)) := by
  rw [announced_apply]
  cases hbody : body c s with
  | error e => rfl
  | ok done =>
    obtain ⟨⟨⟩, changed⟩ := done
    have hchanged : FaultFree c changed := ⟨h.faults, hmissing changed hbody⟩
    simp only [Outbox.enqueue, Outbox.shorten, hchanged.checkFootprint_eq,
      hspares.nextKey?_eq hbody]
    cases s.nextKey? .outbox <;> rfl

end FaultFree

end HostingPanel
