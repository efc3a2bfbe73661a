import Mathlib.Tactic.Lemma
import HostingPanel.Transaction

/-!
# What a block of statements does

A question or a statement on a connection of its own, and the commit of a block, are short sequences
of steps, each of which can fail.  The first section takes such a sequence apart: what has succeeded
has succeeded step by step.

A block that runs to its end has changed its store by some statements, one after the other, and by
nothing else.  `TransactionM.Only P` says that all of them have a property `P`.  The consequence
that matters for the outbox is `TransactionM.Only.spares`: a block whose statements are all about
other tables leaves a table as it is.

`TransactionM.Built P Q` says of which statements and questions a block is put together.  It is
proved of a block by following its text, and whatever holds of the parts and is kept when they are
put together holds of the block (`TransactionM.Built.only`).
-/

namespace HostingPanel

/-! ### Connections -/

lemma except_bind_eq_ok {α β : Type} {x : Except Failure α} {f : α → Except Failure β} {b : β}
    (h : (x >>= f) = .ok b) : ∃ a, x = .ok a ∧ f a = .ok b := by
  cases x with
  | error e => cases h
  | ok a => exact ⟨a, rfl, h⟩

/-- A question that has been answered has the answer that the store gives. -/
lemma readOnce_eq_ok {α : Type} {c : Context} {s : Store} {q : Query α} {a : α}
    (h : readOnce c s q = .ok a) : a = q.answer s := by
  obtain ⟨_, -, h⟩ := except_bind_eq_ok h
  obtain ⟨_, -, h⟩ := except_bind_eq_ok h
  cases h
  rfl

/-- A statement on a connection of its own that ran has been applied. -/
lemma executeOnce_eq_ok {c : Context} {s s' : Store} {st : Statement} {n : Nat}
    (h : executeOnce c s st = .ok (n, s')) : n = st.count s ∧ s' = st.apply s := by
  obtain ⟨_, -, h⟩ := except_bind_eq_ok h
  obtain ⟨_, -, h⟩ := except_bind_eq_ok h
  obtain ⟨_, -, h⟩ := except_bind_eq_ok h
  cases h
  exact ⟨rfl, rfl⟩

/-- A commit step by step: each of the four steps can stop it. -/
lemma commitBlock_eq {α : Type} (c : Context) (s : Store) (body : TransactionM α) :
    commitBlock c s body =
      match c.fault? .connect none with
      | some message => .error (.database message)
      | none =>
        match c.fault? .begin none with
        | some message => .error (.database message)
        | none =>
          match body c s with
          | .error e => .error e
          | .ok r =>
            match c.fault? .commit none with
            | some message => .error (.database message)
            | none => .ok r := by
  unfold commitBlock checkFault
  cases c.fault? .connect none with
  | some message => rfl
  | none =>
    cases c.fault? .begin none with
    | some message => rfl
    | none =>
      cases body c s with
      | error e => rfl
      | ok r => cases c.fault? .commit none <;> rfl

/-- A block that has been committed has run to its end. -/
lemma commitBlock_eq_ok {α : Type} {c : Context} {s : Store} {body : TransactionM α}
    {r : α × Store} (h : commitBlock c s body = .ok r) : body c s = .ok r := by
  obtain ⟨_, -, h⟩ := except_bind_eq_ok h
  obtain ⟨_, -, h⟩ := except_bind_eq_ok h
  obtain ⟨done, hbody, h⟩ := except_bind_eq_ok h
  obtain ⟨_, -, h⟩ := except_bind_eq_ok h
  cases h
  exact hbody

namespace Statement

/-- The rows that a statement picks. -/
def picks : (st : Statement) → Store → st.table.Row → Bool
  | .update _ _ _ picks _ => picks
  | .delete _ _ _ picks => picks

/-- The store after some statements, one after the other. -/
def applyAll (sts : List Statement) (s : Store) : Store :=
  sts.foldl (fun s st => st.apply s) s

@[simp] lemma applyAll_nil (s : Store) : applyAll [] s = s := rfl

@[simp] lemma applyAll_cons (st : Statement) (sts : List Statement) (s : Store) :
    applyAll (st :: sts) s = applyAll sts (st.apply s) := rfl

/-- Statements in two runs apply themselves one run after the other. -/
lemma applyAll_append (sts more : List Statement) (s : Store) :
    applyAll (sts ++ more) s = applyAll more (applyAll sts s) :=
  List.foldl_append

@[simp] lemma lastOutboxId_apply (st : Statement) (s : Store) :
    (st.apply s).lastOutboxId = s.lastOutboxId := by
  cases st <;> rfl

@[simp] lemma missing_apply (st : Statement) (s : Store) :
    (st.apply s).missing = s.missing := by
  cases st <;> rfl

/-- Statements do not touch the largest key that the outbox has given out. -/
@[simp] lemma lastOutboxId_applyAll (sts : List Statement) (s : Store) :
    (applyAll sts s).lastOutboxId = s.lastOutboxId := by
  induction sts generalizing s with
  | nil => rfl
  | cons st sts ih => rw [applyAll_cons, ih, lastOutboxId_apply]

@[simp] lemma missing_applyAll (sts : List Statement) (s : Store) :
    (applyAll sts s).missing = s.missing := by
  induction sts generalizing s with
  | nil => rfl
  | cons st sts ih => rw [applyAll_cons, ih, missing_apply]

/-- Statements about other tables leave a table as it is. -/
lemma rows_applyAll_of_ne {sts : List Statement} {t : Table} (h : ∀ st ∈ sts, st.table ≠ t)
    (s : Store) : (applyAll sts s).rows t = s.rows t := by
  induction sts generalizing s with
  | nil => rfl
  | cons st sts ih =>
    have hfirst : (st.apply s).rows t = s.rows t := rows_apply_of_ne st s (h st (by simp))
    have hrest : ∀ st' ∈ sts, st'.table ≠ t := fun st' hst' => h st' (by simp [hst'])
    rw [applyAll_cons, ih hrest, hfirst]

end Statement

namespace TransactionM

variable {α β : Type}

/-! ### Running blocks step by step -/

/-- A block that follows another one runs on the store that the first one leaves, and only if the
first one has succeeded. -/
lemma bind_apply (t : TransactionM α) (f : α → TransactionM β) (c : Context) (s : Store) :
    (t >>= f) c s =
      match t c s with
      | .ok (a, s') => f a c s'
      | .error e => .error e := by
  have step : (t >>= f) c s = (t c s).bind fun r => f r.1 c r.2 := rfl
  rw [step]
  rcases t c s with e | ⟨a, s'⟩ <;> rfl

/-- Two blocks in a row succeed if the first one does and then the second one. -/
lemma bind_eq_ok {t : TransactionM α} {f : α → TransactionM β} {c : Context} {s s' : Store} {b : β}
    (h : (t >>= f) c s = .ok (b, s')) :
    ∃ a between, t c s = .ok (a, between) ∧ f a c between = .ok (b, s') := by
  obtain ⟨⟨a, between⟩, hfirst, hsecond⟩ := except_bind_eq_ok h
  exact ⟨a, between, hfirst, hsecond⟩

/-- A question that has been answered inside a block has left the store as it is. -/
lemma query_eq_ok {q : Query α} {c : Context} {s s' : Store} {a : α}
    (h : query q c s = .ok (a, s')) : a = q.answer s ∧ s' = s := by
  unfold query at h
  split at h
  · cases h
    exact ⟨rfl, rfl⟩
  · cases h

lemma discard_apply (t : TransactionM α) (c : Context) (s : Store) :
    (discard t : TransactionM Unit) c s =
      match t c s with
      | .ok (_, s') => .ok ((), s')
      | .error e => .error e :=
  bind_apply t (fun _ => Pure.pure ()) c s

/-- A statement without its answer that ran has been applied. -/
lemma discard_execute_eq_ok {st : Statement} {c : Context} {s s' : Store} {u : Unit}
    (h : (discard (execute st) : TransactionM Unit) c s = .ok (u, s')) : s' = st.apply s := by
  rw [discard_apply] at h
  split at h
  · rename_i hexecute
    cases h
    exact (execute_eq_ok_iff.1 hexecute).2.2
  · cases h

/-- Statements one after the other that ran to their end have all been applied. -/
lemma executeAll_eq_ok {sts : List Statement} {c : Context} {s s' : Store} {u : Unit}
    (h : executeAll sts c s = .ok (u, s')) : s' = Statement.applyAll sts s := by
  induction sts generalizing s with
  | nil =>
    cases h
    rfl
  | cons st sts ih =>
    obtain ⟨_, between, hfirst, hrest⟩ := bind_eq_ok h
    rw [Statement.applyAll_cons, ← discard_execute_eq_ok hfirst]
    exact ih hrest

/-! ### Blocks of statements with a property -/

/-- A block that runs to its end has run some statements, all of them with a property, and has
changed nothing else. -/
def Only (P : Statement → Prop) (t : TransactionM α) : Prop :=
  ∀ ⦃c : Context⦄ ⦃s s' : Store⦄ ⦃a : α⦄, t c s = .ok (a, s') →
    ∃ sts, (∀ st ∈ sts, P st) ∧ s' = Statement.applyAll sts s

namespace Only

variable {P Q : Statement → Prop}

lemma pure (a : α) : Only P (Pure.pure a : TransactionM α) := by
  intro c s s' b h
  cases h
  exact ⟨[], by simp, rfl⟩

lemma throw (e : Failure) : Only P (MonadExcept.throw e : TransactionM α) := by
  intro c s s' a h
  cases h

lemma query (q : Query α) : Only P (TransactionM.query q) := by
  intro c s s' a h
  obtain ⟨-, rfl⟩ := query_eq_ok h
  exact ⟨[], by simp, rfl⟩

lemma execute {st : Statement} (hst : P st) : Only P (TransactionM.execute st) := by
  intro c s s' n h
  obtain ⟨-, -, happly⟩ := execute_eq_ok_iff.1 h
  exact ⟨[st], by simpa using hst, happly⟩

lemma bind {t : TransactionM α} {f : α → TransactionM β} (ht : Only P t) (hf : ∀ a, Only P (f a)) :
    Only P (t >>= f) := by
  intro c s s' b h
  obtain ⟨a, between, hfirst, hsecond⟩ := bind_eq_ok h
  obtain ⟨sts, hsts, rfl⟩ := ht hfirst
  obtain ⟨more, hmore, rfl⟩ := hf a hsecond
  refine ⟨sts ++ more, ?_, (Statement.applyAll_append sts more s).symm⟩
  intro st hst
  rcases List.mem_append.1 hst with hst | hst
  · exact hsts st hst
  · exact hmore st hst

lemma mono {t : TransactionM α} (hPQ : ∀ st, P st → Q st) (ht : Only P t) : Only Q t := by
  intro c s s' a h
  obtain ⟨sts, hsts, hs'⟩ := ht h
  exact ⟨sts, fun st hst => hPQ st (hsts st hst), hs'⟩

end Only

/-! ### How a block is put together -/

/-- A block that is put together from answers, failures, questions to tables with a property `Q` and
statements with a property `P`. -/
inductive Built (P : Statement → Prop) (Q : Table → Prop) : {α : Type} → TransactionM α → Prop where
  | pure {α : Type} (a : α) : Built P Q (Pure.pure a)
  | throw {α : Type} (e : Failure) : Built P Q (MonadExcept.throw e : TransactionM α)
  | query {α : Type} (q : Query α) (hq : Q q.table) : Built P Q (TransactionM.query q)
  | execute {st : Statement} (hst : P st) : Built P Q (TransactionM.execute st)
  | bind {α β : Type} {t : TransactionM α} {f : α → TransactionM β} (ht : Built P Q t)
    (hf : ∀ a, Built P Q (f a)) : Built P Q (t >>= f)

namespace Built

variable {P : Statement → Prop} {Q : Table → Prop}

/-- A block runs no statements but those from which it is put together. -/
theorem only {t : TransactionM α} (h : Built P Q t) : Only P t := by
  induction h with
  | pure a => exact Only.pure a
  | throw e => exact Only.throw e
  | query q hq => exact Only.query q
  | execute hst => exact Only.execute hst
  | bind _ _ ih ihf => exact ih.bind ihf

/-- A value that may not be there is an answer or a failure. -/
lemma lift (r : Except Failure α) : Built P Q (liftM r : TransactionM α) := by
  cases r with
  | error e => exact Built.throw e
  | ok a => exact Built.pure a

/-- Answering with something else needs no further parts. -/
lemma map {t : TransactionM α} (f : α → β) (ht : Built P Q t) : Built P Q (f <$> t) :=
  ht.bind fun a => Built.pure (f a)

lemma discard {t : TransactionM α} (ht : Built P Q t) : Built P Q (Functor.discard t) :=
  ht.map _

/-- Statements one after the other are put together from themselves. -/
lemma executeAll {sts : List Statement} (hsts : ∀ st ∈ sts, P st) :
    Built P Q (TransactionM.executeAll sts) := by
  induction sts with
  | nil => exact Built.pure ()
  | cons st sts ih =>
    have hrest : Built P Q (TransactionM.executeAll sts) :=
      ih fun st' hst' => hsts st' (by simp [hst'])
    exact (Built.execute (hsts st (by simp))).discard.bind fun _ => hrest

end Built

/-! ### Tables that a block leaves alone -/

/-- A block that leaves a table as it is, and with it the largest key of the outbox. -/
def Spares (t : Table) (b : TransactionM α) : Prop :=
  ∀ ⦃c : Context⦄ ⦃s s' : Store⦄ ⦃a : α⦄, b c s = .ok (a, s') →
    s'.rows t = s.rows t ∧ s'.lastOutboxId = s.lastOutboxId

/-- A block whose statements are all about other tables leaves a table as it is. -/
theorem Only.spares {t : Table} {b : TransactionM α} (h : Only (·.table ≠ t) b) : b.Spares t := by
  intro c s s' a hrun
  obtain ⟨sts, hsts, rfl⟩ := h hrun
  exact ⟨Statement.rows_applyAll_of_ne hsts s, Statement.lastOutboxId_applyAll sts s⟩

end TransactionM

end HostingPanel
