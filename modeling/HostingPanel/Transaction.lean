import HostingPanel.Store.Statement

/-!
# Transactions

A block of statements works on a store of its own.  `commitBlock` opens a connection, begins a
transaction, runs the block and commits; only then does its store take the place of the old one.
Whatever fails on the way, the old store stands.  `readOnce` and `executeOnce` are the same for a
single question and a single statement.
-/

namespace HostingPanel

/-- A block of statements inside a transaction. -/
abbrev TransactionM := ReaderT Context (StateT Store (Except Failure))

/-- Stops if an operation of the database fails. -/
def checkFault (c : Context) (verb : Verb) : Except Failure Unit :=
  match c.fault? verb none with
  | some message => .error (.database message)
  | none => .ok ()

/-- Stops if a statement cannot run. -/
def checkFootprint (c : Context) (s : Store) (f : Footprint) : Except Failure Unit :=
  match f.obstacle? c s with
  | some e => .error e
  | none => .ok ()

namespace TransactionM

/-- Asks a question inside a transaction. -/
def query {α : Type} (q : Query α) : TransactionM α := fun c s =>
  match checkFootprint c s q.footprint with
  | .ok _ => .ok (q.answer s, s)
  | .error e => .error e

/-- Runs a statement inside a transaction; the answer is the number of rows that it picked. -/
def execute (st : Statement) : TransactionM Nat := fun c s =>
  match checkFootprint c s st.footprint with
  | .ok _ => .ok (st.count s, st.apply s)
  | .error e => .error e

/-- Runs statements one after the other. -/
def executeAll (sts : List Statement) : TransactionM Unit :=
  sts.forM fun st => discard (execute st)

/-- A statement that ran has answered with its count and applied itself. -/
theorem execute_eq_ok_iff {st : Statement} {c : Context} {s s' : Store} {n : Nat} :
    execute st c s = .ok (n, s') ↔
      st.footprint.obstacle? c s = none ∧ n = st.count s ∧ s' = st.apply s := by
  unfold execute checkFootprint
  cases st.footprint.obstacle? c s with
  | none =>
    simp only [Except.ok.injEq, Prod.mk.injEq, true_and]
    exact ⟨fun h => ⟨h.1.symm, h.2.symm⟩, fun h => ⟨h.1.symm, h.2.symm⟩⟩
  | some e => simp

end TransactionM

/-- The result of a block and the store that it commits. -/
def commitBlock {α : Type} (c : Context) (s : Store) (body : TransactionM α) :
    Except Failure (α × Store) := do
  checkFault c .connect
  checkFault c .begin
  let done ← body c s
  checkFault c .commit
  return done

/-- The answer to a question on a connection of its own. -/
def readOnce {α : Type} (c : Context) (s : Store) (q : Query α) : Except Failure α := do
  checkFault c .connect
  checkFootprint c s q.footprint
  return q.answer s

/-- The count of a statement on a connection of its own, and the store that it commits. -/
def executeOnce (c : Context) (s : Store) (st : Statement) : Except Failure (Nat × Store) := do
  checkFault c .connect
  checkFootprint c s st.footprint
  checkFault c .commit
  return (st.count s, st.apply s)

end HostingPanel
