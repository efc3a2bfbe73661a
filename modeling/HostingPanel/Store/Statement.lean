import HostingPanel.Context
import HostingPanel.Store.Basic
import HostingPanel.Store.Parameter

/-!
# Statements

What the panel asks of the database.  A `Query` reads the store; a `Statement` changes or removes
the rows of one table that it picks.  Each has a `Footprint`, the tables and parameters on which it
can fail before it runs; a statement that runs cannot fail.
-/

namespace HostingPanel

/-- What has to be in order before a statement can run. -/
structure Footprint where
  verb : Verb
  table : Table
  /-- The other tables that are read. -/
  mentions : List Table
  params : List Json

/-- Why a statement cannot run: a fault of the database, a missing table, or a parameter that
cannot be bound, in this order. -/
def Footprint.obstacle? (f : Footprint) (c : Context) (s : Store) : Option Failure :=
  match c.fault? f.verb (some f.table.name) with
  | some message => some (.database message)
  | none =>
    match (f.table :: f.mentions).find? s.missing.contains with
    | some t => some (.noSuchTable t.name)
    | none => Json.bindFailures? 1 f.params

/-- A question to the database. -/
structure Query (α : Type) where
  table : Table
  /-- The other tables that are read. -/
  mentions : List Table := []
  params : List Json := []
  answer : Store → α

/-- What has to be in order before a question can be answered. -/
def Query.footprint {α : Type} (q : Query α) : Footprint :=
  ⟨.select, q.table, q.mentions, q.params⟩

/-- A change of one table. -/
inductive Statement where
  /-- Changes the rows that are picked. -/
  | update (table : Table) (mentions : List Table) (params : List Json)
      (picks : Store → table.Row → Bool) (change : table.Row → table.Row)
  /-- Removes the rows that are picked. -/
  | delete (table : Table) (mentions : List Table) (params : List Json)
      (picks : Store → table.Row → Bool)

namespace Statement

/-- The table that a statement changes. -/
def table : Statement → Table
  | .update t _ _ _ _ => t
  | .delete t _ _ _ => t

/-- What has to be in order before a statement can run. -/
def footprint : Statement → Footprint
  | .update t mentions params _ _ => ⟨.update, t, mentions, params⟩
  | .delete t mentions params _ => ⟨.delete, t, mentions, params⟩

/-- The rows that a change leaves in place of a list of rows. -/
def updateRows {ρ : Type} (picks : ρ → Bool) (change : ρ → ρ) (rows : List ρ) : List ρ :=
  rows.map fun r => if picks r then change r else r

/-- The store after a statement.  The rows are picked in the store before it. -/
def apply : Statement → Store → Store
  | .update t _ _ picks change, s => s.modify t (updateRows (picks s) change)
  | .delete t _ _ picks, s => s.modify t (List.filter fun r => !picks s r)

/-- The number of rows that a statement picks. -/
def count : Statement → Store → Nat
  | .update t _ _ picks _, s => (s.rows t).countP (picks s)
  | .delete t _ _ picks, s => (s.rows t).countP (picks s)

theorem rows_apply_of_ne (st : Statement) (s : Store) {t : Table} (h : st.table ≠ t) :
    (st.apply s).rows t = s.rows t := by
  cases st with
  | update u _ _ _ _ => exact s.rows_set_of_ne _ h
  | delete u _ _ _ => exact s.rows_set_of_ne _ h

end Statement

end HostingPanel
