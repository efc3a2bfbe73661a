import HostingPanel.Operation
import HostingPanel.Store.Schema

/-!
# Edits by name

Changes that give their table and their columns by name: setting one cell and inserting one row.
Unlike the statements of the panel's own operations they can name what does not exist.
-/

namespace HostingPanel

/-- Why an operation on a table cannot run, where the table is given by its name. -/
def namedTable (c : Context) (verb : Verb) (name : String) : Except Failure Table :=
  match Table.named? name with
  | some t => .ok t
  | none =>
    match c.fault? verb (some name) with
    | some message => .error (.database message)
    | none => .error (.noSuchTable name)

/-- Sets a cell in the rows in which another column has a value. -/
structure CellEdit where
  table : String
  column : String
  value : Json
  /-- The column by which the rows are picked. -/
  keyColumn : String
  key : Json

namespace CellEdit

variable {t : Table}

/-- The rows of a table after a row has been changed, if no other row clashes with it.  A row whose
key has changed goes to another place. -/
def replaceRow (column : Column t.Row) (value : Json) (rows : List t.Row) (r : t.Row) :
    Except Failure (List t.Row) := do
  let changed ← column.write t.name value r
  let others := rows.filter fun q => t.keyColumn.get q != t.keyColumn.get r
  if others.any (column.clash changed) then
    throw (.notUnique (t.qualified column.name))
  return t.place changed others

/-- Changes the picked rows of a table one after the other. -/
def replaceRows (column : Column t.Row) (value : Json) (picked rows : List t.Row) :
    Except Failure (List t.Row) :=
  picked.foldlM (fun rows r => replaceRow column value rows r) rows

/-- Runs an edit inside a transaction; the answer is the number of rows that were picked. -/
def run (e : CellEdit) : TransactionM Nat := do
  let t ← namedTable (← read) .update e.table
  let s ← get
  checkFootprint (← read) s ⟨.update, t, [], []⟩
  match t.column? e.column, t.column? e.keyColumn with
  | none, _ => throw (.noSuchColumn e.column)
  | _, none => throw (.noSuchColumn e.keyColumn)
  | some column, some keyColumn =>
    checkFootprint (← read) s ⟨.update, t, [], [e.value, e.key]⟩
    let picked := (s.rows t).filter (keyColumn.isEqual e.key)
    set (s.set t (← replaceRows column e.value picked (s.rows t)))
    return picked.length

end CellEdit

/-- The first column that a row is given and its table does not have. -/
def unknownColumn? (t : Table) (row : List (String × Json)) : Option String :=
  (row.find? fun (name, _) => (t.column? name).isNone).map (·.1)

/-- The key of a row that is inserted on a connection of its own, and the store with it. -/
def insertOnce (c : Context) (s : Store) (table : String) (row : List (String × Json)) :
    Except Failure (Int × Store) := do
  checkFault c .connect
  match c.fault? .insert (some table) with
  | some message => throw (.database message)
  | none => if row.isEmpty then throw .emptyRow
  let t ← namedTable c .insert table
  checkFootprint c s ⟨.insert, t, [], []⟩
  match unknownColumn? t row with
  | some column => throw (.noColumnIn table column)
  | none => checkFootprint c s ⟨.insert, t, [], row.map (·.2)⟩
  let inserted ← s.insertRow t row
  checkFault c .commit
  return inserted

/-- Inserts a row that is given by some of its columns; the answer is its key. -/
def OperationM.insert (table : String) (row : List (String × Json)) : OperationM Int := fun c p =>
  match insertOnce c p.store table row with
  | .ok (id, s) => (.ok id, { p with store := s })
  | .error e => (.error e, p)

end HostingPanel
