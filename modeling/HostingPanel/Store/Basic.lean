import HostingPanel.Store.Table

/-!
# The store

The contents of the database: the rows of every table, the tables that are missing, and the largest
key that the outbox has ever given out.  `Store.set` replaces the rows of one table and leaves the
others alone.
-/

namespace HostingPanel

/-- The contents of the database. -/
structure Store where
  /-- The rows of each table, by key where there is one and else in the order of insertion. -/
  rows : (t : Table) → List t.Row
  /-- The tables that have been dropped. -/
  missing : List Table
  /-- The largest key of a committed outbox entry, also of one that is gone. -/
  lastOutboxId : Int

namespace Store

/-- The store without any rows. -/
def empty : Store where
  rows _ := []
  missing := []
  lastOutboxId := 0

instance : Inhabited Store := ⟨empty⟩

/-- Replaces the rows of a table. -/
def set (s : Store) (t : Table) (rs : List t.Row) : Store :=
  { s with rows := fun u => if h : t = u then h ▸ rs else s.rows u }

@[simp] theorem rows_set_self (s : Store) (t : Table) (rs : List t.Row) :
    (s.set t rs).rows t = rs := by
  simp [set]

theorem rows_set_of_ne (s : Store) {t u : Table} (rs : List t.Row) (h : t ≠ u) :
    (s.set t rs).rows u = s.rows u := by
  simp [set, h]

/-- Replacing the rows of a table by themselves changes nothing. -/
@[simp] theorem set_rows_self (s : Store) (t : Table) : s.set t (s.rows t) = s := by
  have : (fun u => if h : t = u then h ▸ s.rows t else s.rows u) = s.rows := by
    funext u
    split
    · rename_i h
      subst h
      rfl
    · rfl
  simp [set, this]

/-- Of two replacements of the same rows the second one counts. -/
theorem set_set (s : Store) (t : Table) (rs rs' : List t.Row) :
    (s.set t rs).set t rs' = s.set t rs' := by
  have rows : ((s.set t rs).set t rs').rows = (s.set t rs').rows := by
    funext u
    if same : t = u then
      subst same
      rw [rows_set_self, rows_set_self]
    else
      rw [rows_set_of_ne _ _ same, rows_set_of_ne _ _ same, rows_set_of_ne _ _ same]
  exact congrArg (fun rows => (⟨rows, s.missing, s.lastOutboxId⟩ : Store)) rows

/-- Replacements of the rows of two tables can change places. -/
theorem set_comm (s : Store) {t u : Table} (rs : List t.Row) (rs' : List u.Row) (h : t ≠ u) :
    (s.set t rs).set u rs' = (s.set u rs').set t rs := by
  have rows : ((s.set t rs).set u rs').rows = ((s.set u rs').set t rs).rows := by
    funext v
    if first : t = v then
      subst first
      rw [rows_set_of_ne _ _ (Ne.symm h), rows_set_self, rows_set_self]
    else if second : u = v then
      subst second
      rw [rows_set_of_ne _ _ h, rows_set_self, rows_set_self]
    else
      rw [rows_set_of_ne _ _ second, rows_set_of_ne _ _ first, rows_set_of_ne _ _ first,
        rows_set_of_ne _ _ second]
  exact congrArg (fun rows => (⟨rows, s.missing, s.lastOutboxId⟩ : Store)) rows

/-- Applies a function to the rows of a table. -/
def modify (s : Store) (t : Table) (f : List t.Row → List t.Row) : Store :=
  s.set t (f (s.rows t))

/-- Drops a table. -/
def drop (s : Store) (t : Table) : Store :=
  if s.missing.contains t then s
  else { s.set t [] with missing := t :: s.missing }

/-- Creates the outbox afresh if it is missing; its keys start from one again. -/
def createOutbox (s : Store) : Store :=
  if s.missing.contains .outbox then
    { s.set .outbox [] with missing := s.missing.erase .outbox, lastOutboxId := 0 }
  else s

end Store

end HostingPanel
