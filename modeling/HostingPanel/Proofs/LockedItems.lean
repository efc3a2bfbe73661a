import HostingPanel.Proofs.NewAttempts

/-!
# Locked items

An item that the panel has moved belongs to the daemon until the daemon answers.  Two lists have to
agree for that: `Status.allowedFrom` says which requests the panel may write, and `Status.pending`
which requests wait for the daemon.  A request of the first list that is missing from the second one
is taken for the message of a failure.  Then the item may be moved again, and the administrator does
not see that it waits.

`Status.moves` makes moves one after the other without an answer in between, and
`Status.moves_eq_ok_iff` says which of them are permitted.  `one_move_per_answer_iff` says that the
change of a password is the only request that does not lock its item.
-/

namespace HostingPanel

open OperationM

/-! ### Moves -/

namespace Status

/-- Moves of the panel one after the other, each from the status that the one before has left.  The
first one that is not permitted stops them. -/
def moves (current : Option String) : List (Option String) → Except Failure (Option String)
  | [] => .ok current
  | target :: targets => do
    let next ← checkTransition current target
    moves (some next) targets

/-- An item with a status is locked if every move from there is refused. -/
def IsLocked (status : Option String) : Prop :=
  ∀ target, checkTransition status target =
    .error (.forbiddenMove (.ofText? status) (.ofText? target))

variable {current last : Option String} {target : String}

/-- The panel never moves an item to a status that only the daemon writes. -/
lemma ne_terminal_of_mayMove (h : mayMove current target = true) :
    some target ≠ some "ok" ∧ some target ≠ some "disabled" ∧ some target ≠ some "error" := by
  simpa [terminal, ok, disabled, error] using (Bool.and_eq_true_iff.1 h).1

/-- Every request that the panel may write waits for the daemon, except the change of a password. -/
lemma isPending_of_target (h : mayMove current target = true) (hne : target ≠ toChangePassword) :
    isPending (some target) = true := by
  have hwaits : ∀ requests ∈ [[toChange, toChangePassword, toDelete, toDisable, toRestore],
      [toEnable, toDelete], toAdd :: afterFailure], ∀ s ∈ requests, s ≠ toChangePassword →
        isPending (some s) = true := by
    decide
  rcases mayMove_cases h with ⟨-, htarget⟩ | ⟨-, htarget⟩ | htarget
  · exact hwaits _ (by simp) target htarget hne
  · exact hwaits _ (by simp) target htarget hne
  · exact hwaits _ (by simp) target htarget hne

/-- From the change of a password an item is moved as from the message of a failure. -/
lemma mayMove_from_toChangePassword_iff :
    mayMove (some toChangePassword) target = true ↔ target ∈ afterFailure := by
  have hallowed : allowedFrom (some toChangePassword) = afterFailure := by
    decide
  have hterminal : ∀ s ∈ afterFailure, terminal.contains s = false := by
    decide
  rw [mayMove, hallowed, Bool.and_eq_true, List.contains_iff_mem]
  exact and_iff_right_of_imp fun htarget => by rw [hterminal target htarget, Bool.not_false]

lemma isLocked_of_isPending (h : isPending current = true) : IsLocked current := by
  intro target
  cases target with
  | none => rfl
  | some target =>
    have hmay : mayMove current target = false := by
      by_contra hmay
      rw [Debugger.isPending_of_mayMove (by simpa using hmay)] at h
      cases h
    rw [checkTransition, hmay]
    rfl

/-- An item whose password is to be changed is not locked. -/
lemma not_isLocked_toChangePassword : ¬ IsLocked (some toChangePassword) := by
  intro h
  have hmove : checkTransition (some toChangePassword) (some toChange) = .ok toChange := rfl
  rw [h] at hmove
  cases hmove

/-- A first move that succeeds has been permitted, and the others start from where it leads. -/
lemma moves_cons_eq_ok_iff {targets : List (Option String)} {first : Option String} :
    moves current (first :: targets) = .ok last ↔
      ∃ next, first = some next ∧ mayMove current next = true ∧
        moves (some next) targets = .ok last := by
  cases first with
  | none => simp [moves, checkTransition, bind, Except.bind]
  | some next =>
    cases hmay : mayMove current next <;>
      simp [moves, checkTransition, hmay, bind, Except.bind]

lemma eq_nil_of_isLocked {targets : List (Option String)} (h : IsLocked current)
    (hmoves : moves current targets = .ok last) : targets = [] := by
  cases targets with
  | nil => rfl
  | cons first targets =>
    rw [moves, h first] at hmoves
    cases hmoves

/-- Which moves succeed without an answer of the daemon: a single one, or two if the first one is
the change of a password. -/
lemma moves_eq_ok_iff {targets : List (Option String)} (hne : targets ≠ []) :
    moves current targets = .ok last ↔
      ∃ target, last = some target ∧
        (targets = [some target] ∧ mayMove current target = true ∨
          targets = [some toChangePassword, some target] ∧ current = some ok ∧
            target ∈ afterFailure) := by
  constructor
  · intro hmoves
    obtain ⟨first, rest, rfl⟩ := List.exists_cons_of_ne_nil hne
    obtain ⟨next, rfl, hmay, hrest⟩ := moves_cons_eq_ok_iff.1 hmoves
    by_cases hpassword : next = toChangePassword
    · subst hpassword
      cases rest with
      | nil =>
        cases hrest
        exact ⟨_, rfl, .inl ⟨rfl, hmay⟩⟩
      | cons second rest =>
        -- The item was not locked, but the second request locks it.
        obtain ⟨target, rfl, hagain, hrest⟩ := moves_cons_eq_ok_iff.1 hrest
        have htarget := mayMove_from_toChangePassword_iff.1 hagain
        have hne : target ≠ toChangePassword := by
          rintro rfl
          exact absurd htarget (by decide)
        have hlocked := isLocked_of_isPending (isPending_of_target hagain hne)
        obtain rfl := eq_nil_of_isLocked hlocked hrest
        cases hrest
        exact ⟨target, rfl, .inr ⟨rfl, eq_ok_of_mayMove (by decide) hmay, htarget⟩⟩
    · have hlocked := isLocked_of_isPending (isPending_of_target hmay hpassword)
      obtain rfl := eq_nil_of_isLocked hlocked hrest
      cases hrest
      exact ⟨next, rfl, .inl ⟨rfl, hmay⟩⟩
  · rintro ⟨target, rfl, ⟨rfl, hmay⟩ | ⟨rfl, rfl, htarget⟩⟩
    · exact moves_cons_eq_ok_iff.2 ⟨target, rfl, hmay, rfl⟩
    · exact moves_cons_eq_ok_iff.2 ⟨_, rfl, by decide, moves_cons_eq_ok_iff.2
        ⟨target, rfl, mayMove_from_toChangePassword_iff.2 htarget, rfl⟩⟩

end Status

/-! ### What the administrator sees -/

namespace Debugger

/-- An item with a status counts for so many of those that wait, whatever its kind, if the count is
less by so many without its row. -/
def CountsFor (n : Nat) (status : Option String) : Prop :=
  ∀ t ∈ ItemType.all, ∀ (c : Context) (p : Panel) (above below : List t.table.Row)
    (r : t.table.Row), CanCount c p.store → p.store.rows t.table = above ++ r :: below →
      t.isItem r = true → t.status r = status →
      ∃ m, run countPending c p = (.ok (m + n), p) ∧
        run countPending c { p with store := p.store.set t.table (above ++ below) } =
          (.ok m, { p with store := p.store.set t.table (above ++ below) })

/-- An item counts for one if it waits, and else for none. -/
lemma countsFor_isPending (status : Option String) :
    CountsFor (if Status.isPending status then 1 else 0) status := by
  rintro t ht c p above below r hcan hrows hitem rfl
  have hcan' : CanCount c (p.store.set t.table (above ++ below)) :=
    ⟨hcan.connect, hcan.select, hcan.present⟩
  have hkind : (pendingItems t).answer p.store =
      (pendingItems t).answer (p.store.set t.table (above ++ below)) +
        if Status.isPending (t.status r) then 1 else 0 := by
    simp only [pendingItems, Store.rows_set_self, hrows, List.countP_append, List.countP_cons,
      hitem, Bool.and_true]
    omega
  have hothers : ∀ u ∈ ItemType.all, u.table ≠ t.table →
      p.store.rows u.table = (p.store.set t.table (above ++ below)).rows u.table :=
    fun u _ htable => (p.store.rows_set_of_ne _ htable.symm).symm
  refine ⟨pendingTotal (p.store.set t.table (above ++ below)), ?_, ?_⟩
  · rw [run_countPending_of_canCount hcan, pendingTotal_eq_add ht hothers hkind]
  · exact run_countPending_of_canCount hcan'

/-- A panel with nothing but a domain that has a status. -/
def loneDomain (status : Option String) : Panel where
  store := Store.empty.set .domain [{ id := 1, status := status }]
  notifier := Notifier.create {}

/-- There is only one number that an item counts for. -/
lemma CountsFor.unique {n m : Nat} {status : Option String} (h : CountsFor n status)
    (h' : CountsFor m status) : n = m := by
  have hfree : FaultFree {} (loneDomain status).store := ⟨rfl, rfl⟩
  have hrows : (loneDomain status).store.rows .domain = [] ++ { id := 1, status := status } :: [] :=
    Store.rows_set_self _ _ _
  have hdomain : ItemType.domain ∈ ItemType.all := by
    simp [ItemType.all]
  obtain ⟨k, hwith, hwithout⟩ := h _ hdomain {} _ [] [] _ hfree.canCount hrows rfl rfl
  obtain ⟨k', hwith', hwithout'⟩ := h' _ hdomain {} _ [] [] _ hfree.canCount hrows rfl rfl
  obtain ⟨hk, -⟩ := Prod.mk.inj (hwithout.symm.trans hwithout')
  obtain ⟨hn, -⟩ := Prod.mk.inj (hwith.symm.trans hwith')
  have hrest : k = k' := Except.ok.inj hk
  have hall : k + n = k' + m := Except.ok.inj hn
  omega

lemma countsFor_one_iff {status : Option String} :
    CountsFor 1 status ↔ Status.isPending status = true := by
  constructor
  · intro h
    have hone := h.unique (countsFor_isPending status)
    split at hone
    · assumption
    · omega
  · intro h
    have hcounts := countsFor_isPending status
    rwa [if_pos h] at hcounts

end Debugger

/-- Between two answers of the daemon the panel makes one move, unless this is the change of a
password.  Take any status of an item, or none, and any moves, at least one, each of which is
permitted from the status that the one before has left.  They do not lead to a status that only the
daemon writes.  It is a single move, which leads to a status that counts among those that wait for
every kind of item and from which every further move is refused, if and only if the moves do not
change the password.  If they do, the item was in service, and either this was the only move, and
the item is neither counted nor locked, or it has been moved once more, to be changed or deleted. -/
theorem one_move_per_answer_iff {current last : Option String} {targets : List (Option String)}
    (hne : targets ≠ []) (hmoves : Status.moves current targets = .ok last) :
    (last ≠ some "ok" ∧ last ≠ some "disabled" ∧ last ≠ some "error") ∧
      ((targets.length = 1 ∧ Debugger.CountsFor 1 last ∧ Status.IsLocked last) ↔
        some "tochangepwd" ∉ targets) ∧
      (some "tochangepwd" ∈ targets → current = some "ok" ∧
        (targets = [some "tochangepwd"] ∧ Debugger.CountsFor 0 last ∧ ¬ Status.IsLocked last ∨
          targets = [some "tochangepwd", some "tochange"] ∨
          targets = [some "tochangepwd", some "todelete"])) := by
  obtain ⟨target, rfl, ⟨rfl, hmay⟩ | ⟨rfl, rfl, htarget⟩⟩ := (Status.moves_eq_ok_iff hne).1 hmoves
  · refine ⟨Status.ne_terminal_of_mayMove hmay, ?_, ?_⟩
    · rw [Debugger.countsFor_one_iff]
      constructor
      · rintro ⟨-, hwaits, -⟩ hpassword
        obtain rfl := Option.some.inj (List.mem_singleton.1 hpassword)
        cases hwaits
      · intro hpassword
        have hwaits := Status.isPending_of_target hmay fun htarget =>
          hpassword (List.mem_singleton.2 (congrArg some htarget.symm))
        exact ⟨rfl, hwaits, Status.isLocked_of_isPending hwaits⟩
    · intro hpassword
      obtain rfl := Option.some.inj (List.mem_singleton.1 hpassword)
      exact ⟨Status.eq_ok_of_mayMove (by decide) hmay,
        .inl ⟨rfl, Debugger.countsFor_isPending _, Status.not_isLocked_toChangePassword⟩⟩
  · have hagain := Status.mayMove_from_toChangePassword_iff.2 htarget
    have htwo : [some Status.toChangePassword, some target].length ≠ 1 := by
      simp
    refine ⟨Status.ne_terminal_of_mayMove hagain, iff_of_false (fun h => htwo h.1) ?_, ?_⟩
    · exact not_not.2 List.mem_cons_self
    · intro _
      refine ⟨rfl, .inr ?_⟩
      rcases List.mem_pair.1 htarget with rfl | rfl
      · exact .inl rfl
      · exact .inr rfl

/-- The deletion of an item in service is one move, and the item is locked afterwards. -/
theorem one_move_per_answer_iff_sample :
    Status.moves (some "ok") [some "todelete"] = .ok (some "todelete") ∧
      Debugger.CountsFor 1 (some "todelete") ∧ Status.IsLocked (some "todelete") := by
  have hmoves : Status.moves (some "ok") [some "todelete"] = .ok (some "todelete") := rfl
  obtain ⟨-, hiff, -⟩ := one_move_per_answer_iff (by simp) hmoves
  obtain ⟨-, hcounts, hlocked⟩ := hiff.2 (by decide)
  exact ⟨hmoves, hcounts, hlocked⟩

/-- A panel with a customer whose password is to be changed. -/
def samplePasswordChange : Panel where
  store := Store.empty.set .admin
    [{ id := 7, name := some "mona", role := some "user", status := some "tochangepwd" }]
  notifier := Notifier.create {}

/-- The password of a customer in service is to be changed, and before the daemon has answered the
customer is moved once more.  The administrator sees nothing that waits. -/
theorem password_change_leaves_item_movable :
    Status.moves (some "ok") [some "tochangepwd", some "tochange"] = .ok (some "tochange") ∧
      Status.checkTransition (some "ok") (some "tochangepwd") = .ok "tochangepwd" ∧
      Status.checkTransition (some "tochangepwd") (some "tochange") = .ok "tochange" ∧
      run Debugger.countPending {} samplePasswordChange = (.ok 0, samplePasswordChange) := by
  exact ⟨rfl, rfl, rfl, rfl⟩

end HostingPanel
