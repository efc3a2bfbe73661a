import HostingPanel.Proofs.PendingWork
import Mathlib.Data.List.Nodup

/-!
# Lists of targets after the deletion of a mail account

A mail account that goes leaves the lists of targets of the other accounts.  A search by `LIKE` over
both columns in which such a list can stand finds the candidates, and the entries of their lists
decide.  `Jobs.pruned` is what becomes of a candidate and `Jobs.leftMailbox` of any account; since
keys are keys, no candidate is changed on behalf of another one (`Jobs.rows_detachAll`).

The search is not exact.  That it finds too much does no harm, but a database text is compared up to
its first NUL only, and an address that stands behind one is overlooked (`Jobs.IsOverlooked`).
`mail_deletion_prunes_lists` says that all the others are treated as they ought to be.

Nor does the loop ask for statuses: `mail_deletion_keeps_deletions_iff` says when an account that
waits for its deletion goes on waiting.
-/

namespace HostingPanel

open OperationM Statement

namespace Jobs

/-! ### What becomes of the other accounts -/

/-- The text of the list of targets. -/
def listText (m : Mailbox) : Option String :=
  if isCatchAll m then m.account else m.forward

lemma items_listText (m : Mailbox) : Text.items (listText m) = targets m := rfl

/-- A mail account whose targets an address has left. -/
def pruned (address : Option String) (m : Mailbox) : Mailbox :=
  match address with
  | none => m
  | some a =>
    if a ∉ targets m then m
    else if ∀ e ∈ targets m, e = a then { m with status := some Status.toDelete }
    else { withTargets m ((targets m).filter (· != a)) with status := some Status.toChange }

/-- Whether the search for an address finds an account. -/
def isFound (address : String) (m : Mailbox) : Bool :=
  Cell.isLike (Text.containing address) m.account ||
    Cell.isLike (Text.containing address) m.forward

/-- A mail account after the account with a key has been scheduled for deletion. -/
def scheduledMailbox (id : Json) (m : Mailbox) : Mailbox :=
  if id.equalsKey m.id then { m with status := some Status.toDelete } else m

/-- A mail account after the deletion of the account with a key and an address. -/
def leftMailbox (id : Json) (address : Option String) (m : Mailbox) : Mailbox :=
  if id.equalsKey m.id then { m with status := some Status.toDelete }
  else if isFound (Json.shownName address) m then pruned address m
  else m

section Pruned

variable {a : String} {m : Mailbox}

/-- An account that does not list the address stays as it is. -/
lemma pruned_of_notMem (ha : a ∉ targets m) : pruned (some a) m = m :=
  if_pos ha

lemma pruned_of_forall_ne {address : Option String} (h : ∀ e ∈ targets m, address ≠ some e) :
    pruned address m = m := by
  cases address with
  | none => rfl
  | some a => exact pruned_of_notMem fun ha => h a ha rfl

/-- An account that lists nothing else is to be deleted. -/
lemma pruned_of_forall (ha : a ∈ targets m) (hall : ∀ e ∈ targets m, e = a) :
    pruned (some a) m = { m with status := some Status.toDelete } := by
  simp only [pruned, if_neg (not_not.2 ha), if_pos hall]

/-- An account that lists something else is to be changed. -/
lemma pruned_of_exists (ha : a ∈ targets m) (hother : ∃ e ∈ targets m, e ≠ a) :
    pruned (some a) m =
      { withTargets m ((targets m).filter (· != a)) with status := some Status.toChange } := by
  have hnot : ¬ ∀ e ∈ targets m, e = a := by
    simpa using hother
  simp only [pruned, if_neg (not_not.2 ha), if_neg hnot]

/-- The list of a catch-all stands in the column of its account. -/
lemma withTargets_of_mark (hmark : m.forward = some catchAllMark) (list : List String) :
    withTargets m list = { m with account := some (Text.joinItems list) } :=
  if_pos (by simp [isCatchAll, Cell.isText, hmark])

/-- The list of a forward stands in the column of its own. -/
lemma withTargets_of_ne_mark (hmark : m.forward ≠ some catchAllMark) (list : List String) :
    withTargets m list = { m with forward := some (Text.joinItems list) } :=
  if_neg (by simp [isCatchAll, Cell.isText, hmark])

lemma targets_of_mark (hmark : m.forward = some catchAllMark) :
    targets m = Text.items m.account := by
  simp [targets, isCatchAll, Cell.isText, hmark]

lemma targets_of_ne_mark (hmark : m.forward ≠ some catchAllMark) :
    targets m = Text.items m.forward := by
  simp [targets, isCatchAll, Cell.isText, hmark]

end Pruned

@[simp] lemma id_pruned (address : Option String) (m : Mailbox) : (pruned address m).id = m.id := by
  unfold pruned withTargets
  split
  · rfl
  · split_ifs <;> rfl

@[simp] lemma domainId_pruned (address : Option String) (m : Mailbox) :
    (pruned address m).domainId = m.domainId := by
  unfold pruned withTargets
  split
  · rfl
  · split_ifs <;> rfl

@[simp] lemma id_scheduledMailbox (id : Json) (m : Mailbox) :
    (scheduledMailbox id m).id = m.id := by
  unfold scheduledMailbox
  split <;> rfl

@[simp] lemma id_leftMailbox (id : Json) (address : Option String) (m : Mailbox) :
    (leftMailbox id address m).id = m.id := by
  unfold leftMailbox
  split_ifs
  · rfl
  · exact id_pruned address m
  · rfl

@[simp] lemma domainId_leftMailbox (id : Json) (address : Option String) (m : Mailbox) :
    (leftMailbox id address m).domainId = m.domainId := by
  unfold leftMailbox
  split_ifs
  · rfl
  · exact domainId_pruned address m
  · rfl

/-! ### The loop over the candidates -/

/-- Taking an address out of the list of an account changes this account only. -/
lemma rows_detach (address : Option String) {m : Mailbox} {s : Store}
    (hkey : ∀ r : Mailbox, r ∈ s.rows .mail → r.id = m.id → r = m) :
    (applyAll (detach address m) s).rows .mail =
      (s.rows .mail).map fun (r : Mailbox) => if r.id = m.id then pruned address r else r := by
  have hchange : ∀ change : Mailbox → Mailbox, change m = pruned address m →
      updateRows (fun (r : Mailbox) => r.id == m.id) change (s.rows .mail) =
        (s.rows .mail).map fun (r : Mailbox) => if r.id = m.id then pruned address r else r := by
    intro change hchange
    refine List.map_congr_left fun (r : Mailbox) hr => ?_
    by_cases hid : r.id = m.id
    · obtain rfl := hkey r hr hid
      simp only [BEq.rfl, if_true, hchange]
    · simp only [hid, beq_iff_eq, if_false]
  have hstays : pruned address m = m → s.rows .mail =
      (s.rows .mail).map fun (r : Mailbox) => if r.id = m.id then pruned address r else r := by
    intro hsame
    refine Eq.trans ?_ (hchange id hsame.symm)
    simp only [updateRows, id_eq, ite_self, List.map_id']
  unfold detach
  split
  · exact hstays rfl
  · rename_i a
    split
    · rename_i hunlisted
      have hnot : a ∉ targets m := by
        simpa using hunlisted
      exact hstays (pruned_of_notMem hnot)
    · rename_i hlisted
      have hmem : a ∈ targets m := by
        simpa using hlisted
      simp only
      split
      · rename_i hempty
        have hall : ∀ e ∈ targets m, e = a := by
          simpa using hempty
        exact (s.rows_set_self .mail _).trans (hchange _ (pruned_of_forall hmem hall).symm)
      · rename_i hrest
        have hother : ∃ e ∈ targets m, e ≠ a := by
          simpa using hrest
        refine (s.rows_set_self .mail _).trans (hchange _ ?_)
        rw [pruned_of_exists hmem hother, withTargets]
        split <;> rfl

/-- Taking an address out of the lists of several accounts changes each of them on its own. -/
lemma rows_detachAll {address : Option String} {found : List Mailbox}
    (hfound : (found.map (·.id)).Nodup) {s : Store}
    (hkey : ∀ m ∈ found, ∀ r : Mailbox, r ∈ s.rows .mail → r.id = m.id → r = m) :
    (applyAll (found.flatMap (detach address)) s).rows .mail =
      (s.rows .mail).map fun (r : Mailbox) =>
        if r.id ∈ found.map (·.id) then pruned address r else r := by
  induction found generalizing s with
  | nil =>
    have hnone : (fun r : Mailbox => if r.id ∈ ([] : List Mailbox).map (·.id) then
        pruned address r else r) = id :=
      funext fun r => if_neg List.not_mem_nil
    rw [hnone, List.map_id]
    rfl
  | cons m found ih =>
    obtain ⟨hm, hfound⟩ : m.id ∉ found.map (·.id) ∧ (found.map (·.id)).Nodup :=
      List.nodup_cons.1 hfound
    obtain ⟨hkeym, hkey⟩ := List.forall_mem_cons.1 hkey
    have hfirst := rows_detach address hkeym
    rw [List.flatMap_cons, applyAll_append, ih hfound, hfirst, List.map_map]
    · refine List.map_congr_left fun (r : Mailbox) _ => ?_
      by_cases hid : r.id = m.id
      · have hnow : r.id ∈ (m :: found).map (·.id) := by
          rw [hid]
          exact List.mem_cons_self
        rw [← hid] at hm
        simp only [Function.comp_apply, if_pos hid, id_pruned, if_neg hm, if_pos hnow]
      · have hrest : r.id ∈ (m :: found).map (·.id) ↔ r.id ∈ found.map (·.id) := by
          simp only [List.map_cons, List.mem_cons, hid, false_or]
        simp only [Function.comp_apply, if_neg hid, hrest]
    · -- What the first account has become is none of the others.
      intro m' hm' r' hr' hid'
      rw [hfirst] at hr'
      obtain ⟨r, hr, rfl⟩ := List.mem_map.1 hr'
      by_cases hid : r.id = m.id
      · rw [if_pos hid, id_pruned, hid] at hid'
        rw [hid'] at hm
        exact absurd (List.mem_map_of_mem hm') hm
      · rw [if_neg hid] at hid' ⊢
        exact hkey m' hm' r hr hid'

/-- Taking an address out of the lists of the accounts that have been picked changes these and
leaves the others alone. -/
lemma rows_detachAll_filter (address : Option String) {s : Store}
    (hkeys : ((s.rows .mail).map fun (r : Mailbox) => r.id).Nodup) (picks : Mailbox → Bool) :
    (applyAll (((s.rows .mail).filter picks).flatMap (detach address)) s).rows .mail =
      (s.rows .mail).map fun (r : Mailbox) => if picks r then pruned address r else r := by
  have heq : ∀ r : Mailbox, r ∈ s.rows .mail → ∀ r' : Mailbox, r' ∈ s.rows .mail →
      r'.id = r.id → r' = r :=
    fun r hr r' hr' hid => List.inj_on_of_nodup_map hkeys hr' hr hid
  have hfound : (((s.rows .mail).filter picks).map fun (r : Mailbox) => r.id).Nodup :=
    hkeys.sublist (List.filter_sublist.map _)
  refine (rows_detachAll hfound fun r hr r' hr' => heq r (List.mem_filter.1 hr).1 r' hr').trans ?_
  refine List.map_congr_left fun (r : Mailbox) hr => ?_
  have hpicked : r.id ∈ ((s.rows .mail).filter picks).map (fun (r : Mailbox) => r.id) ↔
      picks r = true := by
    constructor
    · intro hmem
      obtain ⟨r', hr', hid⟩ := List.mem_map.1 hmem
      obtain ⟨hr', hpicked⟩ := List.mem_filter.1 hr'
      rwa [heq r hr r' hr' hid] at hpicked
    · exact fun hpicked => List.mem_map_of_mem (List.mem_filter.2 ⟨hr, hpicked⟩)
  simp only [hpicked]

end Jobs

lemma Table.Keyed.nodup_id {rows : List Mailbox} (h : Table.Keyed .mail rows) :
    (rows.map (·.id)).Nodup := by
  refine List.pairwise_map.2 (List.Pairwise.imp (fun {m m'} hclash hid => ?_) h)
  have hkey := hclash (.key (Table.keyColumn .mail)) (by simp)
  simp [Column.clash, Table.keyColumn, hid] at hkey

namespace Jobs

/-- The search passes over the account that goes, since its key does not differ, and sees the others
as they were. -/
lemma leftMailbox_eq {id : Json} {m : Mailbox} (hid : id.equalsKey m.id = true)
    (address : Option String) (r : Mailbox) :
    (if id.differsInt (scheduledMailbox id r).id &&
          isFound (Json.shownName address) (scheduledMailbox id r) then
        pruned address (scheduledMailbox id r)
      else scheduledMailbox id r) = leftMailbox id address r := by
  rw [id_scheduledMailbox, Json.differsInt_of_equalsKey hid, leftMailbox, scheduledMailbox]
  cases hgoes : id.equalsKey r.id with
  | true =>
    have hsame : r.id = m.id := Json.eq_of_equalsKey hgoes hid
    simp [hsame]
  | false =>
    have hother : r.id ≠ m.id := by
      intro hsame
      rw [hsame, hid] at hgoes
      cases hgoes
    simp [hother]

/-- The mail accounts after the one with the key has been scheduled for deletion. -/
lemma rows_scheduleMailbox (id : Json) (s : Store) :
    ((scheduleMailbox id).apply s).rows .mail = (s.rows .mail).map (scheduledMailbox id) :=
  s.rows_set_self .mail _

/-- What the statements of the deletion of a mail account make of the mail accounts, account by
account. -/
lemma rows_mailBlock {id : Json} {address : Option String} {c : Context} {s s' : Store} {u : Unit}
    {m : Mailbox} (hids : ((s.rows .mail).map fun (r : Mailbox) => r.id).Nodup)
    (hid : id.equalsKey m.id = true) (h : mailBlock id address c s = .ok (u, s')) :
    s'.rows .mail = (s.rows .mail).map (leftMailbox id address) := by
  have hkeys :
      ((((scheduleMailbox id).apply s).rows .mail).map fun (r : Mailbox) => r.id).Nodup := by
    rw [rows_scheduleMailbox, List.map_map]
    simpa only [Function.comp_def, id_scheduledMailbox] using hids
  have hdetached := rows_detachAll_filter address hkeys
    fun r => id.differsInt r.id && isFound (Json.shownName address) r
  rw [mailBlock_eq_ok h, rows_apply_of_ne purgeAutoreplies _ (by decide)]
  refine hdetached.trans ?_
  rw [rows_scheduleMailbox, List.map_map]
  exact List.map_congr_left fun (r : Mailbox) _ => leftMailbox_eq hid address r

/-! ### Accounts that are overlooked -/

/-- The search does not find an account although the address is one of its targets. -/
def IsOverlooked (address : Option String) (m : Mailbox) : Prop :=
  ∃ a ∈ targets m, address = some a ∧ isFound a m = false

/-- The search finds an account if no NUL stands before the address in the list. -/
lemma isFound_of_listText {m : Mailbox} {a text : String} {before after : List Char}
    (htext : listText m = some text) (hsplit : text.toList = before ++ (a.toList ++ after))
    (hwhole : Char.ofNat 0 ∉ before) : isFound a m = true := by
  have hpattern : (Text.containing a).toList = '%' :: (a.toList ++ ['%']) := by
    simp [Text.containing]
  have hlike : Cell.isLike (Text.containing a) (some text) = true := by
    simp only [Cell.isLike, Option.any_some, hpattern, hsplit]
    exact Text.like_containing hwhole after
  unfold listText at htext
  rw [isFound, Bool.or_eq_true]
  split at htext
  · exact .inl (htext ▸ hlike)
  · exact .inr (htext ▸ hlike)

/-- In the list of an account that is overlooked a NUL stands before the address, wherever that
stands. -/
lemma IsOverlooked.exists_text {address : Option String} {m : Mailbox}
    (h : IsOverlooked address m) :
    ∃ a text, address = some a ∧ listText m = some text ∧ a.toList <:+: text.toList ∧
      ∀ before after, text.toList = before ++ (a.toList ++ after) → Char.ofNat 0 ∈ before := by
  obtain ⟨a, hlisted, haddress, hnot⟩ := h
  have hinfix : a.toList <:+: ((listText m).getD "").toList := Text.infix_of_mem_items hlisted
  obtain ⟨text, htext⟩ : ∃ text, listText m = some text := by
    refine Option.ne_none_iff_exists'.1 fun hnone => ?_
    rw [← items_listText, hnone] at hlisted
    cases hlisted
  rw [htext] at hinfix
  refine ⟨a, text, haddress, htext, hinfix, fun before after hsplit => ?_⟩
  by_contra hwhole
  rw [isFound_of_listText htext hsplit hwhole] at hnot
  cases hnot

/-! ### What ought to become of an account -/

/-- What the departure of an address ought to make of an account. -/
structure Detached (address : Option String) (m m' : Mailbox) : Prop where
  /-- An account that does not list the address stays as it is. -/
  spared : (∀ a ∈ targets m, address ≠ some a) → m' = m
  /-- An account that lists nothing else is to be deleted. -/
  emptied : ∀ a ∈ targets m, address = some a → (∀ e ∈ targets m, e = a) →
    m' = { m with status := some "todelete" }
  /-- A catch-all that lists something else is to be changed, and keeps the rest of its list. -/
  catchAll : ∀ a ∈ targets m, address = some a → (∃ e ∈ targets m, e ≠ a) →
    m.forward = some "_no_" → m' = { m with
      status := some "tochange"
      account := some (Text.joinItems ((targets m).filter (· != a))) }
  /-- A forward that lists something else is to be changed, and keeps the rest of its list. -/
  forward : ∀ a ∈ targets m, address = some a → (∃ e ∈ targets m, e ≠ a) →
    m.forward ≠ some "_no_" → m' = { m with
      status := some "tochange"
      forward := some (Text.joinItems ((targets m).filter (· != a))) }

lemma detached_pruned (address : Option String) (m : Mailbox) :
    Detached address m (pruned address m) := by
  refine ⟨pruned_of_forall_ne, fun a ha haddress hall => ?_, fun a ha haddress hother hmark => ?_,
    fun a ha haddress hother hmark => ?_⟩
  · rw [haddress, pruned_of_forall ha hall]
    rfl
  · rw [haddress, pruned_of_exists ha hother, withTargets_of_mark hmark]
    rfl
  · rw [haddress, pruned_of_exists ha hother, withTargets_of_ne_mark hmark]
    rfl

/-- The list of a changed account is read as it has been written, if the mark of a catch-all does
not stand in a list with other entries. -/
lemma targets_pruned {a : String} {m : Mailbox} (ha : a ∈ targets m)
    (hother : ∃ e ∈ targets m, e ≠ a)
    (hmark : catchAllMark ∈ Text.items m.forward →
      ∀ e ∈ Text.items m.forward, e = catchAllMark) :
    targets (pruned (some a) m) = (targets m).filter (· != a) := by
  set rest := (targets m).filter (· != a) with hrest
  have hread : Text.items (some (Text.joinItems rest)) = rest :=
    Text.items_joinItems fun e he => Text.proper_of_mem_items (List.mem_filter.1 he).1
  rw [pruned_of_exists ha hother, ← hrest]
  by_cases hcatchAll : m.forward = some catchAllMark
  · rw [withTargets_of_mark hcatchAll, targets_of_mark]
    · exact hread
    · exact hcatchAll
  · rw [withTargets_of_ne_mark hcatchAll, targets_of_ne_mark]
    · exact hread
    · -- Else the rest of the list would be the mark, and the address another entry beside it.
      intro hwritten
      have hjoined : Text.joinItems rest = catchAllMark := Option.some.inj hwritten
      have hone : rest = [catchAllMark] := by
        rw [← hread, hjoined]
        decide
      obtain ⟨hlisted, hne⟩ : catchAllMark ∈ targets m ∧ (catchAllMark != a) = true :=
        List.mem_filter.1 (hone ▸ List.mem_singleton_self catchAllMark)
      rw [targets_of_ne_mark hcatchAll] at hlisted ha
      simp [hmark hlisted a ha] at hne

/-- A candidate that is not to be deleted does not list the address any more. -/
lemma notMem_targets_pruned {a : String} {m : Mailbox}
    (hmark : catchAllMark ∈ Text.items m.forward →
      ∀ e ∈ Text.items m.forward, e = catchAllMark)
    (hstatus : (pruned (some a) m).status ≠ some Status.toDelete) :
    a ∉ targets (pruned (some a) m) := by
  by_cases ha : a ∈ targets m
  · by_cases hall : ∀ e ∈ targets m, e = a
    · rw [pruned_of_forall ha hall] at hstatus
      exact absurd rfl hstatus
    · have hother : ∃ e ∈ targets m, e ≠ a := by
        simpa using hall
      rw [targets_pruned ha hother hmark]
      simp
  · rwa [pruned_of_notMem ha]

/-- A mail account that has been deleted with success was there, and the mail accounts are left as
`leftMailbox` says. -/
theorem rows_of_deleteMailAccount {user : User} {id : Json} {c : Context} {p q : Panel}
    {answer : String} (hkeyed : Table.Keyed .mail (p.store.rows .mail))
    (hrun : run (deleteMailAccount user id) c p = (.ok answer, q)) :
    ∃ m : Mailbox, m ∈ p.store.rows .mail ∧ id.equalsKey m.id = true ∧
      q.store.rows .mail = (p.store.rows .mail).map (leftMailbox id m.address) := by
  have hjob : run (Job.run user (.deleteMailAccount id)) c p = (.ok answer, q) :=
    hrun
  obtain ⟨plan, hplan, changed, -, -, hblock, -, hrows, -⟩ := commitsWithEntry_of_run_job hjob
  obtain ⟨customer, domain, m, -, -, hfound, rfl⟩ := planMailAccount_eq_ok hplan
  have hpicked := List.find?_some hfound
  simp only [Bool.and_eq_true] at hpicked
  refine ⟨m, List.mem_of_find?_eq_some hfound, hpicked.1, ?_⟩
  rw [hrows .mail (by decide)]
  exact rows_mailBlock hkeyed.nodup_id hpicked.1 hblock

section Left

variable {id : Json} {m r : Mailbox}

lemma leftMailbox_of_eq (hid : id.equalsKey m.id = true) (hsame : r.id = m.id)
    (address : Option String) :
    leftMailbox id address r = { r with status := some Status.toDelete } := by
  rw [← hsame] at hid
  exact if_pos hid

/-- Another account is left as it was if the search does not find it, and pruned if it does. -/
lemma leftMailbox_of_ne (hid : id.equalsKey m.id = true) (hother : r.id ≠ m.id)
    (address : Option String) :
    leftMailbox id address r =
      if isFound (Json.shownName address) r then pruned address r else r :=
  if_neg fun hsame => hother (Json.eq_of_equalsKey hsame hid)

lemma leftMailbox_of_isOverlooked (hid : id.equalsKey m.id = true) (hother : r.id ≠ m.id)
    {address : Option String} (h : IsOverlooked address r) : leftMailbox id address r = r := by
  obtain ⟨a, -, rfl, hnot⟩ := h
  rw [leftMailbox_of_ne hid hother]
  exact if_neg (Bool.eq_false_iff.1 hnot)

lemma leftMailbox_of_not_isOverlooked (hid : id.equalsKey m.id = true) (hother : r.id ≠ m.id)
    {address : Option String} (h : ¬ IsOverlooked address r) :
    leftMailbox id address r = pruned address r := by
  rw [leftMailbox_of_ne hid hother]
  cases address with
  | none => exact ite_self _
  | some a =>
    by_cases ha : a ∈ targets r
    · have hfound : isFound a r = true := by
        rw [← Bool.not_eq_false]
        exact fun hnot => h ⟨a, ha, rfl, hnot⟩
      exact if_pos hfound
    · rw [pruned_of_notMem ha]
      exact ite_self _

end Left

end Jobs

open Jobs

/-- The deletion of a mail account takes its address out of the lists of the others, save those that
are overlooked.  Take any database in which no two mail accounts have the same key, and any account
that is deleted with success.  The account is to be deleted.  Any other account that is not
overlooked is treated as it ought to be: if it lists the address and something else, it is to be
changed and keeps the rest of its list in order; if it lists nothing else, it is to be deleted, with
its list as it is; and if it does not list the address, it stays as it is, even if the address is
part of an entry.  An account that is overlooked stays as it is, and in its list a NUL stands before
the address wherever that stands.  So if in no list the mark of a catch-all stands among other
entries, an account that is not to be deleted and still lists the address is one of these. -/
theorem mail_deletion_prunes_lists {user : User} {id : Json} {c : Context} {p q : Panel}
    {answer : String} (hkeyed : Table.Keyed .mail (p.store.rows .mail))
    (hrun : run (Jobs.deleteMailAccount user id) c p = (.ok answer, q)) :
    ∃ m : Mailbox, m ∈ p.store.rows .mail ∧ id.equalsKey m.id = true ∧
      List.Forall₂ (fun r r' : Mailbox =>
        (r.id = m.id → r' = { r with status := some "todelete" }) ∧
        (r.id ≠ m.id → ¬ IsOverlooked m.address r → Detached m.address r r') ∧
        (r.id ≠ m.id → IsOverlooked m.address r → r' = r))
        (p.store.rows .mail) (q.store.rows .mail) ∧
      (∀ r, IsOverlooked m.address r → ∃ a text, m.address = some a ∧ listText r = some text ∧
        a.toList <:+: text.toList ∧
        ∀ before after, text.toList = before ++ (a.toList ++ after) → Char.ofNat 0 ∈ before) ∧
      ((∀ r : Mailbox, r ∈ p.store.rows .mail → "_no_" ∈ Text.items r.forward →
          ∀ e ∈ Text.items r.forward, e = "_no_") →
        ∀ r' : Mailbox, r' ∈ q.store.rows .mail → r'.status ≠ some "todelete" →
          ∀ a ∈ targets r', m.address = some a → IsOverlooked m.address r') := by
  obtain ⟨m, hm, hid, hrows⟩ := rows_of_deleteMailAccount hkeyed hrun
  refine ⟨m, hm, hid, ?_, fun r hoverlooked => hoverlooked.exists_text, ?_⟩
  · rw [hrows, List.forall₂_map_right_iff, List.forall₂_same]
    intro r _
    refine ⟨fun hsame => leftMailbox_of_eq hid hsame _, fun hother hnot => ?_,
      fun hother hoverlooked => leftMailbox_of_isOverlooked hid hother hoverlooked⟩
    rw [leftMailbox_of_not_isOverlooked hid hother hnot]
    exact detached_pruned m.address r
  · intro hmark r' hr' hstatus a ha haddress
    rw [hrows] at hr'
    obtain ⟨r, hr, rfl⟩ := List.mem_map.1 hr'
    by_cases hsame : r.id = m.id
    · rw [leftMailbox_of_eq hid hsame] at hstatus
      exact absurd rfl hstatus
    · by_cases hoverlooked : IsOverlooked m.address r
      · rwa [leftMailbox_of_isOverlooked hid hsame hoverlooked]
      · rw [leftMailbox_of_not_isOverlooked hid hsame hoverlooked, haddress] at hstatus ha
        exact absurd ha (notMem_targets_pruned (hmark r hr) hstatus)

/-- A mail account of a customer, with a status. -/
def sampleMailbox (status : String) : Mailbox :=
  { id := 5, account := some "anna", domainId := some (.whole 1), status := some status,
    address := some "anna@example.test" }

/-- A forward of the customer, with a list of targets and a status. -/
def sampleForward (list status : String) : Mailbox :=
  { id := 6, account := some "team", forward := some list, domainId := some (.whole 1),
    status := some status, address := some "team@example.test" }

/-- A list of targets with the address of the mail account. -/
def sampleTeam : String :=
  "anna@example.test,bert@example.test"

/-- A panel with the mail account in service and the forward. -/
def sampleMail (list status : String) : Panel where
  store :=
    (Store.empty.set .domain
      [{ id := 1, name := some "example.test", ownerId := some (.whole 7) }]).set .mail
      [sampleMailbox "ok", sampleForward list status]
  notifier := Notifier.create {}

/-- The panel after the customer has deleted the mail account. -/
def sampleMailLeft (list status : String) : Panel :=
  (run (Jobs.deleteMailAccount sampleCustomer (.int 5)) {} (sampleMail list status)).2

lemma keyed_sampleMail (list status : String) :
    Table.Keyed .mail ((sampleMail list status).store.rows .mail) := by
  simp [sampleMail, sampleMailbox, sampleForward, Table.Keyed, Table.columns, Table.keyColumn,
    Column.clash]

/-- The mail account of the panel is the one with its key. -/
lemma eq_sampleMailbox {list status : String} {m : Mailbox}
    (hm : m ∈ (sampleMail list status).store.rows .mail)
    (hid : (Json.int 5).equalsKey m.id = true) : m = sampleMailbox "ok" := by
  rcases List.mem_cons.1 hm with rfl | hm
  · rfl
  · rw [List.mem_singleton.1 hm, Json.equalsKey_int] at hid
    exact absurd hid (by simp [sampleForward])

/-- A forward with two targets keeps the other one. -/
theorem mail_deletion_prunes_lists_sample :
    run (Jobs.deleteMailAccount sampleCustomer (.int 5)) {}
        (sampleMail sampleTeam "ok") =
        (.ok "Mail account successfully scheduled for deletion.", sampleMailLeft sampleTeam "ok") ∧
      (sampleMailLeft sampleTeam "ok").store.rows .mail =
        [sampleMailbox "todelete", sampleForward "bert@example.test" "tochange"] ∧
      Detached (some "anna@example.test") (sampleForward sampleTeam "ok")
        (sampleForward "bert@example.test" "tochange") := by
  have hrun : run (Jobs.deleteMailAccount sampleCustomer (.int 5)) {}
      (sampleMail sampleTeam "ok") =
      (.ok "Mail account successfully scheduled for deletion.", sampleMailLeft sampleTeam "ok") :=
    Prod.ext rfl rfl
  have hafter : (sampleMailLeft sampleTeam "ok").store.rows .mail =
      [sampleMailbox "todelete", sampleForward "bert@example.test" "tochange"] := by
    decide +kernel
  have hfound : ¬ IsOverlooked (some "anna@example.test") (sampleForward sampleTeam "ok") := by
    rintro ⟨a, -, haddress, hnot⟩
    cases haddress
    exact absurd hnot (by decide +kernel)
  obtain ⟨m, hm, hid, hrows, -⟩ := mail_deletion_prunes_lists (keyed_sampleMail _ _) hrun
  obtain rfl := eq_sampleMailbox hm hid
  have hbefore : (sampleMail sampleTeam "ok").store.rows .mail =
      [sampleMailbox "ok", sampleForward sampleTeam "ok"] :=
    rfl
  rw [hbefore, hafter] at hrows
  obtain ⟨-, hrows⟩ := List.forall₂_cons.1 hrows
  obtain ⟨⟨-, hdetached, -⟩, -⟩ := List.forall₂_cons.1 hrows
  exact ⟨hrun, hafter, hdetached (by decide) hfound⟩

/-- A list of targets with a NUL before the address. -/
def sampleHiddenList : String :=
  "old\x00@example.test,anna@example.test"

/-- The search does not find the forward with this list, although the address of the deleted account
is a target of it: it stays in service and keeps its list. -/
theorem nul_hides_address :
    run (Jobs.deleteMailAccount sampleCustomer (.int 5)) {} (sampleMail sampleHiddenList "ok") =
        (.ok "Mail account successfully scheduled for deletion.",
          sampleMailLeft sampleHiddenList "ok") ∧
      (sampleMailLeft sampleHiddenList "ok").store.rows .mail =
        [sampleMailbox "todelete", sampleForward sampleHiddenList "ok"] ∧
      targets (sampleForward sampleHiddenList "ok") =
        ["old\x00@example.test", "anna@example.test"] ∧
      ¬ Detached (some "anna@example.test") (sampleForward sampleHiddenList "ok")
        (sampleForward sampleHiddenList "ok") := by
  have hafter : (sampleMailLeft sampleHiddenList "ok").store.rows .mail =
      [sampleMailbox "todelete", sampleForward sampleHiddenList "ok"] := by
    decide +kernel
  have htargets : targets (sampleForward sampleHiddenList "ok") =
      ["old\x00@example.test", "anna@example.test"] := by
    decide +kernel
  refine ⟨Prod.ext rfl rfl, hafter, htargets, fun hdetached => ?_⟩
  have hchanged := hdetached.forward "anna@example.test" (by rw [htargets]; simp) rfl
    ⟨"old\x00@example.test", by rw [htargets]; simp, by decide⟩ (by decide)
  have hstatus : some "ok" = some "tochange" := congrArg Mailbox.status hchanged
  exact absurd hstatus (by decide)

/-! ### Accounts that wait for their deletion -/

/-- If mail accounts are changed one by one and keep their keys, deletions survive exactly if each
account that waits for its deletion goes on waiting. -/
lemma Store.keepsDeletions_mail_iff {s s' : Store} {change : Mailbox → Mailbox}
    (hid : ∀ r, (change r).id = r.id) (hrows : s'.rows .mail = (s.rows .mail).map change) :
    s.KeepsDeletions [.mail] s' ↔ ∀ r : Mailbox, r ∈ s.rows .mail →
      r.status = some Status.toDelete → (change r).status = some Status.toDelete := by
  simp only [Store.KeepsDeletions, List.forall_mem_singleton, hrows, List.forall₂_map_right_iff,
    List.forall₂_same]
  refine forall₂_congr fun r _ => ⟨fun hmoved => hmoved.status _ rfl, fun hstays => ?_⟩
  refine ⟨Table.sameKeys_mail (hid r), fun column hcolumn => ?_⟩
  cases hcolumn
  exact hstays

/-- A candidate goes on waiting for its deletion exactly if it lists nothing but the address, or not
even this. -/
lemma Jobs.status_pruned_iff {address : Option String} {r : Mailbox}
    (hdeleted : r.status = some Status.toDelete) :
    (pruned address r).status = some Status.toDelete ↔
      ∀ a ∈ targets r, address = some a → ∀ e ∈ targets r, e = a := by
  constructor
  · rintro hstays a ha rfl
    by_contra hnot
    have hother : ∃ e ∈ targets r, e ≠ a := by
      simpa using hnot
    rw [pruned_of_exists ha hother] at hstays
    have hstatus : some Status.toChange = some Status.toDelete := hstays
    exact absurd hstatus (by decide)
  · intro hall
    cases address with
    | none => exact hdeleted
    | some a =>
      by_cases ha : a ∈ targets r
      · rw [pruned_of_forall ha (hall a ha rfl)]
      · rw [pruned_of_notMem ha]
        exact hdeleted

/-- When a mail account is deleted, pending deletions of the others survive exactly if none of them
is found with something else in its list.  Take any database in which no two mail accounts have the
same key, and any account that is deleted with success.  All mail accounts that were waiting for
their deletion go on waiting if and only if every other one of them that lists the address of the
account, and is not overlooked, lists nothing else. -/
theorem mail_deletion_keeps_deletions_iff {user : User} {id : Json} {c : Context} {p q : Panel}
    {answer : String} (hkeyed : Table.Keyed .mail (p.store.rows .mail))
    (hrun : run (Jobs.deleteMailAccount user id) c p = (.ok answer, q)) :
    ∃ m : Mailbox, m ∈ p.store.rows .mail ∧ id.equalsKey m.id = true ∧
      (p.store.KeepsDeletions [.mail] q.store ↔
        ∀ r : Mailbox, r ∈ p.store.rows .mail → r.status = some "todelete" → r.id ≠ m.id →
          ¬ IsOverlooked m.address r →
            ∀ a ∈ targets r, m.address = some a → ∀ e ∈ targets r, e = a) := by
  obtain ⟨m, hm, hid, hrows⟩ := rows_of_deleteMailAccount hkeyed hrun
  refine ⟨m, hm, hid, (Store.keepsDeletions_mail_iff (id_leftMailbox id m.address) hrows).trans ?_⟩
  refine forall₃_congr fun r _ hdeleted => ?_
  by_cases hsame : r.id = m.id
  · rw [leftMailbox_of_eq hid hsame]
    exact iff_of_true rfl fun hother => absurd hsame hother
  · by_cases hoverlooked : IsOverlooked m.address r
    · rw [leftMailbox_of_isOverlooked hid hsame hoverlooked]
      exact iff_of_true hdeleted fun _ hnot => absurd hoverlooked hnot
    · rw [leftMailbox_of_not_isOverlooked hid hsame hoverlooked, status_pruned_iff hdeleted]
      exact ⟨fun h _ _ => h, fun h => h hsame hoverlooked⟩

/-- A forward that waits for its deletion and lists nothing but the address goes on waiting. -/
theorem mail_deletion_keeps_deletions_iff_sample :
    run (Jobs.deleteMailAccount sampleCustomer (.int 5)) {}
        (sampleMail "anna@example.test" "todelete") =
        (.ok "Mail account successfully scheduled for deletion.",
          sampleMailLeft "anna@example.test" "todelete") ∧
      (sampleMail "anna@example.test" "todelete").store.KeepsDeletions [.mail]
        (sampleMailLeft "anna@example.test" "todelete").store := by
  have hrun : run (Jobs.deleteMailAccount sampleCustomer (.int 5)) {}
      (sampleMail "anna@example.test" "todelete") =
      (.ok "Mail account successfully scheduled for deletion.",
        sampleMailLeft "anna@example.test" "todelete") :=
    Prod.ext rfl rfl
  obtain ⟨m, hm, hid, hkeeps⟩ := mail_deletion_keeps_deletions_iff (keyed_sampleMail _ _) hrun
  obtain rfl := eq_sampleMailbox hm hid
  refine ⟨hrun, hkeeps.2 fun r hr _ hother _ a ha haddress e he => ?_⟩
  rcases List.mem_cons.1 hr with rfl | hr
  · exact absurd rfl hother
  · have htargets : targets (sampleForward "anna@example.test" "todelete") =
        ["anna@example.test"] := by
      decide +kernel
    obtain rfl := List.mem_singleton.1 hr
    rw [htargets, List.mem_singleton] at ha he
    rw [ha, he]

/-- The panel after the customer has deleted the forward. -/
def sampleForwardGone : Panel :=
  (run (Jobs.deleteMailAccount sampleCustomer (.int 6)) {} (sampleMail sampleTeam "ok")).2

/-- The panel after the customer has deleted the mail account too. -/
def sampleBothGone : Panel :=
  (run (Jobs.deleteMailAccount sampleCustomer (.int 5)) {} sampleForwardGone).2

/-- A customer deletes a forward, and before the daemon has got round to it one of its targets: the
forward is no longer to be deleted but to be changed. -/
theorem mail_deletion_cancels_deletion :
    run (Jobs.deleteMailAccount sampleCustomer (.int 5)) {} sampleForwardGone =
        (.ok "Mail account successfully scheduled for deletion.", sampleBothGone) ∧
      sampleForwardGone.store.rows .mail =
        [sampleMailbox "ok", sampleForward sampleTeam "todelete"] ∧
      sampleBothGone.store.rows .mail =
        [sampleMailbox "todelete", sampleForward "bert@example.test" "tochange"] ∧
      ¬ sampleForwardGone.store.KeepsDeletions [.mail] sampleBothGone.store := by
  have hbefore : sampleForwardGone.store.rows .mail =
      [sampleMailbox "ok", sampleForward sampleTeam "todelete"] := by
    decide +kernel
  have hafter : sampleBothGone.store.rows .mail =
      [sampleMailbox "todelete", sampleForward "bert@example.test" "tochange"] := by
    decide +kernel
  refine ⟨Prod.ext rfl rfl, hbefore, hafter, fun hkeeps => ?_⟩
  have hrows := hkeeps .mail (List.mem_singleton_self _)
  rw [hbefore, hafter] at hrows
  obtain ⟨-, hrows⟩ := List.forall₂_cons.1 hrows
  obtain ⟨hmoved, -⟩ := List.forall₂_cons.1 hrows
  have hstatus : some Status.toChange = some Status.toDelete := hmoved.status _ rfl rfl
  exact absurd hstatus (by decide)

end HostingPanel
