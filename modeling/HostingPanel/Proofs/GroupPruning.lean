import Mathlib.Data.List.Pairwise
import HostingPanel.Proofs.JobStatements
import HostingPanel.Proofs.Sweeps

/-!
# Groups that lose members

When web space goes, one group of FTP accounts is looked for, the accounts of a host leave it, and
if no member remains the group goes together with its quota (`FtpGroups.Pruning`).  The search goes
by the name of the group or by the accounts with its number, so it finds the same group whether or
not members have left it before; but it finds nothing if the group has gone.

Two prunings can change places (`Pruning.apply_comm`), provided that names are unique and neither
search has a choice.  If they find two groups, each of them leaves the group of the other one alone.
If they find the same one, its members are filtered twice, in either order, and an emptied group
goes whether the first pruning has emptied it or only the second one.

After the pruning of an owner's group, a pruning for one of the hosts below the domain finds a group
that its accounts have left, and changes nothing (`Pruning.apply_apply_ofOwner`).
-/

namespace HostingPanel

namespace FtpGroups

open Statement

/-! ### Leaving a group with some members -/

/-- What becomes of a group when the group of a name is left with some members. -/
def kept (name : Option String) (members : List String) (g : FtpGroup) : Option FtpGroup :=
  if Cell.agree g.name name then
    if members.isEmpty then none else some { g with members := some (Text.joinItems members) }
  else some g

/-- What becomes of a row with the name of a group when the group is left with some members. -/
def keptQuota {ρ : Type} (nameOf : ρ → Option String) (name : Option String)
    (members : List String) (r : ρ) : Option ρ :=
  if Cell.agree (nameOf r) name && members.isEmpty then none else some r

/-- A database with other groups and quotas. -/
def withGroups (s : Store) (groups : List FtpGroup) (limits : List QuotaLimit)
    (tallies : List QuotaTally) : Store :=
  ((s.set .ftpGroup groups).set .quotaLimit limits).set .quotaTally tallies

/-- Of two replacements of groups and quotas the second one counts. -/
lemma withGroups_withGroups (s : Store) (groups groups' : List FtpGroup)
    (limits limits' : List QuotaLimit) (tallies tallies' : List QuotaTally) :
    withGroups (withGroups s groups limits tallies) groups' limits' tallies' =
      withGroups s groups' limits' tallies' := by
  have hrows : (withGroups (withGroups s groups limits tallies) groups' limits' tallies').rows =
      (withGroups s groups' limits' tallies').rows := by
    funext t
    cases t <;> rfl
  exact congrArg (fun rows => (⟨rows, s.missing, s.lastOutboxId⟩ : Store)) hrows

section

variable (s : Store) (groups : List FtpGroup) (limits : List QuotaLimit) (tallies : List QuotaTally)

@[simp] lemma ftpGroup_withGroups : (withGroups s groups limits tallies).rows .ftpGroup = groups :=
  rfl

@[simp] lemma quotaLimit_withGroups :
    (withGroups s groups limits tallies).rows .quotaLimit = limits :=
  rfl

@[simp] lemma quotaTally_withGroups :
    (withGroups s groups limits tallies).rows .quotaTally = tallies :=
  rfl

end

/-- The database in which the group of a name is left with some members. -/
def leave (name : Option String) (members : List String) (s : Store) : Store :=
  applyAll (store name members) s

/-- Row by row: the group goes or gets its members, and its quota goes with it. -/
lemma leave_eq (name : Option String) (members : List String) (s : Store) :
    leave name members s = withGroups s ((s.rows .ftpGroup).filterMap (kept name members))
      ((s.rows .quotaLimit).filterMap (keptQuota (fun q : QuotaLimit => q.name) name members))
      ((s.rows .quotaTally).filterMap (keptQuota (fun q : QuotaTally => q.name) name members)) := by
  cases hempty : members.isEmpty with
  | true =>
    have hgroups : kept name members = Option.guard fun g => !Cell.agree g.name name := by
      funext g
      cases hname : Cell.agree g.name name <;> simp [kept, Option.guard, hname, hempty]
    have hquota {ρ : Type} (nameOf : ρ → Option String) :
        keptQuota nameOf name members = Option.guard fun r => !Cell.agree (nameOf r) name := by
      funext r
      cases hname : Cell.agree (nameOf r) name <;> simp [keptQuota, Option.guard, hname, hempty]
    rw [hgroups, hquota, hquota, List.filterMap_eq_filter, List.filterMap_eq_filter,
      List.filterMap_eq_filter, leave, store, if_pos hempty]
    refine congrArg (fun rows => (⟨rows, s.missing, s.lastOutboxId⟩ : Store)) (funext fun t => ?_)
    cases t <;> rfl
  | false =>
    have hgroups : kept name members = fun g => some (if Cell.agree g.name name then
        { g with members := some (Text.joinItems members) } else g) := by
      funext g
      cases hname : Cell.agree g.name name <;> simp [kept, hname, hempty]
    have hquota {ρ : Type} (nameOf : ρ → Option String) :
        keptQuota nameOf name members = some := by
      funext r
      simp [keptQuota, hempty]
    rw [hgroups, hquota, hquota, List.filterMap_eq_map', List.filterMap_some, List.filterMap_some,
      leave, store, if_neg (by simp [hempty])]
    refine congrArg (fun rows => (⟨rows, s.missing, s.lastOutboxId⟩ : Store)) (funext fun t => ?_)
    cases t <;> rfl

/-- A group is left with the members that it was given last. -/
lemma leave_leave {name : Option String} {members : List String} (h : members.isEmpty = false)
    (members' : List String) (s : Store) :
    leave name members' (leave name members s) = leave name members' s := by
  have hgroup (g : FtpGroup) : (kept name members g).bind (kept name members') =
      kept name members' g := by
    cases hname : Cell.agree g.name name <;> simp [kept, hname, h]
  have hquota {ρ : Type} (nameOf : ρ → Option String) (r : ρ) :
      (keptQuota nameOf name members r).bind (keptQuota nameOf name members') =
        keptQuota nameOf name members' r := by
    simp [keptQuota, h]
  rw [leave_eq name members' (leave name members s), leave_eq name members s,
    withGroups_withGroups, leave_eq name members' s]
  simp only [ftpGroup_withGroups, quotaLimit_withGroups, quotaTally_withGroups,
    List.filterMap_filterMap, hgroup, hquota]

/-- Two groups with different names are left with some members in either order. -/
lemma leave_comm {name name' : Option String} (h : Cell.agree name name' = false)
    (members members' : List String) (s : Store) :
    leave name' members' (leave name members s) = leave name members (leave name' members' s) := by
  -- No row has both names.
  have hone (column : Option String) (hname : Cell.agree column name = true) :
      Cell.agree column name' = false := by
    cases hname' : Cell.agree column name' with
    | false => rfl
    | true =>
      rw [Cell.agree_comm] at hname
      rw [Cell.agree_trans hname hname'] at h
      cases h
  have hgroup (g : FtpGroup) : (kept name members g).bind (kept name' members') =
      (kept name' members' g).bind (kept name members) := by
    cases hname : Cell.agree g.name name with
    | true => cases hempty : members.isEmpty <;> simp [kept, hname, hone g.name hname, hempty]
    | false =>
      cases hname' : Cell.agree g.name name' with
      | true => cases hempty : members'.isEmpty <;> simp [kept, hname, hname', hempty]
      | false => simp [kept, hname, hname']
  have hquota {ρ : Type} (nameOf : ρ → Option String) (r : ρ) :
      (keptQuota nameOf name members r).bind (keptQuota nameOf name' members') =
        (keptQuota nameOf name' members' r).bind (keptQuota nameOf name members) := by
    cases hname : Cell.agree (nameOf r) name with
    | true => cases hempty : members.isEmpty <;> simp [keptQuota, hname, hone _ hname, hempty]
    | false =>
      cases hname' : Cell.agree (nameOf r) name' with
      | true => cases hempty : members'.isEmpty <;> simp [keptQuota, hname, hname', hempty]
      | false => simp [keptQuota, hname, hname']
  rw [leave_eq name' members' (leave name members s), leave_eq name members s,
    withGroups_withGroups, leave_eq name members (leave name' members' s),
    leave_eq name' members' s, withGroups_withGroups]
  simp only [ftpGroup_withGroups, quotaLimit_withGroups, quotaTally_withGroups,
    List.filterMap_filterMap, hgroup, hquota]

end FtpGroups

/-- What storing a group does to the rows does not depend on the database. -/
lemma FtpGroups.IsStored.change_eq {st : Statement} (h : FtpGroups.IsStored st) (s s' : Store) :
    st.change s' = st.change s := by
  obtain ⟨name, members, hst⟩ := h
  unfold FtpGroups.store at hst
  split at hst
  · simp only [FtpGroups.removal, List.mem_cons, List.not_mem_nil, or_false] at hst
    rcases hst with rfl | rfl | rfl <;> rfl
  · obtain rfl := List.mem_singleton.1 hst
    rfl

lemma FtpGroups.IsStored.commutes {st st' : Statement} (h : FtpGroups.IsStored st)
    (h' : st'.IsSweep) : st.Commutes st' := by
  refine h'.commutes_of_notMem (fun hswept => ?_) h.change_eq
  have hstored := h.table_mem
  revert hstored hswept
  generalize st.table = t
  cases t <;> decide

lemma Cell.eq_of_agree {α : Type} [BEq α] [LawfulBEq α] {a b : Option α}
    (h : agree a b = true) : a = b := by
  obtain ⟨x, rfl, rfl⟩ := agree_iff.1 h
  rfl

/-! ### Looking for a group and pruning it -/

/-- What the search for a group looks at in the FTP accounts: their names and groups. -/
def Store.memberships (s : Store) : List (Option String × Option Quantity) :=
  (s.rows .ftpUser).map fun (u : FtpUser) => (u.userid, u.gid)

/-- No two groups have the same name. -/
def Store.UniqueGroupNames (s : Store) : Prop :=
  (s.rows .ftpGroup).Pairwise fun (g h : FtpGroup) => Cell.agree g.name h.name = false

lemma Store.UniqueGroupNames.eq_of_agree {s : Store} (h : s.UniqueGroupNames) {g g' : FtpGroup}
    (hg : g ∈ s.rows .ftpGroup) (hg' : g' ∈ s.rows .ftpGroup)
    (hname : Cell.agree g.name g'.name = true) : g = g' := by
  by_contra hne
  have hsymm : Std.Symm fun (g g' : FtpGroup) => Cell.agree g.name g'.name = false :=
    ⟨fun g g' h => by rwa [Cell.agree_comm]⟩
  have hother := List.Pairwise.forall h hg hg' hne
  rw [hname] at hother
  cases hother

/-- In a database in which names are unique, the groups with the name of a group are this group. -/
lemma Store.UniqueGroupNames.agree_iff {s : Store} (h : s.UniqueGroupNames) {g g' : FtpGroup}
    {name : String} (hg : g ∈ s.rows .ftpGroup) (hg' : g' ∈ s.rows .ftpGroup)
    (hname : g.name = some name) : Cell.agree g'.name g.name = true ↔ g' = g := by
  constructor
  · exact h.eq_of_agree hg' hg
  · rintro rfl
    rw [hname]
    exact Cell.agree_some_iff.2 rfl

/-- In a database in which names are unique, groups with one name are one group. -/
lemma Store.UniqueGroupNames.eq_of_name {s : Store} (h : s.UniqueGroupNames) {g g' : FtpGroup}
    {name : String} (hg : g ∈ s.rows .ftpGroup) (hg' : g' ∈ s.rows .ftpGroup)
    (hname : g.name = some name) (hname' : g'.name = some name) : g' = g := by
  refine h.eq_of_agree hg' hg ?_
  rw [hname]
  exact Cell.agree_some_iff.2 hname'

namespace FtpGroups

/-- A search for a group, and the host whose accounts leave it, perhaps with those of the hosts
below it. -/
structure Pruning where
  /-- Whether the search may find a group. -/
  seeks : Store → FtpGroup → Bool
  find : Store → Option FtpGroup
  domain : String
  /-- Whether the accounts of the hosts below it leave too. -/
  below : Bool
  /-- What is found is there and may be found. -/
  sound : ∀ s g, find s = some g → g ∈ (s.rows .ftpGroup).filter (seeks s)
  /-- Nothing is found only if there is nothing to find. -/
  complete : ∀ s, find s = none → (s.rows .ftpGroup).filter (seeks s) = []
  /-- The search does not look at the members of a group. -/
  blind : ∀ s g members, seeks s { g with members } = seeks s g
  /-- Besides the group, it looks at nothing but the names and groups of the accounts. -/
  steady : ∀ s s', s'.memberships = s.memberships → seeks s' = seeks s
  /-- With the same groups it finds the same one. -/
  settled : ∀ s s', s'.memberships = s.memberships → s'.rows .ftpGroup = s.rows .ftpGroup →
    find s' = find s

namespace Pruning

variable {q q' : Pruning} {s : Store} {g : FtpGroup}

/-- The groups that the search may find. -/
def candidates (q : Pruning) (s : Store) : List FtpGroup :=
  (s.rows .ftpGroup).filter (q.seeks s)

/-- The members that stay in a group. -/
def staying (q : Pruning) (g : FtpGroup) : List String :=
  remaining (Text.items g.members) q.domain q.below

/-- The database after the pruning: the group that is found is left with the members that stay. -/
def apply (q : Pruning) (s : Store) : Store :=
  match q.find s with
  | some g => leave g.name (q.staying g) s
  | none => s

lemma mem_candidates_of_find (h : q.find s = some g) : g ∈ q.candidates s :=
  q.sound s g h

lemma find_of_nil (h : q.candidates s = []) : q.find s = none := by
  cases hfound : q.find s with
  | none => rfl
  | some g =>
    have hmem := mem_candidates_of_find hfound
    rw [h] at hmem
    cases hmem

lemma find_of_singleton (h : q.candidates s = [g]) : q.find s = some g := by
  cases hfound : q.find s with
  | none =>
    have hnone : q.candidates s = [] := q.complete s hfound
    rw [h] at hnone
    cases hnone
  | some g' =>
    have hmem := mem_candidates_of_find hfound
    rw [h] at hmem
    rw [List.mem_singleton.1 hmem]

/-- A pruning runs statements that store a group, or none. -/
lemma exists_stored (q : Pruning) (s : Store) :
    ∃ stored, (∀ st ∈ stored, IsStored st) ∧ q.apply s = Statement.applyAll stored s := by
  unfold apply
  split
  · exact ⟨_, fun st hst => ⟨_, _, hst⟩, rfl⟩
  · exact ⟨[], by simp, rfl⟩

lemma apply_of_none (h : q.find s = none) : q.apply s = s := by
  rw [apply, h]

/-- A pruning leaves the group that it finds with the members that stay. -/
lemma apply_of_find (h : q.find s = some g) : q.apply s = leave g.name (q.staying g) s := by
  rw [apply, h]

lemma apply_of_nil (h : q.candidates s = []) : q.apply s = s :=
  apply_of_none (find_of_nil h)

/-- A pruning leaves its only candidate with the members that stay. -/
lemma apply_of_singleton (h : q.candidates s = [g]) :
    q.apply s = leave g.name (q.staying g) s :=
  apply_of_find (find_of_singleton h)

/-- When a group is left with some members, the candidates of a search are those from before, as they
have become. -/
lemma candidates_leave (q : Pruning) (name : Option String) (members : List String) (s : Store) :
    q.candidates (leave name members s) = (q.candidates s).filterMap (kept name members) := by
  have hrows : (leave name members s).rows .ftpGroup =
      (s.rows .ftpGroup).filterMap (kept name members) := by
    rw [leave_eq]
    rfl
  have hseeks : q.seeks (leave name members s) = q.seeks s := by
    refine q.steady s _ ?_
    rw [leave_eq]
    rfl
  rw [candidates, candidates, hrows, hseeks, List.filter_filterMap, List.filterMap_filter]
  refine congrArg (List.filterMap · _) (funext fun g => ?_)
  unfold kept
  split
  · split
    · simp
    · simp [Option.filter, q.blind]
  · simp [Option.filter]

lemma find_applyAll (q : Pruning) {sts : List Statement} (h : ∀ st ∈ sts, st.IsSweep)
    (s : Store) : q.find (Statement.applyAll sts s) = q.find s := by
  induction sts generalizing s with
  | nil => rfl
  | cons st sts ih =>
    obtain ⟨hfirst, hrest⟩ := List.forall_mem_cons.1 h
    have hmemberships : (st.apply s).memberships = s.memberships :=
      hfirst.map_rows (t := .ftpUser) (by decide) (fun _ => rfl) s
    have hgroups : st.table ≠ .ftpGroup := fun hsame =>
      absurd (hsame ▸ hfirst.table_mem) (by decide)
    rw [Statement.applyAll_cons, ih hrest,
      q.settled s _ hmemberships (Statement.rows_apply_of_ne st s hgroups)]

lemma apply_applyAll_comm (q : Pruning) {sts : List Statement} (h : ∀ st ∈ sts, st.IsSweep)
    (s : Store) : q.apply (Statement.applyAll sts s) = Statement.applyAll sts (q.apply s) := by
  rw [apply, apply, q.find_applyAll h]
  split
  · rename_i g _
    refine Statement.applyAll_comm (fun st hst st' hst' => ?_) s
    exact (FtpGroups.IsStored.commutes ⟨_, _, hst'⟩ (h st hst)).symm
  · rfl

/-- A search without candidates has none after another pruning. -/
lemma candidates_apply_of_nil (h : q.candidates s = []) (q' : Pruning) :
    q.candidates (q'.apply s) = [] := by
  unfold apply
  split
  · rw [candidates_leave, h]
    rfl
  · exact h

/-- Two prunings of one group, one after the other, leave it with the members that stay in both. -/
lemma apply_apply_of_same (hname : Cell.agree g.name g.name = true) (h : q.candidates s = [g])
    (h' : q'.candidates s = [g]) :
    q'.apply (q.apply s) =
      leave g.name (remaining (q.staying g) q'.domain q'.below) s := by
  rw [apply_of_singleton h]
  cases hempty : (q.staying g).isEmpty with
  | true =>
    have hgone : q'.candidates (leave g.name (q.staying g) s) = [] := by
      rw [candidates_leave, h']
      simp [kept, hname, hempty]
    rw [apply_of_nil hgone, List.isEmpty_iff.1 hempty]
    rfl
  | false =>
    have hleft : q'.candidates (leave g.name (q.staying g) s) =
        [{ g with members := some (Text.joinItems (q.staying g)) }] := by
      rw [candidates_leave, h']
      simp [kept, hname, hempty]
    have hstaying : q'.staying { g with members := some (Text.joinItems (q.staying g)) } =
        remaining (q.staying g) q'.domain q'.below := by
      have hproper : ∀ m ∈ q.staying g, m.toList ≠ [] ∧ ',' ∉ m.toList :=
        fun m hm => Text.proper_of_mem_items (List.mem_of_mem_filter hm)
      rw [staying, Text.items_joinItems hproper]
    rw [apply_of_singleton hleft, hstaying, leave_leave hempty]

/-- A pruning after another one, which has pruned a group of another name. -/
lemma apply_apply_of_other {g' : FtpGroup} (hname : Cell.agree g'.name g.name = false)
    (h : q.candidates s = [g]) (h' : q'.candidates s = [g']) :
    q'.apply (q.apply s) = leave g'.name (q'.staying g') (leave g.name (q.staying g) s) := by
  have hsame : q'.candidates (q.apply s) = [g'] := by
    rw [apply_of_singleton h, candidates_leave, h']
    simp [kept, hname]
  rw [apply_of_singleton hsame, apply_of_singleton h]

/-- Two prunings can change places if names are unique and neither search has a choice. -/
theorem apply_comm (hunique : s.UniqueGroupNames) (hq : (q.candidates s).length ≤ 1)
    (hq' : (q'.candidates s).length ≤ 1) : q'.apply (q.apply s) = q.apply (q'.apply s) := by
  have hmem {q : Pruning} {g : FtpGroup} (h : q.candidates s = [g]) : g ∈ s.rows .ftpGroup :=
    List.mem_of_mem_filter (h ▸ List.mem_singleton_self g)
  rcases hfound : q.candidates s with _ | ⟨g, _ | ⟨h, rest⟩⟩
  · rw [apply_of_nil hfound, apply_of_nil (candidates_apply_of_nil hfound q')]
  · rcases hfound' : q'.candidates s with _ | ⟨g', _ | ⟨h', rest'⟩⟩
    · rw [apply_of_nil hfound', apply_of_nil (candidates_apply_of_nil hfound' q)]
    · cases hname : Cell.agree g.name g'.name with
      | true =>
        -- Both find the same group.
        obtain rfl := hunique.eq_of_agree (hmem hfound) (hmem hfound') hname
        rw [apply_apply_of_same hname hfound hfound', apply_apply_of_same hname hfound' hfound]
        exact congrArg (leave g.name · s) (List.filter_comm _ _ _)
      | false =>
        have hname' : Cell.agree g'.name g.name = false := by
          rw [Cell.agree_comm, hname]
        rw [apply_apply_of_other hname' hfound hfound', apply_apply_of_other hname hfound' hfound,
          leave_comm hname]
    · simp [hfound'] at hq'
  · simp [hfound] at hq

end Pruning

/-! ### The two searches -/

/-- The groups that hold accounts of a host: those that the search by the host may find. -/
def holding (host : String) (s : Store) : List FtpGroup :=
  (s.rows .ftpGroup).filter fun (g : FtpGroup) =>
    (s.rows .ftpUser).any fun (u : FtpUser) =>
      Cell.agree u.gid g.gid && Cell.isLike (Text.atHost host) u.userid

namespace Pruning

/-- The group that the search by a host finds for an account may be found. -/
lemma seeks_of_groupAt {host : String} {u : FtpUser} (hu : u ∈ s.rows .ftpUser)
    (h : groupAt host s u = some g) : g ∈ holding host s := by
  unfold groupAt at h
  split at h
  · rename_i hlike
    have hgid := List.find?_some h
    refine List.mem_filter.2 ⟨List.mem_of_find?_eq_some h, List.any_eq_true.2 ⟨u, hu, ?_⟩⟩
    rw [Bool.and_eq_true]
    exact ⟨hgid, hlike⟩
  · cases h

/-- If the search by a host finds no group for any account, it has no candidates. -/
lemma holding_of_groupAt_eq_none {host : String}
    (h : ∀ u ∈ s.rows .ftpUser, groupAt host s u = none) : holding host s = [] := by
  refine List.filter_eq_nil_iff.2 fun g hg hany => ?_
  obtain ⟨u, hu, hboth⟩ := List.any_eq_true.1 hany
  rw [Bool.and_eq_true] at hboth
  have hnone := h u hu
  rw [groupAt, if_pos hboth.2, List.find?_eq_none] at hnone
  exact hnone g hg hboth.1

/-- The accounts of a host leave a group that holds one. -/
def ofHost (host : String) : Pruning where
  seeks s g := (s.rows .ftpUser).any fun (u : FtpUser) =>
    Cell.agree u.gid g.gid && Cell.isLike (Text.atHost host) u.userid
  find := (FtpGroups.ofHost host).answer
  domain := host
  below := false
  sound s g h := by
    obtain ⟨u, hu, hgroup⟩ := List.exists_of_findSome?_eq_some h
    exact seeks_of_groupAt hu hgroup
  complete s h := holding_of_groupAt_eq_none (List.findSome?_eq_none_iff.1 h)
  blind _ _ _ := rfl
  steady s s' h := by
    funext g
    have hany (s : Store) : ((s.rows .ftpUser).any fun (u : FtpUser) =>
        Cell.agree u.gid g.gid && Cell.isLike (Text.atHost host) u.userid) =
        s.memberships.any fun m => Cell.agree m.2 g.gid && Cell.isLike (Text.atHost host) m.1 := by
      rw [Store.memberships, List.any_map]
      rfl
    rw [hany, hany, h]
  settled s s' h hgroups := by
    have hanswer (s : Store) : (FtpGroups.ofHost host).answer s = s.memberships.findSome? fun m =>
        if Cell.isLike (Text.atHost host) m.1 then
          (s.rows .ftpGroup).find? fun (g : FtpGroup) => Cell.agree m.2 g.gid
        else none := by
      rw [Store.memberships, List.findSome?_map]
      rfl
    rw [hanswer, hanswer, h, hgroups]

/-- The accounts of a domain and of the hosts below it leave the group with the name of their
owner. -/
def ofOwner (owner : Option String) (domain : String) : Pruning where
  seeks _ g := Cell.agree g.name owner
  find := (named owner).answer
  domain := domain
  below := true
  sound s g h := by
    have hname := List.find?_some h
    exact List.mem_filter.2 ⟨List.mem_of_find?_eq_some h, hname⟩
  complete s h := List.filter_eq_nil_iff.2 (List.find?_eq_none.1 h)
  blind _ _ _ := rfl
  steady _ _ _ := rfl
  settled s s' _ hgroups := congrArg (List.find? _) hgroups

/-- If names are unique, the search by the owner has no choice. -/
lemma length_candidates_ofOwner {s : Store} (hunique : s.UniqueGroupNames) (owner : Option String)
    (domain : String) : ((ofOwner owner domain).candidates s).length ≤ 1 := by
  rcases hfound : (ofOwner owner domain).candidates s with _ | ⟨g, _ | ⟨g', rest⟩⟩
  · simp
  · simp
  · have hnamed : ∀ h ∈ (ofOwner owner domain).candidates s, Cell.agree h.name owner = true :=
      fun h hmem => (List.mem_filter.1 hmem).2
    have hother : Cell.agree g.name g'.name = false := by
      have hpairs := List.Pairwise.filter ((ofOwner owner domain).seeks s) hunique
      rw [← candidates, hfound] at hpairs
      exact List.rel_of_pairwise_cons hpairs (List.mem_cons_self ..)
    have hfirst := hnamed g (by simp [hfound])
    have hsecond := hnamed g' (by simp [hfound])
    rw [Cell.agree_comm] at hsecond
    rw [Cell.agree_trans hfirst hsecond] at hother
    cases hother

end Pruning

/-! ### Groups that have lost the members before -/

/-- Members of which none belongs to a domain all stay. -/
lemma remaining_eq_self {members : List String} {domain : String} {below : Bool}
    (h : ∀ m ∈ members, belongsTo m domain below = false) :
    remaining members domain below = members := by
  refine List.filter_eq_self.2 fun m hm => ?_
  rw [h m hm]
  rfl

/-- A member of a host below a domain belongs to the domain with the hosts below it. -/
lemma belongsTo_of_below {member name domain : String}
    (h : belongsTo member (name ++ "." ++ domain) false = true) :
    belongsTo member domain true = true := by
  have hhost : hostOf member = name ++ "." ++ domain := by
    simpa [belongsTo] using h
  have hbelow : isBelow (name ++ "." ++ domain) domain = true := by
    simp [isBelow]
  simp [belongsTo, hhost, hbelow]

namespace Pruning

variable {q : Pruning} {s : Store}

/-- A pruning changes nothing in a group that has been left with members of which none belongs to
its host. -/
lemma apply_leave {name : Option String} {members : List String}
    (hnamed : ∀ g ∈ q.candidates s, Cell.agree g.name name = true)
    (hproper : ∀ m ∈ members, m.toList ≠ [] ∧ ',' ∉ m.toList)
    (hleft : ∀ m ∈ members, belongsTo m q.domain q.below = false) :
    q.apply (leave name members s) = leave name members s := by
  have hcandidates : q.candidates (leave name members s) =
      (q.candidates s).filterMap fun g => if members.isEmpty then none
        else some { g with members := some (Text.joinItems members) } := by
    rw [candidates_leave]
    refine List.filterMap_congr fun g hg => ?_
    rw [kept, if_pos (hnamed g hg)]
  cases hfound : q.find (leave name members s) with
  | none => exact apply_of_none hfound
  | some left =>
    have hmem := mem_candidates_of_find hfound
    rw [hcandidates] at hmem
    obtain ⟨g, hg, hleaves⟩ := List.mem_filterMap.1 hmem
    cases hempty : members.isEmpty with
    | true => simp [hempty] at hleaves
    | false =>
      obtain rfl : { g with members := some (Text.joinItems members) } = left := by
        simpa [hempty] using hleaves
      have hname : g.name = name := Cell.eq_of_agree (hnamed g hg)
      have hstaying : q.staying { g with members := some (Text.joinItems members) } = members := by
        rw [staying, Text.items_joinItems hproper, remaining_eq_self hleft]
      rw [apply_of_find hfound, hstaying, hname, leave_leave hempty]

/-- After the pruning of the group of an owner, a pruning that would find no other group, and all
whose accounts have left this one, changes nothing. -/
lemma apply_apply_ofOwner {owner : Option String} {domain : String}
    (hnamed : ∀ g ∈ q.candidates s, Cell.agree g.name owner = true)
    (hleft : ∀ m, belongsTo m q.domain q.below = true → belongsTo m domain true = true) :
    q.apply ((ofOwner owner domain).apply s) = (ofOwner owner domain).apply s := by
  have hmem (g : FtpGroup) : g ∈ (ofOwner owner domain).candidates s ↔
      g ∈ s.rows .ftpGroup ∧ Cell.agree g.name owner = true :=
    List.mem_filter
  cases hfound : (ofOwner owner domain).find s with
  | none =>
    have hnone : q.candidates s = [] := by
      refine List.eq_nil_iff_forall_not_mem.2 fun g hg => ?_
      have howner := (hmem g).2 ⟨(List.mem_filter.1 hg).1, hnamed g hg⟩
      rw [candidates, (ofOwner owner domain).complete s hfound] at howner
      cases howner
    rw [apply_of_none hfound, apply_of_nil hnone]
  | some g =>
    have hname : g.name = owner :=
      Cell.eq_of_agree ((hmem g).1 (mem_candidates_of_find hfound)).2
    rw [apply_of_find hfound, hname]
    refine apply_leave hnamed (fun m hm => ?_) fun m hm => ?_
    · exact Text.proper_of_mem_items (List.mem_of_mem_filter hm)
    · have hstays : (!belongsTo m domain true) = true := (List.mem_filter.1 hm).2
      cases hleaves : belongsTo m q.domain q.below with
      | false => rfl
      | true =>
        rw [hleft m hleaves] at hstays
        cases hstays

end Pruning

end FtpGroups

end HostingPanel
