import HostingPanel.Text.Items
import HostingPanel.Text.Pattern
import HostingPanel.Transaction

/-!
# Groups of FTP accounts

The accounts of a customer are members of a group, which lists their names in one text.  When
accounts go they leave the group, and a group that loses its last member goes too, together with
its quota.
-/

namespace HostingPanel.FtpGroups

/-- The host of an account: what follows the last `@`, or all of the name. -/
def hostOf (member : String) : String :=
  String.ofList (member.toList.reverse.takeWhile (· != '@')).reverse

/-- Whether a host lies below a domain. -/
def isBelow (host domain : String) : Bool :=
  ('.' :: domain.toList).isSuffixOf host.toList

/-- Whether an account belongs to a domain, or on request to a host below it. -/
def belongsTo (member domain : String) (includeSubdomains : Bool) : Bool :=
  hostOf member == domain || (includeSubdomains && isBelow (hostOf member) domain)

/-- The members of a group that stay when the accounts of a domain go. -/
def remaining (members : List String) (domain : String) (includeSubdomains : Bool) :
    List String :=
  members.filter fun m => !belongsTo m domain includeSubdomains

/-- The group of an account, if the account is at a host. -/
def groupAt (host : String) (s : Store) (u : FtpUser) : Option FtpGroup :=
  if Cell.isLike (Text.atHost host) u.userid then
    (s.rows .ftpGroup).find? fun (g : FtpGroup) => Cell.agree u.gid g.gid
  else none

/-- The group that holds accounts of a host.  The database goes through the accounts and stops at
the first one that is at the host and has a group. -/
def ofHost (host : String) : Query (Option FtpGroup) where
  table := .ftpGroup
  mentions := [.ftpUser]
  params := [.text (Text.atHost host)]
  answer s := (s.rows .ftpUser).findSome? (groupAt host s)

/-- The group with a name. -/
def named (name : Option String) : Query (Option FtpGroup) where
  table := .ftpGroup
  params := [.ofText? name]
  answer s := (s.rows .ftpGroup).find? fun (g : FtpGroup) => Cell.agree g.name name

/-- Replaces the list of members of a group. -/
def setMembers (name : Option String) (members : List String) : Statement :=
  .update .ftpGroup [] [.text (Text.joinItems members), .ofText? name]
    (fun _ (g : FtpGroup) => Cell.agree g.name name)
    (fun (g : FtpGroup) => { g with members := some (Text.joinItems members) })

/-- The statements that remove a group and its quota. -/
def removal (name : Option String) : List Statement :=
  [.delete .ftpGroup [] [.ofText? name] fun _ (g : FtpGroup) => Cell.agree g.name name,
    .delete .quotaLimit [] [.ofText? name] fun _ (q : QuotaLimit) => Cell.agree q.name name,
    .delete .quotaTally [] [.ofText? name] fun _ (q : QuotaTally) => Cell.agree q.name name]

/-- The statements that leave a group with the given members. -/
def store (name : Option String) (members : List String) : List Statement :=
  if members.isEmpty then removal name else [setMembers name members]

/-- Removes the accounts of a domain from a group.  A domain without a name has no hosts below it
to look for. -/
def prune (group : FtpGroup) (domain : Option String) (includeSubdomains : Bool) :
    TransactionM Unit := do
  let members := Text.items group.members
  match domain with
  | some domain =>
    TransactionM.executeAll (store group.name (remaining members domain includeSubdomains))
  | none =>
    if includeSubdomains && !members.isEmpty then throw .absentInPattern
    TransactionM.executeAll (store group.name members)

end HostingPanel.FtpGroups
