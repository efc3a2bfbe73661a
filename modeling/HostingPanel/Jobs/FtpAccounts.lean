import HostingPanel.Jobs.FtpGroups
import HostingPanel.Jobs.Ownership
import HostingPanel.Status

/-!
# Deleting FTP accounts

An FTP account that goes leaves the group that is named after its owner.
-/

namespace HostingPanel.Jobs

/-- The owner of an FTP account, if that is the given customer. -/
def ftpOwner (userid customer : Json) : Query (Option Admin) where
  table := .ftpUser
  mentions := [.admin]
  params := [userid, customer]
  answer s := (s.rows .ftpUser).findSome? fun (u : FtpUser) =>
    if userid.equalsText u.userid && customer.equalsQuantity u.adminId then
      (s.rows .admin).find? fun (o : Admin) => Cell.refersTo o.id u.adminId
    else none

/-- The members of a group without the first occurrence of an account, if it is one of them. -/
def withoutMember? (group : FtpGroup) (userid : Json) : Option (List String) :=
  match userid with
  | .text name =>
    let members := Text.items group.members
    if members.contains name then some (members.erase name) else none
  | _ => none

/-- Schedules the FTP account with a name for deletion. -/
def scheduleFtpUser (userid : Json) : Statement :=
  .update .ftpUser [] [.text Status.toDelete, userid]
    (fun _ (u : FtpUser) => userid.equalsText u.userid)
    (fun (u : FtpUser) => { u with status := some Status.toDelete })

/-- The statements of the deletion of an FTP account. -/
def ftpBlock (userid : Json) (owner : Admin) : TransactionM Unit := do
  match ← TransactionM.query (FtpGroups.named owner.name) with
  | some group =>
    match withoutMember? group userid with
    | some members => TransactionM.executeAll (FtpGroups.store group.name members)
    | none => pure ()
  | none => pure ()
  discard (TransactionM.execute (scheduleFtpUser userid))

/-- The deletion of an FTP account of a customer. -/
def ftpPlan (userid : Json) (owner : Admin) : Plan where
  action := "delete the " ++ userid.shown ++ " FTP account"
  failureMessage := "Couldn't delete FTP account. An unexpected error occurred."
  block := ftpBlock userid owner
  notice name := "An FTP account has been deleted by " ++ name
  answer := "FTP account successfully deleted."

/-- Plans the deletion of an FTP account. -/
def planFtpAccount (user : User) (userid : Json) : LookupM Plan := do
  match ← LookupM.fetch (ftpOwner userid (← user.id)) with
  | none => throw (.notFound .ftpAccount)
  | some owner => return ftpPlan userid owner

/-- Schedules the deletion of an FTP account. -/
def deleteFtpAccount (user : User) (userid : Json) : OperationM String :=
  schedule user (planFtpAccount user userid)

end HostingPanel.Jobs
