import HostingPanel.Jobs.Ownership
import HostingPanel.Status

/-!
# Restoring backups

A customer may have the last backup restored while the domain is in service.
-/

namespace HostingPanel.Jobs

/-- Schedules the domains of a customer that are in service to be restored. -/
def scheduleRestore (customer : Json) : Statement :=
  .update .domain [] [.text Status.toRestore, customer, .text Status.ok]
    (fun _ (d : Domain) => customer.equalsQuantity d.ownerId && Cell.isText Status.ok d.status)
    (fun (d : Domain) => { d with status := some Status.toRestore })

/-- The restoration of a customer's last backup. -/
def restorePlan (customer : Json) (domain : Domain) : Plan where
  action := "restore the backup of " ++ Json.shownName domain.name
  failureMessage := "Couldn't schedule backup restoration. An unexpected error occurred."
  block := discard (TransactionM.execute (scheduleRestore customer))
  notice name := "A backup restore has been scheduled by " ++ name ++ "."
  answer := "Backup has been successfully scheduled for restoration."

/-- Plans that the customer's last backup is restored. -/
def planBackupRestore (user : User) : LookupM Plan := do
  let customer ← user.id
  let domain ← Ownership.needMainDomain customer
  discard (Status.checkTransition domain.status (some Status.toRestore))
  return restorePlan customer domain

/-- Schedules that the customer's last backup is restored. -/
def scheduleBackupRestore (user : User) : OperationM String :=
  schedule user (planBackupRestore user)

end HostingPanel.Jobs
