import HostingPanel.Jobs.Ownership
import HostingPanel.Status

/-!
# Deleting protected areas

A customer may delete a protected area that is in service.
-/

namespace HostingPanel.Jobs

/-- Schedules a protected area of a domain for deletion. -/
def scheduleArea (id : Json) (domainId : Int) : Statement :=
  .update .area [] [.text Status.toDelete, id, .int domainId, .text Status.ok]
    (fun _ (a : ProtectedArea) =>
      id.equalsKey a.id && Cell.refersTo domainId a.domainId &&
        Cell.isText Status.ok a.status)
    (fun (a : ProtectedArea) => { a with status := some Status.toDelete })

/-- The statements of the deletion of a protected area. -/
def areaBlock (id : Json) (domainId : Int) : TransactionM Unit := do
  if (← TransactionM.execute (scheduleArea id domainId)) = 0 then
    throw (.notFound .protectedArea)

/-- The deletion of a protected area of a domain. -/
def areaPlan (id : Json) (domain : Domain) : Plan where
  action := "delete protected area " ++ id.shown
  failureMessage := "Couldn't delete protected area. An unexpected error occurred."
  block := areaBlock id domain.id
  notice name := name ++ " deleted protected area with ID " ++ id.shown
  answer := "Protected area successfully scheduled for deletion."

/-- Plans the deletion of a protected area. -/
def planProtectedArea (user : User) (id : Json) : LookupM Plan := do
  return areaPlan id (← Ownership.needMainDomain (← user.id))

/-- Schedules the deletion of a protected area. -/
def deleteProtectedArea (user : User) (id : Json) : OperationM String :=
  schedule user (planProtectedArea user id)

end HostingPanel.Jobs
