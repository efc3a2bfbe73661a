import HostingPanel.Jobs.Ownership
import HostingPanel.Status

/-!
# Deleting DNS records

A customer may delete a DNS record that the panel's own feature keeps, unless a request for it
waits already.
-/

namespace HostingPanel.Jobs

/-- The requests that a DNS record must not be waiting for. -/
def dnsGuard : List String :=
  [Status.toAdd, Status.toChange, Status.toDelete]

/-- Schedules a DNS record of a customer for deletion. -/
def scheduleDnsRecord (id customer : Json) : Statement :=
  .update .dns [.domain] [.text Status.toDelete, id, customer]
    (fun s (r : DnsRecord) =>
      id.equalsKey r.id && Cell.isText "custom_dns_feature" r.ownedBy &&
        Cell.isNoneOf dnsGuard r.status && Ownership.isDomainOf s customer r.domainId)
    (fun (r : DnsRecord) => { r with status := some Status.toDelete })

/-- The statements of the deletion of a DNS record. -/
def dnsBlock (user : User) (id : Json) : TransactionM Unit := do
  let customer ← user.id
  if (← TransactionM.execute (scheduleDnsRecord id customer)) = 0 then
    throw (.notFound .dnsRecord)

/-- The deletion of a DNS record. -/
def dnsPlan (user : User) (id : Json) : Plan where
  action := "delete custom DNS record " ++ id.shown
  failureMessage := "Couldn't delete DNS record. An unexpected error occurred."
  block := dnsBlock user id
  notice name := name ++ " scheduled deletion of a custom DNS record"
  answer := "Custom DNS record successfully scheduled for deletion."

/-- Plans the deletion of a DNS record.  Whose record it is shows only in the statement. -/
def planDnsRecord (user : User) (id : Json) : LookupM Plan :=
  return dnsPlan user id

/-- Schedules the deletion of a DNS record. -/
def deleteDnsRecord (user : User) (id : Json) : OperationM String :=
  schedule user (planDnsRecord user id)

end HostingPanel.Jobs
