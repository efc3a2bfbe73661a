import HostingPanel.Jobs.Backups
import HostingPanel.Jobs.Certificates
import HostingPanel.Jobs.CustomerStatus
import HostingPanel.Jobs.DnsRecords
import HostingPanel.Jobs.DomainAliases
import HostingPanel.Jobs.FtpAccounts
import HostingPanel.Jobs.MailAccounts
import HostingPanel.Jobs.ProtectedAreas

/-!
# The jobs

All the jobs of the panel with their arguments, so that one can speak of any job and of sequences
of jobs.  Every job plans a change and makes it (`Job.run_eq_schedule`).
-/

namespace HostingPanel

/-- The jobs with their arguments. -/
inductive Job where
  | deleteSubdomain (id : Json)
  | deleteAliasSubdomain (id : Json)
  | deleteDomainAlias (id : Json)
  | deleteCustomer (id : Json)
  /-- A customer is suspended or resumed. -/
  | changeCustomerStatus (id action : Json)
  | deleteMailAccount (id : Json)
  | deleteFtpAccount (userid : Json)
  | deleteDnsRecord (id : Json)
  | deleteProtectedArea (id : Json)
  | deleteCertificate (ownerType ownerId id : Json)
  /-- The last backup is restored. -/
  | scheduleBackupRestore

namespace Job

/-- Does a job for a user. -/
def run (user : User) : Job → OperationM String
  | .deleteSubdomain id => Jobs.deleteSubdomain user id
  | .deleteAliasSubdomain id => Jobs.deleteAliasSubdomain user id
  | .deleteDomainAlias id => Jobs.deleteDomainAlias user id
  | .deleteCustomer id => Jobs.deleteCustomer user id
  | .changeCustomerStatus id action => Jobs.changeCustomerStatus user id action
  | .deleteMailAccount id => Jobs.deleteMailAccount user id
  | .deleteFtpAccount userid => Jobs.deleteFtpAccount user userid
  | .deleteDnsRecord id => Jobs.deleteDnsRecord user id
  | .deleteProtectedArea id => Jobs.deleteProtectedArea user id
  | .deleteCertificate ownerType ownerId id => Jobs.deleteCertificate user ownerType ownerId id
  | .scheduleBackupRestore => Jobs.scheduleBackupRestore user

/-- Plans a job for a user. -/
def plan (user : User) : Job → LookupM Plan
  | .deleteSubdomain id => Jobs.planSubdomain user id
  | .deleteAliasSubdomain id => Jobs.planAliasSubdomain user id
  | .deleteDomainAlias id => Jobs.planDomainAlias user id
  | .deleteCustomer id => Jobs.planCustomer user id
  | .changeCustomerStatus id action => Jobs.planCustomerStatus user id action
  | .deleteMailAccount id => Jobs.planMailAccount user id
  | .deleteFtpAccount userid => Jobs.planFtpAccount user userid
  | .deleteDnsRecord id => Jobs.planDnsRecord user id
  | .deleteProtectedArea id => Jobs.planProtectedArea user id
  | .deleteCertificate ownerType ownerId id => Jobs.planCertificate user ownerType ownerId id
  | .scheduleBackupRestore => Jobs.planBackupRestore user

theorem run_eq_schedule (user : User) (job : Job) :
    job.run user = Jobs.schedule user (job.plan user) := by
  cases job <;> rfl

end Job

end HostingPanel
