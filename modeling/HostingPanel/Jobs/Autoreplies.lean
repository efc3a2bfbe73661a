import HostingPanel.Status
import HostingPanel.Store.Statement

/-!
# Logs of automatic replies

The log of automatic replies keeps the senders that have a mail account which is not being deleted.
-/

namespace HostingPanel.Jobs

/-- The addresses of the mail accounts that are not being deleted. -/
def liveAddresses (s : Store) : List String :=
  (s.rows .mail).filterMap fun (m : Mailbox) =>
    if Cell.isOther Status.toDelete m.status then m.address else none

/-- Whether a column holds none of the given addresses.  Without any address that is so for every
column, also for an absent one. -/
def isNoneOfAddresses (addresses : List String) (column : Option String) : Bool :=
  addresses.isEmpty || Cell.isNoneOf addresses column

/-- Removes the logs of senders without a live mail account. -/
def purgeAutoreplies : Statement :=
  .delete .autoreply [.mail] [.text Status.toDelete] fun s (l : AutoreplyLog) =>
    isNoneOfAddresses (liveAddresses s) l.sender

end HostingPanel.Jobs
