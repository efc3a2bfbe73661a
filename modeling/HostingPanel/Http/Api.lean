import HostingPanel.Access.Login
import HostingPanel.Debugger
import HostingPanel.Http.Guard
import HostingPanel.Jobs.Backups
import HostingPanel.Jobs.Certificates
import HostingPanel.Jobs.CustomerDeletion
import HostingPanel.Jobs.CustomerStatus
import HostingPanel.Jobs.DnsRecords
import HostingPanel.Jobs.DomainAliases
import HostingPanel.Jobs.FtpAccounts
import HostingPanel.Jobs.MailAccounts
import HostingPanel.Jobs.ProtectedAreas
import HostingPanel.Jobs.Subdomains

/-!
# The HTTP interface

How the endpoints answer.  `Api.handle` is the answer to a request: it finds the endpoint, lets the
guard decide, works with a notifier of the request's own, and turns a failure into a response.
-/

namespace HostingPanel.Api

open Jobs

/-- Signs in with the name and the password in the body. -/
def login (r : Request) : OperationM Response := do
  match r.fields with
  | .error response => return response
  | .ok fields =>
    let name := Request.field "username" fields
    let password := Request.field "password" fields
    if !name.isGiven || !password.isGiven then
      return .error 400 "username and password required"
    match ← Login.authenticate name password with
    | none => return .error 401 "Invalid credentials"
    | some a =>
      let id := Json.int a.id
      let name := Json.ofText? a.name
      let role := Json.ofText? a.role
      let token ← Token.create (← read) id name role
      OperationM.log .info .app (name.shown ++ " logged in")
      return ⟨200, some (.object [("ok", .bool true), ("token", .text token),
        ("user", .object [("id", id), ("username", name), ("role", role)])])⟩

/-- What the panel says about itself. -/
def health (s : Settings) : Response :=
  ⟨200, some (.object [("status", .text "ok"), ("service", .text "MSCP Webpanel"),
    ("version", s.panelVersion),
    ("daemon", .text (s.daemonType.shown ++ "://" ++ s.daemonHost.shown ++ ":" ++
      s.daemonPort.shown))])⟩

/-- The response that there is nothing under a path. -/
def notFound : Response :=
  .error 404 "Not found"

/-- Answers for an endpoint that is there for everybody. -/
def serveOpen (r : Request) : OpenEndpoint → OperationM Response
  | .login => login r
  | .health => return health (← read).settings
  | .file => return notFound

/-- Goes on with a customer whom a user manages. -/
def withCustomer (user : User) (id : Json) (act : OperationM Response) : OperationM Response := do
  if ← Access.canManage user id then act
  else return .error 404 "Customer not found"

/-- Activates or deactivates a customer, as the body says. -/
def changeStatus (r : Request) (user : User) (id : Json) : OperationM Response := do
  match r.fields with
  | .error response => return response
  | .ok fields =>
    let action := Request.field "action" fields
    if (CustomerAction.named? action).isNone then
      return .error 400 "action must be activate or deactivate"
    withCustomer user id do
      return .done (← changeCustomerStatus user id action)

/-- The fields of a report about an item in error. -/
def reportFields (report : Debugger.Report) : Json :=
  .object [("id", report.id), ("name", .ofText? report.name), ("status", .ofText? report.status),
    ("label", .ofText? report.label)]

/-- What waits and what failed. -/
def overview : OperationM Response := do
  let pending ← Debugger.countPending
  let errors ← Debugger.listErrors
  return ⟨200, some (.object [("ok", .bool true), ("pending_requests", .int pending),
    ("errors", .object (errors.map fun (type, reports) =>
      (type, .list (reports.map reportFields))))])⟩

/-- Tells the daemon about what waits. -/
def runPending : OperationM Response := do
  let (success, message) ← Debugger.runPending
  if success then return .done message
  else return ⟨200, some (.object [("ok", .bool false), ("message", .text message)])⟩

/-- Answers for an endpoint to a user who may use it. -/
def serveGuarded (r : Request) (user : User) : GuardedEndpoint → OperationM Response
  | .identity =>
    return ⟨200, some (.object [("ok", .bool true), ("user", user.description)])⟩
  | .subdomain id => return .done (← deleteSubdomain user (.int id))
  | .aliasSubdomain id => return .done (← deleteAliasSubdomain user (.int id))
  | .domainAlias id => return .done (← deleteDomainAlias user (.int id))
  | .mailAccount id => return .done (← deleteMailAccount user (.int id))
  | .ftpAccount name => return .done (← deleteFtpAccount user (.text name))
  | .dnsRecord id => return .done (← deleteDnsRecord user (.int id))
  | .protectedArea id => return .done (← deleteProtectedArea user (.int id))
  | .certificate type ownerId id =>
    return .done (← deleteCertificate user (.text type) (.int ownerId) (.int id))
  | .backupRestore => return .done (← scheduleBackupRestore user)
  | .customer id =>
    withCustomer user (.int id) do
      return .done (← deleteCustomer user (.int id))
  | .customerStatus id => changeStatus r user (.int id)
  | .overview => overview
  | .pendingRun => runPending
  | .requeue type id => return .done (← Debugger.requeue (.text type) (.text id))

/-- Answers for an endpoint. -/
def serve (r : Request) (e : Endpoint) : OperationM Response := do
  match e with
  | .unguarded e => serveOpen r e
  | .guarded e =>
    match Guard.enter (← read) r e with
    | .error response => return response
    | .ok user => serveGuarded r user e

/-- Answers a request as far as it does not fail. -/
def answer (r : Request) : OperationM Response := do
  match r.destination with
  | .notFound => return notFound
  | .methodNotAllowed => return .error 405 "Method not allowed"
  | .elsewhere => return { status := 308 }
  | .endpoint e => if r.method == .options then return { status := 200 } else serve r e

/-- The part of a response that is sent: reading without the body leaves the body out. -/
def sent (r : Request) (response : Response) : Response :=
  if r.method == .head then { response with body := none } else response

/-- Answers a request with a notifier of its own.  A failure becomes a response. -/
def handle (r : Request) : OperationM Response := do
  OperationM.renewNotifier
  match ← OperationM.attempt (answer r) with
  | .ok response => return sent r response
  | .error e => return sent r (.ofFailure e)

end HostingPanel.Api
