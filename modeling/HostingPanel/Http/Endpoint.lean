import HostingPanel.Http.Message

/-!
# Endpoints

What the panel offers over HTTP, under which path and method, and to whom.  The open endpoints are
there for everybody; a guarded one asks for a signed-in user, most of them for one with a certain
role (`GuardedEndpoint.roles?`).
-/

namespace HostingPanel

/-- The endpoints for everybody. -/
inductive OpenEndpoint where
  | login
  /-- Whether the panel is there, and what it talks to. -/
  | health
  /-- A static file; the panel has none. -/
  | file
deriving DecidableEq

/-- The endpoints for signed-in users. -/
inductive GuardedEndpoint where
  | identity
  | subdomain (id : Int)
  | aliasSubdomain (id : Int)
  | domainAlias (id : Int)
  | mailAccount (id : Int)
  | ftpAccount (name : String)
  | dnsRecord (id : Int)
  | protectedArea (id : Int)
  | certificate (ownerType : String) (ownerId id : Int)
  | backupRestore
  | customer (id : Int)
  | customerStatus (id : Int)
  /-- What waits and what failed. -/
  | overview
  /-- Telling the daemon about what waits. -/
  | pendingRun
  /-- A new attempt for an item. -/
  | requeue (type id : String)
deriving DecidableEq

/-- The endpoints. -/
inductive Endpoint where
  | unguarded (e : OpenEndpoint)
  | guarded (e : GuardedEndpoint)
deriving DecidableEq

namespace GuardedEndpoint

/-- The method of an endpoint. -/
def method : GuardedEndpoint → Method
  | .identity => .get
  | .subdomain _ => .delete
  | .aliasSubdomain _ => .delete
  | .domainAlias _ => .delete
  | .mailAccount _ => .delete
  | .ftpAccount _ => .delete
  | .dnsRecord _ => .delete
  | .protectedArea _ => .delete
  | .certificate _ _ _ => .delete
  | .backupRestore => .post
  | .customer _ => .delete
  | .customerStatus _ => .post
  | .overview => .get
  | .pendingRun => .post
  | .requeue _ _ => .post

/-- The roles to which an endpoint is restricted, if it is restricted. -/
def roles? : GuardedEndpoint → Option (List String)
  | .identity => none
  | .subdomain _ => some ["user"]
  | .aliasSubdomain _ => some ["user"]
  | .domainAlias _ => some ["user"]
  | .mailAccount _ => some ["user"]
  | .ftpAccount _ => some ["user"]
  | .dnsRecord _ => some ["user"]
  | .protectedArea _ => some ["user"]
  | .certificate _ _ _ => some ["user"]
  | .backupRestore => some ["user"]
  | .customer _ => some ["admin", "reseller"]
  | .customerStatus _ => some ["admin", "reseller"]
  | .overview => some ["admin"]
  | .pendingRun => some ["admin"]
  | .requeue _ _ => some ["admin"]

end GuardedEndpoint

namespace Endpoint

/-- The method of an endpoint. -/
def method : Endpoint → Method
  | .unguarded .login => .post
  | .unguarded .health => .get
  | .unguarded .file => .get
  | .guarded e => e.method

section Paths

variable (number? : String → Option Int)

/-- The endpoint under a path whose last part is a number. -/
def numbered (segment : String) (make : Int → GuardedEndpoint) : Option Endpoint :=
  (number? segment).map fun n => .guarded (make n)

/-- The endpoint under a path whose parts are these; `number?` reads the parts that are numbers. -/
def at? : List String → Option Endpoint
  | ["auth", "login"] => some (.unguarded .login)
  | ["auth", "verify"] => some (.guarded .identity)
  | ["subdomains", id] => numbered number? id .subdomain
  | ["subdomain-aliases", id] => numbered number? id .aliasSubdomain
  | ["aliases", id] => numbered number? id .domainAlias
  | ["mail", id] => numbered number? id .mailAccount
  | ["ftp", name] => if name.isEmpty then none else some (.guarded (.ftpAccount name))
  | ["dns", id] => numbered number? id .dnsRecord
  | ["protected-areas", id] => numbered number? id .protectedArea
  | ["ssl", type, ownerId, id] =>
    if type.isEmpty then none
    else (number? ownerId).bind fun owner => numbered number? id (.certificate type owner)
  | ["backup", "restore"] => some (.guarded .backupRestore)
  | ["customers", id] => numbered number? id .customer
  | ["customers", id, "status"] => numbered number? id .customerStatus
  | ["debugger"] => some (.guarded .overview)
  | ["debugger", "run"] => some (.guarded .pendingRun)
  | ["debugger", "items", type, id, "requeue"] =>
    if type.isEmpty || id.isEmpty then none else some (.guarded (.requeue type id))
  | ["health"] => some (.unguarded .health)
  | "static" :: name :: _ => if name.isEmpty then none else some (.unguarded .file)
  | _ => none

end Paths

example : at? Target.number? ["mail", "7"] = some (.guarded (.mailAccount 7)) := by decide +kernel

example : at? Target.number? ["mail", "7", ""] = none := rfl

/-- Whether an endpoint answers to a method.  Reading without the body is reading. -/
def accepts (e : Endpoint) (m : Method) : Bool :=
  m == e.method || m == .options || (m == .head && e.method == .get)

end Endpoint

/-- Where a request leads. -/
inductive Destination where
  | endpoint (e : Endpoint)
  /-- To an endpoint, but with another spelling of its path. -/
  | elsewhere
  /-- To an endpoint that has other methods. -/
  | methodNotAllowed
  | notFound
deriving DecidableEq

/-- Where a method and the parts of a path lead, if the path is known.  A number with too many
digits leads nowhere. -/
def Destination.at? (m : Method) (segments : List String) : Option Destination :=
  match Endpoint.at? Target.number? segments with
  | some e => some (if e.accepts m then .endpoint e else .methodNotAllowed)
  | none => (Endpoint.at? Target.digits? segments).map fun e =>
      if e.accepts m then .notFound else .methodNotAllowed

/-- Where a request leads.  A path that is unknown as it stands is looked at once more with every
run of slashes made a single one. -/
def Request.destination (r : Request) : Destination :=
  match Destination.at? r.method (Target.cut r.path) with
  | some d => d
  | none =>
    match Destination.at? r.method (Target.cut (Target.mergeSlashes r.path)) with
    | some .methodNotAllowed => .methodNotAllowed
    | some _ => .elsewhere
    | none => .notFound

/-- A path and a method lead to an endpoint only if they are those of the endpoint. -/
theorem Destination.at?_eq_endpoint {m : Method} {segments : List String} {e : Endpoint}
    (h : Destination.at? m segments = some (.endpoint e)) :
    Endpoint.at? Target.number? segments = some e ∧ e.accepts m = true := by
  unfold Destination.at? at h
  split at h
  · rename_i f found
    simp only [Option.some.injEq] at h
    split at h
    · rename_i accepted
      cases h
      exact ⟨found, accepted⟩
    · cases h
  · simp only [Option.map_eq_some_iff] at h
    obtain ⟨f, -, same⟩ := h
    split at same <;> cases same

/-- A request reaches an endpoint only by a path and a method of that endpoint. -/
theorem Request.destination_eq_endpoint {r : Request} {e : Endpoint}
    (h : r.destination = .endpoint e) :
    Endpoint.at? Target.number? (Target.cut r.path) = some e ∧ e.accepts r.method = true := by
  unfold Request.destination at h
  split at h
  · rename_i d found
    subst h
    exact Destination.at?_eq_endpoint found
  · split at h <;> cases h

end HostingPanel
