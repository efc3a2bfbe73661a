import HostingPanel.Access.Roles
import HostingPanel.Jobs.FtpGroups
import HostingPanel.Jobs.MailAccounts
import HostingPanel.Status
import HostingPanel.Text.MountPath

/-!
# Rules for any values

The rules on statuses, roles, paths and names, for values of which nothing is known.  A value with
which a rule can do nothing is refused; the values that the panel itself works with are left to the
rule there.
-/

namespace HostingPanel.Rules

/-! ### Statuses -/

/-- Whether a value is a list or an object, which cannot be a name. -/
def isCompound : Json → Bool
  | .list _ => true
  | .object _ => true
  | _ => false

/-- Whether a value is one of some texts. -/
def isOneOf (texts : List String) (v : Json) : Bool :=
  texts.any fun s => v.isText s

/-- A value that can be a status: a text, or the absent value. -/
def asStatus? : Json → Option (Option String)
  | .null => some none
  | .text s => some (some s)
  | _ => none

/-- Whether a status is a request that waits for the daemon. -/
def isPending (status : Json) : Bool :=
  (asStatus? status).any Status.isPending

/-- Whether a text stands somewhere in another one. -/
def isPartOf (part whole : String) : Bool :=
  (Text.suffixes whole.toList).any fun rest => part.toList.isPrefixOf rest

/-- Whether a status is among known ones: the entries of a list, the keys of an object or the parts
of a text. -/
def isAmongKnown (status known : Json) : Except Failure Bool :=
  match known, status with
  | .list l, _ => .ok (status.isAmong l)
  | .object fields, _ =>
    if isCompound status then .error .notAName
    else .ok (isOneOf (fields.map (·.1)) status)
  | .text s, .text part => .ok (isPartOf part s)
  | _, _ => .error .wrongType

/-- Whether a status is an error message of the daemon: one that is not among the known ones, or
without known ones given, one that the panel does not know. -/
def isError (status known : Json) : Except Failure Bool :=
  match status, known with
  | .null, _ => .ok false
  | _, .null =>
    match asStatus? status with
    | some s => .ok (Status.isError s none)
    | none => if isCompound status then .error .notAName else .ok true
  | _, _ => (isAmongKnown status known).map (!·)

/-- What the user reads for a status.  An unknown one is shown only on request. -/
def humanize (status showError : Json) : Except Failure Json :=
  match asStatus? status with
  | some s => .ok (.ofText? (Status.humanize s showError.isGiven))
  | none =>
    if isCompound status then .error .notAName
    else .ok (if showError.isGiven then status else .text Status.failureLabel)

/-- The requests that may follow a status. -/
def allowedFrom (current : Json) : Except Failure (List String) :=
  match asStatus? current with
  | some s => .ok (Status.allowedFrom s)
  | none => if isCompound current then .error .notAName else .ok Status.afterFailure

/-- The target of a move that the panel may make. -/
def checkTransition (current target : Json) : Except Failure Json :=
  match asStatus? current, asStatus? target with
  | some s, some t => (Status.checkTransition s t).map .text
  | _, _ =>
    if isOneOf Status.terminal target then .error (.forbiddenMove current target)
    else do
      let allowed ← allowedFrom current
      if isOneOf allowed target then return target else throw (.forbiddenMove current target)

/-! ### Paths and names -/

/-- The normal form of a mount point. -/
def normalizePath (path : Json) : Except Failure String :=
  match path with
  | .text s => .ok (Text.normalizePath (some s))
  | v => if v.isGiven then .error .notText else .ok (Text.normalizePath none)

/-- The non-empty entries of a comma-separated list. -/
def items (list : Json) : Except Failure (List String) :=
  match list with
  | .text s => .ok (Text.items (some s))
  | v => if v.isGiven then .error .notText else .ok []

/-- Whether an account belongs to a domain, or on request to a host below it.  A request that counts
as not given is the answer itself. -/
def belongsTo (member domain includeSubdomains : Json) : Except Failure Json :=
  match member with
  | .text m =>
    if domain.isText (FtpGroups.hostOf m) then .ok (.bool true)
    else if !includeSubdomains.isGiven then .ok includeSubdomains
    else match domain with
      | .text d => .ok (.bool (FtpGroups.isBelow (FtpGroups.hostOf m) d))
      | _ => .error .wrongType
  | _ => .error .notText

/-- A text or nothing; other values are no name. -/
def name? : Json → Option String
  | .text s => some s
  | _ => none

/-- Whether a mail account must not be deleted by its owner. -/
def isProtected (account protect : Json) : Except Failure Bool :=
  if !protect.isGiven then .ok false
  else do
    let kind ← account.member "mail_type"
    let name ← account.member "mail_acc"
    return Jobs.isProtected true (name? name) (name? kind)

/-! ### Roles -/

/-- Whether a user has a role. -/
def hasRole (role : String) (user : Json) : Except Failure Bool :=
  match user with
  | .object _ => .ok ((User.mk user).hasRole role)
  | _ => .error .notText

/-- Checks that somebody is signed in who has one of some roles. -/
def admission (roles : List Json) (user : Json) : Except Failure Access.Admission :=
  match user with
  | .object _ => .ok (Access.admission roles (some ⟨user⟩))
  | v => if v.isGiven then .error .notText else .ok .unauthorized

/-- Whether a user manages a customer. -/
def canManage (user customer : Json) : OperationM Bool :=
  match user with
  | .object _ => Access.canManage ⟨user⟩ customer
  | _ => throw .notText

end HostingPanel.Rules
