import HostingPanel.Access.Password
import HostingPanel.Access.User
import HostingPanel.Operation

/-!
# Signing in

An account signs in with its name and password.  A customer, moreover, needs a domain, and neither
the account nor the domain may be suspended or expired.
-/

namespace HostingPanel.Login

/-- The account with a name. -/
def accountNamed (name : Json) : Query (Option Admin) where
  table := .admin
  params := [name]
  answer s := (s.rows .admin).find? fun (a : Admin) => name.equalsText a.name

/-- The account of a customer with its domain. -/
def customerAccount (id : Int) : Query (Option (Domain × Admin)) where
  table := .domain
  mentions := [.admin]
  params := [.int id]
  answer s := (s.rows .domain).findSome? fun (d : Domain) =>
    if Cell.refersTo id d.ownerId then
      ((s.rows .admin).find? fun (a : Admin) => Cell.refersTo a.id d.ownerId).map (d, ·)
    else none

/-- Whether the account of a domain has expired.  An account without an expiry never does. -/
def hasExpired (now : Int) (d : Domain) : Except Failure Bool :=
  match d.expires with
  | none => .ok false
  | some (.whole t) => .ok (0 < t && t < now)
  | some (.real x) => .ok (0 < x && x < Float.ofInt now)
  | some (.text s) => if s.isEmpty then .ok false else .error .wrongType

/-- Checks that a customer may sign in. -/
def checkCustomer (a : Admin) : OperationM Unit := do
  match ← OperationM.fetch (customerAccount a.id) with
  | none =>
    OperationM.log .error .auth
      ("Account data not found in database for the " ++ Json.shownName a.name ++ " user")
    throw .accountIncomplete
  | some (d, a) =>
    if Cell.isText "disabled" a.status || Cell.isText "disabled" d.status then
      throw .accountSuspended
    if ← hasExpired (← read).now d then throw .accountExpired

/-- The account that a name and a password sign in to, if they are right. -/
def authenticate (name password : Json) : OperationM (Option Admin) := do
  match ← OperationM.fetch (accountNamed name) with
  | none => return none
  | some a =>
    if !(← Password.verify password a.secret) then return none
    if Cell.isText "user" a.role then checkCustomer a
    return some a

end HostingPanel.Login
