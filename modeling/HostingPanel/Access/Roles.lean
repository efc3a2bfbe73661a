import HostingPanel.Access.User
import HostingPanel.Json.Equality
import HostingPanel.Operation

/-!
# Who may do what

Administrators manage every customer, resellers the customers they created.  A part of the panel
may be restricted to some roles.
-/

namespace HostingPanel.Access

/-- The outcome of checking the role of a user. -/
inductive Admission where
  | allowed
  | unauthorized
  /-- The user has another role. -/
  | denied
deriving DecidableEq, Repr

/-- Checks that somebody is signed in who has one of some roles.  A user without any properties
counts as nobody, and a user without a role has the absent value for a role. -/
def admission (roles : List Json) (user : Option User) : Admission :=
  match user with
  | none => .unauthorized
  | some u =>
    if !u.description.isGiven then .unauthorized
    else if ((u.property? "role").getD .null).isAmong roles then .allowed
    else .denied

theorem admission_eq_allowed_iff {roles : List String} {user : Option User} :
    admission (roles.map .text) user = .allowed ↔
      ∃ u, user = some u ∧ u.description.isGiven = true ∧ roles.any u.hasRole = true := by
  cases user with
  | none => simp [admission]
  | some u =>
    have held : ((u.property? "role").getD .null).isAmong (roles.map .text) =
        roles.any u.hasRole := by
      rw [Json.isAmong_texts]
      refine congrArg roles.any (funext fun s => ?_)
      cases found : u.property? "role" with
      | none => simp [User.hasRole, found, Json.isText]
      | some v => simp [User.hasRole, found]
    simp only [admission, Option.some.injEq, exists_eq_left', held]
    cases u.description.isGiven <;> cases roles.any u.hasRole <;> decide

/-- The account that created a customer. -/
def creatorOf (customer : Json) : Query (Option (Option Quantity)) where
  table := .admin
  params := [customer]
  answer s := ((s.rows .admin).find? fun (a : Admin) =>
    customer.equalsKey a.id && Cell.isText "user" a.role).map fun (a : Admin) => a.createdBy

/-- Whether a user manages a customer. -/
def canManage (user : User) (customer : Json) : OperationM Bool := do
  if user.isAdmin then return true
  if !user.isReseller then return false
  match ← OperationM.fetch (creatorOf customer) with
  | none => return false
  | some creator => return (Json.ofQuantity? creator).same (← user.id)

end HostingPanel.Access
