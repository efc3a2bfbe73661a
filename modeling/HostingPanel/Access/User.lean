import HostingPanel.Failure

/-!
# Signed-in users

Who an operation is done for.  The description of a user comes from a token or from the caller, so
each property may be missing and may be any value; an operation fails when it needs a property that
the description does not have.
-/

namespace HostingPanel

/-- A signed-in user. -/
structure User where
  /-- What is said about the user: an object with the properties, if it is in order. -/
  description : Json

namespace User

/-- A property that the operation can do without. -/
def property? (u : User) (name : String) : Option Json :=
  u.description.member? name

/-- A property that the operation needs. -/
def property (u : User) (name : String) : Except Failure Json :=
  u.description.member name

/-- The key of the user's account. -/
def id (u : User) : Except Failure Json :=
  u.property "user_id"

/-- The name of the user. -/
def name (u : User) : Except Failure Json :=
  u.property "username"

/-- The role of the user. -/
def role (u : User) : Except Failure Json :=
  u.property "role"

/-- Whether the user has a role. -/
def hasRole (u : User) (role : String) : Bool :=
  (u.property? "role").any (Json.isText role)

/-- Whether the user is an administrator. -/
def isAdmin (u : User) : Bool :=
  u.hasRole "admin"

/-- Whether the user is a reseller. -/
def isReseller (u : User) : Bool :=
  u.hasRole "reseller"

end User

end HostingPanel
