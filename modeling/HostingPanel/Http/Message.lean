import HostingPanel.Http.Target
import HostingPanel.Json.Parser
import HostingPanel.Text.Uppercase

/-!
# Requests and responses

A request comes with a method, the path of its target, perhaps the text of its `Authorization`
header, and perhaps a body of some content type.  `Request.make` is how a request comes about.  A
response is a status and a JSON body, or no JSON where the body is a page for people.
-/

namespace HostingPanel

/-- The methods that requests can be told apart by. -/
inductive Method where
  | get
  /-- Reading without the body of the response. -/
  | head
  /-- Asking which methods there are. -/
  | options
  | post
  | delete
  | other
deriving DecidableEq, Repr

/-- The method with a name, in any case. -/
def Method.named (name : String) : Method :=
  match Text.upper name with
  | "GET" => .get
  | "HEAD" => .head
  | "OPTIONS" => .options
  | "POST" => .post
  | "DELETE" => .delete
  | _ => .other

/-- A request. -/
structure Request where
  method : Method
  /-- The decoded path of what is asked for, without the slashes that it begins with. -/
  path : List Char
  /-- The text of the `Authorization` header. -/
  authorization : Option String := none
  contentType : Option String := none
  body : String := ""

/-- A response. -/
structure Response where
  status : Int
  body : Option Json := none

namespace Response

/-- The response that something was done. -/
def done (message : String) : Response :=
  ⟨200, some (.object [("ok", .bool true), ("message", .text message)])⟩

/-- The response that something went wrong. -/
def error (status : Int) (message : String) : Response :=
  ⟨status, some (.object [("error", .text message)])⟩

/-- The response to what the panel did not expect. -/
def internalError : Response :=
  error 500 "Internal server error"

/-- The response to a failure: its wording if it is meant for the user, and otherwise none of its
details. -/
def ofFailure (e : Failure) : Response :=
  match e.status? with
  | some status => error status e.message
  | none => internalError

end Response

namespace Request

/-- Whether the text of a header has one line only. -/
def isOneLine (header : String) : Bool :=
  header.toList.all fun c => c != '\r' && c != '\n'

/-- The request for a target; target and headers have to be well-formed. -/
def make (method : Method) (target : String) (authorization contentType : Option String)
    (body : String) : Except Failure Request := do
  let path ← Target.path target
  if !authorization.all isOneLine || !contentType.all isOneLine then throw .brokenHeader
  return { method, path, authorization, contentType, body }

/-- Whether a character is an ASCII blank. -/
def isAsciiBlank (c : Char) : Bool :=
  Text.isBlank c && c.toNat < 0x80

/-- Whether a content type is JSON, with parameters or without.  Blanks other than those of ASCII
belong to the type. -/
def isJsonType (contentType : String) : Bool :=
  let kind := (Text.trimBy isAsciiBlank (contentType.toList.takeWhile (· != ';'))).map Char.toLower
  kind == "application/json".toList ||
    ("application/".toList.isPrefixOf kind && "+json".toList.isSuffixOf kind)

/-- The value in the body.  A body of another type and one that is not JSON are refused; one whose
values are nested too deeply cannot be read to its end. -/
def json (r : Request) : Except Response Json :=
  if !r.contentType.any isJsonType then .error { status := 415 }
  else
    match Json.ofBytes r.body.toUTF8.toList with
    | .ok v => .ok v
    | .error .malformed => .error { status := 400 }
    | .error .tooDeep => .error Response.internalError

/-- The fields of the object in the body.  A value that counts as not given stands for an object
without fields; other values have no fields to look at. -/
def fields (r : Request) : Except Response (List (String × Json)) := do
  let v ← r.json
  if !v.isGiven then return []
  match v with
  | .object fields => return fields
  | _ => throw Response.internalError

/-- The value of a field, where a missing one is absent. -/
def field (key : String) (fields : List (String × Json)) : Json :=
  (Json.field? key fields).getD .null

end Request

end HostingPanel
