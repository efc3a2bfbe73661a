import HostingPanel.Number.Layout
import HostingPanel.Text.Quoted
import HostingPanel.Text.Utf8

/-!
# JSON values

The values that requests, tokens and job arguments carry.  An object keeps its fields in the order
in which their keys first appeared.  `Json.shown` is the text of a value inside a message: a text
stands for itself, and an absent value reads `None`.
-/

namespace HostingPanel

/-- A JSON value; integers and floating-point numbers are kept apart. -/
inductive Json where
  | null
  | bool (b : Bool)
  | number (n : Number)
  | text (s : String)
  /-- The code points of a text in which a half of a surrogate pair stands alone. -/
  | brokenText (points : List Nat)
  | list (values : List Json)
  | object (fields : List (String × Json))

namespace Json

/-- An integer as a value. -/
def int (n : Int) : Json := .number (.integer n)

/-- A text or the absent value. -/
def ofText? : Option String → Json
  | some s => .text s
  | none => .null

/-- An integer or the absent value. -/
def ofInt? : Option Int → Json
  | some n => .int n
  | none => .null

/-- A text by its code points. -/
def ofPoints (points : List Nat) : Json :=
  if points.all fun p => decide p.isValidChar then .text (String.ofList (points.map Char.ofNat))
  else .brokenText points

/-- A key by its code points; a half of a surrogate pair that stands alone is replaced. -/
def keyOfPoints (points : List Nat) : String :=
  String.ofList (points.map fun p =>
    if p.isValidChar then Char.ofNat p else Text.replacementChar)

/-- The value of the field with a key. -/
def field? (key : String) : List (String × Json) → Option Json
  | [] => none
  | (k, v) :: rest => if k = key then some v else field? key rest

/-- Sets a field: an existing key keeps its place, a new one comes last. -/
def setField (key : String) (v : Json) : List (String × Json) → List (String × Json)
  | [] => [(key, v)]
  | (k, w) :: rest => if k = key then (key, v) :: rest else (k, w) :: setField key v rest

/-- Whether a value counts as given: everything but the absent value, `false`, zero and what is
empty. -/
def isGiven : Json → Bool
  | .null => false
  | .bool b => b
  | .number n => !n.isZero
  | .text s => !s.isEmpty
  | .brokenText points => !points.isEmpty
  | .list l => !l.isEmpty
  | .object l => !l.isEmpty

/-- The name of the type of a value, as complaints give it. -/
def typeName : Json → String
  | .null => "NoneType"
  | .bool _ => "bool"
  | .number (.integer _) => "int"
  | .number (.real _) => "float"
  | .text _ => "str"
  | .brokenText _ => "str"
  | .list _ => "list"
  | .object _ => "dict"

/-- Whether a value is the given text. -/
def isText (s : String) : Json → Bool
  | .text t => t == s
  | _ => false

mutual

/-- The text of a value inside a list or an object. -/
def nested : Json → String
  | .null => "None"
  | .bool b => if b then "True" else "False"
  | .number n => n.text .message
  | .text s => Text.quoted s
  | .brokenText points => Text.quotedPoints points
  | .list l => "[" ++ nestedList l ++ "]"
  | .object l => "\x7b" ++ nestedFields l ++ "\x7d"

/-- The texts of the values of a list. -/
def nestedList : List Json → String
  | [] => ""
  | [v] => nested v
  | v :: rest => nested v ++ ", " ++ nestedList rest

/-- The texts of the fields of an object. -/
def nestedFields : List (String × Json) → String
  | [] => ""
  | [(k, v)] => Text.quoted k ++ ": " ++ nested v
  | (k, v) :: rest => Text.quoted k ++ ": " ++ nested v ++ ", " ++ nestedFields rest

end

/-- The text of a value inside a message. -/
def shown : Json → String
  | .text s => s
  | .brokenText points => keyOfPoints points
  | v => v.nested

/-- The text of a name that may be absent inside a message. -/
def shownName (s : Option String) : String :=
  (ofText? s).shown

end Json

end HostingPanel
