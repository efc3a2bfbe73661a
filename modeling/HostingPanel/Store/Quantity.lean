import HostingPanel.Json.Equality
import HostingPanel.Number.Literal

/-!
# Quantities

What the database keeps in a number column.  It ought to be a whole number, and a value that stands
for a whole number of 64 bits is kept as one; any other value stays what it is.  `Json.asQuantity?`
is what a value is kept as, and `Quantity.toJson` is the value that is read from the column again.
-/

namespace HostingPanel

/-- What a number column holds where it is not empty. -/
inductive Quantity where
  | whole (n : Int)
  /-- A floating-point number that is no whole number of 64 bits. -/
  | real (x : Float)
  /-- A text that is no number. -/
  | text (s : String)
deriving DecidableEq, Repr

namespace Quantity

/-- What a number is kept as. -/
def ofNumber? : Number → Option Quantity
  | .integer n => some (.whole n)
  | .real x =>
    match Number.exactInt? x with
    | some n =>
      some (if -Number.wordLimit < n ∧ n < Number.wordLimit then .whole n else .real x)
    | none => if x.isNaN then none else some (.real x)

/-- The value of a quantity. -/
def toJson : Quantity → Json
  | .whole n => .int n
  | .real x => .number (.real x)
  | .text s => .text s

end Quantity

namespace Json

/-- The value of a number column. -/
def ofQuantity? (column : Option Quantity) : Json :=
  column.elim .null Quantity.toJson

/-- The number that a value is compared as with a number column. -/
def asNumber? : Json → Option Number
  | .bool b => some (truthNumber b)
  | .number n => some n
  | .text s => Number.columnNumber? s
  | _ => none

/-- What a value is kept as in a number column, unless it stands for the absent value. -/
def asQuantity? (v : Json) : Option Quantity :=
  match v, v.asNumber? with
  | _, some n => Quantity.ofNumber? n
  | .text s, none => some (.text s)
  | _, none => none

@[simp] theorem asQuantity?_int (n : Int) : (Json.int n).asQuantity? = some (.whole n) := rfl

end Json

end HostingPanel
