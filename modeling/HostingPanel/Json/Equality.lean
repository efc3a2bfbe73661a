import HostingPanel.Json.Basic

/-!
# Equality of JSON values

`Json.same` compares values by what they stand for: numbers by their value, where a truth value
counts as zero or one, lists entry by entry, and objects field by field in any order.
-/

namespace HostingPanel

/-- Whether two numbers have the same value. -/
def Number.same : Number → Number → Bool
  | .integer m, .integer n => m == n
  | .integer m, .real x => Number.isInt m (.real x)
  | .real x, .integer n => Number.isInt n (.real x)
  | .real x, .real y => x == y

namespace Json

/-- The number that a truth value counts as. -/
def truthNumber (b : Bool) : Number :=
  .integer (if b then 1 else 0)

mutual

/-- Whether two values are equal. -/
def same : Json → Json → Bool
  | .null, .null => true
  | .bool a, .bool b => a == b
  | .bool a, .number n => (truthNumber a).same n
  | .number m, .bool b => m.same (truthNumber b)
  | .number m, .number n => m.same n
  | .text s, .text t => s == t
  | .brokenText p, .brokenText q => p == q
  | .list l, .list m => sameList l m
  | .object l, .object m => l.length == m.length && sameFields l m
  | _, _ => false

/-- Whether two lists are equal entry by entry. -/
def sameList : List Json → List Json → Bool
  | [], [] => true
  | v :: l, w :: m => same v w && sameList l m
  | _, _ => false

/-- Whether all the fields are among other fields, with equal values. -/
def sameFields : List (String × Json) → List (String × Json) → Bool
  | [], _ => true
  | (k, v) :: l, m =>
    (match field? k m with
      | some w => same v w
      | none => false) && sameFields l m

end

/-- Whether a value is one of a list. -/
def isAmong (list : List Json) (v : Json) : Bool :=
  list.any (same · v)

theorem same_text (s : String) (v : Json) : same (.text s) v = v.isText s := by
  cases v <;> simp [same, isText, Bool.beq_comm]

theorem isAmong_texts (list : List String) (v : Json) :
    v.isAmong (list.map .text) = list.any fun s => v.isText s := by
  simp [isAmong, List.any_map, Function.comp_def, same_text]

end Json

end HostingPanel
