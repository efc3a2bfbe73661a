import HostingPanel.Failure
import HostingPanel.Store.Quantity
import HostingPanel.Text.Pattern

/-!
# Parameters of statements

The values that a statement gets from outside are JSON values.  This module says which of them can
be bound at all, and when a bound value meets a column: a text that is compared with a number
column is read as a number if it is one, and a number that is compared with a text column is
written as a text.  A comparison with an absent value never holds.  A key is looked up by the
integer that a parameter stands for (`Json.asKey?`).
-/

namespace HostingPanel

namespace Number

/-- Whether an integer is at most the number. -/
def isAtLeast (k : Int) : Number → Bool
  | .integer n => k ≤ n
  | .real x =>
    match Reading.ofFloat x with
    | .nan => false
    | .infinite negative => !negative
    | .finite negative v =>
      let scaled : Int := (v.mantissa * power 2 v.exponent : Nat)
      k * (power 2 (-v.exponent) : Nat) ≤ if negative then -scaled else scaled

end Number

namespace Json

/-- Whether an integer fits into a parameter. -/
def fitsParameter (n : Int) : Bool :=
  -Number.wordLimit ≤ n && n < Number.wordLimit

/-- What is wrong with a value as the parameter at a position. -/
def bindFailure? (position : Nat) : Json → Option Failure
  | .number (.integer n) => if fitsParameter n then none else some .numberTooLarge
  | .brokenText points => some (.notEncodable points)
  | .list l => some (.notBindable position (Json.list l).typeName)
  | .object l => some (.notBindable position (Json.object l).typeName)
  | _ => none

/-- What is wrong with the first of several parameters that cannot be bound, counting from a
position. -/
def bindFailures? (position : Nat) : List Json → Option Failure
  | [] => none
  | v :: rest =>
    match v.bindFailure? position with
    | some e => some e
    | none => bindFailures? (position + 1) rest

/-- The integer that a parameter stands for as a key: an integer, or a floating-point number that
is one and lies within 64 bits. -/
def asKey? (p : Json) : Option Int :=
  match p.asQuantity? with
  | some (.whole n) => some n
  | _ => none

/-- Whether a key is the one that a parameter stands for. -/
def equalsKey (p : Json) (key : Int) : Bool :=
  p.asKey? == some key

/-- Whether a parameter stands for the absent value. -/
def isAbsent : Json → Bool
  | .null => true
  | .number (.real x) => x.isNaN
  | _ => false

/-- Whether a parameter has the value of a whole number. -/
def equalsInt (p : Json) (k : Int) : Bool :=
  p.asNumber?.any (Number.isInt k)

/-- Whether a parameter has another value than a whole number. -/
def differsInt (p : Json) (k : Int) : Bool :=
  !p.isAbsent && !p.equalsInt k

/-- Whether a whole number is at most a parameter.  A text that is no number comes after all
numbers. -/
def boundsInt (p : Json) (k : Int) : Bool :=
  match p, p.asNumber? with
  | _, some n => n.isAtLeast k
  | .text _, none => true
  | _, none => false

/-- Whether a number column is equal to a parameter. -/
def equalsQuantity (p : Json) (column : Option Quantity) : Bool :=
  column.any fun q =>
    match q with
    | .whole k => p.equalsInt k
    | .real x => p.asNumber?.any (Number.same (.real x))
    | .text s => p.isText s

/-- The text that a parameter is compared as with a text column. -/
def asText? : Json → Option String
  | .bool b => some (if b then "1" else "0")
  | .number (.real x) => if x.isNaN then none else some ((Number.real x).text .column)
  | .number n => some (n.text .column)
  | .text s => some s
  | _ => none

/-- Whether a text column is equal to a parameter. -/
def equalsText (p : Json) (column : Option String) : Bool :=
  column.any fun s => p.asText? == some s

theorem equalsKey_int (n key : Int) : (Json.int n).equalsKey key = (n == key) := by
  simp [equalsKey, asKey?]

/-- A parameter that is equal to a key is equal to a number column with that integer. -/
theorem equalsQuantity_of_equalsKey {p : Json} {key : Int} (h : p.equalsKey key = true) :
    p.equalsQuantity (some (.whole key)) = true := by
  have kept : p.asQuantity? = some (.whole key) := by
    simp only [equalsKey, asKey?, beq_iff_eq] at h
    split at h
    · rename_i n found
      rw [found, Option.some.inj h]
    · cases h
  simp only [asQuantity?] at kept
  split at kept
  · rename_i n number
    simp only [equalsQuantity, Option.any_some, equalsInt, number]
    cases n with
    | integer n =>
      simp only [Quantity.ofNumber?, Option.some.injEq, Quantity.whole.injEq] at kept
      simp [Number.isInt, kept]
    | real x =>
      simp only [Quantity.ofNumber?] at kept
      split at kept
      · rename_i m exact
        split at kept
        · simp only [Option.some.injEq, Quantity.whole.injEq] at kept
          simp [Number.isInt, exact, kept]
        · cases kept
      · split at kept <;> cases kept
  · cases kept
  · cases kept

/-- A parameter that is equal to a key has the value of that integer. -/
theorem equalsInt_of_equalsKey {p : Json} {key : Int} (h : p.equalsKey key = true) :
    p.equalsInt key = true :=
  equalsQuantity_of_equalsKey h

/-- A parameter has the value of one integer at most. -/
theorem eq_of_equalsInt {p : Json} {j k : Int} (hj : p.equalsInt j = true)
    (hk : p.equalsInt k = true) : j = k := by
  simp only [equalsInt, Option.any_eq_true] at hj hk
  obtain ⟨n, found, hj⟩ := hj
  obtain ⟨m, found', hk⟩ := hk
  obtain rfl := Option.some.inj (found.symm.trans found')
  cases n with
  | integer n =>
    simp only [Number.isInt, beq_iff_eq] at hj hk
    omega
  | real x =>
    simp only [Number.isInt, beq_iff_eq] at hj hk
    exact Option.some.inj (hj.symm.trans hk)

/-- A parameter that has the value of an integer is not absent. -/
theorem isAbsent_of_equalsInt {p : Json} {k : Int} (h : p.equalsInt k = true) :
    p.isAbsent = false := by
  cases p with
  | null => cases h
  | number n =>
    cases n with
    | integer n => rfl
    | real x =>
      refine Bool.eq_false_iff.2 fun nan => ?_
      simp [equalsInt, asNumber?, Number.isInt, Number.exactInt?_of_isNaN nan] at h
  | _ => rfl

/-- A parameter that is equal to a key differs from the other integers. -/
theorem differsInt_of_equalsKey {p : Json} {key : Int} (h : p.equalsKey key = true) (k : Int) :
    p.differsInt k = (k != key) := by
  have value := equalsInt_of_equalsKey h
  rw [differsInt, isAbsent_of_equalsInt value, Bool.not_false, Bool.true_and, bne, Bool.not_inj_iff,
    Bool.eq_iff_iff, beq_iff_eq]
  exact ⟨fun same => eq_of_equalsInt same value, fun same => same ▸ value⟩
end Json

/-! ### Conditions on text columns -/

namespace Cell

/-- Whether a text column is a given text. -/
def isText (s : String) (column : Option String) : Bool :=
  column == some s

/-- Whether a text column is present and another text. -/
def isOther (s : String) (column : Option String) : Bool :=
  column.any (· != s)

/-- Whether a text column is present and none of the given texts. -/
def isNoneOf (list : List String) (column : Option String) : Bool :=
  column.any fun s => !list.contains s

/-- Whether a text column is present and covered by a pattern. -/
def isLike (pattern : String) (column : Option String) : Bool :=
  column.any fun s => Text.like pattern.toList s.toList

/-- Whether a number column is present and holds a key. -/
def refersTo (key : Int) (column : Option Quantity) : Bool :=
  column == some (.whole key)

/-- Whether two columns are present and equal. -/
def agree {α : Type} [BEq α] (a b : Option α) : Bool :=
  a.any fun x => b.any fun y => x == y

theorem agree_iff {α : Type} [BEq α] [LawfulBEq α] {a b : Option α} :
    agree a b = true ↔ ∃ x, a = some x ∧ b = some x := by
  cases a with
  | none => simp [agree]
  | some x =>
    cases b with
    | none => simp [agree]
    | some y =>
      simp only [agree, Option.any_some, beq_iff_eq, Option.some.injEq]
      exact ⟨fun h => ⟨x, rfl, h.symm⟩, fun ⟨z, hx, hy⟩ => hx.trans hy.symm⟩

/-- A column with a value agrees with the columns that have the same value. -/
theorem agree_some_iff {α : Type} [BEq α] [LawfulBEq α] {column : Option α} {x : α} :
    agree column (some x) = true ↔ column = some x := by
  rw [agree_iff]
  exact ⟨fun ⟨y, hcolumn, hy⟩ => hcolumn.trans hy.symm, fun h => ⟨x, h, rfl⟩⟩

theorem agree_trans {α : Type} [BEq α] [LawfulBEq α] {a b c : Option α} (h : agree a b = true)
    (h' : agree b c = true) : agree a c = true := by
  obtain ⟨x, rfl, rfl⟩ := agree_iff.1 h
  exact h'

/-- A column agrees with another one exactly if that one agrees with it. -/
theorem agree_comm {α : Type} [BEq α] [LawfulBEq α] (a b : Option α) : agree a b = agree b a := by
  rw [Bool.eq_iff_iff, agree_iff, agree_iff]
  exact ⟨fun ⟨x, ha, hb⟩ => ⟨x, hb, ha⟩, fun ⟨x, hb, ha⟩ => ⟨x, ha, hb⟩⟩

end Cell

end HostingPanel
