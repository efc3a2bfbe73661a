import HostingPanel.Number.Extended

/-!
# Written forms of numbers

How the panel and its database write a number as text.  `Layout` holds the decisions of one
written form, `Layout.message` is the form used in messages and settings, and `Layout.column` the
form a number takes in a text column.  `Number` is an integer or a floating-point number.
-/

namespace HostingPanel

/-- The decisions that fix the written form of a floating-point number. -/
structure Layout where
  /-- The digits of a number that is not zero. -/
  digits : Number.Magnitude → Number.Decimal
  /-- The least power of ten of a first digit that is written without an exponent. -/
  lowest : Int
  /-- The least power of ten of a first digit, above that, that needs an exponent again. -/
  highest : Int
  /-- Whether the digits before an exponent always have a point. -/
  pointBeforeExponent : Bool
  signedZero : Bool
  infinity : String
  nan : String

/-- Messages and settings: the fewest digits that read back, plain from `0.0001` to below
`10 ^ 16`. -/
def Layout.message : Layout := ⟨Number.Magnitude.shortest, -4, 16, false, true, "inf", "nan"⟩

/-- Text columns: fifteen digits, plain from `0.0001` to below `10 ^ 15`, and one zero only. -/
def Layout.column : Layout :=
  ⟨Number.Magnitude.columnDigits, -4, 15, true, false, "Inf", "NaN"⟩

namespace Number

/-- A decimal without trailing zeros in its digits, for at most the given count of them. -/
def Decimal.strip : Nat → Decimal → Decimal
  | 0, d => d
  | n + 1, d =>
    if d.digits ≠ 0 ∧ d.digits % 10 = 0 then strip n ⟨d.digits / 10, d.exponent + 1⟩ else d

/-- Puts a point into digits after the first `place` of them, with zeros where none are. -/
def plain (digits : List Char) (place : Int) : List Char :=
  if place ≤ 0 then '0' :: '.' :: List.replicate (-place).toNat '0' ++ digits
  else
    let whole := digits.take place.toNat
    let rest := digits.drop place.toNat
    whole ++ List.replicate (place.toNat - digits.length) '0' ++
      '.' :: if rest.isEmpty then ['0'] else rest

/-- An exponent: its sign and at least two digits. -/
def exponentText (e : Int) : List Char :=
  let digits := (toString e.natAbs).toList
  'e' :: (if e < 0 then '-' else '+') :: List.replicate (2 - digits.length) '0' ++ digits

/-- Digits with a point after the first one. -/
def scientific (layout : Layout) (digits : List Char) : List Char :=
  match digits with
  | [] => []
  | [d] => if layout.pointBeforeExponent then [d, '.', '0'] else [d]
  | d :: rest => d :: '.' :: rest

/-- The written form of a decimal. -/
def decimalText (layout : Layout) (d : Decimal) : List Char :=
  let d := d.strip 20
  let digits := (toString d.digits).toList
  let place := d.exponent + digits.length
  if d.digits = 0 then ['0', '.', '0']
  else if layout.lowest < place ∧ place ≤ layout.highest then plain digits place
  else scientific layout digits ++ exponentText (place - 1)

example : decimalText .message ⟨1, 15⟩ = "1000000000000000.0".toList := by cbv

example : decimalText .message ⟨1, 16⟩ = "1e+16".toList := by cbv

example : decimalText .message ⟨25, -6⟩ = "2.5e-05".toList := by cbv

example : decimalText .column ⟨1, 15⟩ = "1.0e+15".toList := by cbv

/-- The written form of a floating-point number. -/
def realText (layout : Layout) (x : Float) : String :=
  match Reading.ofFloat x with
  | .nan => layout.nan
  | .infinite negative => (if negative then "-" else "") ++ layout.infinity
  | .finite negative v =>
    let d := if v.mantissa = 0 then ⟨0, 0⟩ else layout.digits v
    let signed := negative && (layout.signedZero || v.mantissa != 0)
    (if signed then "-" else "") ++ String.ofList (decimalText layout d)

end Number

/-- An integer or a floating-point number. -/
inductive Number where
  | integer (n : Int)
  | real (x : Float)

/-- The written form of a number. -/
def Number.text (layout : Layout) : Number → String
  | .integer n => toString n
  | .real x => realText layout x

/-- Whether a number is the given integer. -/
def Number.isInt (k : Int) : Number → Bool
  | .integer n => n == k
  | .real x => exactInt? x == some k

/-- Whether a number is zero. -/
def Number.isZero : Number → Bool :=
  Number.isInt 0

end HostingPanel
