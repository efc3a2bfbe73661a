/-!
# Exact values of floating-point numbers

A finite floating-point number is `mantissa * 2 ^ exponent`.  `Magnitude` holds these two numbers,
`Magnitude.shortest` finds the shortest decimal that reads back as the number, and
`Magnitude.nearest` the nearest decimal with a given count of digits.  All is done with exact
natural numbers.
-/

namespace HostingPanel.Number

/-- The number `b ^ e`, or one for a negative exponent. -/
def power (b : Nat) (e : Int) : Nat :=
  Nat.pow b e.toNat

/-- The first integer that a word of 64 bits with a sign does not hold. -/
def wordLimit : Int :=
  power 2 63

/-- The absolute value of a finite floating-point number: `mantissa * 2 ^ exponent`. -/
structure Magnitude where
  mantissa : Nat
  exponent : Int
  /-- Whether the next smaller number is only half as far away as the next larger one. -/
  narrowBelow : Bool

/-- What the bits of a floating-point number say. -/
inductive Reading where
  | nan
  | infinite (negative : Bool)
  /-- A finite number, negative or not; zero has both signs. -/
  | finite (negative : Bool) (magnitude : Magnitude)

/-- Reads the sign, the exponent and the mantissa of a floating-point number. -/
def Reading.ofFloat (x : Float) : Reading :=
  let bits : Nat := x.toBits.toNat
  let negative := power 2 63 ≤ bits
  let field : Nat := bits / power 2 52 % power 2 11
  let fraction : Nat := bits % power 2 52
  if field = 2047 then (if fraction = 0 then .infinite negative else .nan)
  else if field = 0 then .finite negative ⟨fraction, -1074, false⟩
  else .finite negative ⟨fraction + power 2 52, (field : Int) - 1075, fraction = 0 && 1 < field⟩

open Float.Model Float.Model.UnpackedFloat in
theorem toBits_of_isNaN {x : Float} (h : x.isNaN = true) : x.toBits = 0x7ff8000000000000 := by
  obtain ⟨bits, valid⟩ := x
  have nan : (unpack Format.binary64 bits.toBitVec).isNaN = true := h
  by_cases exponent : @unpackExponent Format.binary64 bits.toBitVec = -1#_
  · by_cases mantissa : @unpackMantissa Format.binary64 bits.toBitVec = 0#_
    · have infinite : unpack Format.binary64 bits.toBitVec = _ :=
        (if_pos exponent).trans (if_pos mantissa)
      rw [infinite] at nan
      cases nan
    · exact UInt64.eq_of_toBitVec_eq ((valid.eq_packedNaN exponent mantissa).trans (by decide))
  · have finite : unpack Format.binary64 bits.toBitVec = _ := if_neg exponent
    rw [finite] at nan
    by_cases small : @unpackExponent Format.binary64 bits.toBitVec = 0#_
    · rw [if_pos small] at nan
      by_cases mantissa : @unpackMantissa Format.binary64 bits.toBitVec = 0#_
      · rw [dif_pos mantissa] at nan
        cases nan
      · rw [dif_neg mantissa] at nan
        cases nan
    · rw [if_neg small] at nan
      cases nan

theorem Reading.ofFloat_of_isNaN {x : Float} (h : x.isNaN = true) : Reading.ofFloat x = .nan := by
  unfold Reading.ofFloat
  rw [toBits_of_isNaN h]
  rfl

/-- A decimal number `digits * 10 ^ exponent`. -/
structure Decimal where
  /-- The digits as one number. -/
  digits : Nat
  /-- The power of ten. -/
  exponent : Int
deriving Repr, DecidableEq

namespace Magnitude

/-- Whether the number is less than `10 ^ k`. -/
def below (v : Magnitude) (k : Int) : Bool :=
  v.mantissa * power 2 v.exponent * power 10 (-k) < power 10 k * power 2 (-v.exponent)

/-- The least `k` with `v < 10 ^ k`: the place of the first digit before the point.  The binary
length gives an estimate that is at most two too small. -/
def decimalPlace (v : Magnitude) : Int :=
  let estimate := Int.fdiv ((v.mantissa.log2 + v.exponent) * 30103) 100000 - 1
  if v.below estimate then estimate
  else if v.below (estimate + 1) then estimate + 1
  else if v.below (estimate + 2) then estimate + 2
  else estimate + 3

/-- The scales that compare multiples of `10 ^ s` with quarters of `2 ^ exponent`: `c * 10 ^ s`
is at most `q * 2 ^ exponent / 4` exactly if `c * fst` is at most `q * snd`. -/
def scales (v : Magnitude) (s : Int) : Nat × Nat :=
  (power 10 s * 4 * power 2 (-v.exponent), power 2 v.exponent * power 10 (-s))

/-- Whether `c * 10 ^ s` lies among the reals that round to the number.  The ends of that interval
belong to it when the mantissa is even. -/
def roundsFrom (v : Magnitude) (s : Int) (c : Nat) : Bool :=
  let (a, b) := v.scales s
  let low := (4 * v.mantissa - if v.narrowBelow then 1 else 2) * b
  let high := (4 * v.mantissa + 2) * b
  if v.mantissa % 2 = 0 then low ≤ c * a && c * a ≤ high else low < c * a && c * a < high

/-- The multiples of `10 ^ s` on both sides of the number, and which of them is nearer; of two
that are equally near, the even one. -/
def neighbours (v : Magnitude) (s : Int) : Nat × Nat :=
  let (a, b) := v.scales s
  let exact := 4 * v.mantissa * b
  let down := exact / a
  let rest := exact % a
  if 2 * rest < a ∨ (2 * rest = a ∧ down % 2 = 0) then (down, down + 1) else (down + 1, down)

/-- The number rounded to `n` digits. -/
def nearest (v : Magnitude) (n : Nat) : Decimal :=
  let s := v.decimalPlace - n
  ⟨(v.neighbours s).1, s⟩

/-- The first of the counts `n`, `n + 1`, … of digits that suffices to write the number. -/
def shortestFrom (v : Magnitude) : Nat → Nat → Decimal
  | 0, n => v.nearest n
  | more + 1, n =>
    let s := v.decimalPlace - n
    let (near, far) := v.neighbours s
    if v.roundsFrom s near then ⟨near, s⟩
    else if v.roundsFrom s far then ⟨far, s⟩
    else shortestFrom v more (n + 1)

/-- The shortest decimal that reads back as the number; seventeen digits always suffice. -/
def shortest (v : Magnitude) : Decimal :=
  v.shortestFrom 16 1

end Magnitude

/-- The integer that a floating-point number is, if it is one. -/
def exactInt? (x : Float) : Option Int :=
  match Reading.ofFloat x with
  | .finite negative v =>
    let scaled := v.mantissa * power 2 v.exponent
    let unit := power 2 (-v.exponent)
    if scaled % unit = 0 then
      some (if negative then -((scaled / unit : Nat) : Int) else (scaled / unit : Nat))
    else none
  | _ => none

theorem exactInt?_of_isNaN {x : Float} (h : x.isNaN = true) : exactInt? x = none := by
  rw [exactInt?, Reading.ofFloat_of_isNaN h]

/-- The integer part of a finite floating-point number, rounded toward zero. -/
def truncate? (x : Float) : Option Int :=
  match Reading.ofFloat x with
  | .finite negative v =>
    let whole := v.mantissa * power 2 v.exponent / power 2 (-v.exponent)
    some (if negative then -(whole : Int) else whole)
  | _ => none

/-- A quotient rounded to the nearest integer, a half to the even one. -/
def roundDiv (num den : Nat) : Nat :=
  let down := num / den
  let rest := num % den
  if 2 * rest < den ∨ (2 * rest = den ∧ down % 2 = 0) then down else down + 1

end HostingPanel.Number
