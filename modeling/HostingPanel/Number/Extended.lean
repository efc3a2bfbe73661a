import HostingPanel.Number.Binary64

/-!
# Arithmetic with longer mantissas

The database converts between floating-point numbers and text with numbers that have 64 significant
bits, and rounds after every step.  `Extended` is such a number, not negative; `Extended.round` is
the one rounding, to the nearest with a half going to the even neighbour, and the operations are
exact results that are rounded.  `Magnitude.columnDigits` and `decimalFloat` are the two
conversions.
-/

namespace HostingPanel.Number

/-- The nonnegative number `mantissa * 2 ^ exponent`. -/
structure Extended where
  /-- The significant bits. -/
  mantissa : Nat
  /-- The power of two. -/
  exponent : Int
deriving Repr

/-- Cuts a number to at most so many significant bits.  The nearest one is taken, and of two that
are equally near the even one. -/
def roundToBits (bits : Nat) (n : Nat) (e : Int) : Extended :=
  let excess := n.log2 + 1 - bits
  if excess = 0 then ⟨n, e⟩ else ⟨roundDiv n (power 2 excess), e + excess⟩

namespace Extended

/-- A number with 64 significant bits. -/
def round (n : Nat) (e : Int) : Extended :=
  roundToBits 64 n e

/-- A natural number; one of more than 64 bits is rounded. -/
def ofNat (n : Nat) : Extended :=
  round n 0

/-- The absolute value of a finite floating-point number. -/
def ofMagnitude (v : Magnitude) : Extended :=
  ⟨v.mantissa, v.exponent⟩

/-- The absolute value of a floating-point number; what is not finite counts as zero. -/
def ofFloat (x : Float) : Extended :=
  match Reading.ofFloat x with
  | .finite _ v => ofMagnitude v
  | _ => ⟨0, 0⟩

/-- Whether a number is less than another one. -/
def less (a b : Extended) : Bool :=
  a.mantissa * power 2 (a.exponent - b.exponent) < b.mantissa * power 2 (b.exponent - a.exponent)

/-- The rounded product. -/
def mul (a b : Extended) : Extended :=
  round (a.mantissa * b.mantissa) (a.exponent + b.exponent)

/-- The rounded sum. -/
def add (a b : Extended) : Extended :=
  let low := min a.exponent b.exponent
  round (a.mantissa * power 2 (a.exponent - low) + b.mantissa * power 2 (b.exponent - low)) low

/-- The rounded difference; it is zero where it would be negative. -/
def sub (a b : Extended) : Extended :=
  let low := min a.exponent b.exponent
  round (a.mantissa * power 2 (a.exponent - low) - b.mantissa * power 2 (b.exponent - low)) low

/-- The rounded quotient of a number and one that is not zero.  The quotient is computed to more
than 64 bits, and one further bit tells whether it is exact. -/
def div (a b : Extended) : Extended :=
  let num := a.mantissa * power 2 130
  let sticky := if num % b.mantissa = 0 then 0 else 1
  round (2 * (num / b.mantissa) + sticky) (a.exponent - b.exponent - 131)

/-- The integer part. -/
def whole (a : Extended) : Nat :=
  a.mantissa * power 2 a.exponent / power 2 (-a.exponent)

/-- The nearest floating-point number. -/
def toFloat (a : Extended) : Float :=
  let r := roundToBits 53 a.mantissa a.exponent
  (Float.ofNat r.mantissa).scaleB r.exponent

/-- A power of ten by repeated squaring, rounded at every step.  The first argument bounds the
number of steps. -/
def powerOfTen : Nat → Extended → Extended → Nat → Extended
  | 0, r, _, _ => r
  | steps + 1, r, x, e =>
    let r := if e % 2 = 1 then r.mul x else r
    if e / 2 = 0 then r else powerOfTen steps r (x.mul x) (e / 2)

/-- `10 ^ e` as the database computes it. -/
def ten (e : Nat) : Extended :=
  powerOfTen (e + 1) (ofNat 1) (ofNat 10) e

/-! ### The digits of a number -/

/-- Enlarges a scale as long as the product with a step is at most the number.  The answer counts
the powers of ten. -/
def growScale (v step : Extended) (tens : Nat) : Nat → Extended × Nat → Extended × Nat
  | 0, found => found
  | more + 1, (scale, exp) =>
    if v.less (step.mul scale) then (scale, exp)
    else growScale v step tens more (scale.mul step, exp + tens)

/-- Multiplies a number by a step as long as it is below a bound.  The answer counts the powers of
ten. -/
def growValue (bound step : Extended) (tens : Nat) : Nat → Extended × Int → Extended × Int
  | 0, found => found
  | more + 1, (v, exp) =>
    if v.less bound then growValue bound step tens more (v.mul step, exp - tens) else (v, exp)

/-- A number between one and ten, and the power of ten that was taken out of it. -/
def normalize (v : Extended) : Extended × Int :=
  let found := growScale v (ofFloat 1e100) 100 4 (ofNat 1, 0)
  let found := growScale v (ofNat 10000000000) 10 10 found
  let (scale, exp) := growScale v (ofNat 10) 1 10 found
  let found := growValue (ofFloat 1e-8) (ofNat 100000000) 8 50 (v.div scale, exp)
  growValue (ofNat 1) (ofNat 10) 1 10 found

/-- The first digits of a number between one and ten, as one number. -/
def digits : Nat → Nat → Extended → Nat
  | 0, n, _ => n
  | more + 1, n, v =>
    let d := v.whole
    digits more (10 * n + d) ((v.sub (ofNat d)).mul (ofNat 10))

/-- Half a unit of the fifteenth digit. -/
def halfUnit : Extended :=
  ofFloat (5e-5 * 1e-10)

end Extended

/-- The fifteen digits of a number that is not zero, as a text column shows it. -/
def Magnitude.columnDigits (v : Magnitude) : Decimal :=
  let (v, exp) := (Extended.ofMagnitude v).normalize
  let v := v.add Extended.halfUnit
  if v.less (.ofNat 10) then ⟨v.digits 15 0, exp - 14⟩
  else ⟨(v.mul (.ofFloat 0.1)).digits 15 0, exp - 13⟩

/-! ### The number of a decimal -/

/-- The greatest significand to which a further digit is added. -/
def significandLimit : Nat := 922337203685477579

/-- Reads digits into a significand as long as there is room for them.  The answer is the
significand and the number of digits read. -/
def takeDigits : Nat → Nat → List Nat → Nat × Nat
  | s, count, [] => (s, count)
  | s, count, d :: ds =>
    if s < significandLimit then takeDigits (10 * s + d) (count + 1) ds else (s, count)

/-- Moves powers of ten from the exponent into the significand. -/
def growSignificand : Nat → Nat → Nat × Nat
  | s, 0 => (s, 0)
  | s, e + 1 => if 922337203685477580 ≤ s then (s, e + 1) else growSignificand (10 * s) e

/-- Cancels powers of ten of the significand and of the divisor. -/
def shrinkSignificand : Nat → Nat → Nat × Nat
  | s, 0 => (s, 0)
  | s, e + 1 => if s % 10 = 0 then shrinkSignificand (s / 10) e else (s, e + 1)

/-- The floating-point number of `s * 10 ^ e`, where `s` is not zero. -/
def scaledUp (s e : Nat) : Float :=
  let (s, e) := growSignificand s e
  if e = 0 then (Extended.ofNat s).toFloat
  else if e ≤ 307 then ((Extended.ofNat s).mul (.ten e)).toFloat
  else if e < 342 then ((Extended.ofNat s).mul (.ten (e - 308))).toFloat * 1e308
  else 1 / 0

/-- The floating-point number of `s / 10 ^ e`, where `s` is not zero. -/
def scaledDown (s e : Nat) : Float :=
  let (s, e) := shrinkSignificand s e
  if e = 0 then (Extended.ofNat s).toFloat
  else if e ≤ 307 then ((Extended.ofNat s).div (.ten e)).toFloat
  else if e < 342 then ((Extended.ofNat s).div (.ten (e - 308))).toFloat / 1e308
  else 0

/-- The floating-point number that the database reads from the digits before the point, the digits
behind it and an exponent.  Only the first digits count; the exponent makes up for those that are
left out before the point. -/
def decimalFloat (before behind : List Nat) (exponent : Int) : Float :=
  let (s, count) := takeDigits 0 0 before
  let (s, more) := takeDigits s 0 behind
  let e := exponent + (before.length - count : Nat) - (more : Nat)
  if s = 0 then 0
  else if 0 ≤ e then scaledUp s e.toNat
  else scaledDown s e.natAbs

end HostingPanel.Number
