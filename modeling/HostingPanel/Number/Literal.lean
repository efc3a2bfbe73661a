import HostingPanel.Number.Layout
import HostingPanel.Text.Blank
import HostingPanel.Text.DecimalDigit

/-!
# Numbers written as text

The three grammars by which the panel reads a number.  `readInteger` and `readReal` read settings
and options: blanks around the number, a sign, digits of any script, single underscores between
digits.  `columnNumber?` reads a text that is compared with a number column: ASCII digits only.
-/

namespace HostingPanel.Number

/-- The value of a run of ASCII digits. -/
def digitsValue (cs : List Char) : Nat :=
  cs.foldl (fun n c => 10 * n + (c.toNat - 48)) 0

/-- The largest integer, in absolute value, that a decimal exponent is read as. -/
def exponentLimit : Nat := 100000

/-- A decimal as a floating-point number.  Beyond the range of floating-point numbers the result
is infinity or zero, whatever the digits are. -/
def Decimal.toFloat (d : Decimal) : Float :=
  let count : Int := (toString d.digits).length
  if d.digits = 0 then 0
  else if 400 < d.exponent + count then 1 / 0
  else if d.exponent + count < -400 then 0
  else Float.ofScientific d.digits (d.exponent < 0) d.exponent.natAbs

/-- Splits a sign off a text; without one the text is positive. -/
def splitSign : List Char → Bool × List Char
  | '-' :: cs => (true, cs)
  | '+' :: cs => (false, cs)
  | cs => (false, cs)

/-- Reads an optional exponent at the end of a decimal. -/
def exponentPart? : List Char → Option Int
  | [] => some 0
  | e :: cs =>
    if e = 'e' ∨ e = 'E' then
      let (negative, digits) := splitSign cs
      if digits.isEmpty ∨ !digits.all Char.isDigit then none
      else
        let n : Int := (min (digitsValue digits) exponentLimit : Nat)
        some (if negative then -n else n)
    else none

/-- The parts of a written decimal. -/
structure Written where
  /-- The digits before the point. -/
  whole : List Char
  /-- The digits behind the point. -/
  fraction : List Char
  exponent : Int

/-- The decimal that its parts write. -/
def Written.decimal (w : Written) : Decimal :=
  ⟨digitsValue (w.whole ++ w.fraction), w.exponent - w.fraction.length⟩

/-- The floating-point number that the database reads from a decimal. -/
def Written.columnFloat (w : Written) : Float :=
  let digits (cs : List Char) : List Nat := cs.map fun c => c.toNat - 48
  decimalFloat (digits w.whole) (digits w.fraction) w.exponent

/-- Reads digits with an optional point and an optional exponent. -/
def written? (cs : List Char) : Option Written :=
  let whole := cs.takeWhile Char.isDigit
  let rest := cs.dropWhile Char.isDigit
  let fraction := match rest with
    | '.' :: r => r.takeWhile Char.isDigit
    | _ => []
  let tail := match rest with
    | '.' :: r => r.dropWhile Char.isDigit
    | r => r
  if whole.isEmpty ∧ fraction.isEmpty then none
  else (exponentPart? tail).map fun e => ⟨whole, fraction, e⟩

/-- The decimal that a text writes. -/
def decimal? (cs : List Char) : Option Decimal :=
  (written? cs).map Written.decimal

/-- A floating-point number with a sign; zero keeps it. -/
def signed (negative : Bool) (x : Float) : Float :=
  if negative then -x else x

/-- A text with blanks and digits of any script replaced by the space and the ASCII digits, if it
holds anything but ASCII. -/
def asciiNumber (cs : List Char) : List Char :=
  if cs.all (·.toNat < 0x80) then cs
  else cs.map fun c =>
    if c.toNat < 0x7F then c
    else if Text.isBlank c then ' '
    else match Text.digitValue? c with
      | some n => Char.ofNat (48 + n)
      | none => '?'

/-- The text of a number without the blanks around it. -/
def numberBody (s : String) : List Char :=
  Text.trimBy Text.isNumberBlank (asciiNumber s.toList)

/-- Removes the underscores of a text in which each stands between two digits. -/
def joinDigits? : Option Char → List Char → Option (List Char)
  | _, [] => some []
  | before, '_' :: cs =>
    if before.any Char.isDigit ∧ cs.head?.any Char.isDigit then joinDigits? none cs else none
  | _, c :: cs => (joinDigits? (some c) cs).map (c :: ·)

/-- Why a text is no number. -/
inductive LiteralError where
  | notAnInteger (text : String)
  /-- It has more digits than an integer may have. -/
  | tooManyDigits (count : Nat)
  | notAReal (text : String)

/-- The greatest count of digits in an integer. -/
def digitLimit : Nat := 4300

/-- The complaint about an integer with too many digits. -/
def digitLimitMessage (count : Nat) : String :=
  "Exceeds the limit (" ++ toString digitLimit ++
    " digits) for integer string conversion: value has " ++ toString count ++
    " digits; use sys.set_int_max_str_digits() to increase the limit"

/-- Whether a character belongs to the digits of an integer, which underscores may group. -/
def isDigitOrGroup (c : Char) : Bool :=
  c.isDigit || c == '_'

/-- Reads an integer.  Too many digits are noticed before anything that follows the digits. -/
def readInteger (s : String) : Except LiteralError Int :=
  let (negative, body) := splitSign (numberBody s)
  match joinDigits? none (body.takeWhile isDigitOrGroup) with
  | none => .error (.notAnInteger s)
  | some digits =>
    if digitLimit < digits.length then .error (.tooManyDigits digits.length)
    else if digits.isEmpty ∨ !(body.dropWhile isDigitOrGroup).isEmpty then
      .error (.notAnInteger s)
    else
      let n : Int := digitsValue digits
      .ok (if negative then -n else n)

/-- The texts that name a floating-point value without digits. -/
def namedReal? (cs : List Char) : Option Float :=
  let name := String.ofList (cs.map Char.toLower)
  if name = "inf" ∨ name = "infinity" then some (1 / 0)
  else if name = "nan" then some (0 / 0)
  else none

/-- Reads a floating-point number. -/
def readReal (s : String) : Except LiteralError Float :=
  let (negative, body) := splitSign (numberBody s)
  match namedReal? body with
  | some x => .ok (signed negative x)
  | none =>
    match (joinDigits? none body).bind decimal? with
    | some d => .ok (signed negative d.toFloat)
    | none => .error (.notAReal s)

/-- Reads a text that is compared with a number column: an integer if it is written as one that
fits into 64 bits, else a floating-point number. -/
def columnNumber? (s : String) : Option Number :=
  let (negative, body) := splitSign (Text.trimBy Text.isNumberBlank s.toList)
  (written? body).map fun w =>
    let digits : Int := digitsValue (w.whole ++ w.fraction)
    let n := if negative then -digits else digits
    if body.all Char.isDigit ∧ -wordLimit ≤ n ∧ n < wordLimit then .integer n
    else .real (signed negative w.columnFloat)

end HostingPanel.Number
