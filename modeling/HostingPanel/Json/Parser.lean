import HostingPanel.Json.Basic
import HostingPanel.Number.Literal
import HostingPanel.Text.Encoding
import HostingPanel.Text.Hex

/-!
# Reading JSON

`Json.read` reads a complete JSON text from its code points, and `Json.ofBytes` one that comes as
bytes.  Of repeated keys the last value counts, control characters have to be escaped, and the names
`NaN`, `Infinity` and `-Infinity` are numbers.  Lists and objects may be nested only so far.
-/

namespace HostingPanel.Json

/-- Why a text is no JSON value. -/
inductive ReadError where
  /-- It breaks the rules. -/
  | malformed
  /-- Its lists and objects are nested too deeply. -/
  | tooDeep
deriving DecidableEq, Repr

/-- How deeply the lists and objects of a value may be nested that comes from outside. -/
def depthLimit : Nat := 975

/-! ### The code points with a meaning -/

/-- The quote around texts. -/
@[match_pattern] abbrev quote : Nat := 0x22
/-- The start of an escape. -/
@[match_pattern] abbrev backslash : Nat := 0x5C
/-- The letter of an escape by number. -/
@[match_pattern] abbrev letterU : Nat := 0x75
/-- Between the parts of a list or an object. -/
@[match_pattern] abbrev comma : Nat := 0x2C
/-- Between a key and its value. -/
@[match_pattern] abbrev colon : Nat := 0x3A
/-- The sign of a negative number. -/
@[match_pattern] abbrev minus : Nat := 0x2D
/-- The sign of a positive exponent. -/
@[match_pattern] abbrev plus : Nat := 0x2B
/-- Before a fraction. -/
@[match_pattern] abbrev point : Nat := 0x2E
/-- The digit zero. -/
@[match_pattern] abbrev zero : Nat := 0x30
/-- The start of a list. -/
@[match_pattern] abbrev listStart : Nat := 0x5B
/-- The end of a list. -/
@[match_pattern] abbrev listEnd : Nat := 0x5D
/-- The start of an object. -/
@[match_pattern] abbrev objectStart : Nat := 0x7B
/-- The end of an object. -/
@[match_pattern] abbrev objectEnd : Nat := 0x7D

/-- Whether a code point may stand between the parts of a JSON text. -/
def isGap (p : Nat) : Bool :=
  p == 0x20 || p == 0x09 || p == 0x0A || p == 0x0D

/-- Skips what may stand between the parts of a JSON text. -/
def skipGap (ps : List Nat) : List Nat :=
  ps.dropWhile isGap

/-! ### Texts -/

/-- Reads four hexadecimal digits. -/
def unit? (a b c d : Nat) : Option Nat :=
  Text.ofHex? ([a, b, c, d].map Char.ofNat)

/-- The code point that an escape by a letter stands for. -/
def escaped? (e : Nat) : Option Nat :=
  match Char.ofNat e with
  | '"' => some e
  | '\\' => some e
  | '/' => some e
  | 'b' => some 0x08
  | 'f' => some 0x0C
  | 'n' => some 0x0A
  | 'r' => some 0x0D
  | 't' => some 0x09
  | _ => none

/-- Reads the inside of a text up to the closing quote, after the code points read already, the
last one first. -/
def textBody? : List Nat → List Nat → Option (List Nat × List Nat)
  | done, quote :: ps => some (done.reverse, ps)
  | done, backslash :: letterU :: a :: b :: c :: d :: backslash :: letterU :: e :: f :: g :: h ::
      ps =>
    match unit? a b c d, unit? e f g h with
    | some high, some low =>
      if Text.Encoding.isHigh high && Text.Encoding.isLow low then
        textBody? (Text.Encoding.pairPoint high low :: done) ps
      else textBody? (high :: done) (backslash :: letterU :: e :: f :: g :: h :: ps)
    | _, _ => none
  | done, backslash :: letterU :: a :: b :: c :: d :: ps =>
    match unit? a b c d with
    | some n => textBody? (n :: done) ps
    | none => none
  | done, backslash :: e :: ps =>
    match escaped? e with
    | some p => textBody? (p :: done) ps
    | none => none
  | done, p :: ps => if p < 0x20 then none else textBody? (p :: done) ps
  | _, [] => none

/-! ### Numbers -/

/-- Whether a code point is an ASCII digit. -/
def isDigit (p : Nat) : Bool :=
  0x30 ≤ p && p ≤ 0x39

/-- Splits the digits off the front of a text. -/
def spanDigits (ps : List Nat) : List Nat × List Nat :=
  (ps.takeWhile isDigit, ps.dropWhile isDigit)

/-- Splits a fraction off the front of a text: a point and at least one digit. -/
def spanFraction : List Nat → List Nat × List Nat
  | point :: ps =>
    let (digits, rest) := spanDigits ps
    if digits.isEmpty then ([], point :: ps) else (point :: digits, rest)
  | ps => ([], ps)

/-- Splits an exponent off the front of a text: a letter, a sign and at least one digit. -/
def spanExponent : List Nat → List Nat × List Nat
  | e :: ps =>
    if e = 'e'.toNat ∨ e = 'E'.toNat then
      let (sign, afterSign) := match ps with
        | minus :: r => ([minus], r)
        | plus :: r => ([plus], r)
        | r => ([], r)
      let (digits, rest) := spanDigits afterSign
      if digits.isEmpty then ([], e :: ps) else (e :: sign ++ digits, rest)
    else ([], e :: ps)
  | [] => ([], [])

/-- Reads the digits of a number that has the given sign.  A number with a leading zero ends
there, and an integer has at most as many digits as a written integer may have. -/
def number? (negative : Bool) (ps : List Nat) : Option (Json × List Nat) :=
  let (whole, afterWhole) := match ps with
    | zero :: r => ([zero], r)
    | r => spanDigits r
  let (fraction, afterFraction) := spanFraction afterWhole
  let (exponent, rest) := spanExponent afterFraction
  if whole.isEmpty then none
  else if fraction.isEmpty ∧ exponent.isEmpty then
    let n : Int := Number.digitsValue (whole.map Char.ofNat)
    if Number.digitLimit < whole.length then none
    else some (.int (if negative then -n else n), rest)
  else (Number.decimal? ((whole ++ fraction ++ exponent).map Char.ofNat)).map fun d =>
    (.number (.real (Number.signed negative d.toFloat)), rest)

/-- The names that are values. -/
def names : List (List Nat × Json) :=
  [("null", .null), ("true", .bool true), ("false", .bool false), ("NaN", .number (.real (0 / 0))),
    ("Infinity", .number (.real (1 / 0))), ("-Infinity", .number (.real (-1 / 0)))].map
      fun (name, v) => (name.toList.map Char.toNat, v)

/-- Reads the names that are values. -/
def name? (ps : List Nat) : Option (Json × List Nat) :=
  (names.find? fun n => n.1.isPrefixOf ps).map fun n => (n.2, ps.drop n.1.length)

/-! ### Values -/

mutual

/-- Reads a value at the start of a text, with room for lists and objects of some depth.  The first
argument bounds the depth of the reading; the length of the text is always enough. -/
def value : Nat → Nat → List Nat → Except ReadError (Json × List Nat)
  | 0, _, _ => .error .malformed
  | fuel + 1, room, ps =>
    match ps with
    | quote :: r =>
      match textBody? [] r with
      | some (points, rest) => .ok (.ofPoints points, rest)
      | none => .error .malformed
    | listStart :: r =>
      match room with
      | 0 => .error .tooDeep
      | room + 1 =>
        match skipGap r with
        | listEnd :: rest => .ok (.list [], rest)
        | r => values fuel room [] r
    | objectStart :: r =>
      match room with
      | 0 => .error .tooDeep
      | room + 1 =>
        match skipGap r with
        | objectEnd :: rest => .ok (.object [], rest)
        | r => fields fuel room [] r
    | ps =>
      let found := match name? ps with
        | some found => some found
        | none =>
          match ps with
          | minus :: r => number? true r
          | r => number? false r
      match found with
      | some found => .ok found
      | none => .error .malformed

/-- Reads the values of a list, after those read already, up to the closing bracket. -/
def values : Nat → Nat → List Json → List Nat → Except ReadError (Json × List Nat)
  | 0, _, _, _ => .error .malformed
  | fuel + 1, room, done, ps =>
    match value fuel room ps with
    | .error e => .error e
    | .ok (v, rest) =>
      match skipGap rest with
      | comma :: r => values fuel room (v :: done) (skipGap r)
      | listEnd :: r => .ok (.list (v :: done).reverse, r)
      | _ => .error .malformed

/-- Reads the fields of an object, after those read already, up to the closing brace. -/
def fields : Nat → Nat → List (String × Json) → List Nat → Except ReadError (Json × List Nat)
  | 0, _, _, _ => .error .malformed
  | fuel + 1, room, done, ps =>
    match ps with
    | quote :: r =>
      match textBody? [] r with
      | none => .error .malformed
      | some (key, afterKey) =>
        match skipGap afterKey with
        | colon :: r =>
          match value fuel room (skipGap r) with
          | .error e => .error e
          | .ok (v, rest) =>
            let known := setField (keyOfPoints key) v done
            match skipGap rest with
            | comma :: r => fields fuel room known (skipGap r)
            | objectEnd :: r => .ok (.object known, r)
            | _ => .error .malformed
        | _ => .error .malformed
    | _ => .error .malformed

end

/-- Reads a complete JSON text whose lists and objects are nested at most so deeply. -/
def read (room : Nat) (points : List Nat) : Except ReadError Json :=
  let ps := skipGap points
  match value (ps.length + 1) room ps with
  | .error e => .error e
  | .ok (v, rest) => if (skipGap rest).isEmpty then .ok v else .error .malformed

/-- Reads a complete JSON text. -/
def parse? (s : String) : Option Json :=
  let points := s.toList.map Char.toNat
  (read points.length points).toOption

/-- Reads a JSON text that comes from outside as bytes. -/
def ofBytes (bytes : List UInt8) : Except ReadError Json :=
  match Text.pointsOfBytes? bytes with
  | some points => read depthLimit points
  | none => .error .malformed

example : (parse? "[1, null]").isSome = true := by decide +kernel

example : (parse? "[01]").isSome = false := by decide +kernel

end HostingPanel.Json
