import HostingPanel.Text.Utf8

/-!
# Encodings of texts

A text that comes as bytes is UTF-8, UTF-16 or UTF-32.  A byte order mark tells which; without one
the zero bytes among the first four do, since such a text begins with ASCII characters.  The text is
a list of code points, because halves of surrogate pairs may stand alone in it.
-/

namespace HostingPanel.Text

/-- The ways of writing code points as bytes. -/
inductive Encoding where
  /-- One to four bytes. -/
  | utf8
  /-- One or two units of two bytes. -/
  | utf16 (bigEndian : Bool)
  /-- Four bytes. -/
  | utf32 (bigEndian : Bool)
deriving DecidableEq, Repr

namespace Encoding

/-- The encoding that the first bytes without a byte order mark tell. -/
def guess : List Nat → Encoding
  | 0 :: 0 :: _ :: _ :: _ => .utf32 true
  | 0 :: _ :: _ :: _ :: _ => .utf16 true
  | _ :: 0 :: 0 :: 0 :: _ => .utf32 false
  | _ :: 0 :: _ :: _ :: _ => .utf16 false
  | [0, _] => .utf16 true
  | [_, 0] => .utf16 false
  | _ => .utf8

/-- The encoding of a text, and its bytes without the byte order mark. -/
def detect : List Nat → Encoding × List Nat
  | 0x00 :: 0x00 :: 0xFE :: 0xFF :: rest => (.utf32 true, rest)
  | 0xFF :: 0xFE :: 0x00 :: 0x00 :: rest => (.utf32 false, rest)
  | 0xFE :: 0xFF :: rest => (.utf16 true, rest)
  | 0xFF :: 0xFE :: rest => (.utf16 false, rest)
  | 0xEF :: 0xBB :: 0xBF :: rest => (.utf8, rest)
  | bytes => (guess bytes, bytes)

/-- The number that some bytes write. -/
def unit (bigEndian : Bool) (bytes : List Nat) : Nat :=
  (if bigEndian then bytes else bytes.reverse).foldl (fun n b => 256 * n + b) 0

/-- The units of two bytes, the last one first, after those read already. -/
def pairs? (bigEndian : Bool) : List Nat → List Nat → Option (List Nat)
  | done, [] => some done
  | _, [_] => none
  | done, a :: b :: rest => pairs? bigEndian (unit bigEndian [a, b] :: done) rest

/-- The units of four bytes, the last one first, after those read already. -/
def quads? (bigEndian : Bool) : List Nat → List Nat → Option (List Nat)
  | done, [] => some done
  | done, a :: b :: c :: d :: rest => quads? bigEndian (unit bigEndian [a, b, c, d] :: done) rest
  | _, _ => none

/-- Whether a number is the first half of a surrogate pair. -/
def isHigh (n : Nat) : Bool :=
  0xD800 ≤ n && n < 0xDC00

/-- Whether a number is the second half of a surrogate pair. -/
def isLow (n : Nat) : Bool :=
  0xDC00 ≤ n && n < 0xE000

/-- The code point that a surrogate pair stands for. -/
def pairPoint (high low : Nat) : Nat :=
  0x10000 + 1024 * (high - 0xD800) + (low - 0xDC00)

/-- Puts a unit before code points; a first half joins with the second half that follows. -/
def joinUnit (u : Nat) : List Nat → List Nat
  | low :: rest => if isHigh u && isLow low then pairPoint u low :: rest else u :: low :: rest
  | [] => [u]

/-- The code points that the bytes of an encoding write. -/
def points? (bytes : List Nat) : Encoding → Option (List Nat)
  | .utf8 => utf8Points? bytes
  | .utf16 bigEndian =>
    (pairs? bigEndian [] bytes).map fun units => units.foldl (fun done u => joinUnit u done) []
  | .utf32 bigEndian =>
    (quads? bigEndian [] bytes).bind fun units =>
      if units.all (· < 0x110000) then some units.reverse else none

end Encoding

/-- The code points of a text that comes as bytes. -/
def pointsOfBytes? (bytes : List UInt8) : Option (List Nat) :=
  let (encoding, rest) := Encoding.detect (bytes.map (·.toNat))
  encoding.points? rest

example : pointsOfBytes? [0x7B, 0x00, 0x7D, 0x00] = some [0x7B, 0x7D] := by decide

example : pointsOfBytes? [0xFE, 0xFF, 0xD8, 0x3D, 0xDE, 0x00] = some [0x1F600] := by decide

example : pointsOfBytes? [0xEF, 0xBB, 0xBF, 0x31] = some [0x31] := by decide

end HostingPanel.Text
