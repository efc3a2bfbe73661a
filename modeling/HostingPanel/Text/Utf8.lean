/-!
# UTF-8

Two readings of UTF-8.  `decodeUtf8` reads any bytes: what is not UTF-8 becomes the replacement
character, one for each longest start of a sequence that could have been completed.  `utf8Points?`
refuses what is not UTF-8, but takes the halves of surrogate pairs for code points like others.
-/

namespace HostingPanel.Text

/-- What may follow the first byte of a multi-byte sequence: how many bytes, the bounds of the
next one, and the bits that the first byte gives. -/
structure Lead where
  /-- The number of continuation bytes. -/
  more : Nat
  /-- The least value of the next byte. -/
  low : Nat
  /-- The greatest value of the next byte. -/
  high : Nat
  /-- The bits of the first byte. -/
  bits : Nat

/-- Reads the first byte of a multi-byte sequence. -/
def lead? (b : Nat) : Option Lead :=
  if 0xC2 ≤ b ∧ b ≤ 0xDF then some ⟨1, 0x80, 0xBF, b - 0xC0⟩
  else if b = 0xE0 then some ⟨2, 0xA0, 0xBF, 0⟩
  else if b = 0xED then some ⟨2, 0x80, 0x9F, 0xD⟩
  else if 0xE1 ≤ b ∧ b ≤ 0xEF then some ⟨2, 0x80, 0xBF, b - 0xE0⟩
  else if b = 0xF0 then some ⟨3, 0x90, 0xBF, 0⟩
  else if 0xF1 ≤ b ∧ b ≤ 0xF3 then some ⟨3, 0x80, 0xBF, b - 0xF0⟩
  else if b = 0xF4 then some ⟨3, 0x80, 0x8F, 4⟩
  else none

/-- The character written for bytes that are not UTF-8. -/
def replacementChar : Char :=
  Char.ofNat 0xFFFD

/-- Decodes UTF-8, after the first bytes of a sequence that has been started. -/
def decodeUtf8From : Option Lead → List Nat → List Char
  | none, [] => []
  | some _, [] => [replacementChar]
  | none, b :: rest =>
    if b < 0x80 then Char.ofNat b :: decodeUtf8From none rest
    else match lead? b with
      | some l => decodeUtf8From (some l) rest
      | none => replacementChar :: decodeUtf8From none rest
  | some l, b :: rest =>
    if l.low ≤ b ∧ b ≤ l.high then
      let value := 64 * l.bits + (b - 0x80)
      if l.more ≤ 1 then Char.ofNat value :: decodeUtf8From none rest
      else decodeUtf8From (some ⟨l.more - 1, 0x80, 0xBF, value⟩) rest
    else if b < 0x80 then replacementChar :: Char.ofNat b :: decodeUtf8From none rest
    else match lead? b with
      | some l => replacementChar :: decodeUtf8From (some l) rest
      | none => replacementChar :: replacementChar :: decodeUtf8From none rest

/-- Decodes bytes as UTF-8, writing the replacement character where they are not. -/
def decodeUtf8 (bytes : List Nat) : List Char :=
  decodeUtf8From none bytes

/-- The bytes of a character in UTF-8. -/
def utf8Bytes (c : Char) : List Nat :=
  (String.utf8EncodeChar c).map (·.toNat)

/-- Reads the first byte of a multi-byte sequence that may stand for half a surrogate pair. -/
def wideLead? (b : Nat) : Option Lead :=
  if b = 0xED then some ⟨2, 0x80, 0xBF, 0xD⟩ else lead? b

/-- The sequence that has been started and the code points read so far, the last one first, after
one more byte. -/
def utf8Step : Option Lead × List Nat → Nat → Option (Option Lead × List Nat)
  | (none, points), b =>
    if b < 0x80 then some (none, b :: points)
    else (wideLead? b).map fun l => (some l, points)
  | (some l, points), b =>
    if l.low ≤ b ∧ b ≤ l.high then
      let value := 64 * l.bits + (b - 0x80)
      if l.more ≤ 1 then some (none, value :: points)
      else some (some ⟨l.more - 1, 0x80, 0xBF, value⟩, points)
    else none

/-- The code points of bytes that are UTF-8 but for the halves of surrogate pairs. -/
def utf8Points? (bytes : List Nat) : Option (List Nat) :=
  match bytes.foldlM utf8Step (none, []) with
  | some (none, points) => some points.reverse
  | _ => none

example : utf8Points? [0x61, 0xC3, 0xBC] = some [0x61, 0xFC] := by decide

example : utf8Points? [0xED, 0xA0, 0x80] = some [0xD800] := by decide

example : utf8Points? [0xC0, 0x80] = none := by decide

end HostingPanel.Text
