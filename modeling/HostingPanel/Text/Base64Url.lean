/-!
# Base64 for addresses

The alphabet in which the parts of a token are written: six bits to a character, `-` and `_` for
the last two values, no padding.  `decode?` reads what `encode` writes and nothing else, except that
a text may be completed with padding to a multiple of four characters.
-/

namespace HostingPanel.Text.Base64Url

/-- The character for six bits. -/
def digit (n : Nat) : Char :=
  if n < 26 then Char.ofNat (n + 65)
  else if n < 52 then Char.ofNat (n + 71)
  else if n < 62 then Char.ofNat (n - 4)
  else if n = 62 then '-'
  else '_'

/-- The six bits of a character. -/
def value? (c : Char) : Option Nat :=
  if 'A' ≤ c ∧ c ≤ 'Z' then some (c.toNat - 65)
  else if 'a' ≤ c ∧ c ≤ 'z' then some (c.toNat - 71)
  else if '0' ≤ c ∧ c ≤ '9' then some (c.toNat + 4)
  else if c = '-' then some 62
  else if c = '_' then some 63
  else none

/-- Writes bytes, three to four characters. -/
def encode : List UInt8 → List Char
  | a :: b :: c :: rest =>
    digit (a.toNat / 4) :: digit (a.toNat % 4 * 16 + b.toNat / 16) ::
      digit (b.toNat % 16 * 4 + c.toNat / 64) :: digit (c.toNat % 64) :: encode rest
  | [a, b] =>
    [digit (a.toNat / 4), digit (a.toNat % 4 * 16 + b.toNat / 16), digit (b.toNat % 16 * 4)]
  | [a] => [digit (a.toNat / 4), digit (a.toNat % 4 * 16)]
  | [] => []

/-- The bytes that six-bit values write.  Bits that are left over at the end have to be zero. -/
def pack? : List Nat → Option (List UInt8)
  | a :: b :: c :: d :: rest =>
    (pack? rest).map fun bytes =>
      UInt8.ofNat (a * 4 + b / 16) :: UInt8.ofNat (b % 16 * 16 + c / 4) ::
        UInt8.ofNat (c % 4 * 64 + d) :: bytes
  | [a, b, c] =>
    if c % 4 = 0 then some [UInt8.ofNat (a * 4 + b / 16), UInt8.ofNat (b % 16 * 16 + c / 4)]
    else none
  | [a, b] => if b % 16 = 0 then some [UInt8.ofNat (a * 4 + b / 16)] else none
  | [_] => none
  | [] => some []

/-- The padding that completes a text of some length to a multiple of four characters. -/
def padding (length : Nat) : List Char :=
  List.replicate ((4 - length % 4) % 4) '='

/-- Reads a text, with its padding or without. -/
def decode? (s : List Char) : Option (List UInt8) :=
  let body := s.takeWhile (· != '=')
  let rest := s.dropWhile (· != '=')
  if rest.isEmpty || rest == padding body.length then (body.mapM value?).bind pack? else none

example : decode? "ifQ".toList = some [0x89, 0xF4] := by decide

example : decode? "ifQ=".toList = decode? "ifQ".toList := by decide

example : decode? "ifR".toList = none := by decide

example : decode? "ifQ==".toList = none := by decide

end HostingPanel.Text.Base64Url
