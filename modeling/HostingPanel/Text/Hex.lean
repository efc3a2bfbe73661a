/-!
# Hexadecimal digits

Numbers in base sixteen, written with a fixed number of lower-case digits (`hex`) and read digit
by digit in either case (`hexValue?`).
-/

namespace HostingPanel.Text

/-- The lower-case digit for a number below sixteen. -/
def hexDigit (n : Nat) : Char :=
  Char.ofNat (if n < 10 then n + 48 else n + 87)

/-- The last `width` hexadecimal digits of a number, padded with zeros. -/
def hex : Nat → Nat → List Char
  | 0, _ => []
  | width + 1, n => hex width (n / 16) ++ [hexDigit (n % 16)]

/-- The value of a hexadecimal digit in either case. -/
def hexValue? (c : Char) : Option Nat :=
  if '0' ≤ c ∧ c ≤ '9' then some (c.toNat - 48)
  else if 'a' ≤ c ∧ c ≤ 'f' then some (c.toNat - 87)
  else if 'A' ≤ c ∧ c ≤ 'F' then some (c.toNat - 55)
  else none

/-- The number that a run of hexadecimal digits writes. -/
def ofHex? (cs : List Char) : Option Nat :=
  cs.foldlM (fun n c => (hexValue? c).map (16 * n + ·)) 0

end HostingPanel.Text
