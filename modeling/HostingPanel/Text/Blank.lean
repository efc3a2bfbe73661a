/-!
# Blank characters

The two classes of blank characters that the panel strips: the full Unicode class, used for
settings, and the six ASCII blanks, used where a number is read.  `trimBy` removes a class from
both ends of a text.
-/

namespace HostingPanel.Text

/-- The 29 characters that count as white space in a text. -/
def isBlank (c : Char) : Bool :=
  let n := c.toNat
  (0x09 ≤ n && n ≤ 0x0D) || (0x1C ≤ n && n ≤ 0x20) || n == 0x85 || n == 0xA0 || n == 0x1680 ||
    (0x2000 ≤ n && n ≤ 0x200A) || n == 0x2028 || n == 0x2029 || n == 0x202F || n == 0x205F ||
    n == 0x3000

/-- The six blanks that may surround a number: the space and the controls from tab to
carriage return. -/
def isNumberBlank (c : Char) : Bool :=
  c == ' ' || (0x09 ≤ c.toNat && c.toNat ≤ 0x0D)

/-- A text without the leading and trailing characters of a class. -/
def trimBy (p : Char → Bool) (s : List Char) : List Char :=
  ((s.dropWhile p).reverse.dropWhile p).reverse

end HostingPanel.Text
