import HostingPanel.Text.Hex
import HostingPanel.Text.Printable

/-!
# Quoted texts

How a text is shown inside a message: between quotes, with everything that has no printed form
spelled out.  Single quotes are used unless the text holds single quotes and no double quotes.
-/

namespace HostingPanel.Text

/-- The quote that surrounds a text. -/
def quoteFor (s : List Char) : Char :=
  if s.contains '\'' && !s.contains '"' then '"' else '\''

/-- A character by its code point: two digits after `x`, four after `u` or eight after `U`,
whichever is enough. -/
def spelled (c : Char) : List Char :=
  if c.toNat < 0x100 then '\\' :: 'x' :: hex 2 c.toNat
  else if c.toNat < 0x10000 then '\\' :: 'u' :: hex 4 c.toNat
  else '\\' :: 'U' :: hex 8 c.toNat

/-- One character of a quoted text. -/
def quotedChar (quote c : Char) : List Char :=
  if c = quote ∨ c = '\\' then ['\\', c]
  else if c = '\t' then ['\\', 't']
  else if c = '\n' then ['\\', 'n']
  else if c = '\r' then ['\\', 'r']
  else if isPrintable c then [c]
  else spelled c

/-- A text as shown inside a message. -/
def quoted (s : String) : String :=
  let quote := quoteFor s.toList
  String.ofList (quote :: s.toList.flatMap (quotedChar quote) ++ [quote])

/-- A code point by its number; half a surrogate pair needs four digits. -/
def spelledPoint (p : Nat) : List Char :=
  if p.isValidChar then spelled (Char.ofNat p) else '\\' :: 'u' :: hex 4 p

/-- One code point of a quoted text; half a surrogate pair is spelled by its number. -/
def quotedPoint (quote : Char) (p : Nat) : List Char :=
  if p.isValidChar then quotedChar quote (Char.ofNat p) else spelledPoint p

/-- A text, given by its code points, as shown inside a message. -/
def quotedPoints (points : List Nat) : String :=
  let quote := quoteFor (points.map Char.ofNat)
  String.ofList (quote :: points.flatMap (quotedPoint quote) ++ [quote])

example : quoted "12.5" = "'12.5'" := by cbv

example : quoted "it's" = "\"it's\"" := by cbv

end HostingPanel.Text
