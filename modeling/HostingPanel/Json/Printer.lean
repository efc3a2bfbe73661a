import HostingPanel.Json.Basic
import HostingPanel.Text.Hex

/-!
# Writing JSON

`Json.compact` writes a value without any spaces and with ASCII characters only; it is the text
that a token carries.
-/

namespace HostingPanel

/-- Numbers in a JSON text: as in messages, with the names of the values that are not finite. -/
def Layout.json : Layout := { Layout.message with infinity := "Infinity", nan := "NaN" }

namespace Json

/-- One code unit of UTF-16, escaped. -/
def escapedUnit (n : Nat) : List Char :=
  '\\' :: 'u' :: Text.hex 4 n

/-- One character of a JSON text: the printed ASCII characters stand for themselves, five controls
have short escapes, and the others are escaped by their code units. -/
def escapedChar (c : Char) : List Char :=
  if c = '"' then ['\\', '"']
  else if c = '\\' then ['\\', '\\']
  else if c = '\n' then ['\\', 'n']
  else if c = '\r' then ['\\', 'r']
  else if c = '\t' then ['\\', 't']
  else if c = '\x08' then ['\\', 'b']
  else if c = '\x0c' then ['\\', 'f']
  else if 0x20 ≤ c.toNat ∧ c.toNat < 0x7F then [c]
  else if c.toNat < 0x10000 then escapedUnit c.toNat
  else
    let n := c.toNat - 0x10000
    escapedUnit (0xD800 + n / 1024) ++ escapedUnit (0xDC00 + n % 1024)

/-- A text between quotes. -/
def compactText (s : String) : String :=
  String.ofList ('"' :: s.toList.flatMap escapedChar ++ ['"'])

/-- One code point of a JSON text. -/
def escapedPoint (p : Nat) : List Char :=
  if p.isValidChar then escapedChar (Char.ofNat p) else escapedUnit p

/-- A text between quotes, given by its code points. -/
def compactPoints (points : List Nat) : String :=
  String.ofList ('"' :: points.flatMap escapedPoint ++ ['"'])

example : compactText "é\n" = "\"\\u00e9\\n\"" := by cbv

mutual

/-- The JSON text of a value. -/
def compact : Json → String
  | .null => "null"
  | .bool b => if b then "true" else "false"
  | .number n => n.text .json
  | .text s => compactText s
  | .brokenText points => compactPoints points
  | .list l => "[" ++ compactList l ++ "]"
  | .object l => "\x7b" ++ compactFields l ++ "\x7d"

/-- The JSON texts of the values of a list. -/
def compactList : List Json → String
  | [] => ""
  | [v] => compact v
  | v :: rest => compact v ++ "," ++ compactList rest

/-- The JSON texts of the fields of an object. -/
def compactFields : List (String × Json) → String
  | [] => ""
  | [(k, v)] => compactText k ++ ":" ++ compact v
  | (k, v) :: rest => compactText k ++ ":" ++ compact v ++ "," ++ compactFields rest

end

end Json

end HostingPanel
