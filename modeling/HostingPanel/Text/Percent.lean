import HostingPanel.Text.Hex
import HostingPanel.Text.Utf8

/-!
# Percent-encoded paths

A percent sign followed by two hexadecimal digits stands for one byte, and the bytes are UTF-8;
bytes that are not become the replacement character.
-/

namespace HostingPanel.Text

/-- The bytes that a percent-encoded text stands for; a percent sign without two digits stands
for itself. -/
def percentBytes : List Char → List Nat
  | '%' :: a :: b :: rest =>
    match ofHex? [a, b] with
    | some n => n :: percentBytes rest
    | none => 0x25 :: percentBytes (a :: b :: rest)
  | c :: rest => utf8Bytes c ++ percentBytes rest
  | [] => []

/-- The text that a percent-encoded text stands for. -/
def percentDecode (s : List Char) : List Char :=
  decodeUtf8 (percentBytes s)

example : percentDecode "a%2Cb%C3%BC%zz".toList = "a,bü%zz".toList := by cbv

end HostingPanel.Text
