/-!
# Names in any case

The names that the panel looks up without regard to the case of ASCII letters are compared in lower
case.
-/

namespace HostingPanel.Text

/-- A text with its ASCII letters in lower case. -/
def lowerAscii (s : String) : String :=
  String.ofList (s.toList.map Char.toLower)

/-- Whether a text is a name, which is in lower case, up to the case of ASCII letters. -/
def isNameInAnyCase (name s : String) : Bool :=
  lowerAscii s == name

end HostingPanel.Text
