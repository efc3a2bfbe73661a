import HostingPanel.Text.Items

/-!
# Mount points

The normal form under which mount points are compared: backslashes are slashes, repeated slashes
count once, `.` and empty segments vanish and `..` takes back the segment before it.
`climb` folds one segment into the stack of segments kept so far, and `normalizePath` writes the
final stack.
-/

namespace HostingPanel.Text

/-- A text with every backslash read as a slash. -/
def slashes (s : List Char) : List Char :=
  s.map fun c => if c = '\\' then '/' else c

/-- Whether a path starts at the root. -/
def isAbsolute (s : List Char) : Bool :=
  (slashes s).head? == some '/'

/-- Folds a segment into the segments kept so far, the last one first.  At the root `..` stays
where it is; in a relative path a `..` with nothing to take back is kept. -/
def climb (absolute : Bool) (stack : List (List Char)) (segment : List Char) :
    List (List Char) :=
  if segment = [] ∨ segment = ['.'] then stack
  else if segment ≠ ['.', '.'] then segment :: stack
  else match stack with
    | [] => if absolute then [] else [segment]
    | top :: rest => if top = ['.', '.'] then segment :: stack else rest

/-- The segments that a path keeps, in order. -/
def keptSegments (s : List Char) : List (List Char) :=
  ((pieces '/' (slashes s)).foldl (climb (isAbsolute s)) []).reverse

/-- The normal form of a path given as characters. -/
def normalChars (s : List Char) : List Char :=
  let body := joinPieces '/' (keptSegments s)
  if isAbsolute s then '/' :: body
  else if body.isEmpty then ['.']
  else body

/-- The normal form of a mount point; an absent or empty one is the directory itself. -/
def normalizePath (path : Option String) : String :=
  String.ofList (normalChars (path.getD "").toList)

example : normalizePath (some "/a//b/../c/") = "/a/c" := by cbv

example : normalizePath (some "a\\..\\..") = ".." := by cbv

example : normalizePath none = "." := by cbv

end HostingPanel.Text
