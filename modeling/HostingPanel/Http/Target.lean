import HostingPanel.Http.Reference
import HostingPanel.Text.DecimalDigit
import HostingPanel.Text.Percent

/-!
# Request targets

What a request asks for.  A target is a reference; its path is read as a reference once more, and
what remains is percent-decoded and then cut at the slashes, so an encoded slash separates as well.
-/

namespace HostingPanel.Target

/-- Reads a reference that is part of a request. -/
def reference (text : List Char) : Except Failure Reference :=
  (Reference.read text).mapError .badAddress

/-- The decoded path of a target without the slashes that it begins with. -/
def path (target : String) : Except Failure (List Char) := do
  let outer ← reference target.toList
  let inner ← reference outer.path
  let path ← (← reference inner.path).write
  discard (Host.normalize outer.authority)
  return (Text.percentDecode path).dropWhile (· == '/')

/-- The parts of a path between its slashes. -/
def cut (path : List Char) : List String :=
  (path.splitOn '/').map String.ofList

/-- The path with every run of slashes made one. -/
def mergeSlashes : List Char → List Char
  | '/' :: '/' :: rest => mergeSlashes ('/' :: rest)
  | c :: rest => c :: mergeSlashes rest
  | [] => []

/-- The number that a part of a path stands for: one or more decimal digits of any script. -/
def digits? (segment : String) : Option Int :=
  match segment.toList.mapM Text.digitValue? with
  | some (d :: ds) => some ((d :: ds).foldl (fun n d => 10 * n + d) 0 : Nat)
  | _ => none

/-- The number that a part of a path stands for, if it does not have too many digits. -/
def number? (segment : String) : Option Int :=
  if Number.digitLimit < segment.length then none else digits? segment

example : digits? "042" = some 42 := by cbv

example : digits? "" = none := by cbv

example : mergeSlashes "a///b".toList = "a/b".toList := by decide

end HostingPanel.Target
