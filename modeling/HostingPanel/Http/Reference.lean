import HostingPanel.Http.Host

/-!
# References

The text by which a request says what it wants: perhaps a scheme, perhaps an authority behind two
slashes, and a path.  A query and a fragment play no part here.
-/

namespace HostingPanel

/-- A reference. -/
structure Reference where
  /-- The scheme; an empty one stands for none. -/
  scheme : List Char
  /-- The host with what belongs to it; an empty one stands for none. -/
  authority : List Char
  /-- The path. -/
  path : List Char
deriving DecidableEq, Repr

namespace Reference

/-- Whether a character may stand in a scheme. -/
def isSchemeChar (c : Char) : Bool :=
  c.isAlphanum || c == '+' || c == '-' || c == '.'

/-- Whether a character ends an authority. -/
def endsAuthority (c : Char) : Bool :=
  c == '/' || c == '?' || c == '#'

/-- Whether a character ends a path. -/
def endsPath (c : Char) : Bool :=
  c == '?' || c == '#'

/-- Removes the blanks and control characters at the start of a text, and its tabs and line ends. -/
def clean (cs : List Char) : List Char :=
  (cs.dropWhile (·.toNat ≤ 0x20)).filter fun c => c != '\t' && c != '\r' && c != '\n'

/-- The scheme of a text, and what follows it. -/
def splitScheme (cs : List Char) : List Char × List Char :=
  let scheme := cs.takeWhile (· != ':')
  if scheme.length < cs.length && scheme.head?.any Char.isAlpha && scheme.all isSchemeChar then
    (scheme, cs.drop (scheme.length + 1))
  else ([], cs)

/-- The authority of a text, and what follows it. -/
def splitAuthority : List Char → List Char × List Char
  | '/' :: '/' :: cs => (cs.takeWhile (!endsAuthority ·), cs.dropWhile (!endsAuthority ·))
  | cs => ([], cs)

/-- Reads a reference. -/
def read (text : List Char) : Except AddressError Reference := do
  let (scheme, rest) := splitScheme (clean text)
  let (authority, rest) := splitAuthority rest
  Host.checkBrackets authority
  Host.checkCharacters authority
  return ⟨scheme, authority, rest.takeWhile (!endsPath ·)⟩

/-- Writes a reference with its authority in the form for the network. -/
def write (r : Reference) : Except Failure (List Char) := do
  let authority ← Host.normalize r.authority
  let scheme := if r.scheme.isEmpty then [] else r.scheme ++ [':']
  let slashes := if authority.isEmpty then [] else ['/', '/']
  return scheme ++ slashes ++ authority ++ r.path

example : read " //h:80/a?b".toList = .ok ⟨[], "h:80".toList, "/a".toList⟩ := by cbv

example : read "x:/a#b".toList = .ok ⟨['x'], [], "/a".toList⟩ := by cbv

example : read "//[/a".toList = .error .unbalancedBrackets := by cbv

end Reference

end HostingPanel
