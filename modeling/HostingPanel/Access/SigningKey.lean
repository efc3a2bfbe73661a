import HostingPanel.Failure
import HostingPanel.Json.Parser
import HostingPanel.Text.Pattern

/-!
# Signing keys

The key under which tokens are signed is a secret text.  A text that others may know, because it is
the file of a public key, a certificate or a described key, is refused, and so is the empty one:
`isUsable` tells, and `signingKey` gives the bytes of a usable secret.
-/

namespace HostingPanel.Access

/-! ### Blocks between boundary lines -/

/-- The kinds of blocks in which keys and certificates are kept. -/
def blockKinds : List String :=
  ["CERTIFICATE", "TRUSTED CERTIFICATE", "PRIVATE KEY", "PUBLIC KEY", "ENCRYPTED PRIVATE KEY",
    "OPENSSH PRIVATE KEY", "DSA PRIVATE KEY", "RSA PRIVATE KEY", "RSA PUBLIC KEY",
    "EC PRIVATE KEY", "DH PARAMETERS", "NEW CERTIFICATE REQUEST", "CERTIFICATE REQUEST",
    "SSH2 PUBLIC KEY", "SSH2 ENCRYPTED PRIVATE KEY", "X509 CRL"]

/-- The characters that a boundary of a block may have, place by place. -/
def boundary (word kind : String) : List (List Char) :=
  let dashes : List (List Char) := List.replicate 4 ['-']
  let edge : List (List Char) := [['-', ' ']]
  dashes ++ edge ++ (word ++ " " ++ kind).toList.map ([·]) ++ edge ++ dashes

/-- What follows some characters at the start of a text. -/
def after? : List (List Char) → List Char → Option (List Char)
  | [], cs => some cs
  | choice :: more, c :: cs => if choice.contains c then after? more cs else none
  | _ :: _, [] => none

/-- What follows the end of a line. -/
def afterLine? : List Char → Option (List Char)
  | '\r' :: '\n' :: cs => some cs
  | '\n' :: cs => some cs
  | _ => none

/-- What follows the line that begins a block, if a text starts with one. -/
def afterBegin? (kind : String) (cs : List Char) : Option (List Char) :=
  (after? (boundary "BEGIN" kind) cs).bind afterLine?

/-- Whether a block with something in it is brought to its end. -/
def isEnded (kind : String) (cs : List Char) : Bool :=
  (Text.suffixes (cs.drop 1)).any fun rest =>
    (after? (['\n'] :: boundary "END" kind) rest).isSome

/-- Whether a text holds a block. -/
def holdsBlock (cs : List Char) : Bool :=
  (Text.suffixes cs).any fun rest =>
    blockKinds.any fun kind => (afterBegin? kind rest).any (isEnded kind)

/-! ### Other forms of keys -/

/-- The names of the public keys that are written on one line. -/
def lineKeyNames : List String :=
  ["ssh-ed25519", "ssh-rsa", "ssh-dss", "ecdsa-sha2-nistp256", "ecdsa-sha2-nistp384",
    "ecdsa-sha2-nistp521"]

/-- Whether a text starts like a public key on one line. -/
def isLineKey (cs : List Char) : Bool :=
  lineKeyNames.any fun name => name.toList.isPrefixOf cs

/-- Whether a text is the description of a key: an object that names a type of keys. -/
def isKeyDescription (bytes : List UInt8) : Bool :=
  match Json.ofBytes bytes with
  | .ok (.object fields) => (Json.field? "kty" fields).isSome
  | _ => false

/-- Whether tokens can be signed under a text. -/
def isUsable (secret : String) : Bool :=
  !secret.isEmpty && !holdsBlock secret.toList && !isLineKey secret.toList &&
    !isKeyDescription secret.toUTF8.toList

/-- The bytes under which tokens are signed. -/
def signingKey (secret : Json) : Except Failure (List UInt8) :=
  match secret with
  | .text s => if isUsable s then .ok s.toUTF8.toList else .error .unusableSecret
  | .brokenText points => .error (.notEncodable points)
  | _ => .error .wrongType

example : isLineKey " ssh-rsa".toList = false := by decide +kernel

example : holdsBlock "-----BEGIN X509 CRL-----\nx\n-----END X509 CRL-----".toList = true := by
  decide +kernel

example : holdsBlock "-----BEGIN X509 CRL-----\n-----END X509 CRL-----".toList = false := by
  decide +kernel

end HostingPanel.Access
