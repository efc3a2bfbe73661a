import HostingPanel.Failure
import HostingPanel.Text.Hex

/-!
# Hosts in addresses

An address may name a host, perhaps with a user before it and a port behind it:
`user:password@host:port`.  A host in square brackets is an address of a network.  `checkBrackets`
and `checkCharacters` say what may stand there at all; `normalize` writes what remains of it when
the host is brought into the form for the network.
-/

namespace HostingPanel.Host

/-! ### Addresses of a network -/

/-- Whether a text is a byte of an address of the old form: a number without leading zeros. -/
def isOctet (cs : List Char) : Bool :=
  !cs.isEmpty && cs.length ≤ 3 && cs.all Char.isDigit && (cs == ['0'] || cs.head? != some '0') &&
    Number.digitsValue cs ≤ 255

/-- Whether a text is an address of the old form: four bytes. -/
def isOldAddress (cs : List Char) : Bool :=
  let octets := cs.splitOn '.'
  octets.length == 4 && octets.all isOctet

/-- Whether a text is a group of an address: up to four hexadecimal digits. -/
def isGroup (cs : List Char) : Bool :=
  !cs.isEmpty && cs.length ≤ 4 && cs.all fun c => (Text.hexValue? c).isSome

/-- The groups of an address, where an address of the old form at the end stands for two. -/
def groups? (cs : List Char) : Option (List (List Char)) :=
  let parts := cs.splitOn ':'
  match parts.getLast? with
  | some last =>
    if !last.contains '.' then some parts
    else if isOldAddress last then some (parts.dropLast ++ [['0'], ['0']])
    else none
  | none => none

/-- Whether groups make an address: eight of them, or fewer with one gap between them that an empty
group shows.  At an end of the address the gap has a second empty group. -/
def areComplete (groups : List (List Char)) : Bool :=
  match (groups.dropLast.drop 1).findIdx? List.isEmpty with
  | none => groups.length == 8 && groups.all isGroup
  | some place =>
    let side (part : List (List Char)) := if part == [[]] then [] else part
    let written := side (groups.take (place + 1)) ++ side (groups.drop (place + 2))
    written.length ≤ 7 && written.all isGroup

/-- Whether a zone follows an address as it should, if one does. -/
def isZone : List Char → Bool
  | [] => true
  | _ :: zone => !zone.isEmpty && !zone.contains '%'

/-- Whether a text is an address of the new form. -/
def isNewAddress (cs : List Char) : Bool :=
  isZone (cs.dropWhile (· != '%')) &&
    (groups? (cs.takeWhile (· != '%'))).any areComplete

/-- Whether a text is an address of a future form, which names its version. -/
def isFutureAddress : List Char → Bool
  | 'v' :: cs =>
    let version := cs.takeWhile fun c => (Text.hexValue? c).isSome
    match cs.drop version.length with
    | '.' :: address => !version.isEmpty && !address.isEmpty
    | _ => false
  | _ => false

/-- Checks an address in square brackets. -/
def checkAddress (cs : List Char) : Except AddressError Unit :=
  if cs.head? == some 'v' then
    if isFutureAddress cs then .ok () else .error .malformedFutureAddress
  else if isOldAddress cs then .error .oldAddressInBrackets
  else if isNewAddress cs then .ok ()
  else .error (.notAnAddress (String.ofList cs))

/-! ### What may stand for a host -/

/-- The text after the first occurrence of a character, if there is one. -/
def behind (c : Char) (cs : List Char) : List Char :=
  (cs.dropWhile (· != c)).drop 1

/-- Checks the square brackets. -/
def checkBrackets (authority : List Char) : Except AddressError Unit :=
  if authority.contains '[' != authority.contains ']' then .error .unbalancedBrackets
  else if authority.contains '[' then
    checkAddress ((behind '[' authority).takeWhile (· != ']'))
  else .ok ()

/-- The characters that stand for text with one of the characters `/`, `?`, `#`, `@`, `:` in it. -/
def disguises : List Nat :=
  [0x2047, 0x2048, 0x2049, 0x2100, 0x2101, 0x2105, 0x2106, 0x2A74, 0xFE13, 0xFE16, 0xFE55, 0xFE56,
    0xFE5F, 0xFE6B, 0xFF03, 0xFF0F, 0xFF1A, 0xFF1F, 0xFF20]

/-- Checks that no character stands for a delimiter. -/
def checkCharacters (authority : List Char) : Except AddressError Unit :=
  if authority.any fun c => disguises.contains c.toNat then
    .error (.delimiterInDisguise (String.ofList authority))
  else .ok ()

/-! ### The form for the network -/

/-- The user before a host, if one is named, and what separates them. -/
def userPart (authority : List Char) : List Char :=
  let user := ((authority.reverse.dropWhile (· != '@')).drop 1).reverse
  let name := user.takeWhile (· != ':')
  let password := behind ':' user
  if name.isEmpty then []
  else name ++ (if password.isEmpty then [] else ':' :: password) ++ ['@']

/-- What follows the user: the host and its port. -/
def hostPart (authority : List Char) : List Char :=
  (authority.reverse.takeWhile (· != '@')).reverse

/-- The name of a host in small letters; a zone keeps its letters. -/
def name (authority : List Char) : List Char :=
  let host := hostPart authority
  let name :=
    if host.contains '[' then (behind '[' host).takeWhile (· != ']')
    else host.takeWhile (· != ':')
  (name.takeWhile (· != '%')).map Char.toLower ++ name.dropWhile (· != '%')

/-- The text of a port. -/
def portText (authority : List Char) : List Char :=
  let host := hostPart authority
  behind ':' (if host.contains '[' then behind ']' (behind '[' host) else host)

/-- The port, if one is named. -/
def port? (authority : List Char) : Except AddressError (Option Nat) :=
  let text := portText authority
  if text.isEmpty then .ok none
  else if !text.all Char.isDigit then .error (.portNotANumber (String.ofList text))
  else if Number.digitLimit < text.length then .error (.portTooLong text.length)
  else if 65535 < Number.digitsValue text then .error .portOutOfRange
  else .ok (some (Number.digitsValue text))

/-- The points that separate the labels of a name with other characters than ASCII. -/
def isPoint (c : Char) : Bool :=
  c == '.' || c.toNat == 0x3002 || c.toNat == 0xFF0E || c.toNat == 0xFF61

/-- Whether a label has a length that a name for the network allows.  A label with other characters
than ASCII is written in another way there. -/
def isLabel (cs : List Char) : Bool :=
  !cs.isEmpty && (cs.length < 64 || cs.any fun c => 0x80 ≤ c.toNat)

/-- Whether a name can be written for the network; a point may stand behind it. -/
def isName (cs : List Char) : Bool :=
  let labels := cs.splitOnP isPoint
  cs.isEmpty ||
    (labels.dropLast.all isLabel && labels.getLast?.all fun l => l.isEmpty || isLabel l)

/-- The user, the host and the port, written for the network. -/
def normalize (authority : List Char) : Except Failure (List Char) := do
  let name := name authority
  if !isName name then throw .badHostName
  match port? authority with
  | .error e => throw (.badAddress e)
  | .ok port =>
    let host := if name.contains ':' then '[' :: name ++ [']'] else name
    let portPart := match port with
      | some (n + 1) => ':' :: (toString (n + 1)).toList
      | _ => []
    return userPart authority ++ host ++ portPart

example : isNewAddress "::1".toList = true := by decide +kernel

example : isNewAddress "1:2:3:4:5:6:7:8".toList = true := by decide +kernel

example : isNewAddress "::ffff:1.2.3.4%eth0".toList = true := by decide +kernel

example : isNewAddress ":::".toList = false := by decide +kernel

end HostingPanel.Host
