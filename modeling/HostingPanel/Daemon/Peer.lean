/-!
# The daemon's end of a connection

What a daemon does with a connection: it refuses it, or it sends some bytes and takes some.  Every
connection starts from the beginning of the description.
-/

namespace HostingPanel

/-- What happens to one attempt to send. -/
inductive SendOutcome where
  /-- At most this many bytes are taken. -/
  | takes (count : Nat)
  | fails
deriving DecidableEq, Repr

/-- The behaviour of a daemon. -/
inductive Peer where
  | refusing (reason : String)
  /-- It sends `input` and no more; the read with the given number fails; the attempts to send to
  it have the given outcomes, and later ones take everything. -/
  | answering (input : List UInt8) (failingRead : Option Nat) (sends : List SendOutcome)
deriving DecidableEq, Repr

/-- The bytes of a text in which every character is one byte. -/
def bytesOf (s : String) : List UInt8 :=
  s.toList.map fun c => UInt8.ofNat c.toNat

/-- The text in which every byte is one character. -/
def textOf (bytes : List UInt8) : String :=
  String.ofList (bytes.map fun b => Char.ofNat b.toNat)

/-- A daemon that answers every command as it should. -/
def Peer.willing : Peer :=
  .answering (bytesOf "250 welcome\n250 helo ok\n250 command executed\n250 bye\n") none []

end HostingPanel
