import HostingPanel.Hash.Sha256

/-!
# Keyed hashes

The signature of a message under a secret key, by SHA-256: the message is hashed after the key
combined with one constant, and the result again after the key combined with another.
-/

namespace HostingPanel.Hash

/-- A key brought to the length of a block: hashed if it is longer, then padded with zeros. -/
def blockKey (key : List UInt8) : List UInt8 :=
  let short := if 64 < key.length then sha256 key else key
  short ++ List.replicate (64 - short.length) 0

/-- The signature of a message under a key. -/
def hmac (key message : List UInt8) : List UInt8 :=
  let block := blockKey key
  sha256 (block.map (· ^^^ 0x5C) ++ sha256 (block.map (· ^^^ 0x36) ++ message))

end HostingPanel.Hash
