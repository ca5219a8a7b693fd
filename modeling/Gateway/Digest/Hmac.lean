import Gateway.Digest.Sha256

/-!
# Keyed hashes

HMAC over SHA-256: the message is hashed behind the key mixed with one constant, and the result behind
the key mixed with another. A key that is longer than a block is hashed first.
-/

namespace Gateway.Digest

/-- The key filled up with zeros to the length of a block. -/
def blockKey (key : List UInt8) : List UInt8 :=
  let short := if 64 < key.length then sha256 key else key
  short ++ List.replicate (64 - short.length) 0

/-- **The keyed hash of a message.** -/
def hmacSha256 (key message : List UInt8) : List UInt8 :=
  let key := blockKey key
  sha256 (key.map (· ^^^ 0x5c) ++ sha256 (key.map (· ^^^ 0x36) ++ message))

end Gateway.Digest
