/-
AwsSigning/Digest/Hmac.lean

Keyed digests: HMAC over SHA-256.  A key longer than a block is replaced by
its digest, a shorter one is filled up with zeros, and the message is hashed
behind two differently masked copies of it.
-/
import AwsSigning.Digest.Sha256

namespace AwsSigning.Hmac

/-- The key stretched or cut to one block. -/
def blockKey (key : Bytes) : Bytes :=
  let short := if key.length > 64 then Sha256.digest key else key
  short ++ List.replicate (64 - short.length) 0

/-- The keyed digest of a message. -/
def digest (key message : Bytes) : Bytes :=
  let block := blockKey key
  let inner := Sha256.digest (block.map (· ^^^ 0x36) ++ message)
  Sha256.digest (block.map (· ^^^ 0x5c) ++ inner)

/-- The keyed digest in hexadecimal. -/
def hexDigest (key message : Bytes) : String := Hex.encode (digest key message)

end AwsSigning.Hmac
