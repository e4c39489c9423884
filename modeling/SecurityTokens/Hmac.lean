/-
# HMAC-SHA1

The key is brought to the length of a block: a longer one is digested first,
and zeros fill it up.  Two digests are taken, of the key with an inner pad
before the message, and of the key with an outer pad before that digest.
-/

import SecurityTokens.Sha1

namespace SecurityTokens
namespace Hmac

/-- The key as one block of 64 bytes. -/
def blockKey (key : Bytes) : Bytes :=
  let short := if key.length > 64 then Sha1.digest key else key
  short ++ List.replicate (64 - short.length) 0

/-- The message authentication code of a message under a key. -/
def sha1 (key message : Bytes) : Bytes :=
  let block := blockKey key
  let inner := Sha1.digest (block.map (· ^^^ 0x36) ++ message)
  Sha1.digest (block.map (· ^^^ 0x5C) ++ inner)

/-- A key is made exactly one block long. -/
@[simp] theorem length_blockKey (key : Bytes) : (blockKey key).length = 64 := by
  unfold blockKey
  split <;> simp
  omega

/-- A code has twenty bytes. -/
@[simp] theorem length_sha1 (key message : Bytes) : (sha1 key message).length = 20 := by
  simp [sha1]

end Hmac
end SecurityTokens
