/-
# SHA-1

A message is padded to whole blocks of 64 bytes.  Each block is expanded to 80
words, which are mixed one after the other into a state of five words; the
state before the block is then added.  The digest is the last state.
-/

import SecurityTokens.Bytes

namespace SecurityTokens
namespace Sha1

/-- The five words that a block is mixed into. -/
structure State where
  a : UInt32
  b : UInt32
  c : UInt32
  d : UInt32
  e : UInt32
deriving DecidableEq, Repr

/-- The state before the first block. -/
def State.initial : State :=
  ⟨0x67452301, 0xEFCDAB89, 0x98BADCFE, 0x10325476, 0xC3D2E1F0⟩

/-- Rotation to the left by `n` places, `0 < n < 32`. -/
def rotate (n : UInt32) (w : UInt32) : UInt32 := w <<< n ||| w >>> (32 - n)

/-- Cuts a list into `count` pieces of `size` elements. -/
def pieces {α : Type} (size : Nat) : (count : Nat) → List α → List (List α)
  | 0, _ => []
  | count + 1, xs => xs.take size :: pieces size count (xs.drop size)

/-- Reads big-endian words of four bytes. -/
def words : Bytes → List UInt32
  | a :: b :: c :: d :: rest =>
    (a.toUInt32 <<< 24 ||| b.toUInt32 <<< 16 ||| c.toUInt32 <<< 8 ||| d.toUInt32) :: words rest
  | _ => []

/-- The four bytes of a word. -/
def wordBytes (w : UInt32) : Bytes :=
  [(w >>> 24).toUInt8, (w >>> 16).toUInt8, (w >>> 8).toUInt8, w.toUInt8]

/-- The message, a one bit, zeros up to eight bytes below a whole block, and the
message's length in bits. -/
def pad (message : Bytes) : Bytes :=
  message ++ 0x80 :: List.replicate ((119 - message.length % 64) % 64) 0
    ++ Bytes.ofNatWidth 8 (8 * message.length)

/-- Adds `count` words to a schedule, whose latest word comes first. -/
def extend : (count : Nat) → List UInt32 → List UInt32
  | 0, ws => ws
  | count + 1, ws =>
    extend count
      (rotate 1 (ws.getD 2 0 ^^^ ws.getD 7 0 ^^^ ws.getD 13 0 ^^^ ws.getD 15 0) :: ws)

/-- The 80 words of a block. -/
def schedule (block : Bytes) : List UInt32 := (extend 64 (words block).reverse).reverse

/-- The function and the constant of a round. -/
def round (t : Nat) (b c d : UInt32) : UInt32 × UInt32 :=
  if t < 20 then ((b &&& c) ||| (~~~b &&& d), 0x5A827999)
  else if t < 40 then (b ^^^ c ^^^ d, 0x6ED9EBA1)
  else if t < 60 then ((b &&& c) ||| (b &&& d) ||| (c &&& d), 0x8F1BBCDC)
  else (b ^^^ c ^^^ d, 0xCA62C1D6)

/-- Mixes words into the state, the first of them in round `t`. -/
def mix : (t : Nat) → List UInt32 → State → State
  | _, [], s => s
  | t, w :: ws, ⟨a, b, c, d, e⟩ =>
    let (f, k) := round t b c d
    mix (t + 1) ws ⟨rotate 5 a + f + e + k + w, a, rotate 30 b, c, d⟩

/-- The state after a block. -/
def compress (s : State) (block : Bytes) : State :=
  let m := mix 0 (schedule block) s
  ⟨s.a + m.a, s.b + m.b, s.c + m.c, s.d + m.d, s.e + m.e⟩

/-- The state after a padded message. -/
def fold (padded : Bytes) : State :=
  (pieces 64 (padded.length / 64) padded).foldl compress State.initial

/-- The twenty bytes of a state. -/
def State.bytes (s : State) : Bytes :=
  wordBytes s.a ++ wordBytes s.b ++ wordBytes s.c ++ wordBytes s.d ++ wordBytes s.e

/-- The SHA-1 digest of a message. -/
def digest (message : Bytes) : Bytes := (fold (pad message)).bytes

/-- A padded message is whole blocks. -/
theorem length_pad_mod (message : Bytes) : (pad message).length % 64 = 0 := by
  simp [pad]
  omega

/-- A digest has twenty bytes. -/
@[simp] theorem length_digest (message : Bytes) : (digest message).length = 20 := by
  simp [digest, State.bytes, wordBytes]

end Sha1
end SecurityTokens
