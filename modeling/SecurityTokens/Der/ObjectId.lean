/-
# Object identifiers

An object identifier is a sequence of numbers, its arcs.  The first byte holds
two arcs; every further arc takes seven bits of each of its bytes, the last of
which is below 128.  Arcs have 32 bits, and an encoding takes three to 39 bytes.
Zeros in front of an arc are allowed, so several encodings may have the same arcs;
they are different identifiers.
-/

import SecurityTokens.Der.Tlv

namespace SecurityTokens
namespace Der

/-- An object identifier, by its content. -/
structure ObjectId where
  content : Bytes
deriving DecidableEq, Repr

namespace ObjectId

/-- The arcs after the first two.  `value` is what has been read of an arc and
`count` how many bytes; a fifth byte has to leave its four high bits zero. -/
def arcsFrom (value count : Nat) : Bytes → Option (List Nat)
  | [] => if count = 0 then some [] else none
  | b :: rest =>
    if count + 1 > 4 ∧ b &&& 0xF0 ≠ 0 then none
    else
      let value := (value * 128 + b.toNat % 128) % 0x100000000
      if b < 0x80 then (arcsFrom 0 0 rest).map (value :: ·) else arcsFrom value (count + 1) rest

/-- The arcs an encoding stands for. -/
def arcs? (content : Bytes) : Option (List Nat) :=
  match content with
  | first :: rest =>
    if 3 ≤ content.length ∧ content.length ≤ 39 ∧ first < 120 then
      (arcsFrom 0 0 rest).map fun arcs => first.toNat / 40 :: first.toNat % 40 :: arcs
    else none
  | [] => none

/-- The bytes of an arc before its last one: seven bits each, marked by the
highest bit, the most significant ones first. -/
def leadingBytes (n : Nat) : Bytes :=
  if n = 0 then [] else leadingBytes (n / 128) ++ [UInt8.ofNat (128 + n % 128)]

/-- The shortest bytes of an arc. -/
def arcBytes (n : Nat) : Bytes := leadingBytes (n / 128) ++ [UInt8.ofNat (n % 128)]

/-- The identifier of arcs, of which there are at least two, in its shortest
form. -/
def ofArcs : List Nat → ObjectId
  | first :: second :: rest => ⟨UInt8.ofNat (first * 40 + second) :: rest.flatMap arcBytes⟩
  | _ => ⟨[]⟩

/-- The identifier an encoding stands for. -/
def ofContent? (content : Bytes) : Option ObjectId :=
  if (arcs? content).isSome then some ⟨content⟩ else none

/-- The identifier of a value. -/
def ofTlv? (t : Tlv) : Option ObjectId := (t.contentOf? 0x06).bind ofContent?

/-- The identifier as a value. -/
def toTlv (o : ObjectId) : Tlv := ⟨0x06, o.content⟩

/-- The arcs of an identifier. -/
def arcs (o : ObjectId) : List Nat := (arcs? o.content).getD []

/-- The arcs with points between them. -/
def dotted (o : ObjectId) : String := ".".intercalate (o.arcs.map toString)

end ObjectId
end Der
end SecurityTokens
