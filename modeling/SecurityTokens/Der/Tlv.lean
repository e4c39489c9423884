/-
# DER

The distinguished encoding rules write a value as a tag, the length of its
content, and the content.  Lengths are definite and as short as can be, so the
encoding of a tag and a content is the only one.

| length | first byte | further bytes |
| --- | --- | --- |
| below 128 | the length | none |
| from 128 | 128 plus their number | the length, big-endian, no zero in front |
-/

import SecurityTokens.Bytes

namespace SecurityTokens
namespace Der

/-- A tag with the content it announces. -/
structure Tlv where
  tag : UInt8
  content : Bytes
deriving DecidableEq, Repr

/-- The number of a tag. -/
def tagNumber (tag : UInt8) : UInt8 := tag &&& 0x1F

/-- The universal tags in use. -/
def universalTags : List UInt8 :=
  [0x01, 0x02, 0x03, 0x04, 0x05, 0x06, 0x09, 0x0A, 0x0C, 0x12, 0x13, 0x14, 0x15, 0x16, 0x17, 0x18,
   0x1A, 0x1E, 0x30, 0x31]

/-- Whether a tag can be read: a universal tag in use, or one of the other
classes whose number fits the tag. -/
def isKnownTag (tag : UInt8) : Bool :=
  if tag < 0x40 then universalTags.contains tag else tagNumber tag != 0x1F

/-- Whether a tag is of the class whose meaning depends on the context. -/
def isContextTag (tag : UInt8) : Bool := tag &&& 0xC0 == 0x80

/-- The tag of a constructed value with a number of its context. -/
def contextTag (number : UInt8) : UInt8 := 0xA0 ||| number

/-- The tag of a primitive value with a number of its context. -/
def primitiveContextTag (number : UInt8) : UInt8 := 0x80 ||| number

/-- Contents are shorter than this bound, and so is all that is read at once. -/
def lengthBound : Nat := 1 <<< 28

/-- The encoding of a length. -/
def encodeLength (n : Nat) : Bytes :=
  if n < 128 then [UInt8.ofNat n]
  else
    let bs := Bytes.ofNat n
    UInt8.ofNat (128 + bs.length) :: bs

/-- Reads a length, which has to be as short as can be and within the bound. -/
def readLength? : Bytes → Option (Nat × Bytes)
  | [] => none
  | b :: rest =>
    if b < 0x80 then some (b.toNat, rest)
    else
      let count := b.toNat - 128
      let n := Bytes.toNat (rest.take count)
      if 1 ≤ count ∧ count ≤ 4 ∧ count ≤ rest.length ∧ n < lengthBound
          ∧ encodeLength n = b :: rest.take count then
        some (n, rest.drop count)
      else none

namespace Tlv

/-- The encoding of a value. -/
def encode (t : Tlv) : Bytes := t.tag :: encodeLength t.content.length ++ t.content

/-- Reads the value that bytes begin with. -/
def read? : Bytes → Option (Tlv × Bytes)
  | [] => none
  | tag :: rest =>
    if isKnownTag tag then
      match readLength? rest with
      | some (n, rest) =>
        if n ≤ rest.length then some (⟨tag, rest.take n⟩, rest.drop n) else none
      | none => none
    else none

/-- The value that all of the bytes are. -/
def ofBytes? (bs : Bytes) : Option Tlv :=
  if bs.length < lengthBound then
    match read? bs with
    | some (t, []) => some t
    | _ => none
  else none

end Tlv

theorem readLength?_length {bs rest : Bytes} {n : Nat} (h : readLength? bs = some (n, rest)) :
    rest.length < bs.length := by
  unfold readLength? at h
  split at h
  · simp at h
  · split at h
    · simp at h; simp [h.2]
    · simp only at h
      split at h
      · obtain ⟨_, rfl⟩ := by simpa only [Option.some.injEq, Prod.mk.injEq] using h
        simp only [List.length_drop, List.length_cons]
        omega
      · simp at h

/-- A value takes at least one byte. -/
theorem Tlv.read?_length {bs rest : Bytes} {t : Tlv} (h : Tlv.read? bs = some (t, rest)) :
    rest.length < bs.length := by
  unfold Tlv.read? at h
  split at h
  · simp at h
  · split at h
    · split at h
      · split at h
        · rename_i hl _
          have := readLength?_length hl
          obtain ⟨_, rfl⟩ := by simpa only [Option.some.injEq, Prod.mk.injEq] using h
          simp only [List.length_drop, List.length_cons]
          omega
        · simp at h
      · simp at h
    · simp at h

/-- The values that the bytes of a constructed value are made of. -/
def items? (bs : Bytes) : Option (List Tlv) :=
  match bs with
  | [] => some []
  | b :: bs =>
    match h : Tlv.read? (b :: bs) with
    | some (t, rest) =>
      have := Tlv.read?_length h
      (items? rest).map (t :: ·)
    | none => none
termination_by bs.length
decreasing_by assumption

/-- The encodings of values one after the other. -/
def encodeAll (items : List Tlv) : Bytes := items.flatMap Tlv.encode

namespace Tlv

/-- The parts of a value that has to have some tag. -/
def parts? (tag : UInt8) (t : Tlv) : Option (List Tlv) :=
  if t.tag = tag then items? t.content else none

/-- The content of a value that has to have some tag. -/
def contentOf? (tag : UInt8) (t : Tlv) : Option Bytes :=
  if t.tag = tag then some t.content else none

/-- A sequence of values. -/
def sequence (items : List Tlv) : Tlv := ⟨0x30, encodeAll items⟩

/-- A set of values, which have to be in order. -/
def set (items : List Tlv) : Tlv := ⟨0x31, encodeAll items⟩

/-- A value wrapped in a tag with a number of its context. -/
def wrapped (number : UInt8) (t : Tlv) : Tlv := ⟨contextTag number, t.encode⟩

/-- The parts of a sequence. -/
def sequence? (t : Tlv) : Option (List Tlv) := t.parts? 0x30

/-- The number of the context a value is tagged with, if it is. -/
def contextNumber? (t : Tlv) : Option UInt8 :=
  if isContextTag t.tag then some (tagNumber t.tag) else none

end Tlv

/-- What becomes of values whose number in the context is lower than the one that
is looked for. -/
inductive Stray where
  | passedOver
  | refused
deriving DecidableEq, Repr

/-- Splits off the value tagged with a number of the context, if it is there.
Values with lower numbers before it are passed over and lost, or refused. -/
def takeContext (stray : Stray) (number : UInt8) (items : List Tlv) :
    Option (Option Tlv × List Tlv) :=
  let isStray (t : Tlv) := t.contextNumber?.any (· < number)
  if stray = .refused ∧ items.head?.any isStray then none
  else
    match items.dropWhile isStray with
    | t :: after =>
      if t.contextNumber? = some number then some (some t, after) else some (none, t :: after)
    | [] => some (none, [])

/-! ## Values of the simple types -/

/-- Whether content is the shortest two's complement form of an integer. -/
def isMinimalInteger : Bytes → Bool
  | [] => false
  | [_] => true
  | a :: b :: _ => !(a == 0x00 && b < 0x80) && !(a == 0xFF && b ≥ 0x80)

/-- The content of an integer. -/
def integer? (t : Tlv) : Option Bytes := (t.contentOf? 0x02).filter isMinimalInteger

/-- The value of an integer that is not negative. -/
def natural? (t : Tlv) : Option Nat :=
  ((integer? t).filter fun bs => bs.headD 0x80 < 0x80).map Bytes.toNat

/-- The value of a truth value. -/
def boolean? (t : Tlv) : Option Bool :=
  match t with
  | ⟨0x01, [0x00]⟩ => some false
  | ⟨0x01, [0xFF]⟩ => some true
  | _ => none

/-- A sequence of bits: whole bytes, and how many bits of the last are unused. -/
structure BitString where
  unused : UInt8
  bytes : Bytes
deriving DecidableEq, Repr

namespace BitString

/-- The bits that content stands for: at most seven bits are unused, and none
when there is no byte. -/
def ofContent? : Bytes → Option BitString
  | [] => none
  | unused :: bytes =>
    if unused ≤ 7 ∧ (unused = 0 ∨ bytes ≠ []) then some ⟨unused, bytes⟩ else none

/-- The bits of a value. -/
def ofTlv? (t : Tlv) : Option BitString := (t.contentOf? 0x03).bind ofContent?

/-- The content that stands for the bits. -/
def content (b : BitString) : Bytes := b.unused :: b.bytes

/-- The bits as a value. -/
def toTlv (b : BitString) : Tlv := ⟨0x03, b.content⟩

/-- The bytes of a sequence of whole bytes. -/
def wholeBytes? (b : BitString) : Option Bytes := if b.unused = 0 then some b.bytes else none

end BitString
end Der
end SecurityTokens
