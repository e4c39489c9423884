/-
# Where the windows of derived keys start

The limits of a window are checked when a derived key token is read, and again when its
key is derived.  The two agree, so a token that was read with a length can be derived:

| given | start of the window of `n` bytes |
| --- | --- |
| `Offset` | the offset |
| `Generation` | the generation times `n` |
| neither | 0 |

The label under which the stream is expanded comes from the element, too: it is the text of
`Label`, or the default one where that is missing or empty (`labelIn`).

A product beyond 32 bits is beyond the limits too.  So a generation says no more than the
offset it stands for, and an element where one stands in place of the other (`Restates`) is
accepted just if the other is.
-/

import SecurityTokens.Proofs.Stream
import SecurityTokens.Proofs.TokenFields

namespace SecurityTokens

open KeyDerivation (Admits window)
open Xml (Element)

/-! ## Numbers -/

/-- The number of a numeral, of any size. -/
def Text.natural? (s : String) : Option Nat :=
  digits? (match s.toList with
    | '+' :: cs => cs
    | cs => cs)

/-- A number is read just if it fits 32 bits. -/
theorem Text.word?_eq_some_iff {s : String} {n : Nat} :
    word? s = some n ↔ natural? s = some n ∧ n < wordBound := by
  rw [word?, Option.filter_eq_some_iff, decide_eq_true_iff]
  exact Iff.rfl

/-- The number that a child of an element holds. -/
def Xml.Element.number? (e : Element) (uri name : String) : Option Nat :=
  (e.child? uri name).bind fun c => Text.natural? c.text

/-- A number that may be missing is read just if there is no such child, or the child holds
a number that fits 32 bits. -/
theorem readOptional_readNumber_eq_ok_iff {what uri name : String} {e : Element}
    {n? : Option Nat} :
    readOptional (readNumber what) (e.child? uri name) = .ok n? ↔
      e.child? uri name = none ∧ n? = none ∨
        ∃ n, e.number? uri name = some n ∧ n < Text.wordBound ∧ n? = some n := by
  rw [readOptional_eq_ok_iff, Element.number?]
  refine or_congr Iff.rfl ⟨?_, ?_⟩
  · rintro ⟨c, n, found, read, rfl⟩
    obtain ⟨written, small⟩ := Text.word?_eq_some_iff.1 (readNumber_eq_ok_iff.1 read)
    exact ⟨n, Option.bind_eq_some_iff.2 ⟨c, found, written⟩, small, rfl⟩
  · rintro ⟨n, held, small, rfl⟩
    obtain ⟨c, found, written⟩ := Option.bind_eq_some_iff.1 held
    exact ⟨c, n, found, readNumber_eq_ok_iff.2 (Text.word?_eq_some_iff.2 ⟨written, small⟩), rfl⟩

/-- A number that is read is the one that the child holds, if there is one. -/
theorem number?_of_readOptional {what uri name : String} {e : Element} {n? : Option Nat}
    (read : readOptional (readNumber what) (e.child? uri name) = .ok n?) :
    e.number? uri name = n? := by
  obtain ⟨missing, rfl⟩ | ⟨n, held, -, rfl⟩ := readOptional_readNumber_eq_ok_iff.1 read
  · rw [Element.number?, missing]
    rfl
  · exact held

namespace DerivedKeyToken

/-! ## Keys of tokens that were read -/

/-- What the stream of a token is made from besides the secret. -/
def seed (t : DerivedKeyToken) : Bytes := Bytes.ofText t.effectiveLabel ++ t.nonce

/-- A key is derived just if it can be asked for at the place where it starts, and it is the
window of the stream there. -/
theorem deriveKey_eq_ok_iff {t : DerivedKeyToken} {length : Nat} {secret key : Bytes} :
    t.deriveKey length secret = .ok key ↔
      Admits secret (t.start.place length) length ∧
        key = window secret t.seed (t.start.place length) length := by
  have derived (offset : Nat) : KeyDerivation.derive
      { secret, label := Bytes.ofText t.effectiveLabel, nonce := t.nonce, offset, length,
        algorithm := t.algorithm } = KeyDerivation.pSha1 secret t.seed offset length := by
    rw [KeyDerivation.derive, seed]
  simp only [deriveKey, effectiveOffset, derived]
  rw [Except.bind_eq_ok_iff]
  constructor
  · rintro ⟨offset, placed, given⟩
    obtain ⟨rfl, -⟩ := WindowStart.position_eq_ok_iff.1 placed
    exact KeyDerivation.pSha1_eq_window_iff.1 given
  · intro given
    exact ⟨_, WindowStart.position_of_reached given.1.reached,
      KeyDerivation.pSha1_eq_window_iff.2 given⟩

/-- A start that is placed alike gives the same keys. -/
theorem deriveKey_withStart {t : DerivedKeyToken} {start : WindowStart} {length : Nat}
    (placed : start.position length = t.start.position length) (secret : Bytes) :
    { t with start }.deriveKey length secret = t.deriveKey length secret := by
  rw [deriveKey, deriveKey, effectiveOffset, effectiveOffset, placed]
  rfl

/-- Where the window starts that an element describes. -/
def placeIn (e : Element) (vocabulary : String) (length : Nat) : Nat :=
  match e.number? vocabulary "Offset", e.number? vocabulary "Generation" with
  | some offset, _ => offset
  | none, some index => index * length
  | none, none => 0

/-- The label that an element gives. -/
def labelIn (e : Element) (vocabulary : String) : String :=
  match e.child? vocabulary "Label" with
  | some c => if c.text = "" then KeyDerivation.defaultLabel else c.text
  | none => KeyDerivation.defaultLabel

namespace Reads

variable {e : Element} {vocabulary : String} {t : DerivedKeyToken}

theorem labelIn_eq (read : t.Reads e vocabulary) : labelIn e vocabulary = t.effectiveLabel := by
  rw [labelIn, effectiveLabel, read.label]
  cases e.child? vocabulary "Label" <;> rfl

theorem seed_eq (read : t.Reads e vocabulary) :
    t.seed = Bytes.ofText (labelIn e vocabulary) ++ t.nonce := by
  rw [read.labelIn_eq, seed]

theorem placeIn_eq (read : t.Reads e vocabulary) (length : Nat) :
    placeIn e vocabulary length = t.start.place length := by
  rw [placeIn, number?_of_readOptional read.offset, number?_of_readOptional read.generation]
  cases t.start <;> rfl

/-- What was checked when the element was read is enough for every secret. -/
theorem admits {length : Nat} {secret : Bytes} (read : t.Reads e vocabulary)
    (given : t.length = some length) (positive : 0 < length) (filled : secret ≠ []) :
    Admits secret (t.start.place length) length := by
  have short := read.short
  have reached := read.reached
  rw [given, Option.getD_some] at short reached
  exact ⟨filled, positive, short, reached⟩

/-- A start at the same place may stand in an element that is the same in all else. -/
theorem withStart {e' : Element} {start : WindowStart} (read : t.Reads e vocabulary)
    (same : Element.SameBut [(vocabulary, "Offset"), (vocabulary, "Generation")] e e')
    (offset : readOptional (readNumber "Offset") (e'.child? vocabulary "Offset")
      = .ok start.offset?)
    (generation : readOptional (readNumber "Generation") (e'.child? vocabulary "Generation")
      = .ok start.generation?)
    (place : start.place (t.length.getD 0) = t.start.place (t.length.getD 0)) :
    { t with start }.Reads e' vocabulary where
  known := (same.conversationOf? _).trans read.known
  id := read.id.trans same.id?.symm
  algorithm := by
    rw [readAlgorithm, same.attribute?]
    exact read.algorithm
  reference := by
    rw [same.child? _ _ (by simp)]
    exact read.reference
  offset := offset
  generation := generation
  length := by
    rw [same.child? _ _ (by simp)]
    exact read.length
  short := read.short
  reached := place.symm ▸ read.reached
  label := by
    rw [same.child? _ _ (by simp)]
    exact read.label
  nonce := by
    rw [same.child? _ _ (by simp)]
    exact read.nonce

end Reads

/-! ## Generations and offsets -/

/-- The start of the window stands in one element as a generation, and in the other as the
offset that this is for keys of the length both give; in all else they are the same. -/
structure Restates (vocabulary : String) (index length : Nat) (e e' : Element) : Prop where
  known : conversationOf? e "DerivedKeyToken" = some vocabulary
  same : Element.SameBut [(vocabulary, "Offset"), (vocabulary, "Generation")] e e'
  sized : e.number? vocabulary "Length" = some length
  generation : e.number? vocabulary "Generation" = some index
  withoutOffset : e.child? vocabulary "Offset" = none
  offset : e'.number? vocabulary "Offset" = some (index * length)
  withoutGeneration : e'.child? vocabulary "Generation" = none

namespace Restates

variable {vocabulary : String} {index length : Nat} {e e' : Element} {t : DerivedKeyToken}

theorem known_offset (h : Restates vocabulary index length e e') :
    conversationOf? e' "DerivedKeyToken" = some vocabulary :=
  (h.same.conversationOf? _).trans h.known

/-- The element with the generation gives it to its token, and the token with the offset is
read from the other one. -/
theorem reads_offset (h : Restates vocabulary index length e e') (read : t.Reads e vocabulary) :
    t.start = .generation index ∧ t.length = some length ∧
      { t with start := .offset (index * length) }.Reads e' vocabulary := by
  have sized : t.length = some length :=
    (number?_of_readOptional read.length).symm.trans h.sized
  have start : t.start = .generation index :=
    WindowStart.generation?_eq_some_iff.1
      ((number?_of_readOptional read.generation).symm.trans h.generation)
  have reached := read.reached
  rw [start, sized, Option.getD_some] at reached
  have within : index * length + length ≤ KeyDerivation.maxPosition := reached
  have far : KeyDerivation.maxPosition < Text.wordBound := by decide
  refine ⟨start, sized, read.withStart h.same ?_ ?_ ?_⟩
  · exact readOptional_readNumber_eq_ok_iff.2 (.inr ⟨_, h.offset, by omega, rfl⟩)
  · exact readOptional_readNumber_eq_ok_iff.2 (.inl ⟨h.withoutGeneration, rfl⟩)
  · rw [start, sized]
    rfl

/-- The element with the offset gives it to its token, and the token with the generation is
read from the other one, if that generation can be read at all. -/
theorem reads_generation (h : Restates vocabulary index length e e')
    (readable : 0 < length ∨ index < Text.wordBound) (read : t.Reads e' vocabulary) :
    t.start = .offset (index * length) ∧ t.length = some length ∧
      { t with start := .generation index }.Reads e vocabulary := by
  have sized : t.length = some length := by
    have there := number?_of_readOptional read.length
    rw [Element.number?, h.same.child? _ _ (by simp)] at there
    exact there.symm.trans h.sized
  have start : t.start = .offset (index * length) :=
    WindowStart.offset?_eq_some_iff.1 ((number?_of_readOptional read.offset).symm.trans h.offset)
  have reached := read.reached
  rw [start, sized, Option.getD_some] at reached
  have within : index * length + length ≤ KeyDerivation.maxPosition := reached
  have far : KeyDerivation.maxPosition < Text.wordBound := by decide
  have small : index < Text.wordBound := by
    obtain positive | small := readable
    · -- A generation is at most its product with a length that is not zero.
      have factor := Nat.le_mul_of_pos_right index positive
      omega
    · exact small
  refine ⟨start, sized, read.withStart h.same.symm ?_ ?_ ?_⟩
  · exact readOptional_readNumber_eq_ok_iff.2 (.inl ⟨h.withoutOffset, rfl⟩)
  · exact readOptional_readNumber_eq_ok_iff.2 (.inr ⟨_, h.generation, small, rfl⟩)
  · rw [start, sized]
    rfl

/-- What the element with the generation is read as, the other one is read as with the
offset. -/
theorem ofElement_offset (h : Restates vocabulary index length e e')
    (accepted : ofElement e = .ok t) :
    ofElement e' = .ok { t with start := .offset (index * length) } := by
  obtain ⟨-, -, read⟩ := h.reads_offset (reads_of_ofElement h.known accepted)
  exact ofElement_eq_ok_iff.2 ⟨vocabulary, read⟩

/-- What the element with the offset is read as, the other one is read as with the
generation. -/
theorem ofElement_generation (h : Restates vocabulary index length e e')
    (readable : 0 < length ∨ index < Text.wordBound) (accepted : ofElement e' = .ok t) :
    ofElement e = .ok { t with start := .generation index } := by
  obtain ⟨-, -, read⟩ := h.reads_generation readable (reads_of_ofElement h.known_offset accepted)
  exact ofElement_eq_ok_iff.2 ⟨vocabulary, read⟩

/-- Either token gives the same keys of the length that the elements give. -/
theorem deriveKey_eq (h : Restates vocabulary index length e e')
    (accepted : ofElement e = .ok t) (secret : Bytes) :
    { t with start := .offset (index * length) }.deriveKey length secret
      = t.deriveKey length secret := by
  have read := reads_of_ofElement h.known accepted
  obtain ⟨start, sized, -⟩ := h.reads_offset read
  have reached := read.reached
  rw [sized, Option.getD_some] at reached
  refine deriveKey_withStart ?_ secret
  rw [WindowStart.position_of_reached reached, start]
  rfl

end Restates

/-- **What was read can be derived.**  A token that gives a length can be derived from every
secret but the empty one, and the key is the window at the place that its element describes,
of the stream under the label that its element gives.  A generation says no more than the offset it stands for: with either of
them the element is accepted just if it is with the other, and the same keys are derived. -/
theorem deriveKey_of_ofElement :
    (∀ e t, ofElement e = .ok t → ∃ vocabulary, t.Reads e vocabulary ∧
      ∀ length, e.number? vocabulary "Length" = some length → 0 < length →
        ∀ secret, secret ≠ [] → t.deriveKey length secret
          = .ok (window secret (Bytes.ofText (labelIn e vocabulary) ++ t.nonce)
              (placeIn e vocabulary length) length)) ∧
    ∀ vocabulary index length e e', Restates vocabulary index length e e' →
      0 < length ∨ index < Text.wordBound →
        ((∃ t, ofElement e = .ok t) ↔ ∃ t', ofElement e' = .ok t') ∧
        ∀ t t', ofElement e = .ok t → ofElement e' = .ok t' →
          t' = { t with start := .offset (index * length) } ∧
            ∀ secret, t'.deriveKey length secret = t.deriveKey length secret := by
  constructor
  · intro e t accepted
    obtain ⟨vocabulary, read⟩ := ofElement_eq_ok_iff.1 accepted
    refine ⟨vocabulary, read, fun length given positive secret filled => ?_⟩
    have sized : t.length = some length := (number?_of_readOptional read.length).symm.trans given
    rw [read.placeIn_eq, ← read.seed_eq]
    exact deriveKey_eq_ok_iff.2 ⟨read.admits sized positive filled, rfl⟩
  · intro vocabulary index length e e' h readable
    refine ⟨⟨?_, ?_⟩, ?_⟩
    · rintro ⟨t, accepted⟩
      exact ⟨_, h.ofElement_offset accepted⟩
    · rintro ⟨t', accepted⟩
      exact ⟨_, h.ofElement_generation readable accepted⟩
    · intro t t' accepted accepted'
      obtain rfl := Except.ok.inj ((h.ofElement_offset accepted).symm.trans accepted')
      exact ⟨rfl, h.deriveKey_eq accepted⟩

/-- A child that holds a number. -/
def numberElement (name digits : String) : Element :=
  ⟨⟨some Namespace.conversation0512, name⟩, [], [.text digits]⟩

/-- A derived key token of sixteen bytes, whose window is placed by one more child. -/
def placedElement (start : Element) : Element :=
  ⟨⟨some Namespace.conversation0512, "DerivedKeyToken"⟩, [],
    [start.toNode, (numberElement "Length" "16").toNode,
      .element ⟨some Namespace.conversation0512, "Nonce"⟩ [] [.text "AAAA"]]⟩

/-- The last generation within the limits. -/
def lastGeneration : Element := placedElement (numberElement "Generation" "4095")

/-- The offset it stands for. -/
def lastOffset : Element := placedElement (numberElement "Offset" "+065520")

theorem restates_lastOffset :
    Restates Namespace.conversation0512 4095 16 lastGeneration lastOffset where
  known := by decide +kernel
  same := .ofReplaced (by decide) (by decide) _ _ [] _
  sized := by decide +kernel
  generation := by decide +kernel
  withoutOffset := by decide +kernel
  offset := by decide +kernel
  withoutGeneration := by decide +kernel

/-- Both give the last sixteen bytes that are reached of the stream under the default label. -/
theorem deriveKey_lastOffset : ∃ t t', ofElement lastGeneration = .ok t ∧
    ofElement lastOffset = .ok t' ∧
    t.deriveKey 16 [7]
      = .ok (window [7] (Bytes.ofText KeyDerivation.defaultLabel ++ t.nonce) 65520 16) ∧
    t'.deriveKey 16 [7]
      = .ok (window [7] (Bytes.ofText KeyDerivation.defaultLabel ++ t.nonce) 65520 16) := by
  obtain ⟨t, accepted⟩ : ∃ t, ofElement lastGeneration = .ok t := by
    have read : (ofElement lastGeneration).toBool = true := by decide +kernel
    cases there : ofElement lastGeneration with
    | ok t => exact ⟨t, rfl⟩
    | error e =>
      rw [there] at read
      cases read
  obtain ⟨alike, same⟩ :=
    deriveKey_of_ofElement.2 _ _ _ _ _ restates_lastOffset (.inl (by decide))
  obtain ⟨t', accepted'⟩ := alike.1 ⟨t, accepted⟩
  obtain ⟨vocabulary, read, derived⟩ := deriveKey_of_ofElement.1 _ _ accepted
  obtain rfl := Option.some.inj (read.known.symm.trans restates_lastOffset.known)
  have place : placeIn lastGeneration Namespace.conversation0512 16 = 65520 := by decide +kernel
  have label : labelIn lastGeneration Namespace.conversation0512 = KeyDerivation.defaultLabel := by
    decide +kernel
  have key := derived 16 restates_lastOffset.sized (by decide) [7] (List.cons_ne_nil 7 [])
  rw [place, label] at key
  exact ⟨t, t', accepted, accepted', key, ((same t t' accepted accepted').2 [7]).trans key⟩

end DerivedKeyToken
end SecurityTokens
