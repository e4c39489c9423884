/-
# Certificates that are written as they were read

A layout is a certificate cut into the values of its fields, none of which has been read
yet (`Layout`).  Reading a record is cutting and then reading each field
(`Record.ofTlv?_eq_some_iff`).  What a record keeps of the layout is written again:

| part of the layout | kept |
| --- | --- |
| version | unless it states the default |
| serial number, algorithm, issuer, validity, subject, key | up to the order of sets in names |
| tail | up to fields out of place, and up to a stated `FALSE` in extensions |
| outer algorithm, signature | as they are |

So a record is written as it was read just if its layout is canonical
(`Record.toTlv_eq_iff`).
-/

import Mathlib.Tactic.MkIffOfInductiveProp
import SecurityTokens.Proofs.Contexts

namespace SecurityTokens
namespace X509

open Der (Tlv BitString Stray Ascends)

variable {t : Tlv} {stray : Stray}

/-! ## Layouts -/

/-- A certificate cut into the values of its fields. -/
structure Layout where
  version : Option Tlv
  serial : Tlv
  innerAlgorithm : Tlv
  issuer : Tlv
  validity : Tlv
  subject : Tlv
  subjectKey : Tlv
  tail : List Tlv
  outerAlgorithm : Tlv
  signature : Tlv
deriving DecidableEq, Repr

namespace Layout

variable {l : Layout} {r : Record}

/-- Cuts a value into fields, none of which is read. -/
def ofTlv? (t : Tlv) : Option Layout := do
  let [signed, outerAlgorithm, signature] ← t.sequence? | none
  let (version, items) ← Der.takeContext .passedOver 0 (← signed.sequence?)
  let serial :: innerAlgorithm :: issuer :: validity :: subject :: subjectKey :: tail := items
    | none
  return {
    version := version
    serial, innerAlgorithm, issuer, validity, subject, subjectKey, tail, outerAlgorithm, signature }

/-- The layout of the value that all of the bytes are. -/
def ofBytes? (bs : Bytes) : Option Layout := (Tlv.ofBytes? bs).bind ofTlv?

/-- The fields of the signed part from the serial number on. -/
def fields (l : Layout) : List Tlv :=
  l.serial :: l.innerAlgorithm :: l.issuer :: l.validity :: l.subject :: l.subjectKey :: l.tail

/-- The fields are those of a record. -/
structure Reads (l : Layout) (stray : Stray) (r : Record) : Prop where
  version : (optional? version? l.version).map (·.getD 0) = some r.version
  serial : (Der.integer? l.serial).filter (·.length ≤ maxSerialLength) = some r.serial
  innerAlgorithm : AlgorithmIdentifier.ofTlv? l.innerAlgorithm = some r.innerAlgorithm
  issuer : Name.ofTlv? l.issuer = some r.issuer
  validity : validity? l.validity = some (r.notBefore, r.notAfter)
  subject : Name.ofTlv? l.subject = some r.subject
  subjectKey : SubjectKey.ofTlv? l.subjectKey = some r.subjectKey
  tail : Tail.ofItems? stray l.tail
    = some ⟨r.issuerUniqueId, r.subjectUniqueId, r.extensions⟩
  outerAlgorithm : AlgorithmIdentifier.ofTlv? l.outerAlgorithm = some r.outerAlgorithm
  signature : BitString.ofTlv? l.signature = some r.signature

/-- Every field is written in the first way there is. -/
@[mk_iff]
structure IsCanonical (l : Layout) : Prop where
  version : l.version ≠ some (.wrapped 0 ⟨0x02, [0x00]⟩)
  issuer : HasOrderedSets l.issuer
  subject : HasOrderedSets l.subject
  ascends : Ascends 0 l.tail
  extensions : ∀ t ∈ l.tail, ¬ HoldsStatedFalse t

instance : DecidablePred IsCanonical := fun l => decidable_of_iff _ (isCanonical_iff l).symm

/-- Fields out of place make the difference between both readers. -/
theorem reads_refused_iff : l.Reads .refused r ↔ l.Reads .passedOver r ∧ Ascends 0 l.tail := by
  constructor
  · intro h
    obtain ⟨tail, ascends⟩ := Tail.ofItems?_refused_iff.1 h.tail
    exact ⟨{ h with tail }, ascends⟩
  · rintro ⟨h, ascends⟩
    exact { h with tail := Tail.ofItems?_refused_iff.2 ⟨h.tail, ascends⟩ }

/-- The fields of a layout are parts of the value, and the version is in context 0. -/
theorem sequence?_of_ofTlv? (cut : ofTlv? t = some l) :
    ∃ signed, t.sequence? = some [signed, l.outerAlgorithm, l.signature] ∧
      signed.sequence? = some (l.version.toList ++ l.fields) ∧
      ∀ stray, Der.takeContext stray 0 (l.version.toList ++ l.fields)
        = some (l.version, l.fields) := by
  obtain ⟨parts, outer, cut⟩ := Option.bind_eq_some_iff.1 cut
  split at cut
  next signed outerAlgorithm signature =>
    obtain ⟨items, inner, cut⟩ := Option.bind_eq_some_iff.1 cut
    obtain ⟨_, taken, cut⟩ := Option.bind_eq_some_iff.1 cut
    obtain ⟨strays, found, rest, h⟩ := Der.exists_taken 0 items
    obtain rfl := h.strays_eq_nil
    obtain ⟨-, rfl⟩ := h.take_iff.1 taken
    match rest, h, cut with
    | serial :: innerAlgorithm :: issuer :: validity :: subject :: subjectKey :: tail, h, cut =>
      cases cut
      obtain rfl := h.split
      exact ⟨signed, outer, inner, fun stray => h.take_iff.2 ⟨fun _ => rfl, rfl⟩⟩
  next => cases cut

end Layout

/-! ## Records -/

namespace Record

variable {l : Layout} {r : Record}

theorem exists_reads_of_ofTlv? (read : ofTlv? stray t = some r) :
    ∃ l, Layout.ofTlv? t = some l ∧ l.Reads stray r := by
  obtain ⟨parts, outer, read⟩ := Option.bind_eq_some_iff.1 read
  obtain ⟨signed, outerAlgorithm, signature, rfl⟩ : ∃ a b c, parts = [a, b, c] := by
    split at read
    · exact ⟨_, _, _, rfl⟩
    · cases read
  obtain ⟨items, inner, read⟩ := Option.bind_eq_some_iff.1 read
  obtain ⟨_, taken, read⟩ := Option.bind_eq_some_iff.1 read
  obtain ⟨strays, found, rest, h⟩ := Der.exists_taken 0 items
  obtain rfl := h.strays_eq_nil
  obtain ⟨-, rfl⟩ := h.take_iff.1 taken
  obtain ⟨version, v, read⟩ := Option.bind_eq_some_iff.1 read
  obtain ⟨serial, innerAlgorithm, issuer, validity, subject, subjectKey, tail, rfl⟩ :
      ∃ a b c d e f tail, rest = a :: b :: c :: d :: e :: f :: tail := by
    split at read
    · exact ⟨_, _, _, _, _, _, _, rfl⟩
    · cases read
  obtain ⟨n, serial', read⟩ := Option.bind_eq_some_iff.1 read
  obtain ⟨a, innerAlgorithm', read⟩ := Option.bind_eq_some_iff.1 read
  obtain ⟨i, issuer', read⟩ := Option.bind_eq_some_iff.1 read
  obtain ⟨⟨b, e⟩, validity', read⟩ := Option.bind_eq_some_iff.1 read
  obtain ⟨s, subject', read⟩ := Option.bind_eq_some_iff.1 read
  obtain ⟨k, subjectKey', read⟩ := Option.bind_eq_some_iff.1 read
  obtain ⟨⟨f₁, r₁⟩, taken₁, read⟩ := Option.bind_eq_some_iff.1 read
  obtain ⟨u₁, first, read⟩ := Option.bind_eq_some_iff.1 read
  obtain ⟨⟨f₂, r₂⟩, taken₂, read⟩ := Option.bind_eq_some_iff.1 read
  obtain ⟨u₂, second, read⟩ := Option.bind_eq_some_iff.1 read
  obtain ⟨⟨f₃, r₃⟩, taken₃, read⟩ := Option.bind_eq_some_iff.1 read
  obtain ⟨es, third, read⟩ := Option.bind_eq_some_iff.1 read
  obtain rfl : r₃ = [] := by
    split at read
    · rfl
    · cases read
  obtain ⟨o, outerAlgorithm', read⟩ := Option.bind_eq_some_iff.1 read
  obtain ⟨g, signature', read⟩ := Option.bind_eq_some_iff.1 read
  cases read
  have tail' : Tail.ofItems? stray tail = some ⟨u₁, u₂, es⟩ :=
    Tail.ofItems?_eq_some_iff_exists.2
      ⟨f₁, r₁, f₂, r₂, f₃, taken₁, first, taken₂, second, taken₃, third⟩
  refine ⟨⟨found, serial, innerAlgorithm, issuer, validity, subject, subjectKey, tail,
    outerAlgorithm, signature⟩, ?_, ?_⟩
  · simp only [Layout.ofTlv?, Option.bind_eq_bind, outer, inner, h.passed, Option.bind_some]
    rfl
  · exact ⟨congrArg (Option.map (·.getD 0)) v, serial', innerAlgorithm', issuer', validity',
      subject', subjectKey', tail', outerAlgorithm', signature'⟩

theorem ofTlv?_of_reads (cut : Layout.ofTlv? t = some l) (h : l.Reads stray r) :
    ofTlv? stray t = some r := by
  obtain ⟨signed, outer, inner, taken⟩ := Layout.sequence?_of_ofTlv? cut
  obtain ⟨v, version, same⟩ := Option.map_eq_some_iff.1 h.version
  obtain ⟨f₁, r₁, f₂, r₂, f₃, taken₁, first, taken₂, second, taken₃, third⟩ :=
    Tail.ofItems?_eq_some_iff_exists.1 h.tail
  refine Option.bind_eq_some_iff.2 ⟨_, outer, ?_⟩
  refine Option.bind_eq_some_iff.2 ⟨_, inner, ?_⟩
  refine Option.bind_eq_some_iff.2 ⟨_, taken stray, ?_⟩
  refine Option.bind_eq_some_iff.2 ⟨_, version, ?_⟩
  refine Option.bind_eq_some_iff.2 ⟨_, h.serial, ?_⟩
  refine Option.bind_eq_some_iff.2 ⟨_, h.innerAlgorithm, ?_⟩
  refine Option.bind_eq_some_iff.2 ⟨_, h.issuer, ?_⟩
  refine Option.bind_eq_some_iff.2 ⟨_, h.validity, ?_⟩
  refine Option.bind_eq_some_iff.2 ⟨_, h.subject, ?_⟩
  refine Option.bind_eq_some_iff.2 ⟨_, h.subjectKey, ?_⟩
  refine Option.bind_eq_some_iff.2 ⟨_, taken₁, ?_⟩
  refine Option.bind_eq_some_iff.2 ⟨_, first, ?_⟩
  refine Option.bind_eq_some_iff.2 ⟨_, taken₂, ?_⟩
  refine Option.bind_eq_some_iff.2 ⟨_, second, ?_⟩
  refine Option.bind_eq_some_iff.2 ⟨_, taken₃, ?_⟩
  refine Option.bind_eq_some_iff.2 ⟨_, third, ?_⟩
  refine Option.bind_eq_some_iff.2 ⟨_, h.outerAlgorithm, ?_⟩
  refine Option.bind_eq_some_iff.2 ⟨_, h.signature, ?_⟩
  exact congrArg (fun version => some { r with version }) same

/-- Reading a record is reading each field of its layout. -/
theorem ofTlv?_eq_some_iff :
    ofTlv? stray t = some r ↔ ∃ l, Layout.ofTlv? t = some l ∧ l.Reads stray r := by
  constructor
  · exact exists_reads_of_ofTlv?
  · rintro ⟨l, cut, h⟩
    exact ofTlv?_of_reads cut h

/-- The value of a version in its wrapping. -/
def versionItems (r : Record) : List Tlv :=
  if r.version = 0 then [] else [.wrapped 0 ⟨0x02, [UInt8.ofNat r.version]⟩]

theorem signedPart_eq (r : Record) : r.signedPart = .sequence (r.versionItems ++ (⟨0x02, r.serial⟩
    :: r.innerAlgorithm.toTlv :: r.issuer.toTlv :: .sequence [r.notBefore, r.notAfter]
    :: r.subject.toTlv :: r.subjectKey.toTlv
    :: Tail.toTlvs ⟨r.issuerUniqueId, r.subjectUniqueId, r.extensions⟩)) := by
  simp only [signedPart, versionItems, Tail.toTlvs, List.append_assoc, List.cons_append,
    List.nil_append]
  rfl

/-- The version is written as it was read unless the default was stated. -/
theorem versionItems_eq_or (h : l.Reads stray r) :
    (r.versionItems = l.version.toList ∧ l.version ≠ some (.wrapped 0 ⟨0x02, [0x00]⟩)) ∨
      (r.versionItems = [] ∧ l.version = some (.wrapped 0 ⟨0x02, [0x00]⟩)) := by
  obtain ⟨stated, known, same⟩ := Option.map_eq_some_iff.1 h.version
  cases version : l.version with
  | none =>
    rw [version] at known
    cases known
    exact .inl ⟨if_pos same.symm, fun other => nomatch other⟩
  | some v =>
    rw [version] at known
    obtain ⟨n, read, rfl⟩ := Option.map_eq_some_iff.1 known
    obtain rfl : n = r.version := same
    have low : r.version ≤ 2 := by
      obtain ⟨_, -, number⟩ := Option.bind_eq_some_iff.1 read
      exact of_decide_eq_true (Option.filter_eq_some_iff.1 number).2
    obtain rfl := eq_wrapped_of_version? read
    by_cases first : r.version = 0
    · refine .inr ⟨if_pos first, ?_⟩
      rw [first]
      rfl
    · refine .inl ⟨if_neg first, fun stated => first ?_⟩
      have content : (⟨0x02, [UInt8.ofNat r.version]⟩ : Tlv).encode = Tlv.encode ⟨0x02, [0x00]⟩ :=
        (Tlv.mk.inj (Option.some.inj stated)).2
      have byte : UInt8.ofNat r.version = 0x00 :=
        (List.cons.inj (List.cons.inj (List.cons.inj content).2).2).1
      have value := congrArg UInt8.toNat byte
      rw [UInt8.toNat_ofNat'] at value
      exact (Nat.mod_eq_of_lt (by omega)).symm.trans value

/-- What follows the version is written as it was read just if names and contexts allow it. -/
theorem fields_eq_iff (h : l.Reads .passedOver r) (readable : ∀ t ∈ l.fields, t.Readable) :
    ⟨0x02, r.serial⟩ :: r.innerAlgorithm.toTlv :: r.issuer.toTlv
        :: .sequence [r.notBefore, r.notAfter] :: r.subject.toTlv :: r.subjectKey.toTlv
        :: Tail.toTlvs ⟨r.issuerUniqueId, r.subjectUniqueId, r.extensions⟩ = l.fields ↔
      HasOrderedSets l.issuer ∧ HasOrderedSets l.subject ∧ Ascends 0 l.tail ∧
        ∀ t ∈ l.tail, ¬ HoldsStatedFalse t := by
  have serial : ⟨0x02, r.serial⟩ = l.serial := by
    obtain ⟨integer, -⟩ := Option.filter_eq_some_iff.1 h.serial
    exact (Tlv.contentOf?_eq_some_iff.1 (Option.filter_eq_some_iff.1 integer).1).symm
  have issuer := Name.toTlv_eq_iff (readable l.issuer (by simp [Layout.fields])) h.issuer
  have subject := Name.toTlv_eq_iff (readable l.subject (by simp [Layout.fields])) h.subject
  rw [Layout.fields, serial, AlgorithmIdentifier.toTlv_of_ofTlv? h.innerAlgorithm,
    eq_sequence_of_validity? h.validity, SubjectKey.toTlv_of_ofTlv? h.subjectKey]
  simp only [List.cons.injEq, true_and, issuer, subject, Tail.toTlvs_eq_iff h.tail]

/-- **A certificate is written as it was read just if its layout is canonical.** -/
theorem toTlv_eq_iff (readable : t.Readable) (cut : Layout.ofTlv? t = some l)
    (h : l.Reads .passedOver r) : r.toTlv = t ↔ l.IsCanonical := by
  obtain ⟨signed, outer, inner, -⟩ := Layout.sequence?_of_ofTlv? cut
  have signedReadable : signed.Readable :=
    (Tlv.sequence?_eq_some_iff.1 outer).1 signed List.mem_cons_self
  have each := (Tlv.sequence?_eq_some_iff.1 inner).1
  have fields := fields_eq_iff h fun t mem => each t (List.mem_append_right _ mem)
  have whole : r.toTlv = t ↔ r.signedPart = signed := by
    rw [toTlv, Tlv.sequence_eq_iff readable outer,
      AlgorithmIdentifier.toTlv_of_ofTlv? h.outerAlgorithm,
      BitString.toTlv_of_ofTlv? h.signature, List.cons.injEq, eq_self, and_true]
  rw [whole, signedPart_eq, Tlv.sequence_eq_iff signedReadable inner]
  rcases versionItems_eq_or h with ⟨same, unstated⟩ | ⟨none, stated⟩
  · rw [same, List.append_cancel_left_eq, fields, Layout.isCanonical_iff]
    exact (and_iff_right unstated).symm
  · -- Without the version the serial number comes first, and its tag is another.
    have other : (0x02 : UInt8) ≠ Der.contextTag 0 := by decide
    rw [none, stated]
    exact iff_of_false (fun same => other (congrArg Tlv.tag (List.cons.inj same).1))
      fun h => h.version stated

end Record
end X509
end SecurityTokens
