/-
# What is written again reads back

A record that is written again may have other bytes than those it was read from, but they read
back as the same record.  Each part that differs is of one of these kinds:

| part | written again | bytes |
| --- | --- | --- |
| version | not at all, if it is the default | fewer |
| set in a name | in order | as many |
| fields in contexts | without those out of place | no more |
| extension | without a stated `FALSE` | fewer |

No part takes more bytes than before, and a shorter content has a length that is no longer
(`length_encodeLength_mono`), so what is written again stays within the bound on what is read.
A reader with its writer has both properties at once (`Rewrites`), from the fields of a name up
to the record (`Record.rewrites`).
-/

import SecurityTokens.Proofs.Fitting
import SecurityTokens.Proofs.Layout

namespace SecurityTokens

/-! ## Fields in their places -/

namespace Der

variable {number : UInt8} {field : Option Tlv} {rest : List Tlv}

/-- A field in its place is taken, and nothing is passed over. -/
theorem takeContext_append (stray : Stray) (named : ∀ t ∈ field, t.contextNumber? = some number)
    (after : ∀ t ∈ rest.head?, ∀ k ∈ t.contextNumber?, number < k) :
    takeContext stray number (field.toList ++ rest) = some (field, rest) := by
  have inPlace {t : Tlv} (least : ∀ k ∈ t.contextNumber?, ¬ k < number) :
      ¬ t.contextNumber?.any (· < number) = true := by
    intro stray
    obtain ⟨k, known, lower⟩ := (Option.any_eq_true _ _).1 stray
    exact least k known (of_decide_eq_true lower)
  cases field with
  | some t =>
    have name := named t rfl
    have least : ∀ k ∈ t.contextNumber?, ¬ k < number := by
      intro k known
      obtain rfl := Option.some.inj (name.symm.trans known)
      exact Std.lt_irrefl
    exact (takeContext_of_not_stray (inPlace least)).trans (if_pos name)
  | none =>
    cases rest with
    | nil => cases stray <;> rfl
    | cons t rest =>
      have above := after t rfl
      have least : ∀ k ∈ t.contextNumber?, ¬ k < number :=
        fun k known lower => Std.lt_irrefl (Std.lt_trans lower (above k known))
      have other : ¬ t.contextNumber? = some number :=
        fun name => Std.lt_irrefl (above number name)
      exact (takeContext_of_not_stray (inPlace least)).trans (if_neg other)

end Der

namespace X509

open Der (Tlv BitString Stray)
open Der.Tlv (RowFitsIn)

/-- A field that may be missing is in its context if it is read there. -/
theorem named_of_optional? {α : Type} {read : Tlv → Option α} {number : UInt8}
    {field : Option Tlv} {value : Option α} (known : optional? read field = some value)
    (each : ∀ t a, read t = some a → t.contextNumber? = some number) :
    ∀ t ∈ field, t.contextNumber? = some number := by
  rintro t rfl
  obtain ⟨a, inner, -⟩ := Option.map_eq_some_iff.1 known
  exact each t a inner

/-! ## Fields in contexts -/

theorem rewrites_wrapExtensions : Rewrites extensions? wrapExtensions :=
  Extension.rewrites.sequence.wrapped 3

namespace Tail

variable {stray : Stray} {items : List Tlv} {tail : Tail} {f₁ f₂ f₃ : Option Tlv}

/-- Fields in their places are read. -/
theorem ofItems?_of_optional (first : optional? (contextBits? 1) f₁ = some tail.issuerUniqueId)
    (second : optional? (contextBits? 2) f₂ = some tail.subjectUniqueId)
    (third : optional? extensions? f₃ = some tail.extensions) :
    ofItems? stray (f₁.toList ++ (f₂.toList ++ f₃.toList)) = some tail := by
  have named₁ : ∀ t ∈ f₁, t.contextNumber? = some 1 :=
    named_of_optional? first fun t b => contextNumber?_of_contextBits? (by decide)
  have named₂ : ∀ t ∈ f₂, t.contextNumber? = some 2 :=
    named_of_optional? second fun t b => contextNumber?_of_contextBits? (by decide)
  have named₃ : ∀ t ∈ f₃, t.contextNumber? = some 3 := by
    refine named_of_optional? third fun t es read => ?_
    obtain ⟨t', unwrapped, -⟩ := Option.bind_eq_some_iff.1 read
    exact contextNumber?_of_unwrap? (by decide) unwrapped
  have behind₂ : ∀ t ∈ f₃.toList.head?, ∀ k ∈ t.contextNumber?, 2 < k := by
    intro t head k known
    have held := Option.mem_toList.1 (List.mem_of_head? head)
    obtain rfl := Option.some.inj ((named₃ t held).symm.trans known)
    decide
  have behind₁ : ∀ t ∈ (f₂.toList ++ f₃.toList).head?, ∀ k ∈ t.contextNumber?, 1 < k := by
    intro t head k known
    rcases List.mem_append.1 (List.mem_of_head? head) with held | held
    · obtain rfl := Option.some.inj ((named₂ t (Option.mem_toList.1 held)).symm.trans known)
      decide
    · obtain rfl := Option.some.inj ((named₃ t (Option.mem_toList.1 held)).symm.trans known)
      decide
  have behind₃ : ∀ t ∈ ([] : List Tlv).head?, ∀ k ∈ t.contextNumber?, 3 < k :=
    fun t head => nomatch head
  have taken₃ := Der.takeContext_append stray named₃ behind₃
  rw [List.append_nil] at taken₃
  exact ofItems?_eq_some_iff_exists.2 ⟨f₁, _, f₂, _, f₃, Der.takeContext_append stray named₁ behind₁,
    first, Der.takeContext_append stray named₂ behind₂, second, taken₃, third⟩

/-- Fields out of place are left out, and so is a stated `FALSE`. -/
theorem rewrites (readable : ∀ t ∈ items, t.Readable)
    (read : ofItems? .passedOver items = some tail) :
    RowFitsIn tail.toTlvs items ∧ ofItems? .passedOver tail.toTlvs = some tail := by
  obtain ⟨s₁, f₁, r₁, h₁⟩ := Der.exists_taken 1 items
  obtain ⟨s₂, f₂, r₂, h₂⟩ := Der.exists_taken 2 r₁
  obtain ⟨s₃, f₃, r₃, h₃⟩ := Der.exists_taken 3 r₂
  obtain ⟨-, first, second, third, rfl⟩ := (ofItems?_eq_some_iff h₁ h₂ h₃).1 read
  have cut : items = s₁ ++ (f₁.toList ++ (s₂ ++ (f₂.toList ++ (s₃ ++ f₃.toList)))) := by
    rw [h₁.split, h₂.split, h₃.split, List.append_nil]
  have bits (number : UInt8) : Rewrites (contextBits? number)
      fun b => ⟨Der.primitiveContextTag number, b.content⟩ :=
    rewrites_of_eq fun _ _ => eq_of_contextBits?
  simp only [cut, List.forall_mem_append, Option.mem_toList] at readable
  obtain ⟨-, readable₁, -, readable₂, -, readable₃⟩ := readable
  obtain ⟨fits₁, again₁⟩ := (bits 1).optional readable₁ first
  obtain ⟨fits₂, again₂⟩ := (bits 2).optional readable₂ second
  obtain ⟨fits₃, again₃⟩ := rewrites_wrapExtensions.optional readable₃ third
  rw [toTlvs, List.append_assoc]
  constructor
  · rw [cut]
    exact (fits₁.append ((fits₂.append (fits₃.behind s₃)).behind s₂)).behind s₁
  · exact ofItems?_of_optional again₁ again₂ again₃

end Tail

/-! ## Records -/

/-- A layout as a value. -/
def Layout.toTlv (l : Layout) : Tlv :=
  .sequence [.sequence (l.version.toList ++ l.fields), l.outerAlgorithm, l.signature]

/-- A layout is cut out of its value, if the version is in its place. -/
theorem Layout.ofTlv?_toTlv {l : Layout} (named : ∀ t ∈ l.version, t.contextNumber? = some 0)
    (serial : l.serial.contextNumber? = none)
    (inner : ∀ t ∈ l.version.toList ++ l.fields, t.Readable)
    (outer : ∀ t ∈ [.sequence (l.version.toList ++ l.fields), l.outerAlgorithm, l.signature],
      t.Readable) : ofTlv? l.toTlv = some l := by
  have behind : ∀ t ∈ l.fields.head?, ∀ k ∈ t.contextNumber?, 0 < k := by
    intro t head k known
    obtain rfl := Option.some.inj head
    rw [serial] at known
    cases known
  refine Option.bind_eq_some_iff.2 ⟨_, Tlv.sequence?_sequence outer, ?_⟩
  refine Option.bind_eq_some_iff.2 ⟨_, Tlv.sequence?_sequence inner, ?_⟩
  exact Option.bind_eq_some_iff.2 ⟨_, Der.takeContext_append .passedOver named behind, rfl⟩

namespace Record

variable {l : Layout} {r : Record} {stray : Stray}

/-- The layout that a record is written in. -/
def layout (r : Record) : Layout where
  version := r.versionItems.head?
  serial := ⟨0x02, r.serial⟩
  innerAlgorithm := r.innerAlgorithm.toTlv
  issuer := r.issuer.toTlv
  validity := .sequence [r.notBefore, r.notAfter]
  subject := r.subject.toTlv
  subjectKey := r.subjectKey.toTlv
  tail := Tail.toTlvs ⟨r.issuerUniqueId, r.subjectUniqueId, r.extensions⟩
  outerAlgorithm := r.outerAlgorithm.toTlv
  signature := r.signature.toTlv

theorem toList_version_layout (r : Record) : r.layout.version.toList = r.versionItems := by
  show r.versionItems.head?.toList = _
  rw [versionItems]
  split <;> rfl

theorem toTlv_layout (r : Record) : r.layout.toTlv = r.toTlv := by
  rw [Layout.toTlv, toList_version_layout, toTlv, signedPart_eq]
  rfl

/-- The version is left out if it is the default. -/
theorem version_layout (h : l.Reads stray r) (readable : ∀ t ∈ l.version, t.Readable) :
    RowFitsIn r.layout.version.toList l.version.toList ∧
      (optional? version? r.layout.version).map (·.getD 0) = some r.version ∧
      ∀ t ∈ r.layout.version, t.contextNumber? = some 0 := by
  obtain ⟨same, -⟩ | ⟨none, stated⟩ := versionItems_eq_or h
  · have version : r.layout.version = l.version := by
      show r.versionItems.head? = _
      rw [same, Option.head?_toList]
    rw [version]
    obtain ⟨_, known, -⟩ := Option.map_eq_some_iff.1 h.version
    refine ⟨Der.Tlv.rowFitsIn_self fun t mem => readable t (Option.mem_toList.1 mem), h.version, ?_⟩
    refine named_of_optional? known fun t n read => ?_
    obtain ⟨t', unwrapped, -⟩ := Option.bind_eq_some_iff.1 read
    exact contextNumber?_of_unwrap? (by decide) unwrapped
  · have version : r.layout.version = Option.none := by
      show r.versionItems.head? = _
      rw [none]
      rfl
    have default : r.version = 0 := by
      rw [versionItems] at none
      split at none
      next zero => exact zero
      next => cases none
    rw [version, default]
    exact ⟨Der.Tlv.rowFitsIn_nil _, rfl, fun t held => absurd held (Option.not_mem_none t)⟩

/-- The layout that a record is written in has its fields, and they fit in those that the
record was read from. -/
theorem reads_layout (h : l.Reads .passedOver r) (readable : ∀ t ∈ l.fields, t.Readable)
    (stated : ∀ t ∈ l.version, t.Readable) :
    r.layout.Reads .passedOver r ∧ RowFitsIn r.layout.fields l.fields := by
  have serial : (⟨0x02, r.serial⟩ : Tlv) = l.serial := by
    obtain ⟨integer, -⟩ := Option.filter_eq_some_iff.1 h.serial
    exact (Tlv.contentOf?_eq_some_iff.1 (Option.filter_eq_some_iff.1 integer).1).symm
  have innerAlgorithm := AlgorithmIdentifier.toTlv_of_ofTlv? h.innerAlgorithm
  have validity := eq_sequence_of_validity? h.validity
  have subjectKey := SubjectKey.toTlv_of_ofTlv? h.subjectKey
  simp only [Layout.fields, List.forall_mem_cons] at readable
  obtain ⟨serial', innerAlgorithm', issuer', validity', subject', subjectKey', tail'⟩ := readable
  obtain ⟨issuerFits, issuer⟩ := Name.rewrites _ _ issuer' h.issuer
  obtain ⟨subjectFits, subject⟩ := Name.rewrites _ _ subject' h.subject
  obtain ⟨tailFits, tail⟩ := Tail.rewrites tail' h.tail
  constructor
  · exact {
      version := (version_layout h stated).2.1
      serial := by
        rw [← h.serial, ← serial]
        rfl
      innerAlgorithm := (congrArg AlgorithmIdentifier.ofTlv? innerAlgorithm).trans h.innerAlgorithm
      issuer, subject, tail
      validity := (congrArg validity? validity).trans h.validity
      subjectKey := (congrArg SubjectKey.ofTlv? subjectKey).trans h.subjectKey
      outerAlgorithm := (congrArg AlgorithmIdentifier.ofTlv?
        (AlgorithmIdentifier.toTlv_of_ofTlv? h.outerAlgorithm)).trans h.outerAlgorithm
      signature := (congrArg BitString.ofTlv? (BitString.toTlv_of_ofTlv? h.signature)).trans
        h.signature }
  · rw [Layout.fields, Layout.fields]
    simp only [layout, serial, innerAlgorithm, validity, subjectKey]
    exact serial'.fitsIn_self.cons <| innerAlgorithm'.fitsIn_self.cons <| issuerFits.cons <|
      validity'.fitsIn_self.cons <| subjectFits.cons <| subjectKey'.fitsIn_self.cons tailFits

/-- **A record that is written reads back**, and takes no more bytes than before. -/
theorem rewrites : Rewrites (ofTlv? .passedOver) toTlv := by
  intro t r readable read
  obtain ⟨l, cut, h⟩ := ofTlv?_eq_some_iff.1 read
  obtain ⟨signed, outer, inner, -⟩ := Layout.sequence?_of_ofTlv? cut
  obtain ⟨eachOuter, rfl⟩ := Tlv.sequence?_eq_some_iff.1 outer
  obtain ⟨each, rfl⟩ := Tlv.sequence?_eq_some_iff.1 inner
  simp only [List.forall_mem_append, Option.mem_toList] at each
  simp only [List.forall_mem_cons] at eachOuter
  obtain ⟨signed, algorithm, signature, -⟩ := eachOuter
  obtain ⟨stated, fields⟩ := each
  obtain ⟨reads, fieldsFit⟩ := reads_layout h fields stated
  obtain ⟨versionFits, -, named⟩ := version_layout h stated
  have row := versionFits.append fieldsFit
  have whole : RowFitsIn
      [.sequence (r.layout.version.toList ++ r.layout.fields), r.layout.outerAlgorithm,
        r.layout.signature]
      [.sequence (l.version.toList ++ l.fields), l.outerAlgorithm, l.signature] := by
    have algorithmFits : r.layout.outerAlgorithm.FitsIn l.outerAlgorithm := by
      rw [← AlgorithmIdentifier.toTlv_of_ofTlv? h.outerAlgorithm] at algorithm ⊢
      exact algorithm.fitsIn_self
    have signatureFits : r.layout.signature.FitsIn l.signature := by
      rw [← BitString.toTlv_of_ofTlv? h.signature] at signature ⊢
      exact signature.fitsIn_self
    exact (row.sequence signed).cons <| algorithmFits.cons <| signatureFits.cons <|
      Der.Tlv.rowFitsIn_nil []
  rw [← toTlv_layout]
  refine ⟨whole.sequence readable, ofTlv?_of_reads ?_ reads⟩
  have noContext : ¬ Der.isContextTag 0x02 = true := by decide
  exact Layout.ofTlv?_toTlv named (if_neg noContext) row.readable whole.readable

end Record

end X509
end SecurityTokens
