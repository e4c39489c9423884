/-
# Values that fit in the place of others

A value may be written again otherwise than it was read.  It fits in if it can be read, and
takes no more bytes than before; a shorter content has a length that is no longer
(`length_encodeLength_mono`), so values that are made of such values fit in as well.

A reader with its writer is asked for two things at once: what is written fits in, and is read
alike (`Rewrites`).  Fields that are written in one way only have both for nothing.  The others
get them from their parts:

| made of parts | by |
| --- | --- |
| values in a row | `Rewrites.mapM` |
| a sequence | `Rewrites.sequence` |
| a wrapping | `Rewrites.wrapped` |
| a field that may be missing | `Rewrites.optional` |

Names and extensions are the fields that have another way to be written.
-/

import SecurityTokens.Proofs.Canonical

namespace SecurityTokens

/-! ## Lengths -/

theorem Bytes.length_ofNat_mono {m n : Nat} (le : m ≤ n) :
    (ofNat m).length ≤ (ofNat n).length := by
  induction n using Nat.strongRecOn generalizing m with
  | ind n ih =>
    by_cases zero : m = 0
    · subst zero
      rw [ofNat]
      exact Nat.zero_le _
    · have positive : n ≠ 0 := by omega
      have rest : (ofNat (m / 256)).length ≤ (ofNat (n / 256)).length :=
        ih (n / 256) (Nat.div_lt_self (Nat.pos_of_ne_zero positive) (by decide))
          (Nat.div_le_div_right le)
      rw [length_ofNat zero, length_ofNat positive]
      exact Nat.succ_le_succ rest

namespace Der

/-- A greater length is not written in fewer bytes. -/
theorem length_encodeLength_mono {m n : Nat} (le : m ≤ n) :
    (encodeLength m).length ≤ (encodeLength n).length := by
  have more := Bytes.length_ofNat_mono le
  unfold encodeLength
  split
  next => split <;> simp
  next large =>
    rw [if_neg (by omega)]
    simpa using more

namespace Tlv

variable {t t' : Tlv} {items items' others others' : List Tlv}

/-- A value can be read, and takes no more bytes than another one. -/
structure FitsIn (t t' : Tlv) : Prop where
  readable : t.Readable
  length_le : t.encode.length ≤ t'.encode.length

theorem Readable.fitsIn_self (readable : t.Readable) : t.FitsIn t := ⟨readable, Nat.le_refl _⟩

/-- A value with the same tag and no more content fits in. -/
theorem Readable.fitsIn (readable : t'.Readable) {content : Bytes}
    (shorter : content.length ≤ t'.content.length) : FitsIn ⟨t'.tag, content⟩ t' := by
  refine ⟨⟨readable.known, Nat.lt_of_le_of_lt shorter readable.short⟩, ?_⟩
  have length := length_encodeLength_mono shorter
  simp only [encode, List.length_append, List.length_cons]
  omega

/-- The same for values in a row, of which there may be fewer. -/
structure RowFitsIn (items items' : List Tlv) : Prop where
  readable : ∀ t ∈ items, t.Readable
  length_le : (encodeAll items).length ≤ (encodeAll items').length

theorem rowFitsIn_nil (items' : List Tlv) : RowFitsIn [] items' :=
  ⟨fun _ mem => absurd mem List.not_mem_nil, Nat.zero_le _⟩

theorem FitsIn.cons (first : t.FitsIn t') (rest : RowFitsIn items items') :
    RowFitsIn (t :: items) (t' :: items') := by
  refine ⟨List.forall_mem_cons.2 ⟨first.readable, rest.readable⟩, ?_⟩
  rw [encodeAll_cons, encodeAll_cons, List.length_append, List.length_append]
  exact Nat.add_le_add first.length_le rest.length_le

theorem rowFitsIn_self (readable : ∀ t ∈ items, t.Readable) : RowFitsIn items items :=
  ⟨readable, Nat.le_refl _⟩

theorem RowFitsIn.append (first : RowFitsIn items items') (rest : RowFitsIn others others') :
    RowFitsIn (items ++ others) (items' ++ others') := by
  constructor
  · intro t mem
    rcases List.mem_append.1 mem with held | held
    · exact first.readable t held
    · exact rest.readable t held
  · simp only [encodeAll, List.flatMap_append, List.length_append]
    exact Nat.add_le_add first.length_le rest.length_le

/-- Values in front may be left out. -/
theorem RowFitsIn.behind (fits : RowFitsIn items items') (others : List Tlv) :
    RowFitsIn items (others ++ items') :=
  (rowFitsIn_nil others).append fits

theorem RowFitsIn.sequence (fits : RowFitsIn items items')
    (readable : (Tlv.sequence items').Readable) : (Tlv.sequence items).FitsIn (.sequence items') :=
  readable.fitsIn fits.length_le

/-- The parts of what is written as a sequence. -/
theorem sequence?_sequence (readable : ∀ t ∈ items, t.Readable) :
    (Tlv.sequence items).sequence? = some items :=
  sequence?_eq_some_iff.2 ⟨readable, rfl⟩

end Tlv

theorem length_encode_le_of_mem {t : Tlv} {items : List Tlv} (mem : t ∈ items) :
    t.encode.length ≤ (encodeAll items).length := by
  obtain ⟨before, after, rfl⟩ := List.append_of_mem mem
  simp only [encodeAll, List.flatMap_append, List.flatMap_cons, List.length_append]
  omega

end Der

namespace X509

open Der (Tlv)
open Der.Tlv (FitsIn RowFitsIn)

/-! ## Readers with their writers -/

section

variable {α : Type} {read : Tlv → Option α} {write : α → Tlv} {items : List Tlv} {as : List α}

/-- What is read is written as a value that fits in and is read alike. -/
def Rewrites (read : Tlv → Option α) (write : α → Tlv) : Prop :=
  ∀ t a, t.Readable → read t = some a → (write a).FitsIn t ∧ read (write a) = some a

/-- A field that is written in one way only. -/
theorem rewrites_of_eq (same : ∀ t a, read t = some a → write a = t) : Rewrites read write := by
  intro t a readable known
  rw [same t a known]
  exact ⟨readable.fitsIn_self, known⟩

theorem mapM_map_eq_some_iff :
    (as.map write).mapM read = some as ↔ ∀ a ∈ as, read (write a) = some a := by
  induction as with
  | nil => exact iff_of_true rfl fun a mem => absurd mem List.not_mem_nil
  | cons a as ih =>
    rw [List.forall_mem_cons, ← ih, List.map_cons, List.mapM_cons]
    constructor
    · intro all
      obtain ⟨a', first, all⟩ := Option.bind_eq_some_iff.1 all
      obtain ⟨as', others, all⟩ := Option.bind_eq_some_iff.1 all
      obtain ⟨rfl, rfl⟩ := List.cons.inj (Option.some.inj all)
      exact ⟨first, others⟩
    · rintro ⟨first, others⟩
      rw [first, others]
      rfl

theorem Rewrites.mapM (rewrites : Rewrites read write) (readable : ∀ t ∈ items, t.Readable)
    (all : items.mapM read = some as) :
    RowFitsIn (as.map write) items ∧ (as.map write).mapM read = some as := by
  induction items generalizing as with
  | nil =>
    cases all
    exact ⟨Der.Tlv.rowFitsIn_nil _, rfl⟩
  | cons t items ih =>
    rw [List.mapM_cons] at all
    obtain ⟨a, first, all⟩ := Option.bind_eq_some_iff.1 all
    obtain ⟨as, others, all⟩ := Option.bind_eq_some_iff.1 all
    cases all
    rw [List.forall_mem_cons] at readable
    obtain ⟨fits, again⟩ := rewrites t a readable.1 first
    obtain ⟨fitsRest, againRest⟩ := ih readable.2 others
    refine ⟨fits.cons fitsRest, ?_⟩
    rw [List.map_cons, List.mapM_cons, again, againRest]
    rfl

/-- A sequence of values of one kind. -/
theorem Rewrites.sequence (rewrites : Rewrites read write) :
    Rewrites (fun t => t.sequence?.bind fun items => items.mapM read)
      fun as => .sequence (as.map write) := by
  intro t as readable known
  obtain ⟨items, parts, all⟩ := Option.bind_eq_some_iff.1 known
  obtain ⟨each, rfl⟩ := Tlv.sequence?_eq_some_iff.1 parts
  obtain ⟨fits, again⟩ := rewrites.mapM each all
  refine ⟨fits.sequence readable, Option.bind_eq_some_iff.2 ⟨_, ?_, again⟩⟩
  exact Tlv.sequence?_sequence fits.readable

/-- A value in its wrapping. -/
theorem Rewrites.wrapped (rewrites : Rewrites read write) (number : UInt8) :
    Rewrites (fun t => (unwrap? number t).bind read) fun a => .wrapped number (write a) := by
  intro t a readable known
  obtain ⟨t', unwrapped, inner⟩ := Option.bind_eq_some_iff.1 known
  obtain ⟨readable', rfl, short⟩ := unwrap?_eq_some_iff.1 unwrapped
  obtain ⟨fits, again⟩ := rewrites t' a readable' inner
  refine ⟨readable.fitsIn fits.length_le, Option.bind_eq_some_iff.2 ⟨_, ?_, again⟩⟩
  exact unwrap?_eq_some_iff.2 ⟨fits.readable, rfl, Nat.lt_of_le_of_lt fits.length_le short⟩

/-- A field that may be missing. -/
theorem Rewrites.optional (rewrites : Rewrites read write) {field : Option Tlv}
    {value : Option α} (readable : ∀ t ∈ field, t.Readable) (known : optional? read field = some value) :
    RowFitsIn (value.map write).toList field.toList ∧
      optional? read (value.map write) = some value := by
  cases field with
  | none =>
    cases known
    exact ⟨Der.Tlv.rowFitsIn_nil [], rfl⟩
  | some t =>
    obtain ⟨a, inner, rfl⟩ := Option.map_eq_some_iff.1 known
    obtain ⟨fits, again⟩ := rewrites t a (readable t rfl) inner
    exact ⟨fits.cons (Der.Tlv.rowFitsIn_nil []), Option.map_eq_some_iff.2 ⟨a, again, rfl⟩⟩

end

/-! ## Names -/

theorem perm_of_insertOrdered? {a : NameAttribute} {r r' : RelativeName}
    (inserted : insertOrdered? a r = some r') : r'.Perm (a :: r) := by
  induction r generalizing r' with
  | nil =>
    cases inserted
    exact .refl _
  | cons b r ih =>
    rw [insertOrdered?] at inserted
    split at inserted
    next =>
      cases inserted
      exact .refl _
    next =>
      split at inserted
      next => cases inserted
      next =>
        obtain ⟨rest, following, rfl⟩ := Option.map_eq_some_iff.1 inserted
        exact ((ih following).cons b).trans (.swap a b r)

namespace RelativeName

theorem perm_of_ofAttributes? {attributes : List NameAttribute} {r : RelativeName}
    (read : ofAttributes? attributes = some r) : r.Perm attributes := by
  have run (attributes : List NameAttribute) : ∀ before r : RelativeName,
      attributes.foldlM (fun set a => insertOrdered? a set) before = some r →
      r.Perm (before ++ attributes) := by
    induction attributes with
    | nil =>
      intro before r read
      cases read
      rw [List.append_nil]
    | cons a attributes ih =>
      intro before r read
      rw [List.foldlM_cons] at read
      obtain ⟨next, inserted, read⟩ := Option.bind_eq_some_iff.1 read
      have moved : (a :: before ++ attributes).Perm (before ++ a :: attributes) :=
        List.perm_middle.symm
      exact ((ih next r read).trans ((perm_of_insertOrdered? inserted).append_right _)).trans moved
  exact run attributes [] r read

/-- A set is written in order, with the same members. -/
theorem rewrites : Rewrites ofTlv? toTlv := by
  intro t r readable read
  obtain ⟨members, parts, read⟩ := Option.bind_eq_some_iff.1 read
  obtain ⟨attributes, all, inserted⟩ := Option.bind_eq_some_iff.1 read
  obtain ⟨each, written⟩ := Tlv.parts?_eq_some_iff.1 parts
  have unchanged : Rewrites NameAttribute.ofTlv? NameAttribute.toTlv :=
    rewrites_of_eq fun t a => NameAttribute.toTlv_of_ofTlv?
  obtain ⟨fits, again⟩ := unchanged.mapM each all
  have same := perm_of_ofAttributes? inserted
  have sameRow : (r.map NameAttribute.toTlv).Perm (attributes.map NameAttribute.toTlv) := same.map _
  have length : (Der.encodeAll (r.map NameAttribute.toTlv)).length
      = (Der.encodeAll (attributes.map NameAttribute.toTlv)).length :=
    (sameRow.flatMap_right Tlv.encode).length_eq
  have readAgain : (r.map NameAttribute.toTlv).mapM NameAttribute.ofTlv? = some r :=
    mapM_map_eq_some_iff.2 fun a mem => mapM_map_eq_some_iff.1 again a (same.mem_iff.1 mem)
  have partsAgain : r.toTlv.parts? 0x31 = some (r.map NameAttribute.toTlv) :=
    Tlv.parts?_eq_some_iff.2 ⟨fun t mem => fits.readable t (sameRow.mem_iff.1 mem), rfl⟩
  constructor
  · rw [written] at readable ⊢
    exact readable.fitsIn (Nat.le_trans (Nat.le_of_eq length) fits.length_le)
  · refine Option.bind_eq_some_iff.2 ⟨_, partsAgain, ?_⟩
    refine Option.bind_eq_some_iff.2 ⟨_, readAgain, ?_⟩
    exact ofAttributes?_of_isOrdered (isOrdered_of_ofAttributes? inserted)

end RelativeName

theorem Name.rewrites : Rewrites ofTlv? toTlv := RelativeName.rewrites.sequence

/-! ## Extensions -/

/-- A stated `FALSE` is left out. -/
theorem Extension.rewrites : Rewrites ofTlv? toTlv := by
  intro t e readable read
  have again := read
  rw [ofTlv?] at read
  split at read
  next id value parts =>
    obtain ⟨o, known, read⟩ := Option.bind_eq_some_iff.1 read
    obtain ⟨content, held, read⟩ := Option.bind_eq_some_iff.1 read
    cases read
    obtain rfl := Der.ObjectId.toTlv_of_ofTlv? known
    obtain rfl := Tlv.contentOf?_eq_some_iff.1 held
    obtain ⟨-, rfl⟩ := Tlv.sequence?_eq_some_iff.1 parts
    exact ⟨readable.fitsIn_self, again⟩
  next id critical value parts =>
    obtain ⟨o, known, read⟩ := Option.bind_eq_some_iff.1 read
    obtain ⟨b, truth, read⟩ := Option.bind_eq_some_iff.1 read
    obtain ⟨content, held, read⟩ := Option.bind_eq_some_iff.1 read
    cases read
    obtain rfl := Der.ObjectId.toTlv_of_ofTlv? known
    obtain rfl := eq_of_boolean? truth
    obtain rfl := Tlv.contentOf?_eq_some_iff.1 held
    obtain ⟨each, rfl⟩ := Tlv.sequence?_eq_some_iff.1 parts
    simp only [List.forall_mem_cons] at each
    cases b with
    | true => exact ⟨readable.fitsIn_self, again⟩
    | false =>
      have value : RowFitsIn [⟨0x04, content⟩] [⟨0x04, content⟩] :=
        Der.Tlv.rowFitsIn_self (List.forall_mem_cons.2 each.2.2)
      have fits := each.1.fitsIn_self.cons (value.behind [⟨0x01, [0x00]⟩])
      refine ⟨fits.sequence readable, ?_⟩
      show ofTlv? (.sequence [o.toTlv, ⟨0x04, content⟩]) = _
      rw [ofTlv?, Tlv.sequence?_sequence fits.readable]
      exact Option.bind_eq_some_iff.2 ⟨o, known, rfl⟩
  next => cases read

end X509
end SecurityTokens
