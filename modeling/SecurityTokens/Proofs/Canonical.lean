/-
# Fields that are written as they were read

Most fields of a certificate can be written in one way only.  Four can be written in other ways as
well; reading takes these too, and what is written again is the first way.

| field | first way | other ways |
| --- | --- | --- |
| version | none for the default | the default, stated |
| set in a name | members in order | members in any order |
| fields in contexts | numbers ascend | others between them, which are passed over |
| extension | nothing unless critical | a stated `FALSE` |

Each other way has a predicate on values here, and each reader a lemma that says when its
result is written as the value that was read.
-/

import SecurityTokens.Proofs.Der
import SecurityTokens.X509.Record

namespace SecurityTokens

/-- Values that are read one by one are all written as they were if each of them is. -/
theorem map_eq_iff_of_mapM {α β : Type} {read : α → Option β} {write : β → α} {P : α → Prop}
    {as : List α} {bs : List β} (all : as.mapM read = some bs)
    (each : ∀ a ∈ as, ∀ b, read a = some b → (write b = a ↔ P a)) :
    bs.map write = as ↔ ∀ a ∈ as, P a := by
  induction as generalizing bs with
  | nil =>
    cases all
    exact iff_of_true rfl fun _ mem => (List.not_mem_nil mem).elim
  | cons a as ih =>
    rw [List.mapM_cons] at all
    obtain ⟨b, first, all⟩ := Option.bind_eq_some_iff.1 all
    obtain ⟨bs, others, all⟩ := Option.bind_eq_some_iff.1 all
    cases all
    rw [List.forall_mem_cons] at each
    rw [List.map_cons, List.cons.injEq, each.1 b first, ih others each.2, List.forall_mem_cons]

/-! ## Fields that are written in one way -/

namespace Der

variable {t : Tlv}

theorem ObjectId.toTlv_of_ofTlv? {o : ObjectId} (read : ofTlv? t = some o) : o.toTlv = t := by
  obtain ⟨content, held, arcs⟩ := Option.bind_eq_some_iff.1 read
  rw [ofContent?] at arcs
  split at arcs
  · cases arcs
    exact (Tlv.contentOf?_eq_some_iff.1 held).symm
  · cases arcs

theorem BitString.content_of_ofContent? {content : Bytes} {b : BitString}
    (read : ofContent? content = some b) : b.content = content := by
  cases content with
  | nil => cases read
  | cons unused bytes =>
    rw [ofContent?] at read
    split at read
    · cases read
      rfl
    · cases read

theorem BitString.toTlv_of_ofTlv? {b : BitString} (read : ofTlv? t = some b) : b.toTlv = t := by
  obtain ⟨content, held, bits⟩ := Option.bind_eq_some_iff.1 read
  rw [toTlv, content_of_ofContent? bits]
  exact (Tlv.contentOf?_eq_some_iff.1 held).symm

end Der

namespace X509

open Der (Tlv ObjectId BitString Stray)

variable {t : Tlv}

theorem AlgorithmIdentifier.toTlv_of_ofTlv? {a : AlgorithmIdentifier} (read : ofTlv? t = some a) :
    a.toTlv = t := by
  rw [ofTlv?] at read
  split at read
  next id parts =>
    obtain ⟨o, known, rfl⟩ := Option.map_eq_some_iff.1 read
    rw [(Tlv.sequence?_eq_some_iff.1 parts).2, ← ObjectId.toTlv_of_ofTlv? known]
    rfl
  next id parameters parts =>
    obtain ⟨o, known, rfl⟩ := Option.map_eq_some_iff.1 read
    rw [(Tlv.sequence?_eq_some_iff.1 parts).2, ← ObjectId.toTlv_of_ofTlv? known]
    rfl
  next => cases read

theorem SubjectKey.toTlv_of_ofTlv? {k : SubjectKey} (read : ofTlv? t = some k) : k.toTlv = t := by
  rw [ofTlv?] at read
  split at read
  next algorithm bits parts =>
    obtain ⟨a, known, read⟩ := Option.bind_eq_some_iff.1 read
    obtain ⟨b, held, read⟩ := Option.bind_eq_some_iff.1 read
    cases read
    rw [(Tlv.sequence?_eq_some_iff.1 parts).2, ← AlgorithmIdentifier.toTlv_of_ofTlv? known,
      ← BitString.toTlv_of_ofTlv? held]
    rfl
  next => cases read

theorem eq_of_time? {t' : Tlv} (read : time? t = some t') : t' = t := by
  rw [time?] at read
  split at read
  · exact (Option.some.inj read).symm
  · cases read

theorem eq_sequence_of_validity? {notBefore notAfter : Tlv}
    (read : validity? t = some (notBefore, notAfter)) : .sequence [notBefore, notAfter] = t := by
  rw [validity?] at read
  split at read
  next first last parts =>
    obtain ⟨a, first', read⟩ := Option.bind_eq_some_iff.1 read
    obtain ⟨b, last', read⟩ := Option.bind_eq_some_iff.1 read
    cases read
    rw [(Tlv.sequence?_eq_some_iff.1 parts).2, eq_of_time? first', eq_of_time? last']
  next => cases read

theorem NameAttribute.toTlv_of_ofTlv? {a : NameAttribute} (read : ofTlv? t = some a) :
    a.toTlv = t := by
  rw [ofTlv?] at read
  split at read
  next type value parts =>
    obtain ⟨o, known, rfl⟩ := Option.map_eq_some_iff.1 read
    rw [(Tlv.sequence?_eq_some_iff.1 parts).2, ← ObjectId.toTlv_of_ofTlv? known]
    rfl
  next => cases read

/-! ## Names -/

/-- Attributes in the order of their encodings. -/
def RelativeName.IsOrdered (r : RelativeName) : Prop :=
  r.Pairwise fun a b => a.toTlv.encode < b.toTlv.encode

/-- The members of a set are in the order of their encodings. -/
def IsOrderedSet (t : Tlv) : Prop :=
  ∀ members ∈ t.parts? 0x31, members.Pairwise fun a b => a.encode < b.encode

/-- Every set in a name is in order. -/
def HasOrderedSets (t : Tlv) : Prop := ∀ sets ∈ t.sequence?, ∀ set ∈ sets, IsOrderedSet set

instance : DecidablePred IsOrderedSet := fun t =>
  inferInstanceAs (Decidable (∀ members ∈ t.parts? 0x31,
    members.Pairwise fun a b => a.encode < b.encode))

instance : DecidablePred HasOrderedSets := fun t =>
  inferInstanceAs (Decidable (∀ sets ∈ t.sequence?, ∀ set ∈ sets, IsOrderedSet set))

variable {a : NameAttribute} {r r' : RelativeName} {attributes : List NameAttribute}

/-- The greatest attribute becomes the last one. -/
theorem insertOrdered?_of_greatest (greatest : ∀ b ∈ r, b.toTlv.encode < a.toTlv.encode) :
    insertOrdered? a r = some (r ++ [a]) := by
  induction r with
  | nil => rfl
  | cons b r ih =>
    rw [List.forall_mem_cons] at greatest
    have apart : a.toTlv.encode ≠ b.toTlv.encode := fun same => List.lt_irrefl _ (same ▸ greatest.1)
    have notLower : ¬ a.toTlv.encode < b.toTlv.encode :=
      fun lower => List.lt_irrefl _ (Std.lt_trans lower greatest.1)
    rw [insertOrdered?, if_neg notLower, if_neg apart, ih greatest.2]
    rfl

/-- Inserting an attribute keeps the order. -/
theorem isOrdered_of_insertOrdered? (inserted : insertOrdered? a r = some r')
    (ordered : RelativeName.IsOrdered r) :
    RelativeName.IsOrdered r' ∧ ∀ b ∈ r', b = a ∨ b ∈ r := by
  induction r generalizing r' with
  | nil =>
    cases inserted
    exact ⟨List.pairwise_singleton _ _, fun b mem => .inl (List.mem_singleton.1 mem)⟩
  | cons b r ih =>
    obtain ⟨least, ordered'⟩ := List.pairwise_cons.1 ordered
    rw [insertOrdered?] at inserted
    split at inserted
    next lower =>
      cases inserted
      refine ⟨List.pairwise_cons.2 ⟨?_, ordered⟩, fun c mem => List.mem_cons.1 mem⟩
      exact List.forall_mem_cons.2 ⟨lower, fun c mem => Std.lt_trans lower (least c mem)⟩
    next notLower =>
      split at inserted
      next => cases inserted
      next apart =>
        obtain ⟨rest, following, rfl⟩ := Option.map_eq_some_iff.1 inserted
        obtain ⟨orderedRest, members⟩ := ih following ordered'
        have higher : b.toTlv.encode < a.toTlv.encode :=
          Std.lt_of_le_of_ne (Std.not_lt.1 notLower) (Ne.symm apart)
        refine ⟨List.pairwise_cons.2 ⟨fun c mem => ?_, orderedRest⟩, fun c mem => ?_⟩
        · rcases members c mem with rfl | held
          · exact higher
          · exact least c held
        · rcases List.mem_cons.1 mem with rfl | held
          · exact .inr List.mem_cons_self
          · exact (members c held).imp_right (List.mem_cons_of_mem b)

namespace RelativeName

/-- The set is in order whatever the order of the attributes. -/
theorem isOrdered_of_ofAttributes? (read : ofAttributes? attributes = some r) : r.IsOrdered := by
  have run (attributes : List NameAttribute) : ∀ before r : RelativeName, before.IsOrdered →
      attributes.foldlM (fun set a => insertOrdered? a set) before = some r → r.IsOrdered := by
    induction attributes with
    | nil =>
      intro before r ordered read
      cases read
      exact ordered
    | cons a attributes ih =>
      intro before r ordered read
      rw [List.foldlM_cons] at read
      obtain ⟨next, inserted, read⟩ := Option.bind_eq_some_iff.1 read
      exact ih next r (isOrdered_of_insertOrdered? inserted ordered).1 read
  exact run attributes [] r List.Pairwise.nil read

/-- Attributes in order are the set that they give. -/
theorem ofAttributes?_of_isOrdered (ordered : IsOrdered attributes) :
    ofAttributes? attributes = some attributes := by
  have run (attributes : List NameAttribute) : ∀ before : RelativeName,
      IsOrdered (before ++ attributes) →
      attributes.foldlM (fun set a => insertOrdered? a set) before
        = some (before ++ attributes) := by
    induction attributes with
    | nil =>
      intro before _
      rw [List.append_nil]
      rfl
    | cons a attributes ih =>
      intro before ordered
      have greatest := fun b mem =>
        (List.pairwise_append.1 ordered).2.2 b mem a List.mem_cons_self
      rw [List.append_cons] at ordered ⊢
      rw [List.foldlM_cons, insertOrdered?_of_greatest greatest]
      exact ih _ ordered
  exact run attributes [] ordered

/-- A relative name is written as it was read just if its attributes were in order. -/
theorem toTlv_eq_iff (readable : t.Readable) (read : ofTlv? t = some r) :
    r.toTlv = t ↔ IsOrderedSet t := by
  obtain ⟨members, parts, read⟩ := Option.bind_eq_some_iff.1 read
  obtain ⟨attributes, all, inserted⟩ := Option.bind_eq_some_iff.1 read
  have written : attributes.map NameAttribute.toTlv = members :=
    (map_eq_iff_of_mapM all fun t _ a known =>
      iff_of_true (NameAttribute.toTlv_of_ofTlv? known) trivial).2 fun _ _ => trivial
  have ordered : IsOrderedSet t ↔ IsOrdered attributes := by
    rw [IsOrderedSet, parts, ← written]
    simp only [Option.mem_some_iff, forall_eq', IsOrdered, List.pairwise_map]
  rw [ordered]
  refine (Tlv.eq_iff_of_parts? readable parts).trans ⟨fun same => ?_, fun ordered => ?_⟩
  · have kept := isOrdered_of_ofAttributes? inserted
    rw [← written] at same
    rw [IsOrdered, ← List.pairwise_map (f := NameAttribute.toTlv)
      (R := fun a b : Tlv => a.encode < b.encode)] at kept ⊢
    rwa [← same]
  · rw [ofAttributes?_of_isOrdered ordered] at inserted
    cases inserted
    exact written

end RelativeName

/-- A name is written as it was read just if all its sets were in order. -/
theorem Name.toTlv_eq_iff {n : Name} (readable : t.Readable) (read : ofTlv? t = some n) :
    n.toTlv = t ↔ HasOrderedSets t := by
  obtain ⟨sets, parts, all⟩ := Option.bind_eq_some_iff.1 read
  have each := (Tlv.sequence?_eq_some_iff.1 parts).1
  rw [HasOrderedSets, parts]
  simp only [Option.mem_some_iff, forall_eq']
  exact (Tlv.sequence_eq_iff readable parts).trans <|
    map_eq_iff_of_mapM all fun set mem r known => RelativeName.toTlv_eq_iff (each set mem) known

/-! ## Extensions -/

/-- An extension states that it is not critical. -/
def StatesFalse (t : Tlv) : Prop := ∃ parts ∈ t.sequence?, (⟨0x01, [0x00]⟩ : Tlv) ∈ parts

/-- A field of extensions holds one that states it is not critical. -/
def HoldsStatedFalse (t : Tlv) : Prop :=
  ∃ items ∈ (unwrap? 3 t).bind Tlv.sequence?, ∃ item ∈ items, StatesFalse item

instance : DecidablePred StatesFalse := fun t =>
  inferInstanceAs (Decidable (∃ parts ∈ t.sequence?, (⟨0x01, [0x00]⟩ : Tlv) ∈ parts))

instance : DecidablePred HoldsStatedFalse := fun t =>
  inferInstanceAs (Decidable (∃ items ∈ (unwrap? 3 t).bind Tlv.sequence?,
    ∃ item ∈ items, StatesFalse item))

theorem unwrap?_eq_some_iff {number : UInt8} {t' : Tlv} : unwrap? number t = some t' ↔
    t'.Readable ∧ t = .wrapped number t' ∧ t'.encode.length < Der.lengthBound := by
  rw [unwrap?, Option.bind_eq_some_iff]
  constructor
  · rintro ⟨content, held, whole⟩
    obtain ⟨readable, rfl, short⟩ := Tlv.ofBytes?_eq_some_iff.1 whole
    exact ⟨readable, Tlv.contentOf?_eq_some_iff.1 held, short⟩
  · rintro ⟨readable, rfl, short⟩
    exact ⟨_, Tlv.contentOf?_eq_some_iff.2 rfl, Tlv.ofBytes?_eq_some_iff.2 ⟨readable, rfl, short⟩⟩

theorem eq_of_boolean? {b : Bool} (read : Der.boolean? t = some b) :
    t = ⟨0x01, [if b then 0xFF else 0x00]⟩ := by
  unfold Der.boolean? at read
  split at read
  · cases read
    rfl
  · cases read
    rfl
  · cases read

/-- An extension is written as it was read unless it stated that it is not critical. -/
theorem Extension.toTlv_eq_iff {e : Extension} (readable : t.Readable)
    (read : ofTlv? t = some e) : e.toTlv = t ↔ ¬ StatesFalse t := by
  have states {items : List Tlv} (parts : t.sequence? = some items) :
      StatesFalse t ↔ (⟨0x01, [0x00]⟩ : Tlv) ∈ items := by
    rw [StatesFalse, parts]
    simp only [Option.mem_some_iff, exists_eq_left']
  rw [ofTlv?] at read
  split at read
  next id value parts =>
    obtain ⟨o, known, read⟩ := Option.bind_eq_some_iff.1 read
    obtain ⟨content, held, read⟩ := Option.bind_eq_some_iff.1 read
    cases read
    obtain rfl := ObjectId.toTlv_of_ofTlv? known
    obtain rfl := Tlv.contentOf?_eq_some_iff.1 held
    rw [states parts]
    refine iff_of_true ((Tlv.sequence_eq_iff readable parts).2 rfl) ?_
    simp [ObjectId.toTlv]
  next id critical value parts =>
    obtain ⟨o, known, read⟩ := Option.bind_eq_some_iff.1 read
    obtain ⟨b, truth, read⟩ := Option.bind_eq_some_iff.1 read
    obtain ⟨content, held, read⟩ := Option.bind_eq_some_iff.1 read
    cases read
    obtain rfl := ObjectId.toTlv_of_ofTlv? known
    obtain rfl := eq_of_boolean? truth
    obtain rfl := Tlv.contentOf?_eq_some_iff.1 held
    rw [states parts]
    refine (Tlv.sequence_eq_iff readable parts).trans ?_
    cases b with
    | true => simp [ObjectId.toTlv]
    | false => simp
  next => cases read

/-- A field of extensions is written as it was read unless one of them stated that it is not
critical. -/
theorem wrapped_extensions_eq_iff {es : List Extension} (read : extensions? t = some es) :
    Tlv.wrapped 3 (.sequence (es.map Extension.toTlv)) = t ↔ ¬ HoldsStatedFalse t := by
  obtain ⟨t', unwrapped, read⟩ := Option.bind_eq_some_iff.1 read
  obtain ⟨items, parts, all⟩ := Option.bind_eq_some_iff.1 read
  obtain ⟨readable, rfl, short⟩ := unwrap?_eq_some_iff.1 unwrapped
  have each := (Tlv.sequence?_eq_some_iff.1 parts).1
  have states : ¬ HoldsStatedFalse (.wrapped 3 t') ↔ ∀ item ∈ items, ¬ StatesFalse item := by
    rw [HoldsStatedFalse, unwrapped, Option.bind_some, parts]
    simp only [Option.mem_some_iff, exists_eq_left', not_exists, not_and]
  rw [states, Tlv.wrapped, Tlv.wrapped, Tlv.mk.injEq, eq_self, true_and, eq_comm,
    Tlv.encode_inj readable.known short, eq_comm, Tlv.sequence_eq_iff readable parts]
  exact map_eq_iff_of_mapM all fun item mem e known => Extension.toTlv_eq_iff (each item mem) known

/-! ## The version -/

theorem le_toNat_cons_cons (a b : UInt8) (bs : Bytes) :
    a.toNat * 256 + b.toNat ≤ Bytes.toNat (a :: b :: bs) := by
  have grows (bs : Bytes) : ∀ n, n ≤ bs.foldl (fun n b => n * 256 + b.toNat) n := by
    induction bs with
    | nil => exact Nat.le_refl
    | cons b bs ih => exact fun n => Nat.le_trans (by omega) (ih (n * 256 + b.toNat))
  rw [Bytes.toNat, List.foldl_cons, List.foldl_cons, Nat.zero_mul, Nat.zero_add]
  exact grows bs _

/-- A small number has one byte. -/
theorem eq_of_natural? {n : Nat} (read : Der.natural? t = some n) (small : n < 128) :
    t = ⟨0x02, [UInt8.ofNat n]⟩ := by
  obtain ⟨content, integer, rfl⟩ := Option.map_eq_some_iff.1 read
  obtain ⟨integer, positive⟩ := Option.filter_eq_some_iff.1 integer
  obtain ⟨held, minimal⟩ := Option.filter_eq_some_iff.1 integer
  rw [Tlv.contentOf?_eq_some_iff.1 held]
  match content with
  | [] => cases minimal
  | [a] =>
    have value : Bytes.toNat [a] = a.toNat := by
      simp [Bytes.toNat]
    rw [value, UInt8.ofNat_toNat]
  | a :: b :: bs =>
    have least := le_toNat_cons_cons a b bs
    have zero : a = 0 := UInt8.toNat_inj.1 (by rw [UInt8.toNat_zero]; omega)
    have low : b < 0x80 := UInt8.lt_iff_toNat_lt.2 (Nat.lt_of_le_of_lt (by omega) small)
    simp [Der.isMinimalInteger, zero, low] at minimal

theorem eq_wrapped_of_version? {n : Nat} (read : version? t = some n) :
    t = .wrapped 0 ⟨0x02, [UInt8.ofNat n]⟩ := by
  obtain ⟨t', unwrapped, number⟩ := Option.bind_eq_some_iff.1 read
  obtain ⟨number, known⟩ := Option.filter_eq_some_iff.1 number
  have small : n < 128 := Nat.lt_of_le_of_lt (of_decide_eq_true known) (by decide)
  rw [(unwrap?_eq_some_iff.1 unwrapped).2.1, eq_of_natural? number small]

end X509
end SecurityTokens
