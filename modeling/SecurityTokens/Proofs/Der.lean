/-
# One encoding for each value

The encoding of a value says where it ends, so bytes begin with the encoding of one value
at most.  Reading undoes writing, and writing undoes reading:

| of | written by | read by | both ways |
| --- | --- | --- | --- |
| a length | `encodeLength` | `readLength?` | `readLength?_eq_some_iff` |
| a value | `Tlv.encode` | `Tlv.read?` | `Tlv.read?_eq_some_iff` |
| values in a row | `encodeAll` | `items?` | `items?_eq_some_iff` |

Only values with a known tag and a content within the bound are read (`Tlv.Readable`).
Others can be written too, but never to the same bytes (`encodeAll_inj`).
-/

import SecurityTokens.Der.Tlv

namespace SecurityTokens

/-! ## Lengths -/

namespace Bytes

theorem length_ofNat {n : Nat} (h : n ≠ 0) : (ofNat n).length = (ofNat (n / 256)).length + 1 := by
  rw [ofNat, dif_neg h, List.length_append, List.length_singleton]

theorem length_ofNat_le (n : Nat) : (ofNat n).length ≤ (ofNat (n / 256)).length + 1 := by
  by_cases h : n = 0
  · subst h
    exact Nat.le_add_right _ _
  · exact Nat.le_of_eq (length_ofNat h)

/-- A number of four bytes has four bytes at most. -/
theorem length_ofNat_le_four {n : Nat} (h : n < 4294967296) : (ofNat n).length ≤ 4 := by
  have high : n / 256 / 256 / 256 / 256 = 0 := by omega
  have none : (ofNat 0).length = 0 := by
    rw [ofNat]
    rfl
  have first := length_ofNat_le n
  have second := length_ofNat_le (n / 256)
  have third := length_ofNat_le (n / 256 / 256)
  have fourth := length_ofNat_le (n / 256 / 256 / 256)
  rw [high, none] at fourth
  omega

end Bytes

namespace Der

variable {n : Nat} {bs rest : Bytes} {t t' : Tlv} {items items' : List Tlv}

/-- A length is read back, whatever follows it. -/
theorem readLength?_encodeLength (h : n < lengthBound) (rest : Bytes) :
    readLength? (encodeLength n ++ rest) = some (n, rest) := by
  have bound : lengthBound = 268435456 := rfl
  rw [encodeLength]
  split
  next small =>
    have first : (UInt8.ofNat n).toNat = n := by
      rw [UInt8.toNat_ofNat']
      omega
    have short : UInt8.ofNat n < 0x80 := UInt8.lt_iff_toNat_lt.2 (by rw [first]; exact small)
    rw [List.singleton_append, readLength?, if_pos short, first]
  next large =>
    have most : (Bytes.ofNat n).length ≤ 4 := Bytes.length_ofNat_le_four (by omega)
    have least : 1 ≤ (Bytes.ofNat n).length := by
      rw [Bytes.length_ofNat (by omega)]
      exact Nat.le_add_left 1 _
    have first : (UInt8.ofNat (128 + (Bytes.ofNat n).length)).toNat
        = 128 + (Bytes.ofNat n).length := by
      rw [UInt8.toNat_ofNat']
      omega
    have long : ¬ UInt8.ofNat (128 + (Bytes.ofNat n).length) < 0x80 := by
      rw [UInt8.lt_iff_toNat_lt, first]
      exact Nat.not_lt.2 (Nat.le_add_right 128 _)
    have count : 128 + (Bytes.ofNat n).length - 128 = (Bytes.ofNat n).length := by omega
    have enough : (Bytes.ofNat n).length ≤ (Bytes.ofNat n ++ rest).length := by simp
    have shortest : encodeLength n = UInt8.ofNat (128 + (Bytes.ofNat n).length) :: Bytes.ofNat n :=
      if_neg large
    simp only [List.cons_append, readLength?, if_neg long, first, count, List.take_left,
      List.drop_left, Bytes.toNat_ofNat]
    exact if_pos ⟨least, most, enough, h, shortest⟩

theorem readLength?_eq_some_iff :
    readLength? bs = some (n, rest) ↔ n < lengthBound ∧ bs = encodeLength n ++ rest := by
  refine ⟨fun read => ?_, fun ⟨short, written⟩ => written ▸ readLength?_encodeLength short rest⟩
  cases bs with
  | nil => cases read
  | cons b bs =>
    rw [readLength?] at read
    split at read
    next small =>
      cases read
      have small : b.toNat < 128 := UInt8.lt_iff_toNat_lt.1 small
      have bound : lengthBound = 268435456 := rfl
      rw [encodeLength, if_pos small, UInt8.ofNat_toNat]
      exact ⟨by omega, rfl⟩
    next =>
      dsimp only at read
      split at read
      next fits =>
        obtain ⟨-, -, -, short, shortest⟩ := fits
        obtain ⟨rfl, rfl⟩ := Prod.mk.inj (Option.some.inj read)
        rw [shortest, List.cons_append, List.take_append_drop]
        exact ⟨short, rfl⟩
      next => cases read

/-! ## Values -/

namespace Tlv

/-- A value that can be read. -/
structure Readable (t : Tlv) : Prop where
  known : isKnownTag t.tag = true
  short : t.content.length < lengthBound

theorem length_content_lt (t : Tlv) : t.content.length < t.encode.length := by
  rw [encode, List.cons_append, List.length_cons, List.length_append]
  omega

/-- A value is read back, whatever follows it. -/
theorem read?_encode (h : t.Readable) (rest : Bytes) :
    read? (t.encode ++ rest) = some (t, rest) := by
  have length := readLength?_encodeLength h.short (t.content ++ rest)
  rw [encode, List.cons_append, List.cons_append, List.append_assoc, read?, if_pos h.known]
  simp only [length, List.length_append, Nat.le_add_right, if_true, List.take_left, List.drop_left]

theorem read?_eq_some_iff : read? bs = some (t, rest) ↔ t.Readable ∧ bs = t.encode ++ rest := by
  refine ⟨fun read => ?_, fun ⟨readable, written⟩ => written ▸ read?_encode readable rest⟩
  cases bs with
  | nil => cases read
  | cons tag bs =>
    rw [read?] at read
    split at read
    next known =>
      split at read
      next n after length =>
        split at read
        next enough =>
          obtain ⟨short, rfl⟩ := readLength?_eq_some_iff.1 length
          cases read
          have taken : (after.take n).length = n := List.length_take_of_le enough
          refine ⟨⟨known, by rwa [taken]⟩, ?_⟩
          rw [encode, taken, List.cons_append, List.cons_append, List.append_assoc,
            List.take_append_drop]
        next => cases read
      next => cases read
    next => cases read

/-- The value that all of the bytes are encodes to them. -/
theorem ofBytes?_eq_some_iff :
    ofBytes? bs = some t ↔ t.Readable ∧ bs = t.encode ∧ bs.length < lengthBound := by
  rw [ofBytes?]
  constructor
  · intro read
    split at read
    next short =>
      split at read
      next read' =>
        cases read
        obtain ⟨readable, written⟩ := read?_eq_some_iff.1 read'
        rw [List.append_nil] at written
        exact ⟨readable, written, short⟩
      next => cases read
    next => cases read
  · rintro ⟨readable, rfl, short⟩
    have read := read?_encode readable []
    rw [List.append_nil] at read
    rw [if_pos short, read]

end Tlv

/-! ## Values in a row -/

@[simp] theorem encodeAll_nil : encodeAll [] = [] := rfl

@[simp] theorem encodeAll_cons : encodeAll (t :: items) = t.encode ++ encodeAll items := rfl

theorem items?_of_read? (read : Tlv.read? bs = some (t, rest)) :
    items? bs = (items? rest).map (t :: ·) := by
  cases bs with
  | nil => cases read
  | cons b bs =>
    rw [items?]
    split
    next read' =>
      rw [read] at read'
      cases read'
      rfl
    next unread =>
      rw [read] at unread
      cases unread

/-- Values in a row are read back. -/
theorem items?_encodeAll (readable : ∀ t ∈ items, t.Readable) :
    items? (encodeAll items) = some items := by
  induction items with
  | nil => rw [encodeAll_nil, items?]
  | cons t items ih =>
    rw [List.forall_mem_cons] at readable
    rw [encodeAll_cons, items?_of_read? (Tlv.read?_encode readable.1 _), ih readable.2]
    rfl

theorem items?_eq_some_iff :
    items? bs = some items ↔ (∀ t ∈ items, t.Readable) ∧ bs = encodeAll items := by
  refine ⟨fun read => ?_, fun ⟨readable, written⟩ => written ▸ items?_encodeAll readable⟩
  fun_induction items? bs generalizing items with
  | case1 =>
    cases read
    exact ⟨fun _ mem => (List.not_mem_nil mem).elim, rfl⟩
  | case2 b bs t rest first shorter ih =>
    obtain ⟨following, parts, rfl⟩ := Option.map_eq_some_iff.1 read
    obtain ⟨readable, written⟩ := Tlv.read?_eq_some_iff.1 first
    obtain ⟨readable', rfl⟩ := ih parts
    exact ⟨List.forall_mem_cons.2 ⟨readable, readable'⟩, written⟩
  | case3 => cases read

/-- **Bytes are the encoding of one row of values at most**, if they are within the bound and
the tags of one row are known. -/
theorem encodeAll_inj (known : ∀ t ∈ items, isKnownTag t.tag = true)
    (short : (encodeAll items).length < lengthBound) :
    encodeAll items = encodeAll items' ↔ items = items' := by
  refine ⟨fun same => ?_, congrArg encodeAll⟩
  induction items generalizing items' with
  | nil =>
    cases items' with
    | nil => rfl
    | cons t' items' => cases same
  | cons t items ih =>
    cases items' with
    | nil => cases same
    | cons t' items' =>
      rw [List.forall_mem_cons] at known
      have short' : (encodeAll (t' :: items')).length < lengthBound := same ▸ short
      rw [encodeAll_cons, List.length_append] at short short'
      have := t.length_content_lt
      have := t'.length_content_lt
      have tag : t.tag = t'.tag := (List.cons.inj same).1
      have first := Tlv.read?_encode ⟨known.1, by omega⟩ (encodeAll items)
      have first' := Tlv.read?_encode (t := t') ⟨tag ▸ known.1, by omega⟩ (encodeAll items')
      rw [← encodeAll_cons] at first first'
      rw [same, first'] at first
      obtain ⟨rfl, after⟩ := Prod.mk.inj (Option.some.inj first)
      rw [ih known.2 (by omega) after.symm]

theorem Tlv.encode_inj (known : isKnownTag t.tag = true) (short : t.encode.length < lengthBound) :
    t.encode = t'.encode ↔ t = t' := by
  have alone (t : Tlv) : encodeAll [t] = t.encode := List.append_nil _
  have all : encodeAll [t] = encodeAll [t'] ↔ [t] = [t'] :=
    encodeAll_inj (by simpa using known) (by rwa [alone])
  rwa [alone, alone, List.singleton_inj] at all

/-- A value has some parts if it is written like them. -/
theorem Tlv.parts?_eq_some_iff {tag : UInt8} :
    t.parts? tag = some items ↔ (∀ item ∈ items, item.Readable) ∧ t = ⟨tag, encodeAll items⟩ := by
  obtain ⟨tag', content⟩ := t
  rw [parts?]
  split
  next same =>
    obtain rfl : tag' = tag := same
    simp only [items?_eq_some_iff, Tlv.mk.injEq, true_and]
  next other => exact iff_of_false (fun read => nomatch read) fun h => other (congrArg Tlv.tag h.2)

theorem Tlv.sequence?_eq_some_iff :
    t.sequence? = some items ↔ (∀ item ∈ items, item.Readable) ∧ t = .sequence items :=
  parts?_eq_some_iff

/-- A value is written like its parts and no others. -/
theorem Tlv.eq_iff_of_parts? {tag : UInt8} (readable : t.Readable)
    (read : t.parts? tag = some items) : (⟨tag, encodeAll items'⟩ : Tlv) = t ↔ items' = items := by
  obtain ⟨each, rfl⟩ := parts?_eq_some_iff.1 read
  rw [Tlv.mk.injEq, eq_self, true_and, eq_comm, eq_comm (a := items')]
  exact encodeAll_inj (fun t mem => (each t mem).known) readable.short

theorem Tlv.sequence_eq_iff (readable : t.Readable) (read : t.sequence? = some items) :
    Tlv.sequence items' = t ↔ items' = items :=
  eq_iff_of_parts? readable read

theorem Tlv.contentOf?_eq_some_iff {tag : UInt8} {content : Bytes} :
    t.contentOf? tag = some content ↔ t = ⟨tag, content⟩ := by
  obtain ⟨tag', content'⟩ := t
  rw [contentOf?]
  split
  next same => rw [show tag' = tag from same, Option.some.injEq, Tlv.mk.injEq, eq_self, true_and]
  next other => exact iff_of_false (fun read => nomatch read) fun h => other (congrArg Tlv.tag h)

end Der
end SecurityTokens
