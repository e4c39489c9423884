/-
# Bytes

Keys, digests, nonces and encoded certificates are lists of bytes.  A list of
bytes is also a number, its first byte being the most significant one, and a
text is the bytes of its UTF-8 form.
-/

namespace SecurityTokens

/-- A sequence of bytes. -/
abbrev Bytes := List UInt8

namespace Bytes

/-- The unsigned value of a big-endian sequence. -/
def toNat (bs : Bytes) : Nat := bs.foldl (fun n b => n * 256 + b.toNat) 0

/-- The `length` low bytes of a number, most significant first. -/
def ofNatWidth : (length : Nat) → Nat → Bytes
  | 0, _ => []
  | length + 1, n => ofNatWidth length (n / 256) ++ [UInt8.ofNat n]

/-- The shortest big-endian sequence of a number; zero has none. -/
def ofNat (n : Nat) : Bytes :=
  if _h : n = 0 then [] else ofNat (n / 256) ++ [UInt8.ofNat n]
termination_by n
decreasing_by omega

/-- The UTF-8 form of a text. -/
def ofText (s : String) : Bytes := s.toUTF8.toList

/-- The text whose UTF-8 form this is, if it is one. -/
def text? (bs : Bytes) : Option String := String.fromUTF8? ⟨bs.toArray⟩

@[simp] theorem length_ofNatWidth (length n : Nat) : (ofNatWidth length n).length = length := by
  induction length generalizing n <;> simp_all [ofNatWidth]

theorem toNat_append_singleton (bs : Bytes) (b : UInt8) :
    toNat (bs ++ [b]) = toNat bs * 256 + b.toNat := by
  simp [toNat]

/-- Writing a number and reading it back gives the number. -/
theorem toNat_ofNat (n : Nat) : toNat (ofNat n) = n := by
  induction n using Nat.strongRecOn with
  | ind n ih =>
    unfold ofNat
    split
    · simp_all [toNat]
    · rw [toNat_append_singleton, ih (n / 256) (by omega)]
      simp
      omega

/-- What is read of a byte array comes before what is left of it. -/
theorem toList_loop (bs : ByteArray) (i : Nat) (read : Bytes) :
    ByteArray.toList.loop bs i read = read.reverse ++ bs.data.toList.drop i := by
  fun_induction ByteArray.toList.loop bs i read with
  | case1 i read inside ih =>
    have inside' : i < bs.data.toList.length := by simpa using inside
    have next : bs.get! i = bs.data.toList[i] := by
      rw [Array.getElem_toList]
      exact getElem!_pos bs.data i inside
    rw [ih, List.drop_eq_getElem_cons inside', next, List.reverse_cons, List.append_assoc]
    rfl
  | case2 i read outside =>
    have beyond : bs.data.toList.length ≤ i := by simpa using outside
    rw [List.drop_eq_nil_of_le beyond, List.append_nil]

theorem ofText_eq_toList (s : String) : ofText s = s.toByteArray.data.toList := by
  show ByteArray.toList.loop s.toByteArray 0 [] = _
  rw [toList_loop]
  rfl

/-- The bytes of a text are those of its characters. -/
theorem ofText_eq_flatMap (s : String) : ofText s = s.toList.flatMap String.utf8EncodeChar := by
  have ofList (cs : List Char) : ofText (String.ofList cs) = cs.flatMap String.utf8EncodeChar := by
    rw [ofText_eq_toList]
    show cs.utf8Encode.data.toList = _
    rw [List.utf8Encode, List.toList_data_toByteArray]
  rw [← ofList, String.ofList_toList]

/-- Texts with the same UTF-8 form are the same. -/
theorem ofText_inj {s t : String} : ofText s = ofText t ↔ s = t := by
  rw [ofText_eq_toList, ofText_eq_toList, Array.toList_inj, ← ByteArray.ext_iff,
    String.toByteArray_inj]

end Bytes
end SecurityTokens
