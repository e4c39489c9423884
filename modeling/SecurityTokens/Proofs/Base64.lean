/-
# Base64 text reads back

Encoding cuts bytes into threes, and each three into four numbers of six bits; the rest
of one or two bytes is filled up with zero bits and pads:

| bytes | numbers | pads |
| ---: | ---: | ---: |
| 3 | 4 | 0 |
| 2 | 3 | 1 |
| 1 | 2 | 2 |

Decoding takes the same way back.  A symbol gives its number (`value?_symbol`), the
numbers of a quad give its bytes (`closeQuad_three` and the two after it), and only the
last quad has pads (`decodeLast_symbols`).  So a text that is the encoding of some bytes,
with white space anywhere, is decoded to those bytes (`decodeText_of_dropBlanks`).
-/

import SecurityTokens.Error
import SecurityTokens.Proofs.Success

namespace SecurityTokens

/-! ## The bytes of a text -/

namespace Bytes

/-- A text of ASCII characters has a byte for each. -/
theorem ofText_eq_map {s : String} (ascii : ∀ c ∈ s.toList, c.toNat < 128) :
    ofText s = s.toList.map fun c => UInt8.ofNat c.toNat := by
  have single : ∀ n : Fin 128, String.utf8EncodeChar (Char.ofNat n) = [UInt8.ofNat n] := by decide
  rw [ofText_eq_flatMap, List.map_eq_flatMap]
  refine List.flatMap_congr fun c mem => ?_
  have byte := single ⟨c.toNat, ascii c mem⟩
  rwa [Char.ofNat_toNat] at byte

/-- Bytes below 128 are those of a text with a character for each. -/
theorem ofText_ofList_map {bs : Bytes} (ascii : ∀ b ∈ bs, b.toNat < 128) :
    ofText (String.ofList (bs.map fun b => Char.ofNat b.toNat)) = bs := by
  have small : ∀ n : Fin 128, (Char.ofNat n).toNat = n.val := by decide
  have code {b : UInt8} (mem : b ∈ bs) : (Char.ofNat b.toNat).toNat = b.toNat :=
    small ⟨b.toNat, ascii b mem⟩
  rw [ofText_eq_map, String.toList_ofList, List.map_map]
  · refine (List.map_congr_left fun b mem => ?_).trans (List.map_id bs)
    rw [Function.comp_apply, code mem, UInt8.ofNat_toNat, id_eq]
  · rw [String.toList_ofList, List.forall_mem_map]
    intro b mem
    rw [code mem]
    exact ascii b mem

end Bytes

namespace Base64

/-! ## Symbols -/

variable {offset : Nat} {n : Nat} {ns : List Nat}

theorem value?_symbol (h : n < 64) : value? (symbol n) = some n := by
  have all : ∀ n : Fin 64, value? (symbol n) = some n.val := by decide
  exact all ⟨n, h⟩

theorem symbol_ne_pad (h : n < 64) : symbol n ≠ pad := by
  have all : ∀ n : Fin 64, symbol n ≠ pad := by decide
  exact all ⟨n, h⟩

/-- The numbers of a run of symbols are read. -/
theorem valuesFrom_symbols (small : ∀ n ∈ ns, n < 64) :
    valuesFrom offset (ns.map symbol) = .ok ns := by
  induction ns generalizing offset with
  | nil => rfl
  | cons n ns ih =>
    rw [List.forall_mem_cons] at small
    rw [List.map_cons, valuesFrom, valueAt, value?_symbol small.1, ih small.2]
    rfl

/-- The symbols of a quad end where its pads begin. -/
theorem takeWhile_symbols (small : ∀ n ∈ ns, n < 64) (pads : Nat) :
    (ns.map symbol ++ List.replicate pads pad).takeWhile (· != pad) = ns.map symbol := by
  have apart : ∀ b ∈ ns.map symbol, (b != pad) = true := by
    intro b mem
    obtain ⟨n, held, rfl⟩ := List.mem_map.1 mem
    exact bne_iff_ne.2 (symbol_ne_pad (small n held))
  rw [List.takeWhile_append_of_pos apart]
  cases pads <;> simp [List.replicate_succ]

theorem dropWhile_symbols (small : ∀ n ∈ ns, n < 64) (pads : Nat) :
    (ns.map symbol ++ List.replicate pads pad).dropWhile (· != pad) = List.replicate pads pad := by
  have split := List.takeWhile_append_dropWhile (p := (· != pad))
    (l := ns.map symbol ++ List.replicate pads pad)
  rw [takeWhile_symbols small] at split
  exact List.append_cancel_left split

/-! ## Quads -/

/-- The numbers of at most three bytes, the bits that are left over being zero. -/
def sextets : Bytes → List Nat
  | [a, b, c] =>
    let n := a.toNat * 65536 + b.toNat * 256 + c.toNat
    [n / 262144, n / 4096 % 64, n / 64 % 64, n % 64]
  | [a, b] =>
    let n := a.toNat * 1024 + b.toNat * 4
    [n / 4096, n / 64 % 64, n % 64]
  | [a] =>
    let n := a.toNat * 16
    [n / 64, n % 64]
  | _ => []

theorem lt_of_mem_sextets {bs : Bytes} (h : n ∈ sextets bs) : n < 64 := by
  unfold sextets at h
  split at h
  next a b c =>
    have := a.toNat_lt
    have := b.toNat_lt
    have := c.toNat_lt
    simp only [List.mem_cons, List.not_mem_nil, or_false] at h
    omega
  next a b =>
    have := a.toNat_lt
    have := b.toNat_lt
    simp only [List.mem_cons, List.not_mem_nil, or_false] at h
    omega
  next a =>
    have := a.toNat_lt
    simp only [List.mem_cons, List.not_mem_nil, or_false] at h
    omega
  next => cases h

theorem ofNat_of_mod {b : UInt8} (h : n % 256 = b.toNat) : UInt8.ofNat n = b := by
  rw [← UInt8.toNat_inj, UInt8.toNat_ofNat']
  exact h

/-- The numbers of a full quad are those of three bytes. -/
theorem closeQuad_three (offset : Nat) (symbols : Bytes) (a b c : UInt8) :
    closeQuad offset symbols 0 (sextets [a, b, c]) = .ok [a, b, c] := by
  have := a.toNat_lt
  have := b.toNat_lt
  have := c.toNat_lt
  show Except.ok [UInt8.ofNat _, UInt8.ofNat _, UInt8.ofNat _] = _
  congr
  · exact ofNat_of_mod (by omega)
  · exact ofNat_of_mod (by omega)
  · exact ofNat_of_mod (by omega)

/-- Two bytes leave two bits over, which are zero. -/
theorem closeQuad_two (offset : Nat) (symbols : Bytes) (a b : UInt8) :
    closeQuad offset symbols 1 (sextets [a, b]) = .ok [a, b] := by
  have := a.toNat_lt
  have := b.toNat_lt
  rw [sextets, closeQuad, if_neg (fun other => other rfl), if_neg (fun spare => spare (by omega))]
  congr
  · exact ofNat_of_mod (by omega)
  · exact ofNat_of_mod (by omega)

/-- One byte leaves four bits over. -/
theorem closeQuad_one (offset : Nat) (symbols : Bytes) (a : UInt8) :
    closeQuad offset symbols 2 (sextets [a]) = .ok [a] := by
  have := a.toNat_lt
  rw [sextets, closeQuad, if_neg (fun other => other rfl), if_neg (fun spare => spare (by omega))]
  congr
  exact ofNat_of_mod (by omega)

/-- A last quad of symbols and pads has the bytes of its numbers. -/
theorem decodeLast_symbols (pads : Nat) (small : ∀ n ∈ ns, n < 64) (enough : 2 ≤ ns.length) :
    decodeLast offset (ns.map symbol ++ List.replicate pads pad)
      = closeQuad offset (ns.map symbol) pads ns := by
  have passed : checkPads offset (ns.map symbol).length (List.replicate pads pad) = .ok () := by
    have onlyPads : (List.replicate pads pad).any (· != pad) = false := by simp
    rw [List.length_map, checkPads, onlyPads, if_neg]
    rintro ⟨-, short | impure⟩
    · omega
    · cases impure
  rw [decodeLast]
  simp only [takeWhile_symbols small, dropWhile_symbols small, valuesFrom_symbols small, passed,
    List.length_replicate]
  rfl

/-- A quad that more text follows has the bytes of its numbers. -/
theorem decodeFrom_quad {p q r s : Nat} {quad tail rest : Bytes} {e : UInt8}
    (small : ∀ n ∈ [p, q, r, s], n < 64)
    (closed : closeQuad offset ([p, q, r, s].map symbol) 0 [p, q, r, s] = .ok quad)
    (read : decodeFrom (offset + 4) (e :: rest) = .ok tail) :
    decodeFrom offset ([p, q, r, s].map symbol ++ e :: rest) = .ok (quad ++ tail) := by
  have values : valuesFrom offset ([p, q, r, s].map symbol) = .ok [p, q, r, s] :=
    valuesFrom_symbols small
  refine Except.bind_eq_ok_iff.2 ⟨_, values, ?_⟩
  refine Except.bind_eq_ok_iff.2 ⟨quad, closed, ?_⟩
  exact Except.bind_eq_ok_iff.2 ⟨tail, read, rfl⟩

/-! ## Texts -/

variable (a b c : UInt8) (bs : Bytes)

theorem encodeBytes_three :
    encodeBytes (a :: b :: c :: bs) = (sextets [a, b, c]).map symbol ++ encodeBytes bs :=
  rfl

theorem encodeBytes_two :
    encodeBytes [a, b] = (sextets [a, b]).map symbol ++ List.replicate 1 pad :=
  rfl

theorem encodeBytes_one : encodeBytes [a] = (sextets [a]).map symbol ++ List.replicate 2 pad :=
  rfl

/-- **The encoding of bytes reads back**, at whatever offset it starts. -/
theorem decodeFrom_encodeBytes (offset : Nat) : decodeFrom offset (encodeBytes bs) = .ok bs := by
  have small (cs : Bytes) : ∀ n ∈ sextets cs, n < 64 := fun n => lt_of_mem_sextets
  induction bs using encodeBytes.induct generalizing offset with
  | case1 a b c rest ih =>
    have closed := closeQuad_three offset ((sextets [a, b, c]).map symbol) a b c
    have read := ih (offset + 4)
    rw [encodeBytes_three]
    -- Only the last quad is read as one that may have pads.
    cases follows : encodeBytes rest with
    | nil =>
      rw [follows] at read
      obtain rfl : [] = rest := Except.ok.inj read
      exact (decodeLast_symbols 0 (small _) (by simp [sextets])).trans closed
    | cons e tail =>
      rw [follows] at read
      exact decodeFrom_quad (small [a, b, c]) closed read
  | case2 a b =>
    have closed := closeQuad_two offset ((sextets [a, b]).map symbol) a b
    exact (decodeLast_symbols 1 (small _) (by simp [sextets])).trans closed
  | case3 a =>
    have closed := closeQuad_one offset ((sextets [a]).map symbol) a
    exact (decodeLast_symbols 2 (small _) (by simp [sextets])).trans closed
  | case4 => rfl

/-- A text consists of whole quads. -/
theorem length_encodeBytes_mod : (encodeBytes bs).length % 4 = 0 := by
  induction bs using encodeBytes.induct with
  | case1 a b c rest ih =>
    rw [encodeBytes_three, List.length_append, Nat.add_mod, ih]
    simp [sextets]
  | case2 a b => simp [encodeBytes_two, sextets]
  | case3 a => simp [encodeBytes_one, sextets]
  | case4 => rfl

/-- A text consists of symbols and pads. -/
theorem mem_encodeBytes {x : UInt8} (h : x ∈ encodeBytes bs) :
    (∃ n < 64, symbol n = x) ∨ x = pad := by
  have ofSextets {cs : Bytes} (h : x ∈ (sextets cs).map symbol) : ∃ n < 64, symbol n = x := by
    obtain ⟨n, held, same⟩ := List.mem_map.1 h
    exact ⟨n, lt_of_mem_sextets held, same⟩
  induction bs using encodeBytes.induct with
  | case1 a b c rest ih =>
    rw [encodeBytes_three, List.mem_append] at h
    rcases h with h | h
    · exact .inl (ofSextets h)
    · exact ih h
  | case2 a b =>
    rw [encodeBytes_two, List.mem_append] at h
    rcases h with h | h
    · exact .inl (ofSextets h)
    · exact .inr (List.eq_of_mem_replicate h)
  | case3 a =>
    rw [encodeBytes_one, List.mem_append] at h
    rcases h with h | h
    · exact .inl (ofSextets h)
    · exact .inr (List.eq_of_mem_replicate h)
  | case4 => cases h

theorem checkLone_encodeBytes : checkLone (encodeBytes bs) = .ok () := by
  rw [checkLone]
  cases (encodeBytes bs).getLast? with
  | none => rfl
  | some b =>
    refine if_neg fun lone => ?_
    rw [length_encodeBytes_mod] at lone
    cases lone.1

theorem ofText_encode : Bytes.ofText (encode bs) = encodeBytes bs := by
  have ascii : ∀ n : Fin 64, (symbol n).toNat < 128 := by decide
  refine Bytes.ofText_ofList_map fun x mem => ?_
  rcases mem_encodeBytes bs mem with ⟨n, small, rfl⟩ | rfl
  · exact ascii ⟨n, small⟩
  · decide

theorem decode_encode : decode (encode bs) = .ok bs := by
  rw [decode, ofText_encode, decodeBytes]
  exact Except.bind_eq_ok_iff.2 ⟨(), checkLone_encodeBytes bs, decodeFrom_encodeBytes bs 0⟩

/-- There is no white space in the text of bytes. -/
theorem dropBlanks_encode : Text.dropBlanks (encode bs) = encode bs := by
  have printed : ∀ n : Fin 64, Text.isBlank (Char.ofNat (symbol n).toNat) = false := by decide
  rw [Text.dropBlanks, encode, String.toList_ofList]
  congr 1
  refine List.filter_eq_self.2 fun x mem => ?_
  obtain ⟨b, held, rfl⟩ := List.mem_map.1 mem
  rcases mem_encodeBytes bs held with ⟨n, small, rfl⟩ | rfl
  · rw [printed ⟨n, small⟩]
    rfl
  · decide

variable {bs}

/-- **White space does not matter.**  A text that is the text of some bytes but for white
space stands for those bytes. -/
theorem decodeText_of_dropBlanks {s : String} (written : Text.dropBlanks s = encode bs)
    (filled : bs ≠ []) : decodeText s = .ok bs := by
  have visible : encode bs ≠ "" := by
    intro empty
    have same : encode bs = encode [] := empty
    have read := decode_encode bs
    rw [same, decode_encode] at read
    exact filled (Except.ok.inj read).symm
  simp only [decodeText, written, if_neg visible]
  exact decode_encode bs

end Base64

theorem decodeBase64Text_of_dropBlanks {what text : String} {bs : Bytes}
    (written : Text.dropBlanks text = Base64.encode bs) (filled : bs ≠ []) :
    decodeBase64Text what text = .ok bs := by
  rw [decodeBase64Text, Base64.decodeText_of_dropBlanks written filled]
  rfl

end SecurityTokens
