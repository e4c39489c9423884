/-
# Bytes have one base64 text

Other ways to write bytes than their encoding come to mind, and decoding refuses each of them:

| written otherwise | refused, since |
| --- | --- |
| with another symbol for a number | a symbol is that of its number (`symbol_of_value?`) |
| with pads left out or added | symbols and pads fill the quad (`encodeBytes_of_closeQuad`) |
| with bits left over that are not zero | the last number is that of the bytes (the same) |
| with symbols after a pad | all after the first pad are pads (`eq_replicate_of_checkPads`) |

So decoding succeeds on encodings alone (`decodeBytes_eq_ok_iff`).  White space is dropped
before, so the text of an element decodes to bytes just if it is their encoding with white
space put in (`decodeBase64Text_exact`): who compares the bytes of two texts compares the texts.
-/

import SecurityTokens.Proofs.Base64

namespace SecurityTokens

namespace Base64

variable {offset n : Nat} {ns : List Nat} {b : UInt8} {bs text symbols tail : Bytes}

/-! ## Symbols and pads -/

/-- Every number has one symbol. -/
theorem symbol_of_value? (known : value? b = some n) : n < 64 ∧ symbol n = b := by
  have all : ∀ m : Fin 256, ∀ n ∈ value? (UInt8.ofNat m), n < 64 ∧ symbol n = UInt8.ofNat m := by
    decide +kernel
  have read := all ⟨b.toNat, b.toNat_lt⟩
  rw [UInt8.ofNat_toNat] at read
  exact read n known

/-- A run of bytes that is read consists of the symbols of the numbers. -/
theorem symbols_of_valuesFrom (read : valuesFrom offset bs = .ok ns) :
    (∀ n ∈ ns, n < 64) ∧ ns.map symbol = bs := by
  induction bs generalizing offset ns with
  | nil =>
    obtain rfl : [] = ns := Except.ok.inj read
    exact ⟨fun n mem => absurd mem List.not_mem_nil, rfl⟩
  | cons b bs ih =>
    obtain ⟨n, first, read⟩ := Except.bind_eq_ok_iff.1 read
    obtain ⟨ns, others, done⟩ := Except.bind_eq_ok_iff.1 read
    obtain rfl := Except.ok.inj done
    have known : value? b = some n := by
      unfold valueAt at first
      split at first
      next known => rw [known, Except.ok.inj first]
      next => cases first
    obtain ⟨small, rfl⟩ := symbol_of_value? known
    obtain ⟨smallRest, rfl⟩ := ih others
    exact ⟨List.forall_mem_cons.2 ⟨small, smallRest⟩, rfl⟩

/-- What passes for pads are pads. -/
theorem eq_replicate_of_checkPads {u : Unit} {count : Nat}
    (passed : checkPads offset count bs = .ok u) : bs = List.replicate bs.length pad := by
  rw [checkPads] at passed
  split at passed
  next => cases passed
  next fits =>
    by_cases none : bs = []
    · rw [none]
      rfl
    · have pure : ¬ bs.any (· != pad) = true := fun impure => fits ⟨none, .inr impure⟩
      rw [Bool.not_eq_true, List.any_eq_false] at pure
      refine List.eq_replicate_iff.2 ⟨rfl, fun b mem => ?_⟩
      have same := pure b mem
      rwa [bne_iff_ne, ne_eq, Decidable.not_not] at same

/-! ## Quads -/

section

variable {p q r s : Nat}

theorem sextets_of_four (small : ∀ n ∈ [p, q, r, s], n < 64) {n : Nat}
    (sum : n = p * 262144 + q * 4096 + r * 64 + s) :
    sextets [UInt8.ofNat (n / 65536), UInt8.ofNat (n / 256), UInt8.ofNat n] = [p, q, r, s] := by
  simp only [List.forall_mem_cons] at small
  simp only [sextets, UInt8.toNat_ofNat', List.cons.injEq, and_true]
  omega

theorem sextets_of_three (small : ∀ n ∈ [p, q, r], n < 64) {n : Nat}
    (sum : n = p * 4096 + q * 64 + r) (spare : n % 4 = 0) :
    sextets [UInt8.ofNat (n / 1024), UInt8.ofNat (n / 4)] = [p, q, r] := by
  simp only [List.forall_mem_cons] at small
  simp only [sextets, UInt8.toNat_ofNat', List.cons.injEq, and_true]
  omega

theorem sextets_of_two (small : ∀ n ∈ [p, q], n < 64) {n : Nat} (sum : n = p * 64 + q)
    (spare : n % 16 = 0) : sextets [UInt8.ofNat (n / 16)] = [p, q] := by
  simp only [List.forall_mem_cons] at small
  simp only [sextets, UInt8.toNat_ofNat', List.cons.injEq, and_true]
  omega

end

/-- The numbers of a quad are those of its bytes, and pads fill it up. -/
theorem encodeBytes_of_closeQuad {pads : Nat} (small : ∀ n ∈ ns, n < 64)
    (closed : closeQuad offset symbols pads ns = .ok bs) :
    encodeBytes bs = ns.map symbol ++ List.replicate pads pad ∧ bs.length + pads = 3 := by
  unfold closeQuad at closed
  split at closed
  next p q r s =>
    dsimp only at closed
    split at closed
    next => cases closed
    next full =>
      obtain rfl := Except.ok.inj closed
      obtain rfl : pads = 0 := Decidable.not_not.1 full
      rw [encodeBytes_three, sextets_of_four small rfl]
      exact ⟨rfl, rfl⟩
  next p q r =>
    dsimp only at closed
    split at closed
    next => cases closed
    next one =>
      split at closed
      next => cases closed
      next spare =>
        obtain rfl := Except.ok.inj closed
        obtain rfl : pads = 1 := Decidable.not_not.1 one
        rw [encodeBytes_two, sextets_of_three small rfl (Decidable.not_not.1 spare)]
        exact ⟨rfl, rfl⟩
  next p q =>
    dsimp only at closed
    split at closed
    next => cases closed
    next two =>
      split at closed
      next => cases closed
      next spare =>
        obtain rfl := Except.ok.inj closed
        obtain rfl : pads = 2 := Decidable.not_not.1 two
        rw [encodeBytes_one, sextets_of_two small rfl (Decidable.not_not.1 spare)]
        exact ⟨rfl, rfl⟩
  next => cases closed

/-- Three bytes are encoded apart from what follows them. -/
theorem encodeBytes_append (three : bs.length = 3) :
    encodeBytes (bs ++ tail) = encodeBytes bs ++ encodeBytes tail := by
  match bs, three with
  | [a, b, c], _ =>
    rw [List.cons_append, List.cons_append, List.cons_append, List.nil_append, encodeBytes_three,
      encodeBytes_three, encodeBytes, List.append_nil]

/-- A last quad that decodes is the encoding of its bytes. -/
theorem eq_encodeBytes_of_decodeLast (read : decodeLast offset text = .ok bs) :
    text = encodeBytes bs := by
  obtain ⟨ns, numbers, read⟩ := Except.bind_eq_ok_iff.1 read
  obtain ⟨_, passed, closed⟩ := Except.bind_eq_ok_iff.1 read
  obtain ⟨small, written⟩ := symbols_of_valuesFrom numbers
  rw [(encodeBytes_of_closeQuad small closed).1, written, ← eq_replicate_of_checkPads passed]
  exact List.takeWhile_append_dropWhile.symm

/-- **What decodes is the encoding of what it decodes to**, at whatever offset it starts. -/
theorem eq_encodeBytes_of_decodeFrom (read : decodeFrom offset text = .ok bs) :
    text = encodeBytes bs := by
  fun_induction decodeFrom offset text generalizing bs with
  | case1 offset a b c d e rest ih =>
    obtain ⟨ns, numbers, read⟩ := Except.bind_eq_ok_iff.1 read
    obtain ⟨front, closed, read⟩ := Except.bind_eq_ok_iff.1 read
    obtain ⟨tail, following, done⟩ := Except.bind_eq_ok_iff.1 read
    obtain rfl := Except.ok.inj done
    obtain ⟨small, written⟩ := symbols_of_valuesFrom numbers
    obtain ⟨quad, three⟩ := encodeBytes_of_closeQuad small closed
    rw [encodeBytes_append three, quad, written, ← ih following]
    rfl
  | case2 offset =>
    obtain rfl : [] = bs := Except.ok.inj read
    rfl
  | case3 offset quad => exact eq_encodeBytes_of_decodeLast read

/-! ## Texts -/

theorem decodeBytes_eq_ok_iff : decodeBytes text = .ok bs ↔ text = encodeBytes bs := by
  constructor
  · intro read
    obtain ⟨_, -, read⟩ := Except.bind_eq_ok_iff.1 read
    exact eq_encodeBytes_of_decodeFrom read
  · rintro rfl
    exact Except.bind_eq_ok_iff.2 ⟨(), checkLone_encodeBytes bs, decodeFrom_encodeBytes bs 0⟩

/-- The letter `f` written with bits left over. -/
example : decodeBytes [90, 104, 61, 61] = .error (.invalidLastSymbol 1 104) := by decide

theorem decode_eq_ok_iff {s : String} : decode s = .ok bs ↔ s = encode bs := by
  rw [decode, decodeBytes_eq_ok_iff, ← ofText_encode, Bytes.ofText_inj]

theorem decodeText_eq_ok_iff {s : String} :
    decodeText s = .ok bs ↔ bs ≠ [] ∧ Text.dropBlanks s = encode bs := by
  constructor
  · intro read
    unfold decodeText at read
    dsimp only at read
    split at read
    next => cases read
    next filled =>
      have written := decode_eq_ok_iff.1 read
      refine ⟨?_, written⟩
      rintro rfl
      exact filled written
  · rintro ⟨filled, written⟩
    exact decodeText_of_dropBlanks written filled

end Base64

theorem decodeBase64Text_eq_ok_iff {what text : String} {bs : Bytes} :
    decodeBase64Text what text = .ok bs ↔ bs ≠ [] ∧ Text.dropBlanks text = Base64.encode bs := by
  rw [← Base64.decodeText_eq_ok_iff, decodeBase64Text]
  cases Base64.decodeText text with
  | ok bs' => rw [Except.mapError, Except.ok.injEq, Except.ok.injEq]
  | error fault =>
    constructor
    · intro read
      cases read
    · intro read
      cases read

/-! ## White space put into a text -/

namespace Text

/-- The second text is the first one with white space put in, at any places. -/
inductive IsSpread : List Char → List Char → Prop
  | nil : IsSpread [] []
  | kept {cs ds : List Char} (c : Char) (rest : IsSpread cs ds) : IsSpread (c :: cs) (c :: ds)
  | blank {cs ds : List Char} {c : Char} (white : isBlank c = true) (rest : IsSpread cs ds) :
    IsSpread cs (c :: ds)

/-- White space put into a text without any is what dropping white space takes out. -/
theorem isSpread_iff {cs ds : List Char} (visible : ∀ c ∈ cs, isBlank c = false) :
    IsSpread cs ds ↔ ds.filter (fun c => !isBlank c) = cs := by
  constructor
  · intro spread
    induction spread with
    | nil => rfl
    | kept c rest ih =>
      rw [List.forall_mem_cons] at visible
      rw [List.filter_cons_of_pos (by rw [visible.1]; rfl), ih visible.2]
    | blank white rest ih =>
      rw [List.filter_cons_of_neg (by rw [white]; decide), ih visible]
  · rintro rfl
    clear visible
    induction ds with
    | nil => exact .nil
    | cons c ds ih =>
      cases white : isBlank c with
      | true =>
        rw [List.filter_cons_of_neg (by rw [white]; decide)]
        exact .blank white ih
      | false =>
        rw [List.filter_cons_of_pos (by rw [white]; rfl)]
        exact .kept c ih

end Text

theorem Base64.isSpread_encode_iff {bs : Bytes} {text : String} :
    Text.IsSpread (encode bs).toList text.toList ↔ Text.dropBlanks text = encode bs := by
  have visible : ∀ c ∈ (encode bs).toList, Text.isBlank c = false := by
    intro c mem
    rw [← dropBlanks_encode] at mem
    exact Text.isBlank_of_mem_dropBlanks mem
  rw [Text.isSpread_iff visible, Text.dropBlanks, ← String.toList_inj, String.toList_ofList]

/-- **Base64 text is exact up to white space.**  The text of an element decodes to bytes if and
only if there are any and it is their encoding with white space put in.  So what is left of it
without white space is the encoding, and two texts decode to the same bytes just if they are
the same without white space, and one of them decodes. -/
theorem decodeBase64Text_exact (what text text' : String) (bs : Bytes) :
    (decodeBase64Text what text = .ok bs ↔
      bs ≠ [] ∧ Text.IsSpread (Base64.encode bs).toList text.toList) ∧
    (decodeBase64Text what text = .ok bs ↔
      bs ≠ [] ∧ Text.dropBlanks text = Base64.encode bs) ∧
    ((∃ bs, decodeBase64Text what text = .ok bs ∧ decodeBase64Text what text' = .ok bs) ↔
      Text.dropBlanks text = Text.dropBlanks text' ∧ ∃ bs, decodeBase64Text what text = .ok bs) := by
  refine ⟨?_, decodeBase64Text_eq_ok_iff, ?_⟩
  · rw [decodeBase64Text_eq_ok_iff, Base64.isSpread_encode_iff]
  · simp only [decodeBase64Text_eq_ok_iff]
    constructor
    · rintro ⟨bs, ⟨filled, written⟩, -, written'⟩
      exact ⟨written.trans written'.symm, bs, filled, written⟩
    · rintro ⟨same, bs, filled, written⟩
      exact ⟨bs, ⟨filled, written⟩, filled, same.symm.trans written⟩

end SecurityTokens
