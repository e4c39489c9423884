/-
# Armour keeps what is inside

Armour around bytes is their base64 text in lines between two boundaries.  It may be written
in six ways, all of which are read:

| | line feeds | carriage returns | both |
| --- | --- | --- | --- |
| line end at the end | yes | yes | yes |
| none | yes | yes | yes |

Taking it off goes through three layers: the boundaries (`enclosed?_armour`), the lines
(`exists_lines?_broken`) and the quads, of which the last is decoded apart from the others
(`exists_lastQuad`).  What comes out is what was put in, and all of it can be read
(`content?_armour`).
-/

import SecurityTokens.Pem
import SecurityTokens.Proofs.Base64

namespace SecurityTokens

/-! ## The last quad -/

namespace Base64

variable (a b c : UInt8) {bs : Bytes}

theorem decodeQuads_three (rest : Bytes) :
    decodeQuads ((sextets [a, b, c]).map symbol ++ rest) = a :: b :: c :: decodeQuads rest := by
  have small : ∀ n ∈ sextets [a, b, c], n < 64 := fun n => lt_of_mem_sextets
  have bytes := Except.ok.inj (closeQuad_three 0 [] a b c)
  simp only [sextets, List.forall_mem_cons] at small
  obtain ⟨p, q, r, s, -⟩ := small
  simp only [sextets, List.map_cons, List.map_nil, List.cons_append, List.nil_append, decodeQuads,
    List.mapM_cons, List.mapM_nil, value?_symbol p, value?_symbol q, value?_symbol r,
    value?_symbol s]
  exact congrArg (· ++ decodeQuads rest) bytes

/-- At most three bytes make one quad, which is read as the last one. -/
theorem decodeLast_encodeBytes (offset : Nat) (filled : bs ≠ []) (few : bs.length ≤ 3) :
    (encodeBytes bs).length = 4 ∧ decodeLast offset (encodeBytes bs) = .ok bs := by
  have small (cs : Bytes) : ∀ n ∈ sextets cs, n < 64 := fun n => lt_of_mem_sextets
  match bs, few with
  | [a], _ =>
    have closed := closeQuad_one offset ((sextets [a]).map symbol) a
    exact ⟨rfl, (decodeLast_symbols 2 (small _) (by simp [sextets])).trans closed⟩
  | [a, b], _ =>
    have closed := closeQuad_two offset ((sextets [a, b]).map symbol) a b
    exact ⟨rfl, (decodeLast_symbols 1 (small _) (by simp [sextets])).trans closed⟩
  | [a, b, c], _ =>
    have closed := closeQuad_three offset ((sextets [a, b, c]).map symbol) a b c
    exact ⟨rfl, (decodeLast_symbols 0 (small _) (by simp [sextets])).trans closed⟩

/-- The text of bytes is that of whole threes and a last quad. -/
theorem exists_lastQuad (filled : bs ≠ []) :
    ∃ front last : Bytes, bs = front ++ last ∧ last ≠ [] ∧ last.length ≤ 3 ∧
      encodeBytes bs = encodeBytes front ++ encodeBytes last ∧
      decodeQuads (encodeBytes front) = front ∧
      (encodeBytes front).length / 4 * 3 = front.length := by
  induction bs using encodeBytes.induct with
  | case1 a b c rest ih =>
    by_cases done : rest = []
    · subst done
      exact ⟨[], [a, b, c], rfl, List.cons_ne_nil _ _, Nat.le_refl 3, rfl, rfl, rfl⟩
    · obtain ⟨front, last, rfl, left, few, written, read, count⟩ := ih done
      refine ⟨a :: b :: c :: front, last, rfl, left, few, ?_, ?_, ?_⟩
      · rw [encodeBytes_three, written, encodeBytes_three, List.append_assoc]
      · rw [encodeBytes_three, decodeQuads_three, read]
      · have quad : ((sextets [a, b, c]).map symbol).length = 4 := rfl
        rw [encodeBytes_three, List.length_append, quad]
        simp only [List.length_cons]
        omega
  | case2 a b => exact ⟨[], [a, b], rfl, List.cons_ne_nil _ _, by simp, rfl, rfl, rfl⟩
  | case3 a => exact ⟨[], [a], rfl, List.cons_ne_nil _ _, by simp, rfl, rfl, rfl⟩
  | case4 => exact absurd rfl filled

end Base64

namespace Pem

/-! ## Line ends -/

/-- How the lines of a text end. -/
inductive LineEnd where
  | lineFeed
  | carriageReturn
  | both
deriving DecidableEq, Repr

/-- The bytes of a line end. -/
def LineEnd.bytes : LineEnd → Bytes
  | .lineFeed => [0x0A]
  | .carriageReturn => [0x0D]
  | .both => [0x0D, 0x0A]

/-- A byte that is no part of a line end. -/
def IsVisible (b : UInt8) : Prop := b ≠ 0x0A ∧ b ≠ 0x0D

variable {e : LineEnd} {b : UInt8} {text rest : Bytes}

theorem afterLineEnd?_bytes (visible : IsVisible b) :
    afterLineEnd? (e.bytes ++ b :: rest) = some (b :: rest) := by
  cases e with
  | lineFeed => rfl
  | both => rfl
  | carriageReturn =>
    show afterLineEnd? (0x0D :: b :: rest) = _
    unfold afterLineEnd?
    split
    next same =>
      obtain ⟨-, same⟩ := List.cons.inj same
      exact absurd (List.cons.inj same).1 visible.1
    next same =>
      obtain ⟨-, rfl⟩ := List.cons.inj same
      rfl
    next same => exact absurd (List.cons.inj same).1 (by decide)
    next other _ => exact absurd rfl (other _)

theorem beforeLineEnd?_bytes (visible : IsVisible b) :
    beforeLineEnd? (e.bytes.reverse ++ b :: rest) = some (b :: rest) := by
  cases e with
  | carriageReturn => rfl
  | both => rfl
  | lineFeed =>
    show beforeLineEnd? (0x0A :: b :: rest) = _
    unfold beforeLineEnd?
    split
    next same =>
      obtain ⟨-, same⟩ := List.cons.inj same
      exact absurd (List.cons.inj same).1 visible.2
    next same =>
      obtain ⟨-, rfl⟩ := List.cons.inj same
      rfl
    next same => exact absurd (List.cons.inj same).1 (by decide)
    next other _ => exact absurd rfl (other _)

theorem beforeLineEnd?_visible (visible : IsVisible b) : beforeLineEnd? (b :: rest) = none := by
  unfold beforeLineEnd?
  split
  next same => exact absurd (List.cons.inj same).1 visible.1
  next same => exact absurd (List.cons.inj same).1 visible.1
  next same => exact absurd (List.cons.inj same).1 visible.2
  next => rfl

/-! ## Lines -/

/-- Text in full lines and a last one, with line ends between them. -/
def broken (e : LineEnd) (text : Bytes) : Bytes :=
  if text.length ≤ lineLength then text
  else text.take lineLength ++ (e.bytes ++ broken e (text.drop lineLength))
termination_by text.length
decreasing_by
  rename_i h
  rw [List.length_drop]
  simp only [lineLength] at *
  omega

theorem splitLines_eq_broken (text : Bytes) :
    splitLines text = broken .lineFeed text ++ [0x0A] := by
  fun_induction splitLines text with
  | case1 text short => rw [broken, if_pos short]
  | case2 text long ih =>
    rw [broken, if_neg long, ih, List.append_assoc]
    rfl

/-- The first and the last byte of a broken text are bytes of the text. -/
theorem exists_ends_broken (e : LineEnd) (filled : text ≠ []) :
    (∃ b ∈ text, ∃ rest, broken e text = b :: rest) ∧
      ∃ b ∈ text, ∃ rest, (broken e text).reverse = b :: rest := by
  fun_induction broken e text with
  | case1 text short =>
    constructor
    · obtain ⟨b, rest, rfl⟩ := List.exists_cons_of_ne_nil filled
      exact ⟨b, List.mem_cons_self, rest, rfl⟩
    · obtain ⟨b, rest, ends⟩ := List.exists_cons_of_ne_nil (List.reverse_ne_nil_iff.2 filled)
      exact ⟨b, List.mem_reverse.1 (ends ▸ List.mem_cons_self), rest, ends⟩
  | case2 text long ih =>
    have left : text.drop lineLength ≠ [] := by
      rw [Ne, List.drop_eq_nil_iff]
      exact long
    obtain ⟨-, b, mem, front, ends⟩ := ih left
    constructor
    · obtain ⟨b, rest, rfl⟩ := List.exists_cons_of_ne_nil filled
      exact ⟨b, List.mem_cons_self, _, rfl⟩
    · refine ⟨b, List.mem_of_mem_drop mem,
        front ++ e.bytes.reverse ++ (text.take lineLength).reverse, ?_⟩
      rw [List.reverse_append, List.reverse_append, ends]
      rfl

/-- After a full line, what follows its end is read. -/
theorem lines?_of_full (long : ¬ text.length ≤ lineLength)
    (after : afterLineEnd? (text.drop lineLength) = some rest) (filled : rest ≠ []) :
    lines? text = (lines? rest).map (text.take lineLength :: ·) := by
  rw [lines?, if_neg long]
  split
  next rest' after' =>
    rw [after] at after'
    obtain rfl := Option.some.inj after'
    exact if_neg (by simpa using filled)
  next unread =>
    rw [after] at unread
    cases unread

/-- Breaking a text into lines keeps its bytes; none of the lines is empty. -/
theorem exists_lines?_broken (e : LineEnd) (filled : text ≠ [])
    (visible : ∀ b ∈ text, IsVisible b) :
    ∃ lines, lines? (broken e text) = some lines ∧ lines.flatten = text ∧
      lines.getLast? ≠ some [] := by
  fun_induction broken e text with
  | case1 text short =>
    have whole : dropLineEnd text = text := by
      obtain ⟨b, rest, ends⟩ := List.exists_cons_of_ne_nil (List.reverse_ne_nil_iff.2 filled)
      have last : IsVisible b := visible b (List.mem_reverse.1 (ends ▸ List.mem_cons_self))
      rw [dropLineEnd, ends, beforeLineEnd?_visible last]
    refine ⟨[text], ?_, List.flatten_singleton, ?_⟩
    · rw [lines?, if_pos short, whole]
    · simpa using filled
  | case2 text long ih =>
    have left : text.drop lineLength ≠ [] := by
      rw [Ne, List.drop_eq_nil_iff]
      exact long
    have stillVisible : ∀ b ∈ text.drop lineLength, IsVisible b :=
      fun b mem => visible b (List.mem_of_mem_drop mem)
    obtain ⟨lines, read, same, last⟩ := ih left stillVisible
    obtain ⟨⟨b, mem, rest, begins⟩, -⟩ := exists_ends_broken e left
    have full : (text.take lineLength).length = lineLength :=
      List.length_take_of_le (Nat.le_of_not_le long)
    have after : afterLineEnd? (e.bytes ++ broken e (text.drop lineLength))
        = some (broken e (text.drop lineLength)) := by
      rw [begins]
      exact afterLineEnd?_bytes (stillVisible b mem)
    refine ⟨text.take lineLength :: lines, ?_, ?_, ?_⟩
    · have more : ¬ (text.take lineLength ++ (e.bytes ++ broken e (text.drop lineLength))).length
          ≤ lineLength := by
        have : 0 < e.bytes.length := by cases e <;> decide
        rw [List.length_append, List.length_append, full]
        omega
      have next : broken e (text.drop lineLength) ≠ [] := by
        rw [begins]
        exact List.cons_ne_nil _ _
      rw [lines?_of_full more (by rwa [List.drop_left' full]) next, read, List.take_left' full]
      rfl
    · rw [List.flatten_cons, same, List.take_append_drop]
    · cases lines with
      | nil => exact absurd same.symm left
      | cons line lines => rwa [List.getLast?_cons_cons]

/-! ## Armour -/

/-- The armour around bytes, with or without a line end at its end. -/
def armour (e : LineEnd) (closed : Bool) (bs : Bytes) : Bytes :=
  openingBoundary ++ label ++ (e.bytes ++ (broken e (Base64.encodeBytes bs)
    ++ (e.bytes ++ (closingBoundary ++ label ++ if closed then e.bytes else []))))

/-- The armour that is written is one of those. -/
theorem encode_eq_armour (bs : Bytes) : encode bs = armour .lineFeed true bs := by
  rw [encode, splitLines_eq_broken, armour]
  simp only [LineEnd.bytes, List.append_assoc, List.cons_append, List.nil_append, if_true]

theorem isPrefixOf_opening_armour (closed : Bool) (bs : Bytes) :
    opening.isPrefixOf (armour e closed bs) = true := by
  have boundary : openingBoundary = opening ++ [0x20] := by decide +kernel
  rw [List.isPrefixOf_iff_prefix, armour, boundary]
  simp only [List.append_assoc]
  exact List.prefix_append _ _

theorem dropLeading?_append (leading text : Bytes) :
    dropLeading? leading (leading ++ text) = some text := by
  rw [dropLeading?, if_pos (List.isPrefixOf_iff_prefix.2 (List.prefix_append _ _)), List.drop_left]

theorem isVisible_of_mem_encodeBytes {bs : Bytes} (mem : b ∈ Base64.encodeBytes bs) :
    IsVisible b := by
  have symbols : ∀ n : Fin 64, Base64.symbol n ≠ 0x0A ∧ Base64.symbol n ≠ 0x0D := by decide
  rcases Base64.mem_encodeBytes bs mem with ⟨n, small, rfl⟩ | rfl
  · exact symbols ⟨n, small⟩
  · exact ⟨by decide, by decide⟩

theorem encodeBytes_ne_nil {bs : Bytes} (filled : bs ≠ []) : Base64.encodeBytes bs ≠ [] := by
  intro empty
  have read := Base64.decodeFrom_encodeBytes bs 0
  rw [empty] at read
  exact filled (Except.ok.inj read).symm

/-- Between the boundaries stands the text in its lines. -/
theorem enclosed?_armour (closed : Bool) {bs : Bytes} (filled : bs ≠ []) :
    enclosed? (armour e closed bs) = some (broken e (Base64.encodeBytes bs)) := by
  obtain ⟨⟨first, mem, after, begins⟩, last, mem', before, ends⟩ :=
    exists_ends_broken e (encodeBytes_ne_nil filled)
  have opened : openingBoundary.isPrefixOf (armour e closed bs) = true := by
    rw [List.isPrefixOf_iff_prefix, armour, List.append_assoc]
    exact List.prefix_append _ _
  have body : ∀ tail, afterLineEnd? (e.bytes ++ (broken e (Base64.encodeBytes bs) ++ tail))
      = some (broken e (Base64.encodeBytes bs) ++ tail) := by
    intro tail
    rw [begins]
    exact afterLineEnd?_bytes (isVisible_of_mem_encodeBytes mem)
  obtain ⟨boundary, backwards⟩ :
      ∃ boundary, (closingBoundary ++ label).reverse = 0x2D :: boundary :=
    List.head?_eq_some_iff.1 (by decide +kernel)
  have dash : IsVisible 0x2D := ⟨by decide, by decide⟩
  rw [enclosed?, if_pos opened]
  simp only [Option.bind_eq_bind, Option.bind_some, armour, dropLeading?_append, body]
  generalize closingBoundary ++ label = closing at backwards ⊢
  simp only [List.reverse_append, List.append_assoc, ends]
  -- A line end at the end is dropped; without one there is a dash, and nothing to drop.
  have dropped : (beforeLineEnd? ((if closed then e.bytes else []).reverse
        ++ (closing.reverse ++ (e.bytes.reverse ++ last :: before)))).getD
      ((if closed then e.bytes else []).reverse
        ++ (closing.reverse ++ (e.bytes.reverse ++ last :: before)))
      = closing.reverse ++ (e.bytes.reverse ++ last :: before) := by
    rw [backwards, List.cons_append]
    cases closed with
    | true => exact congrArg (Option.getD · _) (beforeLineEnd?_bytes dash)
    | false => exact congrArg (Option.getD · _) (beforeLineEnd?_visible dash)
  rw [dropped, dropLeading?_append, Option.bind_some,
    beforeLineEnd?_bytes (isVisible_of_mem_encodeBytes mem'), ← ends, Option.bind_some,
    List.reverse_reverse]
  rfl

/-- **What is put into armour is what comes out of it**, and all of it can be read. -/
theorem content?_armour (closed : Bool) {bs : Bytes} (filled : bs ≠ []) :
    content? (armour e closed bs) = some ⟨bs.length, bs⟩ := by
  obtain ⟨lines, read, same, ending⟩ := exists_lines?_broken e (encodeBytes_ne_nil filled)
    fun b mem => isVisible_of_mem_encodeBytes mem
  obtain ⟨front, last, rfl, filled', few, written, quads, count⟩ := Base64.exists_lastQuad filled
  have start : (Base64.encodeBytes (front ++ last)).length - 4
      = (Base64.encodeBytes front).length := by
    have four := (Base64.decodeLast_encodeBytes 0 filled' few).1
    rw [written, List.length_append, four, Nat.add_sub_cancel]
  have lastQuad := (Base64.decodeLast_encodeBytes (Base64.encodeBytes front).length filled' few).2
  rw [content?, enclosed?_armour closed filled]
  simp only [Option.bind_eq_bind, Option.bind_some, read, same, start,
    Base64.length_encodeBytes_mod, if_true]
  rw [written, List.drop_left, List.take_left, lastQuad, quads]
  simp only [Except.toOption, Option.bind_some, count, List.length_append, true_and]
  rw [if_pos (.inr ending)]
  rfl

/-- There is no armour around nothing. -/
theorem content?_armour_nil (closed : Bool) : content? (armour e closed []) = none := by
  cases e <;> cases closed <;> decide +kernel

/-- If all of a content can be read, any number of bytes can be taken from it. -/
theorem Content.serves_of_readable (bs : Bytes) (used : Nat) :
    Content.serves ⟨bs.length, bs⟩ used = true :=
  decide_eq_true (Nat.min_le_left _ _)

end Pem
end SecurityTokens
