/-
# A derived key is a window of a stream

Each link of the chain of a secret and a seed gives a block of twenty bytes, so secret
and seed give a stream without end (`streamByte`).  A key is asked for by its place in
the stream, and what is written for it ends with a whole block:

| position | what is there |
| --- | --- |
| `offset` to `offset + length` | the key |
| 0 to `20 * n` | what is written, for the first `n` that reaches the end of the key |

What is written after any number of blocks is the stream up to there (`Written`), and
blocks are written until there are enough bytes (`Expansion.upTo`).  Since the key is cut
out of it by position alone, keys that lie next to each other make up one key
(`pSha1_exact`).
-/

import SecurityTokens.Proofs.KeyLengths

namespace SecurityTokens
namespace KeyDerivation

variable {secret seed key : Bytes} {offset length : Nat}

/-! ## The stream -/

@[simp] theorem length_block (secret seed : Bytes) (i : Nat) :
    (block secret seed i).length = 20 :=
  Hmac.length_sha1 _ _

/-- Byte `i` of the stream. -/
def streamByte (secret seed : Bytes) (i : Nat) : UInt8 :=
  (block secret seed (i / 20)).get ⟨i % 20, by rw [length_block]; omega⟩

/-- Bytes `offset` up to `offset + length` of the stream. -/
def window (secret seed : Bytes) (offset length : Nat) : Bytes :=
  (List.range length).map fun i => streamByte secret seed (offset + i)

@[simp] theorem length_window (secret seed : Bytes) (offset length : Nat) :
    (window secret seed offset length).length = length := by
  rw [window, List.length_map, List.length_range]

theorem getElem?_window {i : Nat} (inside : i < length) :
    (window secret seed offset length)[i]? = some (streamByte secret seed (offset + i)) := by
  rw [window, List.getElem?_map, List.getElem?_range inside, Option.map_some]

/-- A window is made up of the two windows it is cut into. -/
theorem window_add (secret seed : Bytes) (offset a b : Nat) :
    window secret seed offset (a + b)
      = window secret seed offset a ++ window secret seed (offset + a) b := by
  rw [window, List.range_add, List.map_append, List.map_map]
  refine congrArg (window secret seed offset a ++ ·) (List.map_congr_left fun i _ => ?_)
  rw [Function.comp_apply, Nat.add_assoc]

/-- The windows of twenty bytes that begin where a block does are the blocks. -/
theorem window_block (secret seed : Bytes) (i : Nat) :
    window secret seed (20 * i) 20 = block secret seed i := by
  refine List.ext_getElem (by rw [length_window, length_block]) fun j within _ => ?_
  rw [length_window] at within
  have place : (20 * i + j) / 20 = i ∧ (20 * i + j) % 20 = j := by omega
  simp only [window, List.getElem_map, List.getElem_range, streamByte, place, List.get_eq_getElem]

/-- A window of what is written from the beginning. -/
theorem drop_take_window {n : Nat} (within : offset + length ≤ n) :
    ((window secret seed 0 n).drop offset).take length = window secret seed offset length := by
  obtain ⟨rest, rfl⟩ : ∃ rest, n = offset + (length + rest) := ⟨n - (offset + length), by omega⟩
  rw [window_add, window_add, Nat.zero_add, List.drop_left' (length_window ..),
    List.take_left' (length_window ..)]

/-- The blocks after link `i` of the chain are those of the stream from block `i` on. -/
theorem blocksAfter_chain (secret seed : Bytes) (count i : Nat) :
    blocksAfter secret seed count (chain secret seed i)
      = window secret seed (20 * i) (20 * count) := by
  induction count generalizing i with
  | zero => rfl
  | succ count ih =>
    have next : Hmac.sha1 secret (chain secret seed i) = chain secret seed (i + 1) := rfl
    have first : Hmac.sha1 secret (chain secret seed (i + 1) ++ seed) = block secret seed i := rfl
    have whole : 20 * (count + 1) = 20 + 20 * count := by omega
    rw [blocksAfter, next, ih, first, whole, window_add, window_block, Nat.mul_succ]

/-! ## Writing the stream -/

/-- What has been written of the stream, with the link of the chain that was last used. -/
structure Expansion where
  output : Bytes
  link : Bytes

namespace Expansion

/-- Nothing is written yet. -/
def start (seed : Bytes) : Expansion := ⟨[], seed⟩

/-- Writes one more block. -/
def extend (secret seed : Bytes) (x : Expansion) : Expansion :=
  let next := Hmac.sha1 secret x.link
  ⟨x.output ++ Hmac.sha1 secret (next ++ seed), next⟩

/-- Writes blocks until there are enough bytes. -/
def upTo (secret seed : Bytes) (required : Nat) (x : Expansion) : Expansion :=
  if x.output.length < required then upTo secret seed required (x.extend secret seed) else x
termination_by required - x.output.length
decreasing_by
  -- A block is not empty, so every round comes nearer to the end.
  have longer : (x.extend secret seed).output.length = x.output.length + 20 := by
    rw [extend, List.length_append, Hmac.length_sha1]
  omega

end Expansion

/-- The first blocks of the stream are written. -/
structure Written (secret seed : Bytes) (blocks : Nat) (x : Expansion) : Prop where
  output : x.output = window secret seed 0 (20 * blocks)
  link : x.link = chain secret seed blocks

namespace Written

variable {blocks : Nat} {x : Expansion}

theorem start (secret seed : Bytes) : Written secret seed 0 (.start seed) := ⟨rfl, rfl⟩

theorem length_output (h : Written secret seed blocks x) : x.output.length = 20 * blocks := by
  rw [h.output, length_window]

/-- One round writes the next block. -/
theorem extend (h : Written secret seed blocks x) :
    Written secret seed (blocks + 1) (x.extend secret seed) := by
  have next : Hmac.sha1 secret x.link = chain secret seed (blocks + 1) := by
    rw [h.link]
    rfl
  refine ⟨?_, next⟩
  rw [Nat.mul_succ, window_add, Nat.zero_add, window_block, ← h.output, block, ← next]
  rfl

/-- **Writing ends**, with enough bytes and with less than a block more than that. -/
theorem upTo {required : Nat} (h : Written secret seed blocks x)
    (needed : 20 * blocks < required + 20) :
    ∃ n, Written secret seed n (x.upTo secret seed required) ∧
      required ≤ 20 * n ∧ 20 * n < required + 20 := by
  fun_induction Expansion.upTo secret seed required x generalizing blocks with
  | case1 x short ih =>
    rw [h.length_output] at short
    exact ih h.extend (by omega)
  | case2 x enough =>
    rw [h.length_output] at enough
    exact ⟨blocks, h, by omega, needed⟩

end Written

/-! ## Keys -/

/-- A key that can be asked for: the secret is not empty, and the window is neither empty
nor beyond the limits. -/
structure Admits (secret : Bytes) (offset length : Nat) : Prop where
  filled : secret ≠ []
  positive : 1 ≤ length
  short : length ≤ 1024
  reached : offset + length ≤ 65536

/-- A key is the window that is asked for. -/
theorem pSha1_eq_window_iff :
    pSha1 secret seed offset length = .ok key ↔
      Admits secret offset length ∧ key = window secret seed offset length := by
  have enough : offset + length ≤ 20 * ((offset + length + 19) / 20) := by omega
  have stream : blocksAfter secret seed ((offset + length + 19) / 20) seed
      = window secret seed 0 (20 * ((offset + length + 19) / 20)) :=
    blocksAfter_chain secret seed _ 0
  rw [pSha1_eq_ok_iff, stream, drop_take_window enough]
  constructor
  · rintro ⟨filled, positive, short, reached, same⟩
    exact ⟨⟨filled, positive, short, reached⟩, same⟩
  · rintro ⟨⟨filled, positive, short, reached⟩, same⟩
    exact ⟨filled, positive, short, reached, same⟩

/-- A key is cut out of what is written up to its end, where all of it lies. -/
theorem window_eq_of_upTo (secret seed : Bytes) (offset length : Nat) :
    let written := ((Expansion.start seed).upTo secret seed (offset + length)).output
    offset + length ≤ written.length ∧
      window secret seed offset length = (written.take (offset + length)).drop offset := by
  have needed : 20 * 0 < offset + length + 20 := by omega
  obtain ⟨n, written, enough, -⟩ := (Written.start secret seed).upTo needed
  refine ⟨?_, ?_⟩
  · rw [written.length_output]
    exact enough
  · rw [written.output, List.drop_take, Nat.add_sub_cancel_left, drop_take_window enough]

/-- A part of a window that can be asked for can be asked for. -/
theorem Admits.part {place part : Nat} (h : Admits secret offset length) (positive : 1 ≤ part)
    (after : offset ≤ place) (within : place + part ≤ offset + length) :
    Admits secret place part where
  filled := h.filled
  positive := positive
  short := by
    have := h.short
    omega
  reached := by
    have := h.reached
    omega

/-- **A derived key is an exact window of the stream.**  It is given just if the secret is
not empty and the window lies within the limits.  Then its bytes are those of the stream,
as many as asked for; it is cut out of what is written of the stream until the end of the
window is reached; and it is made up of the keys of the two windows it is cut into. -/
theorem pSha1_exact (secret seed : Bytes) (offset length : Nat) :
    ((∃ key, pSha1 secret seed offset length = .ok key) ↔
      secret ≠ [] ∧ 1 ≤ length ∧ length ≤ 1024 ∧ offset + length ≤ 65536) ∧
    (∀ key, pSha1 secret seed offset length = .ok key →
      key.length = length ∧
      (∀ i < length, key[i]? = some (streamByte secret seed (offset + i))) ∧
      (let written := ((Expansion.start seed).upTo secret seed (offset + length)).output
       offset + length ≤ written.length ∧ key = (written.take (offset + length)).drop offset) ∧
      ∀ a b, 0 < a → 0 < b → length = a + b →
        ∃ front back, pSha1 secret seed offset a = .ok front ∧
          pSha1 secret seed (offset + a) b = .ok back ∧ key = front ++ back) := by
  constructor
  · constructor
    · rintro ⟨key, given⟩
      obtain ⟨admits, -⟩ := pSha1_eq_window_iff.1 given
      exact ⟨admits.filled, admits.positive, admits.short, admits.reached⟩
    · rintro ⟨filled, positive, short, reached⟩
      exact ⟨_, pSha1_eq_window_iff.2 ⟨⟨filled, positive, short, reached⟩, rfl⟩⟩
  · intro key given
    obtain ⟨admits, rfl⟩ := pSha1_eq_window_iff.1 given
    refine ⟨length_window .., fun i inside => getElem?_window inside,
      window_eq_of_upTo secret seed offset length, ?_⟩
    rintro a b positiveA positiveB rfl
    have front : Admits secret offset a := admits.part positiveA (Nat.le_refl offset) (by omega)
    have back : Admits secret (offset + a) b := admits.part positiveB (by omega) (by omega)
    exact ⟨_, _, pSha1_eq_window_iff.2 ⟨front, rfl⟩, pSha1_eq_window_iff.2 ⟨back, rfl⟩,
      window_add secret seed offset a b⟩

end KeyDerivation
end SecurityTokens
