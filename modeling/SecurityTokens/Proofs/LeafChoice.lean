/-
# Which certificate is the leaf

The leaf among certificates is chosen by position.  A position is an end if the certificate
there issues none at another position; ends are preferred like this:

| end | preferred to |
| --- | --- |
| of no authority | all ends of authorities |
| before another one | that one, if both or neither are of authorities |

The choice falls on the end that no other one is preferred to, and on the last position if
there is no end (`leafPosition_spec`), so it is a position of the list.  Of certificates that
differ, positions need not be told apart: the first one is then an end of the list that no
certificate overtakes (`head?_leafFirst_eq_some_iff`).
-/

import Mathlib.Data.List.Perm.Basic
import SecurityTokens.Certificate.Leaf

namespace SecurityTokens
namespace Certificate

variable {cs : List Certificate} {i j : Nat}

/-! ## Ends -/

/-- The certificate at a position issues none at another position. -/
def IsEnd (cs : List Certificate) (i : Nat) : Prop :=
  ∃ c, cs[i]? = some c ∧ ∀ j d, cs[j]? = some d → j ≠ i → d.issuer ≠ c.subject

theorem issuesAnother_eq_false_iff {c : Certificate} (there : cs[i]? = some c) :
    issuesAnother cs i = false ↔ ∀ j d, cs[j]? = some d → j ≠ i → d.issuer ≠ c.subject := by
  rw [issuesAnother, there]
  dsimp only
  rw [List.any_eq_false]
  constructor
  · intro none j d found other same
    refine none d ?_ (beq_iff_eq.2 same)
    exact List.mem_eraseIdx_iff_getElem?.2 ⟨j, other, found⟩
  · intro none d mem same
    obtain ⟨j, other, found⟩ := List.mem_eraseIdx_iff_getElem?.1 mem
    exact none j d found other (beq_iff_eq.1 same)

theorem isEnd_iff : IsEnd cs i ↔ i < cs.length ∧ issuesAnother cs i = false := by
  constructor
  · rintro ⟨c, there, none⟩
    obtain ⟨inside, -⟩ := List.getElem?_eq_some_iff.1 there
    exact ⟨inside, (issuesAnother_eq_false_iff there).2 none⟩
  · rintro ⟨inside, none⟩
    have there : cs[i]? = some cs[i] := List.getElem?_eq_getElem inside
    exact ⟨cs[i], there, (issuesAnother_eq_false_iff there).1 none⟩

theorem mem_endPositions_iff : i ∈ endPositions cs ↔ IsEnd cs i := by
  rw [endPositions, List.mem_filter, List.mem_range, Bool.not_eq_true', isEnd_iff]

/-- The first end that passes a test. -/
theorem find?_endPositions_eq_some_iff {p : Nat → Bool} :
    (endPositions cs).find? p = some i ↔
      IsEnd cs i ∧ p i = true ∧ ∀ j, j < i → IsEnd cs j → p j = false := by
  rw [endPositions, List.find?_filter, List.find?_range_eq_some, List.mem_range,
    decide_eq_true_eq, isEnd_iff, Bool.not_eq_true']
  constructor
  · rintro ⟨⟨none, passes⟩, inside, earlier⟩
    refine ⟨⟨inside, none⟩, passes, fun j before other => ?_⟩
    have skipped := earlier j before
    rw [Bool.not_eq_true', decide_eq_false_iff_not, Bool.not_eq_true', not_and] at skipped
    exact Bool.eq_false_iff.2 (skipped (isEnd_iff.1 other).2)
  · rintro ⟨⟨inside, none⟩, passes, earlier⟩
    refine ⟨⟨none, passes⟩, inside, fun j before => ?_⟩
    rw [Bool.not_eq_true', decide_eq_false_iff_not, Bool.not_eq_true', not_and]
    intro other passesToo
    have fails := earlier j before (isEnd_iff.2 ⟨Nat.lt_trans before inside, other⟩)
    rw [fails] at passesToo
    cases passesToo

/-! ## The choice -/

/-- A position is preferred to another one: it alone is of no authority, or it comes first
and both or neither are of authorities. -/
def Preferred (cs : List Certificate) (j i : Nat) : Prop :=
  isAuthorityAt cs j = false ∧ isAuthorityAt cs i = true ∨
    isAuthorityAt cs j = isAuthorityAt cs i ∧ j < i

/-- Of two positions that differ, one is preferred to the other one. -/
theorem eq_of_not_preferred (first : ¬Preferred cs i j) (second : ¬Preferred cs j i) : i = j := by
  by_cases same : isAuthorityAt cs i = isAuthorityAt cs j
  · have notBefore : ¬i < j := fun before => first (.inr ⟨same, before⟩)
    have notAfter : ¬j < i := fun after => second (.inr ⟨same.symm, after⟩)
    omega
  · cases one : isAuthorityAt cs i with
    | false =>
      have other : isAuthorityAt cs j = true := by
        rw [one] at same
        exact Bool.ne_false_iff.1 (Ne.symm same)
      exact absurd (.inl ⟨one, other⟩) first
    | true =>
      have other : isAuthorityAt cs j = false := by
        rw [one] at same
        exact Bool.eq_false_iff.2 (Ne.symm same)
      exact absurd (.inl ⟨other, one⟩) second

/-- The leaf is at an end that no other one is preferred to, and at the last position if
there is no end. -/
theorem leafPosition_spec (cs : List Certificate) :
    (IsEnd cs (leafPosition cs) ∧ ∀ j, IsEnd cs j → ¬Preferred cs j (leafPosition cs)) ∨
      (∀ j, ¬IsEnd cs j) ∧ leafPosition cs = cs.length - 1 := by
  unfold leafPosition
  dsimp only
  cases subject : (endPositions cs).find? fun i => !isAuthorityAt cs i with
  | some i =>
    obtain ⟨isEnd, plain, earlier⟩ := find?_endPositions_eq_some_iff.1 subject
    rw [Bool.not_eq_true'] at plain
    rw [Option.some_or, Option.getD_some]
    refine .inl ⟨isEnd, ?_⟩
    rintro j other (⟨-, authority⟩ | ⟨same, before⟩)
    · exact Bool.false_ne_true (plain.symm.trans authority)
    · have authority := earlier j before other
      rw [Bool.not_eq_false', same, plain] at authority
      cases authority
  | none =>
    have authorities : ∀ j, IsEnd cs j → isAuthorityAt cs j = true := by
      intro j other
      have passedOver := List.find?_eq_none.1 subject j (mem_endPositions_iff.2 other)
      rwa [Bool.not_eq_true', Bool.not_eq_false] at passedOver
    have first : (endPositions cs).head? = (endPositions cs).find? fun _ => true := by
      cases endPositions cs with
      | nil => rfl
      | cons i ends => rfl
    rw [first]
    cases found : (endPositions cs).find? fun _ => true with
    | some i =>
      obtain ⟨isEnd, -, earlier⟩ := find?_endPositions_eq_some_iff.1 found
      refine .inl ⟨isEnd, ?_⟩
      rintro j other (⟨plain, -⟩ | ⟨-, before⟩)
      · exact Bool.false_ne_true (plain.symm.trans (authorities j other))
      · exact Bool.false_ne_true (earlier j before other).symm
    | none =>
      refine .inr ⟨fun j other => ?_, rfl⟩
      exact List.find?_eq_none.1 found j (mem_endPositions_iff.2 other) rfl

/-- The position is one of the list. -/
theorem leafPosition_lt (filled : cs ≠ []) : leafPosition cs < cs.length := by
  obtain ⟨isEnd, -⟩ | ⟨-, last⟩ := leafPosition_spec cs
  · exact (isEnd_iff.1 isEnd).1
  · have positive : 0 < cs.length := List.length_pos_iff.2 filled
    omega

/-- An end is the leaf just if no other one is preferred to it. -/
theorem leafPosition_eq_iff (isEnd : IsEnd cs i) :
    leafPosition cs = i ↔ ∀ j, IsEnd cs j → ¬Preferred cs j i := by
  obtain ⟨chosen, best⟩ | ⟨none, -⟩ := leafPosition_spec cs
  · constructor
    · rintro rfl
      exact best
    · intro least
      exact eq_of_not_preferred (least _ chosen) (best i isEnd)
  · exact absurd isEnd (none i)

/-! ## The leaf in front -/

/-- The leaf is in front, and the others keep their order. -/
theorem exists_leafFirst_eq (filled : cs ≠ []) : ∃ c, cs[leafPosition cs]? = some c ∧
    leafFirst cs = c :: cs.eraseIdx (leafPosition cs) := by
  have there := List.getElem?_eq_getElem (leafPosition_lt filled)
  refine ⟨_, there, ?_⟩
  rw [leafFirst, there]
  rfl

/-- No certificate is lost or repeated. -/
theorem leafFirst_perm (cs : List Certificate) : (leafFirst cs).Perm cs := by
  by_cases filled : cs = []
  · subst filled
    exact .refl []
  · obtain ⟨c, there, moved⟩ := exists_leafFirst_eq filled
    obtain ⟨inside, rfl⟩ := List.getElem?_eq_some_iff.1 there
    rw [moved]
    exact List.getElem_cons_eraseIdx_perm inside

/-! ## Certificates that differ -/

/-- A certificate of a list that issues no other of them and comes before the leaf in the
choice: it alone is no authority, or it stands first and both or neither are authorities. -/
structure Overtakes (cs : List Certificate) (leaf other : Certificate) : Prop where
  mem : other ∈ cs
  issuesNone : ∀ c ∈ cs, c ≠ other → c.issuer ≠ other.subject
  ahead : other.isAuthority = false ∧ leaf.isAuthority = true ∨
    other.isAuthority = leaf.isAuthority ∧ cs.idxOf other < cs.idxOf leaf

variable {c leaf other : Certificate}

/-- Among certificates that differ, a position is an end if its certificate issues none of
the others. -/
theorem isEnd_iff_of_nodup (distinct : cs.Nodup) (there : cs[i]? = some c) :
    IsEnd cs i ↔ ∀ d ∈ cs, d ≠ c → d.issuer ≠ c.subject := by
  constructor
  · rintro ⟨c', there', none⟩ d mem different
    obtain rfl : c' = c := Option.some.inj (there'.symm.trans there)
    obtain ⟨j, found⟩ := List.mem_iff_getElem?.1 mem
    refine none j d found ?_
    rintro rfl
    exact different (Option.some.inj (found.symm.trans there))
  · intro none
    refine ⟨c, there, fun j d found apart => none d (List.mem_of_getElem? found) ?_⟩
    rintro rfl
    obtain ⟨inside, -⟩ := List.getElem?_eq_some_iff.1 found
    exact apart ((List.getElem?_inj inside distinct).1 (found.trans there.symm))

/-- Among certificates that differ, a position is known by its certificate. -/
theorem idxOf_of_nodup (distinct : cs.Nodup) (there : cs[i]? = some c) : cs.idxOf c = i := by
  obtain ⟨inside, rfl⟩ := List.getElem?_eq_some_iff.1 there
  exact distinct.idxOf_getElem i inside

theorem preferred_iff_of_nodup (distinct : cs.Nodup) (one : cs[j]? = some other)
    (two : cs[i]? = some leaf) : Preferred cs j i ↔
      other.isAuthority = false ∧ leaf.isAuthority = true ∨
        other.isAuthority = leaf.isAuthority ∧ cs.idxOf other < cs.idxOf leaf := by
  have authority {i : Nat} {c : Certificate} (there : cs[i]? = some c) :
      isAuthorityAt cs i = c.isAuthority := by
    rw [isAuthorityAt, there]
    rfl
  rw [Preferred, authority one, authority two, idxOf_of_nodup distinct one,
    idxOf_of_nodup distinct two]

/-- Among certificates that differ, one that issues none of the others comes first just if
no certificate overtakes it. -/
theorem head?_leafFirst_eq_some_iff (distinct : cs.Nodup) (mem : leaf ∈ cs)
    (issuesNone : ∀ c ∈ cs, c ≠ leaf → c.issuer ≠ leaf.subject) :
    (leafFirst cs).head? = some leaf ↔ ∀ other, ¬Overtakes cs leaf other := by
  obtain ⟨i, there⟩ := List.mem_iff_getElem?.1 mem
  have isEnd : IsEnd cs i := (isEnd_iff_of_nodup distinct there).2 issuesNone
  have inside : leafPosition cs < cs.length := leafPosition_lt (List.ne_nil_of_mem mem)
  have position : (leafFirst cs).head? = some leaf ↔ leafPosition cs = i := by
    obtain ⟨c, front, moved⟩ := exists_leafFirst_eq (List.ne_nil_of_mem mem)
    rw [moved, List.head?_cons, ← front, ← there, List.getElem?_inj inside distinct]
  rw [position, leafPosition_eq_iff isEnd]
  constructor
  · rintro none other ⟨mem, issuesNone, ahead⟩
    obtain ⟨j, found⟩ := List.mem_iff_getElem?.1 mem
    exact none j ((isEnd_iff_of_nodup distinct found).2 issuesNone)
      ((preferred_iff_of_nodup distinct found there).2 ahead)
  · intro none j isEnd preferred
    obtain ⟨other, found, -⟩ := id isEnd
    exact none other ⟨List.mem_of_getElem? found, (isEnd_iff_of_nodup distinct found).1 isEnd,
      (preferred_iff_of_nodup distinct found there).1 preferred⟩

end Certificate
end SecurityTokens
