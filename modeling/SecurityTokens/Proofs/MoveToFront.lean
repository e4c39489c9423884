/-
# The leaf moves to the front

The certificates of a `ds:X509Data` are given in the order in which they stand, but for one of
them, the leaf, which is moved to the front.  Which one it is depends on all of the others:

| the leaf is at | if |
| --- | --- |
| the first end that is of no authority | there is one |
| the first end | all ends are of authorities |
| the last position | there is no end |

Names may lead from certificates to others in any way, in circles too, and a certificate may
stand there twice.  There is one position by these rules all the same
(`isLeafPosition_iff`), and one order (`movesLeaf_iff`), so what is given is known from what
stands there (`certificatesOf_eq_ok_iff`).
-/

import SecurityTokens.KeyInfo
import SecurityTokens.Proofs.LeafChoice
import SecurityTokens.Proofs.Success

namespace SecurityTokens
namespace Certificate

variable {cs moved : List Certificate} {i : Nat}

/-- The position of the leaf, by the first of three rules that applies. -/
inductive IsLeafPosition (cs : List Certificate) : Nat → Prop
  | subject {i : Nat} (isEnd : IsEnd cs i) (plain : isAuthorityAt cs i = false)
    (first : ∀ j < i, IsEnd cs j → isAuthorityAt cs j = true) : IsLeafPosition cs i
  | authority {i : Nat} (isEnd : IsEnd cs i) (first : ∀ j < i, ¬IsEnd cs j)
    (noSubject : ∀ j, IsEnd cs j → isAuthorityAt cs j = true) : IsLeafPosition cs i
  | last (noEnd : ∀ j, ¬IsEnd cs j) : IsLeafPosition cs (cs.length - 1)

/-- The rules lead to one position. -/
theorem isLeafPosition_iff : IsLeafPosition cs i ↔ leafPosition cs = i := by
  constructor
  · intro position
    cases position with
    | subject isEnd plain first =>
      refine (leafPosition_eq_iff isEnd).2 ?_
      rintro j other (⟨-, authority⟩ | ⟨same, before⟩)
      · exact Bool.false_ne_true (plain.symm.trans authority)
      · exact Bool.false_ne_true (plain.symm.trans (same.symm.trans (first j before other)))
    | authority isEnd first noSubject =>
      refine (leafPosition_eq_iff isEnd).2 ?_
      rintro j other (⟨plain, -⟩ | ⟨-, before⟩)
      · exact Bool.false_ne_true (plain.symm.trans (noSubject j other))
      · exact first j before other
    | last noEnd =>
      obtain ⟨isEnd, -⟩ | ⟨-, last⟩ := leafPosition_spec cs
      · exact absurd isEnd (noEnd _)
      · exact last
  · rintro rfl
    obtain ⟨isEnd, best⟩ | ⟨noEnd, last⟩ := leafPosition_spec cs
    · cases kind : isAuthorityAt cs (leafPosition cs) with
      | false =>
        refine .subject isEnd kind fun j before other => ?_
        rw [← Bool.not_eq_false]
        intro plain
        exact best j other (.inr ⟨plain.trans kind.symm, before⟩)
      | true =>
        have noSubject : ∀ j, IsEnd cs j → isAuthorityAt cs j = true := by
          intro j other
          rw [← Bool.not_eq_false]
          intro plain
          exact best j other (.inl ⟨plain, kind⟩)
        refine .authority isEnd (fun j before other => ?_) noSubject
        exact best j other (.inr ⟨(noSubject j other).trans kind.symm, before⟩)
    · rw [last]
      exact .last noEnd

/-- The leaf moves to the front, and the others keep their order. -/
inductive MovesLeaf : List Certificate → List Certificate → Prop
  | none : MovesLeaf [] []
  | front {before after : List Certificate} {leaf : Certificate}
    (position : IsLeafPosition (before ++ leaf :: after) before.length) :
    MovesLeaf (before ++ leaf :: after) (leaf :: (before ++ after))

theorem movesLeaf_leafFirst (cs : List Certificate) : MovesLeaf cs (leafFirst cs) := by
  by_cases filled : cs = []
  · subst filled
    exact .none
  · obtain ⟨leaf, there, moved⟩ := exists_leafFirst_eq filled
    obtain ⟨inside, rfl⟩ := List.getElem?_eq_some_iff.1 there
    have split : cs.take (leafPosition cs) ++ cs[leafPosition cs] :: cs.drop (leafPosition cs + 1)
        = cs := by
      rw [List.getElem_cons_drop, List.take_append_drop]
    have position : IsLeafPosition
        (cs.take (leafPosition cs) ++ cs[leafPosition cs] :: cs.drop (leafPosition cs + 1))
        (cs.take (leafPosition cs)).length := by
      rw [split, List.length_take_of_le (Nat.le_of_lt inside)]
      exact isLeafPosition_iff.2 rfl
    have front := MovesLeaf.front position
    rwa [split, ← List.eraseIdx_eq_take_drop_succ, ← moved] at front

/-- There is one order of the certificates with the leaf in front. -/
theorem movesLeaf_iff : MovesLeaf cs moved ↔ leafFirst cs = moved := by
  constructor
  · intro moves
    cases moves with
    | none => rfl
    | @front before after leaf position =>
      have chosen := isLeafPosition_iff.1 position
      have there : (before ++ leaf :: after)[before.length]? = some leaf := by
        rw [List.getElem?_append_right (Nat.le_refl _), Nat.sub_self, List.getElem?_cons_zero]
      rw [leafFirst, chosen, there, List.eraseIdx_append_of_length_le (Nat.le_refl _),
        Nat.sub_self, List.eraseIdx_cons_zero]
      rfl
  · rintro rfl
    exact movesLeaf_leafFirst cs

end Certificate

namespace KeyInfo

/-- **Moving the leaf to the front.**  The certificates that a `ds:X509Data` gives are those
that are read from it, in another order: the one at the position of the leaf, which is a
position of the list unless that is empty, and then the others as they stand. -/
theorem certificatesOf_eq_ok_iff {e : Xml.Element} {moved : List Certificate} :
    certificatesOf e = .ok moved ↔ ∃ cs,
      (e.childrenNamed Namespace.signature "X509Certificate").mapM Certificate.ofElement = .ok cs ∧
      (cs = [] ∨ Certificate.leafPosition cs < cs.length) ∧
      moved.Perm cs ∧ Certificate.MovesLeaf cs moved := by
  constructor
  · intro read
    obtain ⟨cs, held, done⟩ := Except.bind_eq_ok_iff.1 read
    obtain rfl := Except.ok.inj done
    refine ⟨cs, held, ?_, Certificate.leafFirst_perm cs, Certificate.movesLeaf_leafFirst cs⟩
    by_cases filled : cs = []
    · exact .inl filled
    · exact .inr (Certificate.leafPosition_lt filled)
  · rintro ⟨cs, held, -, -, moves⟩
    obtain rfl := Certificate.movesLeaf_iff.1 moves
    exact Except.bind_eq_ok_iff.2 ⟨cs, held, rfl⟩

end KeyInfo
end SecurityTokens
