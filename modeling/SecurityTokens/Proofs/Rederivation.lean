/-
# Derived keys can be derived again

A reference to a recorded derived key token leads to a key and to an identity with the
parameters of the key.  Both are made from fields that may be missing:

| parameter | in the token | otherwise |
| --- | --- | --- |
| length | `Length`, if it is positive | the length of the algorithm |
| offset | `Offset`, or `Generation` times the length | 0 |
| label | `Label`, if it is not empty | the default label |

Yet they never differ: from the parameters alone the key is derived again
(`DerivedKeyPrincipal.rederive`).
-/

import SecurityTokens.Proofs.KeyWindows
import SecurityTokens.Proofs.Recorded

namespace SecurityTokens

open KeyDerivation (Admits window)

/-- The key that the parameters stand for. -/
def DerivedKeyPrincipal.rederive (p : DerivedKeyPrincipal) : Except Error Bytes :=
  KeyDerivation.pSha1 p.baseSecret (Bytes.ofText p.label ++ p.nonce) p.offset p.length

/-- How long the key of a token is: as long as the token says if that is positive, and
otherwise as long as a key of the algorithm. -/
inductive DerivedKeyToken.KeyLength (t : DerivedKeyToken) (sizing : KeySizing) : Nat → Prop
  | own {length} (given : t.length = some length) (positive : 0 < length) :
      KeyLength t sizing length
  | ofAlgorithm {length} (notGiven : ∀ n, t.length = some n → n = 0)
      (known : sizing.AlgorithmLength length) : KeyLength t sizing length

theorem DerivedKeyToken.keyLength_eq_ok_iff {t : DerivedKeyToken} {sizing : KeySizing}
    {length : Nat} : t.keyLength sizing = .ok length ↔ t.KeyLength sizing length := by
  constructor
  · intro h
    unfold keyLength at h
    split at h
    next n own =>
      obtain rfl := Except.ok.inj h
      obtain ⟨given, positive⟩ := Option.filter_eq_some_iff.1 own
      exact .own given (of_decide_eq_true positive)
    next none =>
      refine .ofAlgorithm (fun n given => ?_) (KeySizing.algorithmKeyLength_eq_ok_iff.1 h)
      have notPositive := Option.filter_eq_none_iff.1 none n given
      exact Nat.eq_zero_of_not_pos fun positive => notPositive (decide_eq_true positive)
  · intro h
    unfold keyLength
    cases h with
    | own given positive =>
      have own : t.length.filter (· > 0) = some length :=
        Option.filter_eq_some_iff.2 ⟨given, decide_eq_true positive⟩
      rw [own]
    | ofAlgorithm notGiven known =>
      have none : t.length.filter (· > 0) = none :=
        Option.filter_eq_none_iff.2 fun n given positive =>
          Nat.ne_of_gt (of_decide_eq_true positive) (notGiven n given)
      rw [none]
      exact KeySizing.algorithmKeyLength_eq_ok_iff.2 known

/-- A length that is known is positive. -/
theorem DerivedKeyToken.KeyLength.pos {t : DerivedKeyToken} {sizing : KeySizing} {length : Nat}
    (h : t.KeyLength sizing length) : 0 < length := by
  cases h with
  | own _ positive => exact positive
  | ofAlgorithm _ known => exact known.pos

namespace BasedDerivedKey

variable {based : BasedDerivedKey} {sizing : KeySizing} {c : Credential}

/-- The parameters of the key of some length. -/
def principal (based : BasedDerivedKey) (length : Nat) : DerivedKeyPrincipal where
  id := based.token.id.getD ""
  nonce := based.token.nonce
  label := based.token.effectiveLabel
  offset := based.token.start.place length
  length := length
  baseSecret := based.baseSecret

/-- The key of some length with its parameters. -/
def keyed (based : BasedDerivedKey) (length : Nat) : Credential where
  secretKey := some (window based.baseSecret based.token.seed (based.token.start.place length)
    length)
  principal := ⟨(based.principal length).id, some (.derivedKey (based.principal length))⟩

/-- A key is given just if its length is known and it can be asked for. -/
theorem credential_eq_ok_iff_exists : based.credential sizing = .ok c ↔
    ∃ length, based.token.KeyLength sizing length ∧
      Admits based.baseSecret (based.token.start.place length) length ∧
      c = based.keyed length := by
  rw [credential_eq_ok_iff]
  constructor
  · rintro ⟨length, key, principal, sized, derived, named, rfl⟩
    obtain ⟨admits, rfl⟩ := DerivedKeyToken.deriveKey_eq_ok_iff.1 derived
    obtain ⟨offset, placed, named⟩ := Except.bind_eq_ok_iff.1 named
    obtain ⟨rfl, -⟩ := WindowStart.position_eq_ok_iff.1 placed
    obtain rfl := Except.ok.inj named
    exact ⟨length, DerivedKeyToken.keyLength_eq_ok_iff.1 sized, admits, rfl⟩
  · rintro ⟨length, sized, admits, rfl⟩
    refine ⟨length, _, based.principal length, DerivedKeyToken.keyLength_eq_ok_iff.2 sized,
      DerivedKeyToken.deriveKey_eq_ok_iff.2 ⟨admits, rfl⟩, ?_, rfl⟩
    exact Except.bind_eq_ok_iff.2 ⟨_, WindowStart.position_of_reached admits.reached, rfl⟩

/-- The parameters of a key that can be asked for stand for it. -/
theorem rederive_principal {length : Nat}
    (admits : Admits based.baseSecret (based.token.start.place length) length) :
    (based.principal length).rederive = .ok (window based.baseSecret based.token.seed
      (based.token.start.place length) length) :=
  KeyDerivation.pSha1_eq_window_iff.2 ⟨admits, rfl⟩

end BasedDerivedKey

namespace Resolution

variable {ctx : Context} {r : TokenReference} {based : BasedDerivedKey} {c : Credential}

/-- What a reference to a recorded derived key token leads to. -/
theorem result_resolve_derivedKey_eq_ok_iff
    (known : processed? ctx r = some (.derivedKey based)) :
    (resolve ctx r).result = .ok c ↔ ctx.Passes r ∧
      ∃ length, based.token.KeyLength ctx.sizing length ∧
        Admits based.baseSecret (based.token.start.place length) length ∧
        c = based.keyed length := by
  rw [result_resolve_eq_ok_iff_of_processed known]
  refine and_congr Iff.rfl ?_
  constructor
  · rintro ⟨m, taken, completed⟩
    obtain ⟨length, sized, admits, rfl⟩ := BasedDerivedKey.credential_eq_ok_iff_exists.1 taken
    exact ⟨length, sized, admits, (complete_eq_ok_iff rfl rfl).1 completed⟩
  · rintro ⟨length, sized, admits, rfl⟩
    exact ⟨based.keyed length,
      BasedDerivedKey.credential_eq_ok_iff_exists.2 ⟨length, sized, admits, rfl⟩,
      (complete_eq_ok_iff rfl rfl).2 rfl⟩

end Resolution

open Resolution in
/-- **A derived key can be derived again.**  A reference to a recorded derived key token is
resolved just if it passes its checks, the length of the key is known, the window lies within
the limits and there is a secret to derive from.  Then the identity holds the parameters, and
these stand for the key that is handed on, which is as long as they say. -/
theorem rederive_of_resolve {ctx : Context} {r : TokenReference} {id : String}
    {based : BasedDerivedKey} (looksUp : r.lookupId? = some id)
    (known : ctx.tokens.get? id = some (.derivedKey based)) :
    ((∃ c, (resolve ctx r).result = .ok c) ↔
      (ctx.compliance = .strict → r.IsWellFormed) ∧ r.IsRecognized ∧
        ∃ length, based.token.KeyLength ctx.sizing length ∧ length ≤ 1024 ∧
          based.token.start.place length + length ≤ 65536 ∧ based.baseSecret ≠ []) ∧
    ∀ c, (resolve ctx r).result = .ok c → ∃ p key,
      c.principal = ⟨p.id, some (.derivedKey p)⟩ ∧ c.secretKey = some key ∧
      p.rederive = .ok key ∧
      key = window p.baseSecret (Bytes.ofText p.label ++ p.nonce) p.offset p.length ∧
      key.length = p.length ∧ based.token.KeyLength ctx.sizing p.length ∧
      p = ⟨based.token.id.getD "", based.token.nonce, based.token.effectiveLabel,
        based.token.start.place p.length, p.length, based.baseSecret⟩ := by
  have indexed : processed? ctx r = some (.derivedKey based) :=
    (processed?_of_lookupId? looksUp).trans known
  constructor
  · constructor
    · rintro ⟨c, resolved⟩
      obtain ⟨passes, length, sized, admits, -⟩ :=
        (result_resolve_derivedKey_eq_ok_iff indexed).1 resolved
      exact ⟨passes.wellFormed, passes.recognized, length, sized, admits.short, admits.reached,
        admits.filled⟩
    · rintro ⟨wellFormed, recognized, length, sized, short, reached, filled⟩
      have admits : Admits based.baseSecret (based.token.start.place length) length :=
        ⟨filled, sized.pos, short, reached⟩
      exact ⟨_, (result_resolve_derivedKey_eq_ok_iff indexed).2
        ⟨⟨wellFormed, recognized⟩, length, sized, admits, rfl⟩⟩
  · intro c resolved
    obtain ⟨-, length, sized, admits, rfl⟩ :=
      (result_resolve_derivedKey_eq_ok_iff indexed).1 resolved
    exact ⟨based.principal length, _, rfl, rfl, BasedDerivedKey.rederive_principal admits, rfl,
      KeyDerivation.length_window .., sized, rfl⟩

namespace Resolution

/-- A token that gives a generation, but neither a length nor a label. -/
def thirdGeneration : BasedDerivedKey where
  token := ⟨some "DK-1", .pSha1, none, .generation 2, some 0, some "", [1, 2]⟩
  baseSecret := [7]

/-- Its key is as long as one for signatures, and so it starts after two such keys. -/
theorem rederive_thirdGeneration : ∃ c p key,
    (resolve (recordingContext "DK-1" (.derivedKey thirdGeneration))
      ⟨none, none, 1, .direct "#DK-1" none⟩).result = .ok c ∧
    c.principal.token = some (.derivedKey p) ∧ p.offset = 40 ∧ p.length = 20 ∧
    c.secretKey = some key ∧ p.rederive = .ok key := by
  have looksUp : TokenReference.lookupId? ⟨none, none, 1, .direct "#DK-1" none⟩ = some "DK-1" := by
    decide
  have known : (recordingContext "DK-1" (.derivedKey thirdGeneration)).tokens.get? "DK-1"
      = some (.derivedKey thirdGeneration) := rfl
  have again := rederive_of_resolve looksUp known
  have sized : thirdGeneration.token.keyLength ⟨some Algorithm.hmacSha1, none⟩ = .ok 20 := rfl
  have wellFormed : TokenReference.IsWellFormed ⟨none, none, 1, .direct "#DK-1" none⟩ :=
    Profile.checkStructure_eq_ok_iff.1 rfl
  obtain ⟨c, resolved⟩ := again.1.2 ⟨fun _ => wellFormed, (fun _ named => by cases named), 20,
    DerivedKeyToken.keyLength_eq_ok_iff.1 sized, by decide, by decide, List.cons_ne_nil 7 []⟩
  obtain ⟨p, key, identity, held, rederived, -, -, length, same⟩ := again.2 c resolved
  have twenty : 20 = p.length :=
    Except.ok.inj (sized.symm.trans (DerivedKeyToken.keyLength_eq_ok_iff.2 length))
  refine ⟨c, p, key, resolved, congrArg Principal.token identity, ?_, twenty.symm, held, rederived⟩
  rw [same, ← twenty]
  rfl

end Resolution
end SecurityTokens
