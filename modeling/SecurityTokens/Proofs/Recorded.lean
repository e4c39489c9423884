/-
# References to recorded tokens

A reference that looks up a recorded token is checked on its own, and then the token gives
its material.

| asked for | said by |
| --- | --- |
| one child, a type and an encoding, in strict mode | `TokenReference.IsWellFormed` |
| a known type, if the reference is a key identifier | `TokenReference.IsRecognized` |
| the material | `Resolution.ofProcessed` |

Material with a secret and the token of its identity is handed on as it is.  The length of
a secret that its token does not tell comes from the sizing, where an algorithm gives a
length if it is a known one.
-/

import SecurityTokens.Proofs.Precedence
import SecurityTokens.Proofs.Settled

namespace SecurityTokens

/-! ## The reference -/

/-- If the reference is a key identifier, it is one of a known type. -/
def TokenReference.IsRecognized (r : TokenReference) : Prop :=
  ∀ type, r.keyIdentifierType? = some type → type.uri?.isSome = true

/-- The known types are those that name something. -/
theorem KeyIdentifierType.isSome_uri?_eq (type : KeyIdentifierType) :
    type.uri?.isSome = type.target?.isSome := by
  cases type <;> rfl

/-- A reference of a known type asks for something. -/
theorem TokenReference.exists_lookup_iff {r : TokenReference} :
    (∃ lookup, r.lookup = .ok lookup) ↔ r.IsRecognized := by
  unfold IsRecognized keyIdentifierType? lookup
  cases r.kind with
  | direct uri valueType => simp
  | issuerSerial issuer serial => simp
  | keyIdentifier type encoding value =>
    simp only [Option.some.injEq, forall_eq', type.isSome_uri?_eq]
    cases type.target? <;> simp

/-- A reference passes all checks in which its token plays no part. -/
structure Context.Passes (ctx : Context) (r : TokenReference) : Prop where
  wellFormed : ctx.compliance = .strict → r.IsWellFormed
  recognized : r.IsRecognized

namespace Resolution

variable {ctx : Context} {r : TokenReference} {token : ProcessedToken} {c m : Credential}

/-- A reference to a recorded token leads to the completed material of the token. -/
theorem result_resolve_eq_ok_iff_of_processed (known : processed? ctx r = some token) :
    (resolve ctx r).result = .ok c ↔ ctx.Passes r ∧
      ∃ m, (ofProcessed ctx r token).result = .ok m ∧ complete r m = .ok c := by
  simp only [resolve_eq, material, known, Asking.result_bind_eq_ok_iff,
    Context.result_enforce_eq_ok_iff, exists_const, Asking.result_liftM_eq_ok_iff,
    Profile.checkStructure_eq_ok_iff]
  constructor
  · rintro ⟨wellFormed, lookup, asked, m, taken, completed⟩
    exact ⟨⟨wellFormed, TokenReference.exists_lookup_iff.1 ⟨lookup, asked⟩⟩, m, taken, completed⟩
  · rintro ⟨⟨wellFormed, recognized⟩, m, taken, completed⟩
    obtain ⟨lookup, asked⟩ := TokenReference.exists_lookup_iff.2 recognized
    exact ⟨wellFormed, lookup, asked, m, taken, completed⟩

/-- Material that has a secret and the token of its identity is complete. -/
theorem complete_eq_ok_iff {secret : Bytes} {principal : PrincipalToken}
    (held : m.secretKey = some secret) (named : m.principal.token = some principal) :
    complete r m = .ok c ↔ c = m := by
  have kept : m.withSubjectName = m :=
    Credential.withSubjectName_eq_self (by rw [named, Option.isSome_some])
  rw [complete_of_secretKey held, kept, Except.ok.injEq, eq_comm]

/-- A strict context in which one token is recorded and keys are for signatures. -/
def recordingContext (id : String) (token : ProcessedToken) : Context where
  document := .ofRoot ⟨⟨none, "Message"⟩, [], []⟩ []
  tokens := ⟨[(id, token)]⟩
  source := none
  callback := none
  processor := none
  compliance := .strict
  sizing := ⟨some Algorithm.hmacSha1, none⟩

end Resolution

/-! ## Lengths -/

namespace KeySizing

variable {s : KeySizing} {n : Nat}

/-- The length of the algorithm that is configured, if it is a known one. -/
def AlgorithmLength (s : KeySizing) (n : Nat) : Prop :=
  ∃ uri, s.algorithm = some uri ∧ Algorithm.keyLength? uri = some n

theorem algorithmKeyLength_eq_ok_iff : s.algorithmKeyLength = .ok n ↔ s.AlgorithmLength n := by
  unfold algorithmKeyLength AlgorithmLength
  cases s.algorithm with
  | none => simp
  | some uri => cases known : Algorithm.keyLength? uri <;> simp [known]

theorem AlgorithmLength.pos (h : s.AlgorithmLength n) : 0 < n :=
  algorithmKeyLength_pos (algorithmKeyLength_eq_ok_iff.2 h)

/-- The length of secrets: the one that is set, unless it is zero, and that of the algorithm
if none is set. -/
inductive SecretLength (s : KeySizing) : Nat → Prop
  | set {length} (given : s.secretLength = some length) (positive : 0 < length) :
      SecretLength s length
  | ofAlgorithm {length} (notSet : s.secretLength = none) (known : s.AlgorithmLength length) :
      SecretLength s length

theorem SecretLength.pos (h : s.SecretLength n) : 0 < n := by
  cases h with
  | set _ positive => exact positive
  | ofAlgorithm _ known => exact known.pos

theorem secretKeyLength_eq_ok_iff : s.secretKeyLength = .ok n ↔ s.SecretLength n := by
  constructor
  · intro h
    unfold secretKeyLength at h
    split at h
    next => cases h
    next length notZero given =>
      obtain rfl := Except.ok.inj h
      exact .set given (Nat.pos_of_ne_zero notZero)
    next notSet => exact .ofAlgorithm notSet (algorithmKeyLength_eq_ok_iff.1 h)
  · intro h
    unfold secretKeyLength
    cases h with
    | set given positive =>
      cases n with
      | zero => cases positive
      | succ k =>
        rw [given]
        rfl
    | ofAlgorithm notSet known =>
      rw [notSet]
      exact algorithmKeyLength_eq_ok_iff.2 known

end KeySizing
end SecurityTokens
