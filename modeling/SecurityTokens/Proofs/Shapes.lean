/-
# The shapes of credentials

The ways to material end in one of three shapes, and a credential shows by itself which
of them it has (`Credential.shape`):

| shape | material | identity |
| --- | --- | --- |
| certificate | certificates alone | the subject of the one that comes first |
| secret | a secret alone, never trusted | a name, possibly with a user name token or a derived key |
| assertion | what the assertion says of its subject | the assertion that is drawn on |

A credential of certificates has no name until it is completed, and an assertion may
say nothing of its subject.  So it is only completing that gives every credential its
shape: it names the former and refuses what is empty (`Yields.hasShape`).
-/

import Mathlib.Logic.ExistsUnique
import SecurityTokens.Proofs.NamedMaterial

namespace SecurityTokens
namespace Credential

/-- The shapes of credentials. -/
inductive Shape where
  | certificate
  | secret
  | assertion (a : Assertion)

/-- The shape that a credential shows: that of its assertion if it was taken from one,
and otherwise that of its certificates or its secret. -/
def shape (c : Credential) : Shape :=
  match c.principal.token, c.certificates with
  | some (.assertion a), _ => .assertion a
  | _, _ :: _ => .certificate
  | _, [] => .secret

theorem isEmpty_eq_false_iff {c : Credential} : c.isEmpty = false ↔
    c.certificates ≠ [] ∨ c.publicKey.isSome = true ∨ c.secretKey.isSome = true := by
  rw [isEmpty, Bool.and_eq_false_iff, Bool.and_eq_false_iff, List.isEmpty_eq_false_iff,
    Option.isNone_eq_false_iff, Option.isNone_eq_false_iff, or_assoc]

/-- Certificates take the name of the one that comes first. -/
theorem withSubjectName_ofCertificates {leading : Certificate} {rest : List Certificate}
    {trusted : Bool} : (ofCertificates (leading :: rest) trusted).withSubjectName
      = { certificates := leading :: rest, principal := .named leading.subject, trusted } :=
  rfl

/-- A credential without certificates keeps its identity. -/
theorem withSubjectName_of_uncertified {c : Credential} (h : c.certificates = []) :
    c.withSubjectName = c := by
  have absent : c.certificate? = none := by rw [certificate?, h, List.head?_nil]
  rw [withSubjectName, absent]
  cases c.principal.isUnknown <;> rfl

end Credential

namespace Resolution

open Credential (Shape)

variable {ctx : Context} {r : TokenReference} {o : Origin} {c m : Credential} {s : Shape}

/-- What a credential of each shape consists of. -/
inductive HasShape (ctx : Context) (r : TokenReference) (c : Credential) : Shape → Prop
  | certificate {leading rest} (certified : c.certificates = leading :: rest)
      (keyless : c.publicKey = none) (secretless : c.secretKey = none)
      (named : c.principal = .named leading.subject) :
      HasShape ctx r c .certificate
  | secret {key} (uncertified : c.certificates = []) (keyless : c.publicKey = none)
      (held : c.secretKey = some key) (untrusted : c.trusted = false)
      (identity : c.principal.token = none ∨ (∃ p, c.principal.token = some (.username p)) ∨
        ∃ p, c.principal.token = some (.derivedKey p)) :
      HasShape ctx r c .secret
  | assertion {a} (drawn : DrawsOn ctx r a) (vouched : c.principal.token = some (.assertion a))
      (named : c.principal.name = a.id)
      (certificates : c.certificates = a.keyInfo.certificates.take 1)
      (publicKey : c.publicKey = a.keyInfo.publicKey) (secretKey : c.secretKey = a.secret)
      (filled : c.certificates ≠ [] ∨ c.publicKey.isSome = true ∨ c.secretKey.isSome = true) :
      HasShape ctx r c (.assertion a)

/-- The shape of what is taken from an origin. -/
def Origin.shape : Origin → Shape
  | username _ => .secret
  | usernameElement => .secret
  | binary _ _ => .certificate
  | encryptedKey => .secret
  | securityContext => .secret
  | derivedKey => .secret
  | assertion a => .assertion a
  | certificate => .certificate
  | secret => .secret

/-- A credential has no other shape than the one it shows. -/
theorem HasShape.eq_shape (has : HasShape ctx r c s) : s = c.shape := by
  cases has with
  | certificate certified _ _ named =>
    rw [Credential.shape, certified, named]
    rfl
  | secret uncertified _ _ _ identity =>
    rw [Credential.shape, uncertified]
    rcases identity with absent | ⟨p, user⟩ | ⟨p, derived⟩
    · rw [absent]
    · rw [user]
    · rw [derived]
  | assertion _ vouched =>
    rw [Credential.shape, vouched]

theorem hasShape_ofCertificates {certificates : List Certificate} {trusted : Bool}
    (filled : (Credential.ofCertificates certificates trusted).isEmpty = false) :
    HasShape ctx r (Credential.ofCertificates certificates trusted).withSubjectName
      .certificate := by
  cases certificates with
  | nil => cases filled
  | cons leading rest =>
    rw [Credential.withSubjectName_ofCertificates]
    exact .certificate rfl rfl rfl rfl

theorem hasShape_ofSecret (name : String) (secret : Bytes) :
    HasShape ctx r (Credential.ofSecret name secret).withSubjectName .secret := by
  rw [Credential.withSubjectName_of_uncertified rfl]
  exact .secret rfl rfl rfl rfl (.inl rfl)

theorem hasShape_ofAssertion {a : Assertion} (drawn : DrawsOn ctx r a)
    (filled : (Credential.ofAssertion a).isEmpty = false) :
    HasShape ctx r (Credential.ofAssertion a).withSubjectName (.assertion a) := by
  rw [Credential.withSubjectName_eq_self rfl]
  exact .assertion drawn rfl rfl rfl rfl rfl (Credential.isEmpty_eq_false_iff.1 filled)

theorem hasShape_of_credential {based : BasedDerivedKey} {sizing : KeySizing}
    (derived : based.credential sizing = .ok c) : HasShape ctx r c.withSubjectName .secret := by
  obtain ⟨length, secret, principal, -, -, -, rfl⟩ :=
    BasedDerivedKey.credential_eq_ok_iff.1 derived
  rw [Credential.withSubjectName_eq_self rfl]
  exact .secret rfl rfl rfl rfl (.inr (.inr ⟨principal, rfl⟩))

/-- Material that is not empty has the shape of its origin once it is named. -/
theorem Yields.hasShape (yields : Yields ctx r o m) (filled : m.isEmpty = false) :
    HasShape ctx r m.withSubjectName o.shape := by
  cases yields with
  | processedUsername =>
    rw [Credential.withSubjectName_eq_self rfl]
    exact .secret rfl rfl rfl rfl (.inr (.inl ⟨_, rfl⟩))
  | processedBinary => exact hasShape_ofCertificates filled
  | processedKey => exact hasShape_ofSecret _ _
  | processedContext => exact hasShape_ofSecret _ _
  | processedDerivedKey _ derived => exact hasShape_of_credential derived
  | processedAssertion indexed => exact hasShape_ofAssertion (.processed indexed) filled
  | outside => exact hasShape_ofSecret _ _
  | binaryElement => exact hasShape_ofCertificates filled
  | assertionElement leads named configured answered =>
    exact hasShape_ofAssertion (.element leads named configured answered) filled
  | keyElement => exact hasShape_ofSecret _ _
  | usernameElement => exact hasShape_ofSecret _ _
  | otherElement => exact hasShape_ofSecret _ _
  | issuerSerial => exact hasShape_ofCertificates filled
  | identifiedKey => exact hasShape_ofSecret _ _
  | identifiedAssertion identifies found configured answered =>
    exact hasShape_ofAssertion (.identifier identifies found configured answered) filled
  | identifiedCertificate => exact hasShape_ofCertificates filled

/-- **Every credential has exactly one of the three shapes.**  It consists of
certificates and is named by the subject of the first, or of a secret that is not
trusted, or of what the assertion that its reference draws on says of its subject. -/
theorem existsUnique_hasShape (h : (resolve ctx r).result = .ok c) :
    ∃! shape, HasShape ctx r c shape := by
  obtain ⟨-, -, o, m, yields, completed⟩ := resolve_eq_ok_iff.1 h
  have filled : m.isEmpty = false := isEmpty_of_complete completed
  obtain rfl := eq_withSubjectName_of_complete completed
  refine ⟨o.shape, yields.hasShape filled, fun shape has => ?_⟩
  exact has.eq_shape.trans (yields.hasShape filled).eq_shape.symm

/-- The subject of the assertion that a key identifier leads to has one shape, which is
that of the assertion. -/
theorem existsUnique_hasShape_verifiedAssertion :
    (resolve verifyingContext identifyingReference).result = .ok (.ofAssertion verifiedAssertion) ∧
      HasShape verifyingContext identifyingReference (.ofAssertion verifiedAssertion)
        (.assertion verifiedAssertion) := by
  have h : (resolve verifyingContext identifyingReference).result
      = .ok (.ofAssertion verifiedAssertion) := rfl
  obtain ⟨shape, has, -⟩ := existsUnique_hasShape h
  obtain rfl : shape = .assertion verifiedAssertion := has.eq_shape
  exact ⟨h, has⟩

end Resolution
end SecurityTokens
