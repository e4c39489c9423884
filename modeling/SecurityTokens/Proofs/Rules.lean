/-
# What the checks of the profile ask for

Each check passes just if the attributes of the reference are as its rules ask:

| check | passes for |
| --- | --- |
| structure | one child; a key identifier with a type and, but for assertions, base64 |
| binary token | its value type, or a key identifier that names certificates |
| encrypted key | its `TokenType`, and no key identifier but that of the SHA-1 |
| assertion | the `TokenType` of its version, and no key identifier of another |
| user name token | a direct reference with its value type |

A reference by issuer and serial number passes the check of binary tokens, too,
but it looks up no identifier and so leads to none.
-/

import Mathlib.Tactic.MkIffOfInductiveProp
import SecurityTokens.Proofs.Success

namespace SecurityTokens

/-- The key identifier types that name certificates. -/
def KeyIdentifierType.ofCertificates : List KeyIdentifierType :=
  [.x509v3, .subjectKeyIdentifier, .thumbprintSha1]

theorem KeyIdentifierType.certificate?_isSome_iff {type : KeyIdentifierType} :
    type.certificate?.isSome = true ↔ type ∈ ofCertificates := by
  cases type <;> simp [certificate?, ofCertificates]

theorem KeyIdentifierType.mem_ofCertificates_iff {type : KeyIdentifierType} :
    type ∈ ofCertificates ↔ ∃ identifier, type.target? = some (.certificate identifier) := by
  cases type <;> simp [ofCertificates, target?]

/-- The key identifier type of a version names assertions. -/
theorem AssertionVersion.target?_keyIdentifierType (version : AssertionVersion) :
    version.keyIdentifierType.target? = some .assertion := by
  cases version <;> rfl

namespace TokenReference

/-- What the profile asks of every reference. -/
@[mk_iff]
structure IsWellFormed (r : TokenReference) : Prop where
  oneChild : r.childCount = 1
  typed : ∀ type, r.keyIdentifierType? = some type → type ≠ .missing
  encoded : ∀ type encoding value, r.kind = .keyIdentifier type encoding value →
    type.isSaml = false → encoding = some Encoding.base64Binary

/-- The reference is a key identifier that names a certificate. -/
def NamesCertificate (r : TokenReference) : Prop :=
  ∃ type ∈ KeyIdentifierType.ofCertificates, r.keyIdentifierType? = some type

/-- If the reference is a key identifier, it is one of a type. -/
def KeyIdentifierIs (r : TokenReference) (type : KeyIdentifierType) : Prop :=
  ∀ type', r.keyIdentifierType? = some type' → type' = type

variable {r : TokenReference}

theorem keyIdentifierType?_eq_some_iff {type : KeyIdentifierType} :
    r.keyIdentifierType? = some type ↔
      ∃ encoding value, r.kind = .keyIdentifier type encoding value := by
  unfold keyIdentifierType?
  cases r.kind <;> simp

end TokenReference

namespace Profile

variable {r : TokenReference}

/-- Two rules one after the other pass when both do. -/
theorem seq_eq_ok_iff {first second : Except Error Unit} :
    (first >>= fun _ => second) = .ok () ↔ first = .ok () ∧ second = .ok () := by
  rw [Except.bind_eq_ok_iff]
  constructor
  · rintro ⟨_, passed, passed'⟩
    exact ⟨passed, passed'⟩
  · rintro ⟨passed, passed'⟩
    exact ⟨(), passed, passed'⟩

theorem checkStructure_eq_ok_iff : checkStructure r = .ok () ↔ r.IsWellFormed := by
  rw [TokenReference.isWellFormed_iff]
  cases kind : r.kind with
  | direct uri type => simp [checkStructure, kind, TokenReference.keyIdentifierType?]
  | keyIdentifier type encoding value =>
    simp [checkStructure, kind, seq_eq_ok_iff, TokenReference.keyIdentifierType?]
  | issuerSerial issuer serial => simp [checkStructure, kind, TokenReference.keyIdentifierType?]

theorem checkBinaryToken_eq_ok_iff {valueType : String} :
    checkBinaryToken r (some valueType) = .ok () ↔
      ((∃ uri, r.kind = .direct uri (some valueType)) ∨ r.NamesCertificate ∨
          ∃ issuer serial, r.kind = .issuerSerial issuer serial) ∧
        (valueType = ValueType.x509PkiPath → r.tokenType = some ValueType.x509PkiPath) := by
  cases kind : r.kind with
  | direct uri type =>
    simp [checkBinaryToken, kind, seq_eq_ok_iff, TokenReference.NamesCertificate,
      TokenReference.keyIdentifierType?]
  | keyIdentifier type encoding value =>
    simp [checkBinaryToken, kind, seq_eq_ok_iff, TokenReference.NamesCertificate,
      TokenReference.keyIdentifierType?, KeyIdentifierType.certificate?_isSome_iff]
  | issuerSerial issuer serial =>
    simp [checkBinaryToken, kind]

theorem checkEncryptedKey_eq_ok_iff : checkEncryptedKey r = .ok () ↔
    r.tokenType = some TokenType.encryptedKey ∧ r.KeyIdentifierIs .encryptedKeySha1 := by
  rw [and_comm]
  cases type : r.keyIdentifierType? <;>
    simp [checkEncryptedKey, type, seq_eq_ok_iff, TokenReference.KeyIdentifierIs]

theorem checkAssertion_eq_ok_iff {version : AssertionVersion} :
    checkAssertion r version = .ok () ↔
      r.tokenType = some version.tokenType ∧ r.KeyIdentifierIs version.keyIdentifierType := by
  rw [and_comm]
  cases type : r.keyIdentifierType? <;>
    simp [checkAssertion, type, seq_eq_ok_iff, TokenReference.KeyIdentifierIs]

theorem checkUsernameToken_eq_ok_iff : checkUsernameToken r = .ok () ↔
    ∃ uri, r.kind = .direct uri (some ValueType.usernameToken) := by
  cases kind : r.kind <;> simp [checkUsernameToken, kind, breach]

end Profile
end SecurityTokens
