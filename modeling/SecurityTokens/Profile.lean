/-
# The Basic Security Profile

Rules on how a reference is written, given what it points at.  A check looks at
the attributes of the reference alone and never at key material.

| rule | asks for |
| --- | --- |
| R3061 | exactly one child element |
| R3054 | a `ValueType` on a key identifier |
| R3070 | base64 as the encoding of a key identifier, unless it names an assertion |
| R3058 | the token's type as the `ValueType` of a direct reference |
| R3063 | a key identifier of a type that fits the token |
| R5215 | the `TokenType` of certificate paths and encrypted keys |
| R6603, R6611 | the key identifier type and the `TokenType` of an assertion's version |
| R4214, R4215 | a direct reference with the `ValueType` of user name tokens |
-/

import SecurityTokens.Reference.Basic

namespace SecurityTokens
namespace Profile

/-- Refuses what breaks a rule. -/
def breach (v : Violation) : Except Error Unit := .error (.violation v)

/-- A rule that is broken when `broken` holds. -/
def rule (broken : Bool) (v : Violation) : Except Error Unit := if broken then breach v else .ok ()

/-- What holds of every reference. -/
def checkStructure (r : TokenReference) : Except Error Unit := do
  rule (r.childCount != 1) (.childCount r.childCount)
  match r.kind with
  | .keyIdentifier type encodingType _ =>
    rule (type == .missing) .missingValueType
    rule (!type.isSaml && encodingType != some Encoding.base64Binary) (.encodingType encodingType)
  | _ => return

/-- A reference to a binary token of a type, or, without a type, a key identifier
that names a certificate. -/
def checkBinaryToken (r : TokenReference) (tokenType : Option String) : Except Error Unit := do
  match r.kind with
  | .direct _ valueType =>
    match tokenType with
    | some type => rule (valueType != some type) (.valueTypeMismatch valueType type)
    | none => pure ()
  | .keyIdentifier type _ _ => rule type.certificate?.isNone (.notForCertificate type)
  | .issuerSerial _ _ => pure ()
  rule (tokenType == some ValueType.x509PkiPath && r.tokenType != some ValueType.x509PkiPath)
    .pkiPathTokenType

/-- A reference to an encrypted key. -/
def checkEncryptedKey (r : TokenReference) : Except Error Unit := do
  match r.keyIdentifierType? with
  | some type => rule (type != .encryptedKeySha1) (.notForEncryptedKey type)
  | none => pure ()
  rule (r.tokenType != some TokenType.encryptedKey) .encryptedKeyTokenType

/-- A reference to an assertion of a version. -/
def checkAssertion (r : TokenReference) (version : AssertionVersion) : Except Error Unit := do
  match r.keyIdentifierType? with
  | some type => rule (type != version.keyIdentifierType) (.assertionIdentifier type version)
  | none => pure ()
  rule (r.tokenType != some version.tokenType) (.assertionTokenType version)

/-- A reference to a user name token. -/
def checkUsernameToken (r : TokenReference) : Except Error Unit :=
  match r.kind with
  | .direct _ valueType =>
    rule (valueType != some ValueType.usernameToken) (.usernameValueType valueType)
  | _ => breach .usernameNotDirect

/-- A rule passes exactly when it is not broken. -/
@[simp] theorem rule_eq_ok {broken : Bool} {v : Violation} :
    rule broken v = .ok () ↔ broken = false := by
  cases broken <;> simp [rule, breach]

/-- All that a rule can refuse is a breach. -/
theorem isViolation_of_rule {broken : Bool} {v : Violation} {e : Error}
    (h : rule broken v = .error e) : e = .violation v := by
  cases broken <;> simp [rule, breach] at h
  exact h.symm

end Profile
end SecurityTokens
