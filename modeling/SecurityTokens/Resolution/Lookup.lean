/-
# What a reference asks for

A reference asks for one of three things.  A key identifier tells by its type
alone what it names, and one of an unknown type names nothing.

| reference | asks for |
| --- | --- |
| direct | the token a URI leads to |
| issuer and serial | the certificate that has them |
| key identifier | an encrypted key, an assertion or a certificate |
-/

import SecurityTokens.Error
import SecurityTokens.Reference.Basic

namespace SecurityTokens

/-- What a key identifier names. -/
inductive IdentifierTarget where
  | encryptedKey
  | assertion
  | certificate (identifier : CertificateIdentifier)
deriving DecidableEq, Repr

/-- What a reference asks for. -/
inductive Lookup where
  | direct (uri : String) (valueType : Option String)
  | issuerSerial (issuer serial : String)
  | keyIdentifier (target : IdentifierTarget) (value : String)
deriving DecidableEq, Repr

/-- What key identifiers of a type name. -/
def KeyIdentifierType.target? : KeyIdentifierType → Option IdentifierTarget
  | .x509v3 => some (.certificate .x509v3)
  | .subjectKeyIdentifier => some (.certificate .subjectKeyIdentifier)
  | .thumbprintSha1 => some (.certificate .thumbprintSha1)
  | .encryptedKeySha1 => some .encryptedKey
  | .samlAssertionId => some .assertion
  | .saml2Id => some .assertion
  | .unrecognized _ => none
  | .missing => none

/-- What a reference asks for. -/
def TokenReference.lookup (r : TokenReference) : Except Error Lookup :=
  match r.kind with
  | .direct uri valueType => .ok (.direct uri valueType)
  | .issuerSerial issuer serial => .ok (.issuerSerial issuer serial)
  | .keyIdentifier type _ value =>
    match type.target? with
    | some target => .ok (.keyIdentifier target value)
    | none => .error (.unsupportedToken (.keyIdentifier type))

end SecurityTokens
