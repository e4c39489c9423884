/-
# What a key identifier holds

The `ValueType` of a key identifier tells what its text is.  Six value types
are known; they name a certificate, an encrypted key or an assertion:

| type | names | its text is |
| --- | --- | --- |
| `x509v3` | a certificate | the certificate |
| `subjectKeyIdentifier` | a certificate | its subject key identifier |
| `thumbprintSha1` | a certificate | its SHA-1 |
| `encryptedKeySha1` | an encrypted key | its SHA-1 |
| `samlAssertionId` | a SAML 1.1 assertion | its identifier |
| `saml2Id` | a SAML 2.0 assertion | its identifier |
-/

import SecurityTokens.Text.Quoted
import SecurityTokens.Uri

namespace SecurityTokens

/-- The value type of a key identifier. -/
inductive KeyIdentifierType where
  | x509v3
  | subjectKeyIdentifier
  | thumbprintSha1
  | encryptedKeySha1
  | samlAssertionId
  | saml2Id
  | unrecognized (uri : String)
  | missing
deriving DecidableEq, Repr

/-- The key identifier types that name a certificate. -/
inductive CertificateIdentifier where
  | x509v3
  | subjectKeyIdentifier
  | thumbprintSha1
deriving DecidableEq, Repr

/-- The name under which messages show the kind of identifier. -/
def CertificateIdentifier.label : CertificateIdentifier → String
  | .x509v3 => "X509V3"
  | .subjectKeyIdentifier => "SubjectKeyIdentifier"
  | .thumbprintSha1 => "ThumbprintSha1"

namespace KeyIdentifierType

/-- The type a `ValueType` attribute gives, if there is one. -/
def ofValueType : Option String → KeyIdentifierType
  | none => .missing
  | some uri =>
    if uri = ValueType.x509v3 then .x509v3
    else if uri = ValueType.subjectKeyIdentifier then .subjectKeyIdentifier
    else if uri = ValueType.thumbprintSha1 then .thumbprintSha1
    else if uri = ValueType.encryptedKeySha1 then .encryptedKeySha1
    else if uri = ValueType.samlAssertionId then .samlAssertionId
    else if uri = ValueType.saml2Id then .saml2Id
    else .unrecognized uri

/-- The URI of a recognised type. -/
def uri? : KeyIdentifierType → Option String
  | .x509v3 => some ValueType.x509v3
  | .subjectKeyIdentifier => some ValueType.subjectKeyIdentifier
  | .thumbprintSha1 => some ValueType.thumbprintSha1
  | .encryptedKeySha1 => some ValueType.encryptedKeySha1
  | .samlAssertionId => some ValueType.samlAssertionId
  | .saml2Id => some ValueType.saml2Id
  | .unrecognized _ => none
  | .missing => none

/-- The two types that name an assertion. -/
def isSaml : KeyIdentifierType → Bool
  | .samlAssertionId => true
  | .saml2Id => true
  | _ => false

/-- The way a certificate is named, for the types that name one. -/
def certificate? : KeyIdentifierType → Option CertificateIdentifier
  | .x509v3 => some .x509v3
  | .subjectKeyIdentifier => some .subjectKeyIdentifier
  | .thumbprintSha1 => some .thumbprintSha1
  | _ => none

/-- The name of the type alone. -/
def name : KeyIdentifierType → String
  | .x509v3 => "X509V3"
  | .subjectKeyIdentifier => "SubjectKeyIdentifier"
  | .thumbprintSha1 => "ThumbprintSha1"
  | .encryptedKeySha1 => "EncryptedKeySha1"
  | .samlAssertionId => "SamlAssertionId"
  | .saml2Id => "Saml2Id"
  | .unrecognized _ => "Unrecognized"
  | .missing => "Missing"

/-- The form in which messages show the type. -/
def label : KeyIdentifierType → String
  | .unrecognized uri => "Unrecognized(" ++ Text.quoted uri ++ ")"
  | type => type.name

/-- A recognised type is the type of its own URI. -/
theorem ofValueType_uri? {type : KeyIdentifierType} {uri : String} (h : type.uri? = some uri) :
    ofValueType (some uri) = type := by
  cases type <;> simp [uri?] at h <;> subst h <;>
    simp [ofValueType, ValueType.x509v3, ValueType.subjectKeyIdentifier, ValueType.thumbprintSha1,
      ValueType.encryptedKeySha1, ValueType.samlAssertionId, ValueType.saml2Id]

end KeyIdentifierType
end SecurityTokens
