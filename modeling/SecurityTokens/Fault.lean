/-
# What can go wrong

Each group of faults has its own type, and one function that words it.

| group | arises when |
| --- | --- |
| `ReferenceFault` | an element is no token reference |
| `UnsupportedToken` | a token or identifier is of a kind that is not handled |
| `Violation` | a reference breaks a rule of the Basic Security Profile |
| `Missing` | something a reference asks for is not there |
| `DerivationFault` | a key cannot be derived |
| `Misconfiguration` | a collaborator or an argument is missing or unusable |
| `StructureFault` | well-formed XML does not have the form of a token |
| `CertificateFault` | an encoded certificate cannot be read |
| `KeyFault` | a public key cannot be read |
| `FileFault` | a file cannot be read |
-/

import SecurityTokens.Assertion.Version
import SecurityTokens.Hex

namespace SecurityTokens

/-- An element is no token reference. -/
inductive ReferenceFault where
  | unexpectedElement (localName : String)
  | withoutUri
  | emptyKeyIdentifier
  | incompleteIssuerSerial
  | noForm
  | absentFromDerivedKeyToken
deriving DecidableEq, Repr

def ReferenceFault.message : ReferenceFault → String
  | .unexpectedElement localName => "expected wsse:SecurityTokenReference, found " ++ localName
  | .withoutUri => "wsse:Reference without URI"
  | .emptyKeyIdentifier => "empty wsse:KeyIdentifier"
  | .incompleteIssuerSerial => "X509IssuerSerial needs X509IssuerName and X509SerialNumber"
  | .noForm => "SecurityTokenReference holds no Reference, KeyIdentifier or X509IssuerSerial"
  | .absentFromDerivedKeyToken => "DerivedKeyToken without SecurityTokenReference"

/-- A token or key identifier of a kind that is not handled. -/
inductive UnsupportedToken where
  | keyIdentifier (type : KeyIdentifierType)
  | encoding (uri : String)
  | valueType (uri : String)
  | notAnAssertion (namespaceUri localName : String)
deriving DecidableEq, Repr

def UnsupportedToken.message : UnsupportedToken → String
  | .keyIdentifier type => "KeyIdentifier ValueType " ++ type.label
  | .encoding uri => "BinarySecurityToken EncodingType " ++ uri
  | .valueType uri => "BinarySecurityToken ValueType " ++ uri
  | .notAnAssertion namespaceUri localName =>
    "not a SAML assertion: \x7b" ++ namespaceUri ++ "\x7d" ++ localName

/-- A rule of the Basic Security Profile that a reference breaks. -/
inductive Violation where
  | childCount (found : Nat)
  | missingValueType
  | encodingType (found : Option String)
  | valueTypeMismatch (found : Option String) (tokenType : String)
  | notForCertificate (type : KeyIdentifierType)
  | pkiPathTokenType
  | notForEncryptedKey (type : KeyIdentifierType)
  | encryptedKeyTokenType
  | assertionIdentifier (type : KeyIdentifierType) (version : AssertionVersion)
  | assertionTokenType (version : AssertionVersion)
  | usernameValueType (found : Option String)
  | usernameNotDirect
deriving DecidableEq, Repr

/-- The number of the rule. -/
def Violation.rule : Violation → String
  | .childCount _ => "R3061"
  | .missingValueType => "R3054"
  | .encodingType _ => "R3070"
  | .valueTypeMismatch .. => "R3058"
  | .notForCertificate _ => "R3063"
  | .pkiPathTokenType => "R5215"
  | .notForEncryptedKey _ => "R3063"
  | .encryptedKeyTokenType => "R5215"
  | .assertionIdentifier .. => "R6603"
  | .assertionTokenType _ => "R6611"
  | .usernameValueType _ => "R4214"
  | .usernameNotDirect => "R4215"

/-- What the reference has that the rule does not allow. -/
def Violation.detail : Violation → String
  | .childCount found =>
    "SecurityTokenReference must have exactly one child element, found " ++ toString found
  | .missingValueType => "KeyIdentifier has no ValueType"
  | .encodingType found =>
    "KeyIdentifier EncodingType must be Base64Binary, found " ++ Text.quotedOption found
  | .valueTypeMismatch found tokenType =>
    "Reference ValueType " ++ Text.quotedOption found ++ " does not match token type "
      ++ tokenType
  | .notForCertificate type =>
    "KeyIdentifier type " ++ type.label ++ " cannot name a certificate"
  | .pkiPathTokenType => "reference to a PKIPath token must carry TokenType X509PKIPathv1"
  | .notForEncryptedKey type =>
    "KeyIdentifier type " ++ type.label ++ " cannot name an EncryptedKey"
  | .encryptedKeyTokenType => "reference to an EncryptedKey must carry TokenType EncryptedKey"
  | .assertionIdentifier type version =>
    "KeyIdentifier type " ++ type.label ++ " does not match a " ++ version.label ++ " assertion"
  | .assertionTokenType version =>
    "reference to a " ++ version.label ++ " assertion must carry TokenType " ++ version.tokenType
  | .usernameValueType found =>
    "Reference ValueType " ++ Text.quotedOption found ++ " is not UsernameToken"
  | .usernameNotDirect => "a UsernameToken can only be referenced with a direct Reference"

def Violation.message (v : Violation) : String := v.rule ++ ": " ++ v.detail

/-- Something a reference asks for is not there. -/
inductive Missing where
  | element (id : String)
  | assertion (id : String)
  | issuedCertificate (issuer serial : String)
  | certificate (identifier : CertificateIdentifier) (value : String)
  | secret (id : String)
  | contextSecret (identifier : String)
  | password (username : String)
  | baseSecret (token : String)
  | encryptedKey (id : String)
  | keyMaterial (reference : String)
deriving DecidableEq, Repr

def Missing.message : Missing → String
  | .element id => "no element with id \"" ++ id ++ "\""
  | .assertion id => "no SAML assertion with id \"" ++ id ++ "\""
  | .issuedCertificate issuer serial =>
    "certificate issued by " ++ issuer ++ " with serial " ++ serial
  | .certificate identifier value => "no certificate for " ++ identifier.label ++ " " ++ value
  | .secret id => "no secret for \"" ++ id ++ "\""
  | .contextSecret identifier => "no secret for security context " ++ identifier
  | .password username => "no password for user " ++ username
  | .baseSecret token => "base token of DerivedKeyToken " ++ token ++ " holds no secret"
  | .encryptedKey id => "no key for EncryptedKey " ++ id
  | .keyMaterial reference => "no key material for reference " ++ reference

/-- A key cannot be derived. -/
inductive DerivationFault where
  | emptySecret
  | zeroLength
  | lengthLimit (length limit : Nat)
  | windowLimit (offset length limit : Nat)
  | zeroIterations
  | iterationLimit (iterations limit : Nat)
  | emptyPassword
  | unsupportedAlgorithm (uri : String)
  | noAlgorithm
  | unknownKeyLength (uri : String)
  | zeroKeyLength
  | noSaltAndIteration
  | noNonce
  | noCreated
  | generationOverflow
deriving DecidableEq, Repr

def DerivationFault.message : DerivationFault → String
  | .emptySecret => "empty secret"
  | .zeroLength => "derived key length must be positive"
  | .lengthLimit length limit =>
    "derived key length " ++ toString length ++ " exceeds " ++ toString limit ++ " bytes"
  | .windowLimit offset length limit =>
    "derivation window " ++ toString offset ++ "+" ++ toString length ++ " exceeds "
      ++ toString limit ++ " bytes"
  | .zeroIterations => "iteration count must be positive"
  | .iterationLimit iterations limit =>
    "iteration count " ++ toString iterations ++ " exceeds " ++ toString limit
  | .emptyPassword => "empty password"
  | .unsupportedAlgorithm uri => "unsupported derivation algorithm: " ++ uri
  | .noAlgorithm => "no algorithm to size the key for"
  | .unknownKeyLength uri => "unknown key length for " ++ uri
  | .zeroKeyLength => "secret key length must be positive"
  | .noSaltAndIteration => "UsernameToken has no Salt and Iteration"
  | .noNonce => "UsernameToken has no Nonce"
  | .noCreated => "UsernameToken has no Created"
  | .generationOverflow => "Generation * Length overflows"

/-- A collaborator is not configured, or an argument is unusable. -/
inductive Misconfiguration where
  | noStore
  | noCallback
  | noProcessor
  | secretArgument (argument : String)
  | secretNotHex (id : String) (fault : Hex.Fault)
  | passwordArgument
  | baseSecretNotHex (fault : Hex.Fault)
deriving DecidableEq, Repr

def Misconfiguration.message : Misconfiguration → String
  | .noStore => "no credential store configured"
  | .noCallback => "no secret callback configured"
  | .noProcessor => "no token processor configured"
  | .secretArgument argument => "invalid --secret: " ++ argument ++ " (expected ID=HEX)"
  | .secretNotHex id fault => "--secret " ++ id ++ ": " ++ fault.message
  | .passwordArgument => "invalid --password (expected USER=PASSWORD)"
  | .baseSecretNotHex fault => "--secret is not hex: " ++ fault.message

/-- Well-formed XML that does not have the form of a token or key. -/
inductive StructureFault where
  | duplicateId (id : String)
  | processedTwice (id : String)
  | expected (name : String)
  | without (token part : String)
  | notANumber (what : String)
  | offsetAndGeneration
  | incompleteKeyValue (keyValue part : String)
  | noSecurityHeader
deriving DecidableEq, Repr

def StructureFault.message : StructureFault → String
  | .duplicateId id => "ID \"" ++ id ++ "\" is used by more than one element"
  | .processedTwice id => "security header element id \"" ++ id ++ "\" was processed twice"
  | .expected name => "expected " ++ name
  | .without token part => token ++ " without " ++ part
  | .notANumber what => what ++ " is not a non-negative integer"
  | .offsetAndGeneration => "DerivedKeyToken has both Offset and Generation"
  | .incompleteKeyValue keyValue part => keyValue ++ " is missing " ++ part
  | .noSecurityHeader => "no wsse:Security header"

/-- An encoded certificate cannot be read. -/
inductive CertificateFault where
  | notDer
  | notPem
  | notPkiPath
  | emptyPkiPath
deriving DecidableEq, Repr

def CertificateFault.message : CertificateFault → String
  | .notDer => "failed to parse X.509 certificate"
  | .notPem => "failed to parse PEM certificate"
  | .notPkiPath => "failed to parse PkiPath"
  | .emptyPkiPath => "PkiPath contains no certificates"

/-- An RSA modulus and exponent that make no public key. -/
inductive RsaFault where
  | modulusTooLarge
  | exponentTooLarge
  | invalidModulus
  | invalidExponent
  | exponentTooSmall
deriving DecidableEq, Repr

def RsaFault.message : RsaFault → String
  | .modulusTooLarge => "modulus too large"
  | .exponentTooLarge => "public exponent too large"
  | .invalidModulus => "invalid modulus"
  | .invalidExponent => "invalid exponent"
  | .exponentTooSmall => "public exponent too small"

/-- A public key cannot be read. -/
inductive KeyFault where
  | unsupportedKeyValue
  | invalidRsa (fault : RsaFault)
  | invalidPoint (curve : String)
  | unsupportedCurve (uri : String)
  | unsupportedKeyInfo
deriving DecidableEq, Repr

def KeyFault.message : KeyFault → String
  | .unsupportedKeyValue => "KeyValue holds no supported key"
  | .invalidRsa fault => "invalid RSA public key: " ++ fault.message
  | .invalidPoint curve => "invalid " ++ curve ++ " point: signature error"
  | .unsupportedCurve uri => "unsupported EC curve: " ++ uri
  | .unsupportedKeyInfo => "unsupported SubjectPublicKeyInfo"

/-- A file cannot be read. -/
inductive FileFault where
  | notFound
  | isDirectory
  | notDirectory
  | nameTooLong
  | nulInName
  | notText
  | other (reason : String)
deriving DecidableEq, Repr

def FileFault.message : FileFault → String
  | .notFound => "No such file or directory (os error 2)"
  | .isDirectory => "Is a directory (os error 21)"
  | .notDirectory => "Not a directory (os error 20)"
  | .nameTooLong => "File name too long (os error 36)"
  | .nulInName => "file name contained an unexpected NUL byte"
  | .notText => "stream did not contain valid UTF-8"
  | .other reason => reason

end SecurityTokens
