/-
# Versions of assertions

Two versions of SAML are known.  A reference to an assertion names the version
twice: by its `TokenType` and, when it is a key identifier, by its value type.
-/

import SecurityTokens.Reference.KeyIdentifierType

namespace SecurityTokens

/-- The version of an assertion. -/
inductive AssertionVersion where
  | v11
  | v20
deriving DecidableEq, Repr

namespace AssertionVersion

/-- The `TokenType` a reference to such an assertion carries. -/
def tokenType : AssertionVersion → String
  | .v11 => TokenType.saml11
  | .v20 => TokenType.saml20

/-- The type of a key identifier that names such an assertion. -/
def keyIdentifierType : AssertionVersion → KeyIdentifierType
  | .v11 => .samlAssertionId
  | .v20 => .saml2Id

/-- The value type of a key identifier that names such an assertion. -/
def keyIdentifierValueType : AssertionVersion → String
  | .v11 => ValueType.samlAssertionId
  | .v20 => ValueType.saml2Id

/-- The vocabulary of such an assertion. -/
def namespaceUri : AssertionVersion → String
  | .v11 => Namespace.saml1
  | .v20 => Namespace.saml2

/-- The form in which messages show the version. -/
def label : AssertionVersion → String
  | .v11 => "V1_1"
  | .v20 => "V2_0"

end AssertionVersion
end SecurityTokens
