/-
# Assertions

An assertion speaks about a subject and confirms it by methods, and possibly by
a key.  Reading one says nothing about its signature; whoever has verified it
says so afterwards, and may add a secret that only the subject has.

The key of the subject comes from the first confirmation whose `ds:KeyInfo`
carries something.  An assertion is trusted when its signature has been verified
and its first method is that of a subject holding the key.
-/

import SecurityTokens.Assertion.Confirmation
import SecurityTokens.KeyInfo

namespace SecurityTokens

/-- An assertion. -/
structure Assertion where
  id : String
  version : AssertionVersion
  issuer : Option String
  subjectName : Option String
  methods : List String
  hasSignature : Bool
  signatureVerified : Bool
  keyInfo : KeyInfo
  secret : Option Bytes
deriving DecidableEq

/-- What the first of several `ds:KeyInfo` that carries something carries. -/
def KeyInfo.firstOf : List Xml.Element → Except Error KeyInfo
  | [] => return .empty
  | e :: rest => do
    let k ← KeyInfo.ofElement e
    if k.isEmpty then firstOf rest else return k

namespace Assertion

/-- The assertion of a version that an element stands for. -/
def ofVersion (version : AssertionVersion) (e : Xml.Element) : Except Error Assertion := do
  let some id := e.attribute? version.idAttribute
    | throw (.xmlStructure (.without version.title version.idAttribute))
  let confirmations := version.confirmations e
  let keyInfo ← KeyInfo.firstOf (confirmations.filterMap (·.keyInfo))
  return {
    id
    version
    issuer := version.issuer? e
    subjectName := version.subjectName? e
    methods := confirmations.flatMap (·.methods)
    hasSignature := (e.child? Namespace.signature "Signature").isSome
    signatureVerified := false
    keyInfo
    secret := none }

/-- The assertion an element stands for. -/
def ofElement (e : Xml.Element) : Except Error Assertion :=
  match AssertionVersion.ofElement? e with
  | some version => ofVersion version e
  | none => .error (.unsupportedToken (.notAnAssertion e.namespaceUri e.localName))

/-- Whether the first method is that of a subject that proves it holds the key. -/
def isHolderOfKey (a : Assertion) : Bool := a.methods.head?.any Confirmation.isHolderOfKey

/-- Whether the assertion vouches for the key of its subject. -/
def isTrusted (a : Assertion) : Bool := a.isHolderOfKey && a.signatureVerified

/-- The description of an assertion, which tells of a secret only that there is one. -/
def describe (a : Assertion) : String :=
  Text.describeRecord "SamlAssertion"
    [("id", Text.quoted a.id), ("version", a.version.label),
     ("issuer", Text.quotedOption a.issuer), ("subject_name", Text.quotedOption a.subjectName),
     ("confirmation_methods", Text.describeList (a.methods.map Text.quoted)),
     ("has_signature", Text.describeBool a.hasSignature),
     ("signature_verified", Text.describeBool a.signatureVerified),
     ("subject_key_info", a.keyInfo.describe),
     ("secret", Text.describeOption (a.secret.map fun _ => Text.describeHidden "Zeroizing"))]

end Assertion
end SecurityTokens
