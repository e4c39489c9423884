/-
# Confirmations of a subject

An assertion tells how its subject is confirmed, by a method and, for some
methods, by a key.  The two versions hold confirmations in different places:

| | SAML 1.1 | SAML 2.0 |
| --- | --- | --- |
| subjects | the first of each statement | the first of the assertion |
| confirmations | the first of each subject | all of the subject |
| methods | elements, any number | an attribute |
| key | in the confirmation | in the first confirmation data |
-/

import SecurityTokens.Assertion.Version
import SecurityTokens.Xml.Element

namespace SecurityTokens

/-- A confirmation: its methods and the `ds:KeyInfo` that holds its key. -/
structure Confirmation where
  methods : List String
  keyInfo : Option Xml.Element

namespace Confirmation

/-- The confirmation of a SAML 1.1 `SubjectConfirmation`. -/
def ofSaml1 (e : Xml.Element) : Confirmation where
  methods := (e.childrenNamed Namespace.saml1 "ConfirmationMethod").map Xml.Element.text
  keyInfo := e.child? Namespace.signature "KeyInfo"

/-- The confirmation of a SAML 2.0 `SubjectConfirmation`. -/
def ofSaml2 (e : Xml.Element) : Confirmation where
  methods := (e.attribute? "Method").toList
  keyInfo := (e.child? Namespace.saml2 "SubjectConfirmationData").bind
    (·.child? Namespace.signature "KeyInfo")

/-- Whether a method is that of a subject that proves it holds the key. -/
def isHolderOfKey (method : String) : Bool :=
  method == saml1HolderOfKey || method == saml2HolderOfKey

end Confirmation

namespace AssertionVersion

/-- The subjects of an assertion. -/
def subjects (v : AssertionVersion) (e : Xml.Element) : List Xml.Element :=
  match v with
  | v11 => e.elements.filterMap (·.child? Namespace.saml1 "Subject")
  | v20 => (e.child? Namespace.saml2 "Subject").toList

/-- The local name of the element that names a subject. -/
def subjectNameElement : AssertionVersion → String
  | v11 => "NameIdentifier"
  | v20 => "NameID"

/-- The name of the first subject that has one. -/
def subjectName? (v : AssertionVersion) (e : Xml.Element) : Option String :=
  ((v.subjects e).findSome? (·.child? v.namespaceUri v.subjectNameElement)).map Xml.Element.text

/-- The confirmations of an assertion, in document order. -/
def confirmations (v : AssertionVersion) (e : Xml.Element) : List Confirmation :=
  match v with
  | v11 => (v.subjects e).filterMap fun s =>
    (s.child? Namespace.saml1 "SubjectConfirmation").map Confirmation.ofSaml1
  | v20 => (v.subjects e).flatMap fun s =>
    (s.childrenNamed Namespace.saml2 "SubjectConfirmation").map Confirmation.ofSaml2

/-- The issuer of an assertion: an attribute in the older version, an element in
the newer one. -/
def issuer? (v : AssertionVersion) (e : Xml.Element) : Option String :=
  match v with
  | v11 => e.attribute? "Issuer"
  | v20 => (e.child? Namespace.saml2 "Issuer").map Xml.Element.text

/-- The attribute that holds the identifier of an assertion. -/
def idAttribute : AssertionVersion → String
  | v11 => "AssertionID"
  | v20 => "ID"

/-- The name under which messages speak of such an assertion. -/
def title : AssertionVersion → String
  | v11 => "SAML 1.1 assertion"
  | v20 => "SAML 2.0 assertion"

/-- The version whose vocabulary an `Assertion` element belongs to. -/
def ofElement? (e : Xml.Element) : Option AssertionVersion :=
  [v11, v20].find? fun v => e.isNamed v.namespaceUri "Assertion"

end AssertionVersion
end SecurityTokens
