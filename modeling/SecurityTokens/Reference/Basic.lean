/-
# Token references

A `wsse:SecurityTokenReference` points at a token in one of three forms.  When
it holds several, the first form of the table counts, and of several children
of that form the first:

| form | child | needs |
| --- | --- | --- |
| direct | `wsse:Reference` | a `URI` that is not empty |
| key identifier | `wsse:KeyIdentifier` | text that is not blank |
| issuer and serial | `ds:X509Data` with `ds:X509IssuerSerial` | both its texts |

A child of an earlier form that lacks what it needs is an error, also when a
later form is there.
-/

import SecurityTokens.Reference.KeyIdentifierType
import SecurityTokens.Text.Description
import SecurityTokens.Xml.Document

namespace SecurityTokens

/-- The form of a reference. -/
inductive ReferenceKind where
  | direct (uri : String) (valueType : Option String)
  | keyIdentifier (type : KeyIdentifierType) (encodingType : Option String) (value : String)
  | issuerSerial (issuer serial : String)
deriving DecidableEq, Repr

/-- A reference to a token. -/
structure TokenReference where
  id : Option String
  tokenType : Option String
  childCount : Nat
  kind : ReferenceKind
deriving DecidableEq, Repr

namespace ReferenceKind

/-- The direct form, read from a `wsse:Reference`. -/
def ofDirect (e : Xml.Element) : Except Error ReferenceKind :=
  match (e.attribute? "URI").filter (· ≠ "") with
  | some uri => .ok (.direct uri (e.attribute? "ValueType"))
  | none => .error (.malformedReference .withoutUri)

/-- The key identifier form, read from a `wsse:KeyIdentifier`. -/
def ofKeyIdentifier (e : Xml.Element) : Except Error ReferenceKind :=
  let value := Text.dropBlanks e.text
  if value = "" then .error (.malformedReference .emptyKeyIdentifier)
  else
    .ok (.keyIdentifier (.ofValueType (e.attribute? "ValueType")) (e.attribute? "EncodingType")
      value)

/-- The issuer and serial form, read from a `ds:X509IssuerSerial`. -/
def ofIssuerSerial (e : Xml.Element) : Except Error ReferenceKind :=
  let issuer := (e.child? Namespace.signature "X509IssuerName").elim "" Xml.Element.text
  let serial := (e.child? Namespace.signature "X509SerialNumber").elim "" Xml.Element.text
  if issuer = "" ∨ serial = "" then .error (.malformedReference .incompleteIssuerSerial)
  else .ok (.issuerSerial issuer serial)

/-- The form of a reference, by the first of the three forms that it holds. -/
def ofElement (e : Xml.Element) : Except Error ReferenceKind :=
  match e.child? Namespace.security "Reference" with
  | some child => ofDirect child
  | none =>
    match e.child? Namespace.security "KeyIdentifier" with
    | some child => ofKeyIdentifier child
    | none =>
      match (e.child? Namespace.signature "X509Data").bind
          (·.child? Namespace.signature "X509IssuerSerial") with
      | some child => ofIssuerSerial child
      | none => .error (.malformedReference .noForm)

/-- The description of a form. -/
def describe : ReferenceKind → String
  | direct uri valueType =>
    Text.describeRecord "DirectReference"
      [("uri", Text.quoted uri), ("value_type", Text.quotedOption valueType)]
  | keyIdentifier type encodingType value =>
    Text.describeRecord "KeyIdentifier"
      [("value_type", type.label), ("encoding_type", Text.quotedOption encodingType),
       ("value", Text.quoted value)]
  | issuerSerial issuer serial =>
    Text.describeRecord "X509Data"
      [("issuer", Text.quoted issuer), ("serial", Text.quoted serial)]

end ReferenceKind

/-- The part of a URI after one leading number sign; `none` when there is none. -/
def fragment? (uri : String) : Option String :=
  match uri.toList with
  | '#' :: rest => some (String.ofList rest)
  | _ => none

namespace TokenReference

/-- The reference a `wsse:SecurityTokenReference` stands for. -/
def ofElement (e : Xml.Element) : Except Error TokenReference := do
  if !e.isNamed Namespace.security "SecurityTokenReference" then
    throw (.malformedReference (.unexpectedElement e.localName))
  let kind ← ReferenceKind.ofElement e
  return {
    id := e.id?
    tokenType := e.attributeIn? Namespace.security11 "TokenType"
    childCount := e.elements.length
    kind }

/-- The identifier under which the token is looked up: the URI without a leading
number sign, or the text of the key identifier. -/
def lookupId? (r : TokenReference) : Option String :=
  match r.kind with
  | .direct uri _ => some ((fragment? uri).getD uri)
  | .keyIdentifier _ _ value => some value
  | .issuerSerial _ _ => none

/-- Whether the reference has the direct form. -/
def isDirect (r : TokenReference) : Bool :=
  match r.kind with
  | .direct _ _ => true
  | _ => false

/-- The `ValueType` of a direct reference. -/
def valueType? (r : TokenReference) : Option String :=
  match r.kind with
  | .direct _ valueType => valueType
  | _ => none

/-- The type of a key identifier. -/
def keyIdentifierType? (r : TokenReference) : Option KeyIdentifierType :=
  match r.kind with
  | .keyIdentifier type _ _ => some type
  | _ => none

/-- The description of a reference. -/
def describe (r : TokenReference) : String :=
  Text.describeRecord "SecurityTokenReference"
    [("id", Text.quotedOption r.id), ("token_type", Text.quotedOption r.tokenType),
     ("child_count", toString r.childCount), ("kind", r.kind.describe)]

end TokenReference
end SecurityTokens
