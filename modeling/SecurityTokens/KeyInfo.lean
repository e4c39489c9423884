/-
# Keys inside a message

A `ds:KeyInfo` carries certificates and a public key.

| child | gives |
| --- | --- |
| `ds:X509Data` | certificates, the leaf of each such child first among them |
| the first `ds:KeyValue` | the public key |

Without a `ds:KeyValue` the public key is that of the first certificate.  Other
children are passed over, and a child that is read and malformed is an error.
-/

import SecurityTokens.Certificate.Leaf
import SecurityTokens.Xml.Document

namespace SecurityTokens

/-- What a `ds:KeyInfo` carries. -/
structure KeyInfo where
  certificates : List Certificate
  publicKey : Option PublicKey
deriving DecidableEq

/-- The bytes of the child element of a key value. -/
def keyValueBytes (e : Xml.Element) (name : String) : Except Error Bytes :=
  match e.child? Namespace.signature name with
  | some child => decodeBase64Text name child.text
  | none => .error (.xmlStructure (.incompleteKeyValue "RSAKeyValue" name))

/-- The key of a `ds:RSAKeyValue`. -/
def RsaKey.ofElement (e : Xml.Element) : Except Error RsaKey := do
  let modulus ← keyValueBytes e "Modulus"
  let exponent ← keyValueBytes e "Exponent"
  (RsaKey.ofParts modulus.toNat exponent.toNat).mapError fun fault => .key (.invalidRsa fault)

/-- The first element directly inside that has a local name in any namespace. -/
def Xml.Element.childOfAnyNamespace? (e : Xml.Element) (localName : String) : Option Xml.Element :=
  e.elements.find? (·.localName == localName)

/-- The point of a `dsig11:ECKeyValue`. -/
def CurvePoint.ofElement (e : Xml.Element) : Except Error CurvePoint := do
  let some uri := (e.childOfAnyNamespace? "NamedCurve").bind (·.attribute? "URI")
    | throw (.xmlStructure (.incompleteKeyValue "ECKeyValue" "NamedCurve URI"))
  let some publicKey := e.childOfAnyNamespace? "PublicKey"
    | throw (.xmlStructure (.incompleteKeyValue "ECKeyValue" "PublicKey"))
  let bytes ← decodeBase64Text "EC PublicKey" publicKey.text
  let some curve := Curve.ofUri? uri | throw (.key (.unsupportedCurve uri))
  match CurvePoint.ofBytes? curve bytes with
  | some point => return point
  | none => throw (.key (.invalidPoint curve.name))

/-- The key of a `ds:KeyValue`. -/
def PublicKey.ofElement (e : Xml.Element) : Except Error PublicKey :=
  match e.child? Namespace.signature "RSAKeyValue" with
  | some child => (RsaKey.ofElement child).map .rsa
  | none =>
    match (e.child? Namespace.signature11 "ECKeyValue").or
        (e.child? Namespace.signature "ECKeyValue") with
    | some child => (CurvePoint.ofElement child).map .elliptic
    | none => .error (.key .unsupportedKeyValue)

/-- The certificate of a `ds:X509Certificate`. -/
def Certificate.ofElement (e : Xml.Element) : Except Error Certificate := do
  Certificate.ofDer (← decodeBase64Text "X509Certificate" e.text)

namespace KeyInfo

/-- No certificates and no key. -/
def empty : KeyInfo := ⟨[], none⟩

/-- Whether there is neither a certificate nor a key. -/
def isEmpty (k : KeyInfo) : Bool := k.certificates.isEmpty && k.publicKey.isNone

/-- The certificates of a `ds:X509Data`, the leaf first. -/
def certificatesOf (e : Xml.Element) : Except Error (List Certificate) := do
  let certificates ← (e.childrenNamed Namespace.signature "X509Certificate").mapM
    Certificate.ofElement
  return Certificate.leafFirst certificates

/-- Adds what one child carries to what the children before it carry. -/
def addChild (k : KeyInfo) (child : Xml.Element) : Except Error KeyInfo := do
  if child.isNamed Namespace.signature "X509Data" then
    return { k with certificates := k.certificates ++ (← certificatesOf child) }
  else if child.isNamed Namespace.signature "KeyValue" && k.publicKey.isNone then
    return { k with publicKey := some (← PublicKey.ofElement child) }
  else return k

/-- Takes the public key from the first certificate if there is none yet. -/
def completed (k : KeyInfo) : Except Error KeyInfo :=
  match k.publicKey, k.certificates with
  | none, leaf :: _ => leaf.publicKey.map fun key => { k with publicKey := some key }
  | _, _ => .ok k

/-- What a `ds:KeyInfo` carries. -/
def ofElement (e : Xml.Element) : Except Error KeyInfo := do
  (← e.elements.foldlM addChild empty).completed

/-- The description of what is carried. -/
def describe (k : KeyInfo) : String :=
  Text.describeRecord "KeyInfoMaterial"
    [("certificates", Text.describeList (k.certificates.map Certificate.describe)),
     ("public_key", Text.describeOption (k.publicKey.map PublicKey.describe))]

end KeyInfo
end SecurityTokens
