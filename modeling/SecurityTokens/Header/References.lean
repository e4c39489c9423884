/-
# References in keys

Signatures, encrypted data and encrypted keys hold references to tokens in their
`ds:KeyInfo`.  These are found at any depth of the document: for each element of
one of the three kinds, in document order, the references directly inside its
first `ds:KeyInfo`.
-/

import SecurityTokens.Reference.Basic

namespace SecurityTokens

/-- The kind of element whose key a reference gives. -/
inductive ReferenceSite where
  | signature
  | encryptedData
  | encryptedKey
deriving DecidableEq, Repr

namespace ReferenceSite

/-- The name of a site. -/
def label : ReferenceSite → String
  | signature => "Signature"
  | encryptedData => "EncryptedData"
  | encryptedKey => "EncryptedKey"

/-- The vocabulary of a site. -/
def namespaceUri : ReferenceSite → String
  | signature => Namespace.signature
  | encryptedData => Namespace.encryption
  | encryptedKey => Namespace.encryption

/-- The site that an element is. -/
def ofElement? (e : Xml.Element) : Option ReferenceSite :=
  [signature, encryptedData, encryptedKey].find? fun site => e.isNamed site.namespaceUri site.label

end ReferenceSite

/-- The references directly inside the first `ds:KeyInfo` of an element. -/
def Xml.Place.keyReferences (p : Xml.Place) : List Xml.Place :=
  match p.child? Namespace.signature "KeyInfo" with
  | some keyInfo => keyInfo.childrenNamed Namespace.security "SecurityTokenReference"
  | none => []

/-- The references of one place, if it is a site. -/
def ReferenceSite.referencesAt (p : Xml.Place) : List (ReferenceSite × Xml.Place) :=
  match ofElement? p.element with
  | some site => p.keyReferences.map (site, ·)
  | none => []

namespace Xml.Document

/-- The references in keys, with their sites. -/
def keyReferences (d : Document) : List (ReferenceSite × Place) :=
  d.places.flatMap ReferenceSite.referencesAt

/-- The references in keys as they read, with their sites. -/
def parseKeyReferences (d : Document) : Except Error (List (ReferenceSite × TokenReference)) :=
  d.keyReferences.mapM fun (site, place) => do
    return (site, ← TokenReference.ofElement place.element)

end Xml.Document
end SecurityTokens
