/-
# The record of a certificate

A certificate is a signed sequence of fields.  Reading checks the form of all
of them; writing puts them back.  What reads as a default or passes over fields
is not written back, and sets are written in order, so a record written again
may differ from the bytes it was read from.

| field | form |
| --- | --- |
| version | wrapped in context 0; missing means the first of three |
| serial number | an integer of at most 21 bytes |
| signature algorithm | an identifier and any parameters |
| issuer, subject | names |
| validity | two times |
| public key | algorithm and bits |
| unique identifiers | bits in contexts 1 and 2, may be missing |
| extensions | wrapped in context 3, may be missing |
-/

import SecurityTokens.X509.Name
import SecurityTokens.X509.Time

namespace SecurityTokens
namespace X509

open Der (Tlv ObjectId BitString Stray)

/-- An algorithm with its parameters. -/
structure AlgorithmIdentifier where
  id : ObjectId
  parameters : Option Tlv
deriving DecidableEq, Repr

namespace AlgorithmIdentifier

def ofTlv? (t : Tlv) : Option AlgorithmIdentifier :=
  match t.sequence? with
  | some [id] => (ObjectId.ofTlv? id).map (⟨·, none⟩)
  | some [id, parameters] => (ObjectId.ofTlv? id).map (⟨·, some parameters⟩)
  | _ => none

def toTlv (a : AlgorithmIdentifier) : Tlv := .sequence (a.id.toTlv :: a.parameters.toList)

end AlgorithmIdentifier

/-- A public key with its algorithm. -/
structure SubjectKey where
  algorithm : AlgorithmIdentifier
  bits : BitString
deriving DecidableEq, Repr

namespace SubjectKey

def ofTlv? (t : Tlv) : Option SubjectKey :=
  match t.sequence? with
  | some [algorithm, bits] => do
    return ⟨← AlgorithmIdentifier.ofTlv? algorithm, ← BitString.ofTlv? bits⟩
  | _ => none

def toTlv (k : SubjectKey) : Tlv := .sequence [k.algorithm.toTlv, k.bits.toTlv]

end SubjectKey

/-- An extension; its value is the encoding of a value of some type. -/
structure Extension where
  id : ObjectId
  critical : Bool
  value : Bytes
deriving DecidableEq, Repr

namespace Extension

def ofTlv? (t : Tlv) : Option Extension :=
  match t.sequence? with
  | some [id, value] => do return ⟨← ObjectId.ofTlv? id, false, ← value.contentOf? 0x04⟩
  | some [id, critical, value] => do
    return ⟨← ObjectId.ofTlv? id, ← Der.boolean? critical, ← value.contentOf? 0x04⟩
  | _ => none

def toTlv (e : Extension) : Tlv :=
  .sequence (e.id.toTlv :: ((if e.critical then [⟨0x01, [0xFF]⟩] else []) ++ [⟨0x04, e.value⟩]))

end Extension

/-- The fields of a certificate. -/
structure Record where
  version : Nat
  serial : Bytes
  innerAlgorithm : AlgorithmIdentifier
  issuer : Name
  notBefore : Tlv
  notAfter : Tlv
  subject : Name
  subjectKey : SubjectKey
  issuerUniqueId : Option BitString
  subjectUniqueId : Option BitString
  extensions : Option (List Extension)
  outerAlgorithm : AlgorithmIdentifier
  signature : BitString
deriving DecidableEq, Repr

/-- The greatest number of bytes in a serial number. -/
def maxSerialLength : Nat := 21

/-- Reads a field that may be missing. -/
def optional? {α : Type} (read : Tlv → Option α) : Option Tlv → Option (Option α)
  | some t => (read t).map some
  | none => some none

/-- The value wrapped in a constructed tag of the context. -/
def unwrap? (number : UInt8) (t : Tlv) : Option Tlv :=
  (t.contentOf? (Der.contextTag number)).bind Tlv.ofBytes?

/-- The version that a wrapped number gives. -/
def version? (t : Tlv) : Option Nat := (unwrap? 0 t).bind fun t => (Der.natural? t).filter (· ≤ 2)

/-- Bits that stand for themselves under a tag of the context. -/
def contextBits? (number : UInt8) (t : Tlv) : Option BitString :=
  (t.contentOf? (Der.primitiveContextTag number)).bind BitString.ofContent?

/-- The two times of a validity. -/
def validity? (t : Tlv) : Option (Tlv × Tlv) :=
  match t.sequence? with
  | some [notBefore, notAfter] => do return (← time? notBefore, ← time? notAfter)
  | _ => none

/-- The extensions inside their wrapping. -/
def extensions? (t : Tlv) : Option (List Extension) := do
  let items ← (← unwrap? 3 t).sequence?
  items.mapM Extension.ofTlv?

namespace Record

/-- The record of a value, fields out of place being passed over or refused. -/
def ofTlv? (stray : Stray) (t : Tlv) : Option Record := do
  let [signed, outerAlgorithm, signature] ← t.sequence? | none
  let (version, items) ← Der.takeContext stray 0 (← signed.sequence?)
  let version ← optional? version? version
  let serial :: innerAlgorithm :: issuer :: validity :: subject :: subjectKey :: items := items
    | none
  let serial ← (Der.integer? serial).filter (·.length ≤ maxSerialLength)
  let innerAlgorithm ← AlgorithmIdentifier.ofTlv? innerAlgorithm
  let issuer ← Name.ofTlv? issuer
  let (notBefore, notAfter) ← validity? validity
  let subject ← Name.ofTlv? subject
  let subjectKey ← SubjectKey.ofTlv? subjectKey
  let (issuerUniqueId, items) ← Der.takeContext stray 1 items
  let issuerUniqueId ← optional? (contextBits? 1) issuerUniqueId
  let (subjectUniqueId, items) ← Der.takeContext stray 2 items
  let subjectUniqueId ← optional? (contextBits? 2) subjectUniqueId
  let (extensions, items) ← Der.takeContext stray 3 items
  let extensions ← optional? extensions? extensions
  let [] := items | none
  let outerAlgorithm ← AlgorithmIdentifier.ofTlv? outerAlgorithm
  let signature ← BitString.ofTlv? signature
  return {
    version := version.getD 0
    serial, innerAlgorithm, issuer, notBefore, notAfter, subject, subjectKey
    issuerUniqueId, subjectUniqueId, extensions, outerAlgorithm, signature }

/-- The signed part of a record as a value. -/
def signedPart (r : Record) : Tlv :=
  .sequence <|
    (if r.version = 0 then [] else [.wrapped 0 ⟨0x02, [UInt8.ofNat r.version]⟩])
    ++ [⟨0x02, r.serial⟩, r.innerAlgorithm.toTlv, r.issuer.toTlv,
        .sequence [r.notBefore, r.notAfter], r.subject.toTlv, r.subjectKey.toTlv]
    ++ (r.issuerUniqueId.map fun b => (⟨Der.primitiveContextTag 1, b.content⟩ : Tlv)).toList
    ++ (r.subjectUniqueId.map fun b => (⟨Der.primitiveContextTag 2, b.content⟩ : Tlv)).toList
    ++ (r.extensions.map fun es => Tlv.wrapped 3 (.sequence (es.map Extension.toTlv))).toList

/-- The record as a value. -/
def toTlv (r : Record) : Tlv :=
  .sequence [r.signedPart, r.outerAlgorithm.toTlv, r.signature.toTlv]

/-- The record that all of the bytes are. -/
def ofBytes? (bs : Bytes) : Option Record := (Tlv.ofBytes? bs).bind (ofTlv? .passedOver)

/-- The canonical encoding of a record. -/
def encode (r : Record) : Bytes := r.toTlv.encode

/-- The records of a path: a sequence of certificates, trust anchor first. -/
def path? (bs : Bytes) : Option (List Record) := do
  let items ← (← Tlv.ofBytes? bs).sequence?
  items.mapM (ofTlv? .passedOver)

end Record
end X509
end SecurityTokens
