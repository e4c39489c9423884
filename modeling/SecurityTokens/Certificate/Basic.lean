/-
# Certificates

A certificate is a record together with its encoding.  Read from its plain
encoding it keeps the bytes it was read from; read from armour or out of a path
it has the canonical encoding of its record.

Certificates are found by what they say about themselves:

| key | taken from |
| --- | --- |
| issuer and serial number | the printed issuer, the serial number in decimal |
| thumbprint | the SHA-1 of the encoding |
| subject key identifier | the extension, or else the SHA-1 of the key bits |
-/

import SecurityTokens.Bytes.Decimal
import SecurityTokens.Pem
import SecurityTokens.PublicKey.Basic
import SecurityTokens.Sha1
import SecurityTokens.Text.Description
import SecurityTokens.X509.NameComparison

namespace SecurityTokens

open Der (Tlv)

/-- A certificate. -/
structure Certificate where
  record : X509.Record
  der : Bytes
deriving DecidableEq, Repr

/-- The extension that holds the subject key identifier. -/
def Der.ObjectId.subjectKeyIdentifier : Der.ObjectId := ⟨[0x55, 0x1D, 0x0E]⟩

/-- The extension that tells whether the subject issues certificates. -/
def Der.ObjectId.basicConstraints : Der.ObjectId := ⟨[0x55, 0x1D, 0x13]⟩

namespace Certificate

/-- The certificate of a record, with the canonical encoding. -/
def ofRecord (record : X509.Record) : Certificate := ⟨record, record.encode⟩

/-- The certificate of a plain encoding. -/
def ofDer (bs : Bytes) : Except Error Certificate :=
  match X509.Record.ofBytes? bs with
  | some record => .ok ⟨record, bs⟩
  | none => .error (.certificate .notDer)

/-- The record that armoured text begins with, whatever follows it there.  Its
bytes can be read once only, so fields out of place cannot be passed over. -/
def armouredRecord? (text : Bytes) : Option X509.Record := do
  let content ← Pem.content? text
  let (value, rest) ← Tlv.read? content.readable
  if content.size < Der.lengthBound ∧ content.serves (content.readable.length - rest.length) then
    X509.Record.ofTlv? .refused value
  else none

/-- The certificate of an armoured encoding. -/
def ofPem (text : Bytes) : Except Error Certificate :=
  match armouredRecord? text with
  | some record => .ok (ofRecord record)
  | none => .error (.certificate .notPem)

/-- The certificate of an encoding that is armoured or plain. -/
def ofPemOrDer (bs : Bytes) : Except Error Certificate :=
  if Pem.opening.isPrefixOf bs then ofPem bs else ofDer bs

/-- The certificates of a path, the trust anchor last. -/
def ofPkiPath (bs : Bytes) : Except Error (List Certificate) :=
  match X509.Record.path? bs with
  | none => .error (.certificate .notPkiPath)
  | some [] => .error (.certificate .emptyPkiPath)
  | some records => .ok (records.reverse.map ofRecord)

/-- The printed name of the subject. -/
def subject (c : Certificate) : String := c.record.subject.text

/-- The printed name of the issuer. -/
def issuer (c : Certificate) : String := c.record.issuer.text

/-- The serial number in decimal, its bytes being read as an unsigned number. -/
def serialNumber (c : Certificate) : String := Bytes.decimal c.record.serial

/-- The SHA-1 of the encoding. -/
def thumbprint (c : Certificate) : Bytes := Sha1.digest c.der

/-- The first extension of a kind whose value can be read. -/
def extension? {α : Type} (c : Certificate) (id : Der.ObjectId) (read : Tlv → Option α) :
    Option α :=
  (c.record.extensions.getD []).findSome? fun e =>
    if e.id = id then (Tlv.ofBytes? e.value).bind read else none

/-- The identifier of the subject's key. -/
def subjectKeyIdentifier (c : Certificate) : Bytes :=
  (c.extension? .subjectKeyIdentifier (·.contentOf? 0x04)).getD
    (Sha1.digest c.record.subjectKey.bits.bytes)

/-- Whether constraints allow the subject to issue certificates.  A bound on the
length of paths may follow and has to fit a byte. -/
def issuesCertificates? (constraints : Tlv) : Option Bool := do
  let items ← constraints.sequence?
  let (allowed, items) ← match items with
    | ⟨0x01, content⟩ :: rest => do pure (← Der.boolean? ⟨0x01, content⟩, rest)
    | items => pure (false, items)
  match items with
  | [] => return allowed
  | [bound] => (Der.natural? bound).bind fun n => if n < 256 then some allowed else none
  | _ => none

/-- Whether the certificate is one of an authority. -/
def isAuthority (c : Certificate) : Bool :=
  (c.extension? .basicConstraints issuesCertificates?).getD false

/-- The key of the subject. -/
def publicKey (c : Certificate) : Except Error PublicKey :=
  PublicKey.ofSubjectKey c.record.subjectKey

/-- Whether the certificate has an issuer and a serial number given as text. -/
def matchesIssuerSerial (c : Certificate) (issuer serial : String) : Bool :=
  X509.normalSerial serial == c.serialNumber
    && X509.comparisonForm issuer == X509.comparisonForm c.issuer

/-- The description of a certificate. -/
def describe (c : Certificate) : String :=
  Text.describeRecord "X509Certificate"
    [("subject", Text.quoted c.subject), ("issuer", Text.quoted c.issuer),
     ("serial", Text.quoted c.serialNumber)]

end Certificate
end SecurityTokens
