/-
# Where certificates come from

A source of certificates answers three questions: which certificates the bytes
of a token hold, which certificate has an issuer and serial number, and which one
a key identifier names.  A store answers them from the certificates added to it,
the one added first winning.  It holds no two certificates with one encoding.

| identifier | names the certificate |
| --- | --- |
| `x509v3` | that it is the encoding of, in the store or not |
| `subjectKeyIdentifier` | with this subject key identifier |
| `thumbprintSha1` | with this thumbprint |
-/

import SecurityTokens.Certificate.Basic

namespace SecurityTokens

/-- How the bytes of a token hold certificates. -/
inductive CertificateEncoding where
  | single
  | path
deriving DecidableEq, Repr

/-- The certificates that bytes hold, the certificate of the token first. -/
def CertificateEncoding.read : CertificateEncoding → Bytes → Except Error (List Certificate)
  | single, bs => (Certificate.ofDer bs).map ([·])
  | path, bs => Certificate.ofPkiPath bs

/-- A source of certificates. -/
structure CertificateSource where
  ofToken : CertificateEncoding → Bytes → Except Error (List Certificate)
  byIssuerSerial : (issuer serial : String) → Except Error (Option Certificate)
  byIdentifier : CertificateIdentifier → Bytes → Except Error (Option Certificate)

/-- The certificates added so far, in the order in which they were added. -/
structure CertificateStore where
  certificates : List Certificate

namespace CertificateStore

/-- A store without certificates. -/
def empty : CertificateStore := ⟨[]⟩

/-- Whether a certificate with the same encoding is in the store. -/
def contains (s : CertificateStore) (c : Certificate) : Bool := s.certificates.any (·.der == c.der)

/-- Adds a certificate unless it is in the store. -/
def add (s : CertificateStore) (c : Certificate) : CertificateStore :=
  if s.contains c then s else ⟨s.certificates ++ [c]⟩

/-- The number of certificates. -/
def size (s : CertificateStore) : Nat := s.certificates.length

/-- The store after all certificates of a list have been added. -/
def ofList (cs : List Certificate) : CertificateStore := cs.foldl add empty

/-- The first certificate with an issuer and serial number. -/
def byIssuerSerial? (s : CertificateStore) (issuer serial : String) : Option Certificate :=
  s.certificates.find? (·.matchesIssuerSerial issuer serial)

/-- The certificate an identifier names. -/
def byIdentifier? (s : CertificateStore) (identifier : CertificateIdentifier) (value : Bytes) :
    Except Error (Option Certificate) :=
  match identifier with
  | .x509v3 => (Certificate.ofDer value).map some
  | .subjectKeyIdentifier => .ok (s.certificates.find? (·.subjectKeyIdentifier == value))
  | .thumbprintSha1 => .ok (s.certificates.find? (·.thumbprint == value))

/-- The store as a source. -/
def source (s : CertificateStore) : CertificateSource where
  ofToken := CertificateEncoding.read
  byIssuerSerial issuer serial := .ok (s.byIssuerSerial? issuer serial)
  byIdentifier := s.byIdentifier?

end CertificateStore
end SecurityTokens
