/-
# The names of a certificate

A reference can name a certificate in five ways.  Each goes through a reader of its own
and compares with a part of its own:

| reference | read as | found by |
| --- | --- | --- |
| to a binary token | bytes of the element | its encoding |
| key identifier for the encoding | bytes | its encoding |
| key identifier for the thumbprint | bytes | SHA-1 of its encoding |
| key identifier for the subject's key | bytes | extension, or SHA-1 of the key bits |
| issuer and serial number | components, digits | its printed issuer and serial number |

If the certificate is on its own under each of them, all lead to one credential
(`result_resolve_of_names`).  For the first four, that the text of bytes reads back is
what matters; for the last, that a serial number is printed without zeros in front.
-/

import SecurityTokens.Proofs.Base64
import SecurityTokens.Proofs.Comments
import SecurityTokens.Proofs.Identifiers
import SecurityTokens.Proofs.Origin
import SecurityTokens.Proofs.Rules
import SecurityTokens.Proofs.SerialNumbers

namespace SecurityTokens

namespace Text

/-- Trimming drops blanks alone. -/
theorem dropBlanks_trim (s : String) : dropBlanks (trim s) = dropBlanks s := by
  rw [dropBlanks, trim, String.toList_ofList, filter_trimChars, dropBlanks]

end Text

/-! ## A certificate on its own -/

namespace Certificate

variable {c : Certificate} {bs : Bytes}

/-- No certificate is read from nothing. -/
theorem ne_nil_of_ofDer (read : ofDer bs = .ok c) : bs ≠ [] := by
  rintro rfl
  cases read

/-- The issuer and the serial number that a certificate shows match it. -/
theorem matchesIssuerSerial_self (c : Certificate) :
    c.matchesIssuerSerial c.issuer c.serialNumber = true := by
  rw [matchesIssuerSerial, normalSerial_serialNumber, beq_self_eq_true, beq_self_eq_true,
    Bool.and_self]

theorem thumbprint_ne_nil (c : Certificate) : c.thumbprint ≠ [] :=
  List.ne_nil_of_length_eq_add_one (Sha1.length_digest c.der)

end Certificate

/-- The element is a binary token that holds a certificate. -/
structure Xml.Element.HoldsCertificate (e : Element) (c : Certificate) : Prop where
  named : e.isNamed Namespace.security "BinarySecurityToken" = true
  typed : e.attribute? "ValueType" = some ValueType.x509v3
  encoded : e.attribute? "EncodingType" = none ∨
    e.attribute? "EncodingType" = some Encoding.base64Binary
  written : Text.dropBlanks e.text = Base64.encode c.der

/-- The store holds a certificate, and no other one of its thumbprint, its subject's key
or its issuer and serial number. -/
structure CertificateStore.TellsApart (store : CertificateStore) (c : Certificate) : Prop where
  held : c ∈ store.certificates
  byThumbprint : ∀ other ∈ store.certificates, other.thumbprint = c.thumbprint → other = c
  bySubjectKey : ∀ other ∈ store.certificates,
    other.subjectKeyIdentifier = c.subjectKeyIdentifier → other = c
  byIssuerSerial : ∀ other ∈ store.certificates,
    other.matchesIssuerSerial c.issuer c.serialNumber = true → other = c

/-- The certificate can be read again, and is on its own under each of its names: under
an identifier in the document, and in the store. -/
structure Context.TellsApart (ctx : Context) (id : String) (c : Certificate) : Prop where
  read : Certificate.ofDer c.der = .ok c
  keyed : c.subjectKeyIdentifier ≠ []
  unrecorded : ctx.tokens = .empty
  carried : ∃ root extra place, ctx.document = .ofRoot root extra ∧
    Xml.carriers extra id (Xml.Document.placesOf root) = [place] ∧
    place.element.HoldsCertificate c
  stored : ∃ store : CertificateStore, ctx.source = some store.source ∧ store.TellsApart c

/-- The ways to name a certificate, of which the first is by the identifier of its
element. -/
inductive ReferenceKind.Names (id : String) (c : Certificate) : ReferenceKind → Prop
  | token : Names id c (.direct ("#" ++ id) (some ValueType.x509v3))
  | encoded {value} (written : Text.dropBlanks value = Base64.encode c.der) :
    Names id c (.keyIdentifier .x509v3 (some Encoding.base64Binary) value)
  | thumbprint {value} (written : Text.dropBlanks value = Base64.encode c.thumbprint) :
    Names id c (.keyIdentifier .thumbprintSha1 (some Encoding.base64Binary) value)
  | subjectKey {value} (written : Text.dropBlanks value = Base64.encode c.subjectKeyIdentifier) :
    Names id c (.keyIdentifier .subjectKeyIdentifier (some Encoding.base64Binary) value)
  | issuerSerial : Names id c (.issuerSerial c.issuer c.serialNumber)

theorem fragment?_append (id : String) : fragment? ("#" ++ id) = some id := by
  rw [fragment?, String.toList_append]
  exact congrArg some String.ofList_toList

/-- The binary token of a certificate is read as its encoding. -/
theorem Xml.Element.HoldsCertificate.ofElement_eq {e : Element} {c : Certificate}
    (holds : e.HoldsCertificate c) (filled : c.der ≠ []) :
    BinaryToken.ofElement e = .ok ⟨e.id?, ValueType.x509v3, c.der⟩ := by
  have decoded : decodeBase64Text "BinarySecurityToken" e.text = .ok c.der :=
    decodeBase64Text_of_dropBlanks holds.written filled
  refine BinaryToken.ofElement_eq_ok_iff.2 ⟨_, _, holds.named, holds.typed, ?_, decoded, rfl⟩
  rcases holds.encoded with absent | base64
  · rw [absent, Option.filter_none]
  · rw [base64]
    rfl

namespace CertificateStore.TellsApart

variable {store : CertificateStore} {c : Certificate}

theorem byIssuerSerial?_eq (apart : store.TellsApart c) :
    store.byIssuerSerial? c.issuer c.serialNumber = some c :=
  find?_eq_some_of_unique apart.held c.matchesIssuerSerial_self apart.byIssuerSerial

theorem byThumbprint?_eq (apart : store.TellsApart c) :
    store.byIdentifier? .thumbprintSha1 c.thumbprint = .ok (some c) :=
  congrArg Except.ok (find?_eq_some_of_unique apart.held (beq_self_eq_true _)
    fun other mem same => apart.byThumbprint other mem (eq_of_beq same))

theorem bySubjectKey?_eq (apart : store.TellsApart c) :
    store.byIdentifier? .subjectKeyIdentifier c.subjectKeyIdentifier = .ok (some c) :=
  congrArg Except.ok (find?_eq_some_of_unique apart.held (beq_self_eq_true _)
    fun other mem same => apart.bySubjectKey other mem (eq_of_beq same))

end CertificateStore.TellsApart

namespace Resolution

variable {ctx : Context} {r : TokenReference} {id : String} {c : Certificate}

/-- A reference that names a certificate is as the profile asks. -/
theorem isWellFormed_of_names (single : r.childCount = 1) (names : r.kind.Names id c) :
    r.IsWellFormed := by
  refine ⟨single, fun type typed => ?_, fun type encoding value kind _ => ?_⟩
  · obtain ⟨encoding, value, kind⟩ := TokenReference.keyIdentifierType?_eq_some_iff.1 typed
    rw [kind] at names
    cases names <;> simp
  · rw [kind] at names
    cases names <;> rfl

/-- What it asks for is known. -/
theorem exists_lookup_of_names (names : r.kind.Names id c) : ∃ lookup, r.lookup = .ok lookup := by
  unfold TokenReference.lookup
  generalize r.kind = kind at names ⊢
  cases names <;> exact ⟨_, rfl⟩

theorem processed?_of_unrecorded (unrecorded : ctx.tokens = .empty) : processed? ctx r = none := by
  rw [processed?, unrecorded]
  cases r.lookupId? with
  | none => rfl
  | some id => rfl

/-- The element that holds a certificate yields it. -/
theorem yields_of_holdsCertificate {store : CertificateStore} {place : Xml.Place}
    (read : Certificate.ofDer c.der = .ok c) (unprocessed : processed? ctx r = none)
    (configured : ctx.source = some store.source)
    (found : ctx.document.elementById id = .ok (some place))
    (holds : place.element.HoldsCertificate c)
    (kind : r.kind = .direct ("#" ++ id) (some ValueType.x509v3)) :
    Yields ctx r (.binary ValueType.x509v3 false) (.ofCertificates [c] false) := by
  have leads : LeadsToElement ctx r id (some ValueType.x509v3) place.element :=
    ⟨unprocessed, ⟨_, kind, fragment?_append id⟩, ⟨place, found, rfl⟩⟩
  have token := holds.ofElement_eq (Certificate.ne_nil_of_ofDer read)
  have fits : Profile.checkBinaryToken r (some ValueType.x509v3) = .ok () :=
    Profile.checkBinaryToken_eq_ok_iff.2 ⟨.inl ⟨_, kind⟩, fun path => absurd path (by decide)⟩
  have single : CertificateEncoding.single.read c.der = .ok [c] := by
    rw [CertificateEncoding.read, read]
    rfl
  exact .binaryElement leads holds.named configured token rfl (fun _ => fits) single

/-- A key identifier yields the certificate that the store finds for its bytes. -/
theorem yields_of_keyIdentifier {store : CertificateStore} {type : KeyIdentifierType}
    {identifier : CertificateIdentifier} {encoding : Option String} {value : String} {bs : Bytes}
    (unprocessed : processed? ctx r = none) (configured : ctx.source = some store.source)
    (kind : r.kind = .keyIdentifier type encoding value)
    (named : type.certificate? = some identifier)
    (written : Text.dropBlanks value = Base64.encode bs) (filled : bs ≠ [])
    (found : store.byIdentifier? identifier bs = .ok (some c)) :
    Yields ctx r .certificate (.ofCertificates [c] false) := by
  have target : type.target? = some (.certificate identifier) := by
    cases type <;> cases named <;> rfl
  have fits : Profile.checkBinaryToken r none = .ok () := by
    rw [Profile.checkBinaryToken, kind]
    simp [named, Profile.seq_eq_ok_iff]
  exact .identifiedCertificate ⟨unprocessed, ⟨_, _, kind, target⟩⟩ (fun _ => fits) configured
    (decodeBase64Text_of_dropBlanks written filled) found

/-- **A certificate is the same by all of its names.**  If it is on its own under each of
them, every reference that names it leads to the credential of the certificate alone. -/
theorem result_resolve_of_names (apart : ctx.TellsApart id c) (single : r.childCount = 1)
    (names : r.kind.Names id c) :
    (resolve ctx r).result = .ok {
      certificates := [c], publicKey := none, secretKey := none,
      principal := .named c.subject, trusted := false } := by
  have filled : c.der ≠ [] := Certificate.ne_nil_of_ofDer apart.read
  have unprocessed : processed? ctx r = none := processed?_of_unrecorded apart.unrecorded
  have wellFormed := Profile.checkStructure_eq_ok_iff.2 (isWellFormed_of_names single names)
  obtain ⟨root, extra, place, document, alone, holds⟩ := apart.carried
  obtain ⟨store, configured, stored⟩ := apart.stored
  have found : ctx.document.elementById id = .ok (some place) := by
    rw [document]
    exact Xml.Document.elementById_eq_some_iff.2 alone
  have yields : ∃ o, Yields ctx r o (.ofCertificates [c] false) := by
    generalize kind : r.kind = form at names
    cases names with
    | token =>
      exact ⟨_, yields_of_holdsCertificate apart.read unprocessed configured found holds kind⟩
    | encoded written =>
      have read : store.byIdentifier? .x509v3 c.der = .ok (some c) := by
        rw [CertificateStore.byIdentifier?, apart.read]
        rfl
      exact ⟨_, yields_of_keyIdentifier unprocessed configured kind rfl written filled read⟩
    | thumbprint written =>
      exact ⟨_, yields_of_keyIdentifier unprocessed configured kind rfl written
        c.thumbprint_ne_nil stored.byThumbprint?_eq⟩
    | subjectKey written =>
      exact ⟨_, yields_of_keyIdentifier unprocessed configured kind rfl written
        apart.keyed stored.bySubjectKey?_eq⟩
    | issuerSerial =>
      exact ⟨_, .issuerSerial unprocessed kind configured
        (congrArg Except.ok stored.byIssuerSerial?_eq)⟩
  obtain ⟨o, yields⟩ := yields
  exact resolve_eq_ok_iff.2 ⟨fun _ => wellFormed, exists_lookup_of_names names, o, _, yields, rfl⟩

/-- The fields of a certificate that someone has issued to itself. -/
def smallRecord : X509.Record where
  version := 0
  serial := [7]
  innerAlgorithm := ⟨⟨[0x2A, 0x03, 0x04]⟩, none⟩
  issuer := [[⟨⟨[0x55, 0x04, 0x03]⟩, ⟨0x0C, [0x61]⟩⟩]]
  notBefore := ⟨0x17, [55, 48, 48, 49, 48, 49, 48, 48, 48, 48, 48, 48, 90]⟩
  notAfter := ⟨0x17, [55, 49, 48, 49, 48, 49, 48, 48, 48, 48, 48, 48, 90]⟩
  subject := [[⟨⟨[0x55, 0x04, 0x03]⟩, ⟨0x0C, [0x61]⟩⟩]]
  subjectKey := ⟨⟨⟨[0x2A, 0x03, 0x04]⟩, none⟩, ⟨0, [1]⟩⟩
  issuerUniqueId := none
  subjectUniqueId := none
  extensions := none
  outerAlgorithm := ⟨⟨[0x2A, 0x03, 0x04]⟩, none⟩
  signature := ⟨0, [1]⟩

/-- The certificate. -/
def smallCertificate : Certificate := .ofRecord smallRecord

/-- A binary token that holds it. -/
def smallTokenElement : Xml.Element :=
  ⟨⟨some Namespace.security, "BinarySecurityToken"⟩,
    [⟨⟨none, "Id"⟩, "X-1"⟩, ⟨⟨none, "ValueType"⟩, ValueType.x509v3⟩],
    [.text (Base64.encode smallCertificate.der)]⟩

/-- A strict context with the binary token, and a store of the certificate alone. -/
def smallContext : Context where
  document := .ofRoot smallTokenElement []
  tokens := .empty
  source := some (CertificateStore.source ⟨[smallCertificate]⟩)
  callback := none
  processor := none
  compliance := .strict
  sizing := ⟨none, none⟩

/-- The small certificate is on its own. -/
theorem tellsApart_smallContext : smallContext.TellsApart "X-1" smallCertificate where
  read := by
    have record : X509.Record.ofBytes? smallRecord.encode = some smallRecord := by decide +kernel
    show Certificate.ofDer smallRecord.encode = _
    rw [Certificate.ofDer, record]
    rfl
  keyed := List.ne_nil_of_length_eq_add_one (Sha1.length_digest smallRecord.subjectKey.bits.bytes)
  unrecorded := rfl
  carried := by
    refine ⟨smallTokenElement, [], ⟨[], smallTokenElement⟩, rfl, rfl, rfl, rfl, .inl rfl, ?_⟩
    show Text.dropBlanks (Text.trim (Base64.encode smallCertificate.der)) = _
    rw [Text.dropBlanks_trim, Base64.dropBlanks_encode]
  stored := by
    have only : ∀ other ∈ [smallCertificate], other = smallCertificate :=
      fun other mem => List.mem_singleton.1 mem
    exact ⟨⟨[smallCertificate]⟩, rfl, List.mem_singleton_self _, fun other mem _ => only other mem,
      fun other mem _ => only other mem, fun other mem _ => only other mem⟩

/-- Its token and its issuer and serial number lead to the same credential. -/
theorem result_resolve_smallContext :
    smallContext.TellsApart "X-1" smallCertificate ∧
      (resolve smallContext ⟨none, none, 1, .direct "#X-1" (some ValueType.x509v3)⟩).result
        = .ok { certificates := [smallCertificate], principal := .named smallCertificate.subject } ∧
      (resolve smallContext ⟨none, none, 1,
          .issuerSerial smallCertificate.issuer smallCertificate.serialNumber⟩).result
        = .ok { certificates := [smallCertificate],
                principal := .named smallCertificate.subject } :=
  ⟨tellsApart_smallContext, result_resolve_of_names tellsApart_smallContext rfl .token,
    result_resolve_of_names tellsApart_smallContext rfl .issuerSerial⟩

end Resolution
end SecurityTokens
