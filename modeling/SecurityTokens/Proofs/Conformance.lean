/-
# What strict mode accepts

Material is taken from one of several origins, and which one it is can be told
without asking whether the reference fits (`TakenFrom`): the processed tokens, the
document and the form of the reference decide.  The profile wants references to be
written in a way that fits the origin (`Origin.Fits`):

| origin | reference |
| --- | --- |
| user name token, processed or an element | direct, with its value type |
| binary token | direct, with its value type, or a key identifier for certificates |
| encrypted key | with its `TokenType`; as a key identifier, the SHA-1 of the key |
| assertion | with its version's `TokenType`; as a key identifier, of that version |
| certificate of the source | a key identifier for certificates, or issuer and serial |
| secret that is asked for by name | direct |

A path of certificates needs its `TokenType`, too.

In strict mode every reference that is resolved fits its origin, but for one origin: a user
name token that was not processed counts as an element that tells nothing but its identifier,
under which a secret is asked for, and of a reference to such an element nothing is checked.
So what is accepted conforms just if it has the value type where it leads to such a token
(`conforms_iff_of_resolve`).
-/

import SecurityTokens.Proofs.Rules
import SecurityTokens.Proofs.Trust

namespace SecurityTokens
namespace Resolution

variable {ctx : Context} {r : TokenReference} {o : Origin} {c m : Credential} {lookup : Lookup}

/-- What a reference takes its material from if it is resolved. -/
inductive TakenFrom (ctx : Context) (r : TokenReference) : Origin → Prop
  | username {token} (indexed : processed? ctx r = some (.username token)) :
      TakenFrom ctx r (.username token)
  | processedBinary {token} (indexed : processed? ctx r = some (.binary token)) :
      TakenFrom ctx r (.binary token.valueType token.validated)
  | processedKey {key} (indexed : processed? ctx r = some (.encryptedKey key)) :
      TakenFrom ctx r .encryptedKey
  | securityContext {context} (indexed : processed? ctx r = some (.securityContext context)) :
      TakenFrom ctx r .securityContext
  | derivedKey {based} (indexed : processed? ctx r = some (.derivedKey based)) :
      TakenFrom ctx r .derivedKey
  | assertion {a} (draws : DrawsOn ctx r a) : TakenFrom ctx r (.assertion a)
  | binaryElement {id hint e valueType} (leads : LeadsToElement ctx r id hint e)
      (named : e.isNamed Namespace.security "BinarySecurityToken" = true)
      (typed : e.attribute? "ValueType" = some valueType) :
      TakenFrom ctx r (.binary valueType false)
  | keyElement {id hint e} (leads : LeadsToElement ctx r id hint e)
      (named : e.isNamed Namespace.encryption "EncryptedKey" = true) :
      TakenFrom ctx r .encryptedKey
  | usernameElement {id hint e} (leads : LeadsToElement ctx r id hint e)
      (named : e.isNamed Namespace.security "UsernameToken" = true) :
      TakenFrom ctx r .usernameElement
  | otherElement {id hint e} (leads : LeadsToElement ctx r id hint e)
      (notBinary : e.isNamed Namespace.security "BinarySecurityToken" = false)
      (notAssertion : (AssertionVersion.ofElement? e).isSome = false)
      (notKey : e.isNamed Namespace.encryption "EncryptedKey" = false)
      (notUsername : e.isNamed Namespace.security "UsernameToken" = false) :
      TakenFrom ctx r .secret
  | outside {uri hint} (unprocessed : processed? ctx r = none)
      (direct : r.kind = .direct uri hint) (external : fragment? uri = none) :
      TakenFrom ctx r .secret
  | identifiedKey {value} (identifies : Identifies ctx r .encryptedKey value) :
      TakenFrom ctx r .encryptedKey
  | identifiedCertificate {identifier value}
      (identifies : Identifies ctx r (.certificate identifier) value) :
      TakenFrom ctx r .certificate
  | issuerSerial {issuer serial} (unprocessed : processed? ctx r = none)
      (kind : r.kind = .issuerSerial issuer serial) : TakenFrom ctx r .certificate

/-- How the profile wants a reference to be written that takes material from an origin. -/
def Origin.Fits (r : TokenReference) : Origin → Prop
  | username _ => ∃ uri, r.kind = .direct uri (some ValueType.usernameToken)
  | usernameElement => ∃ uri, r.kind = .direct uri (some ValueType.usernameToken)
  | binary valueType _ =>
    ((∃ uri, r.kind = .direct uri (some valueType)) ∨ r.NamesCertificate) ∧
      (valueType = ValueType.x509PkiPath → r.tokenType = some ValueType.x509PkiPath)
  | encryptedKey =>
    r.tokenType = some TokenType.encryptedKey ∧ r.KeyIdentifierIs .encryptedKeySha1
  | securityContext => True
  | derivedKey => True
  | assertion a =>
    r.tokenType = some a.version.tokenType ∧ r.KeyIdentifierIs a.version.keyIdentifierType
  | certificate => r.NamesCertificate ∨ ∃ issuer serial, r.kind = .issuerSerial issuer serial
  | secret => ∃ uri hint, r.kind = .direct uri hint

/-- Material that is resolved is taken from its origin. -/
theorem Yields.takenFrom (yields : Yields ctx r o m) : TakenFrom ctx r o := by
  cases yields with
  | processedUsername indexed => exact .username indexed
  | processedBinary indexed => exact .processedBinary indexed
  | processedKey indexed => exact .processedKey indexed
  | processedContext indexed => exact .securityContext indexed
  | processedDerivedKey indexed => exact .derivedKey indexed
  | processedAssertion indexed => exact .assertion (.processed indexed)
  | outside unprocessed direct external => exact .outside unprocessed direct external
  | binaryElement leads named configured read =>
    obtain ⟨valueType, data, -, typed, -, -, rfl⟩ := BinaryToken.ofElement_eq_ok_iff.1 read
    exact .binaryElement leads named typed
  | assertionElement leads named configured answered =>
    exact .assertion (.element leads named configured answered)
  | keyElement leads named => exact .keyElement leads named
  | usernameElement leads named => exact .usernameElement leads named
  | otherElement leads notBinary notAssertion notKey notUsername =>
    exact .otherElement leads notBinary notAssertion notKey notUsername
  | issuerSerial unprocessed kind => exact .issuerSerial unprocessed kind
  | identifiedKey identifies => exact .identifiedKey identifies
  | identifiedAssertion identifies found configured answered =>
    exact .assertion (.identifier identifies found configured answered)
  | identifiedCertificate identifies => exact .identifiedCertificate identifies

/-- A reference by issuer and serial number looks up no identifier. -/
theorem kind_ne_issuerSerial_of_processed {token : ProcessedToken} {issuer serial : String}
    (indexed : processed? ctx r = some token) : r.kind ≠ .issuerSerial issuer serial := by
  intro kind
  rw [processed?, TokenReference.lookupId?, kind] at indexed
  cases indexed

/-- A key identifier names certificates just if that is what its type tells. -/
theorem Identifies.namesCertificate {identifier : CertificateIdentifier} {value : String}
    (identifies : Identifies ctx r (.certificate identifier) value) : r.NamesCertificate := by
  obtain ⟨type, encoding, kind, known⟩ := identifies.identifier
  refine ⟨type, KeyIdentifierType.mem_ofCertificates_iff.2 ⟨identifier, known⟩, ?_⟩
  rw [TokenReference.keyIdentifierType?, kind]

/-- In strict mode a reference that is resolved fits the origin of its material, unless that is
a user name token that was not processed. -/
theorem TakenFrom.fits (taken : TakenFrom ctx r o) (strict : ctx.compliance = .strict)
    (asked : r.lookup = .ok lookup) (h : (material ctx r lookup).result = .ok m)
    (other : o ≠ .usernameElement) : o.Fits r := by
  cases taken with
  | username indexed =>
    rw [material, indexed] at h
    obtain ⟨_, fits, -⟩ := Asking.result_bind_eq_ok_iff.1 h
    exact Profile.checkUsernameToken_eq_ok_iff.1 (Context.result_enforce_eq_ok_iff.1 fits strict)
  | processedBinary indexed =>
    rw [material, indexed] at h
    obtain ⟨fits, -⟩ := Context.result_enforce_bind_eq_ok_iff.1 h
    obtain ⟨direct | names | ⟨_, _, kind⟩, path⟩ :=
      Profile.checkBinaryToken_eq_ok_iff.1 (fits strict)
    · exact ⟨.inl direct, path⟩
    · exact ⟨.inr names, path⟩
    · exact absurd kind (kind_ne_issuerSerial_of_processed indexed)
  | processedKey indexed =>
    rw [material, indexed] at h
    obtain ⟨fits, -⟩ := Context.result_enforce_bind_eq_ok_iff.1 h
    exact Profile.checkEncryptedKey_eq_ok_iff.1 (fits strict)
  | securityContext indexed => trivial
  | derivedKey indexed => trivial
  | assertion draws =>
    obtain ⟨fits, -⟩ := draws.fits_and_eq_ofAssertion asked h
    exact Profile.checkAssertion_eq_ok_iff.1 (fits strict)
  | binaryElement leads named typed =>
    obtain ⟨uri, kind, -⟩ := leads.direct
    rw [leads.result_material asked, ofElement, if_pos named] at h
    obtain ⟨_, token, _, _, -, read, -, fits, -, -⟩ := result_ofBinaryToken_eq_ok_iff.1 h
    obtain ⟨valueType, data, -, typed', -, -, rfl⟩ := BinaryToken.ofElement_eq_ok_iff.1 read
    obtain rfl := Option.some.inj (typed.symm.trans typed')
    obtain ⟨direct | ⟨_, _, names⟩ | ⟨_, _, kind'⟩, path⟩ :=
      Profile.checkBinaryToken_eq_ok_iff.1 (fits strict)
    · exact ⟨.inl direct, path⟩
    · rw [TokenReference.keyIdentifierType?, kind] at names
      cases names
    · rw [kind] at kind'
      cases kind'
  | keyElement leads named =>
    rw [leads.result_material asked, ofElement_eq_ofEncryptedKeyElement named] at h
    obtain ⟨fits, -⟩ := result_ofEncryptedKeyElement_eq_ok_iff.1 h
    exact Profile.checkEncryptedKey_eq_ok_iff.1 (fits strict)
  | usernameElement => exact absurd rfl other
  | otherElement leads =>
    obtain ⟨uri, kind, -⟩ := leads.direct
    exact ⟨uri, _, kind⟩
  | outside unprocessed direct external => exact ⟨_, _, direct⟩
  | identifiedKey identifies =>
    rw [identifies.material_eq asked] at h
    obtain ⟨fits, -⟩ := result_ofIdentifiedKey_eq_ok_iff.1 h
    exact Profile.checkEncryptedKey_eq_ok_iff.1 (fits strict)
  | identifiedCertificate identifies => exact .inl identifies.namesCertificate
  | issuerSerial unprocessed kind => exact .inr ⟨_, _, kind⟩

/-- A key identifier asks for something just if its type is a known one. -/
theorem uri?_isSome_of_lookup {type : KeyIdentifierType} (asked : r.lookup = .ok lookup)
    (typed : r.keyIdentifierType? = some type) : type.uri?.isSome = true := by
  obtain ⟨encoding, value, kind⟩ := TokenReference.keyIdentifierType?_eq_some_iff.1 typed
  rw [TokenReference.lookup, kind] at asked
  cases type <;> first | rfl | cases asked

/-- A reference to a user name token that was not processed fits it just if it has the value
type. -/
theorem LeadsToElement.fits_usernameElement_iff {id : String} {hint : Option String}
    {e : Xml.Element} (leads : LeadsToElement ctx r id hint e) :
    Origin.usernameElement.Fits r ↔ hint = some ValueType.usernameToken := by
  obtain ⟨uri, kind, -⟩ := leads.direct
  constructor
  · rintro ⟨uri', kind'⟩
    cases kind.symm.trans kind'
    rfl
  · rintro rfl
    exact ⟨uri, kind⟩

/-- **What strict mode accepts conforms to the profile, but for user name tokens that were not
processed.**  A reference that is resolved is no key identifier of an unknown type, in either
mode.  In strict mode it is well formed, too, and fits whatever its material is taken from just
if it has the value type of user name tokens where it leads to one of the document. -/
theorem conforms_iff_of_resolve (h : (resolve ctx r).result = .ok c) :
    (∀ type, r.keyIdentifierType? = some type → type.uri?.isSome = true) ∧
    (ctx.compliance = .strict → r.IsWellFormed ∧
      (∃ o m, TakenFrom ctx r o ∧ Yields ctx r o m ∧ complete r m = .ok c) ∧
      ((∀ o, TakenFrom ctx r o → o.Fits r) ↔
        ∀ id hint e, LeadsToElement ctx r id hint e →
          e.isNamed Namespace.security "UsernameToken" = true →
          hint = some ValueType.usernameToken)) := by
  obtain ⟨structured, ⟨lookup, asked⟩, o, m, yields, completed⟩ := resolve_eq_ok_iff.1 h
  refine ⟨fun type typed => uri?_isSome_of_lookup asked typed, fun strict => ⟨?_, ?_, ?_, ?_⟩⟩
  · exact Profile.checkStructure_eq_ok_iff.1 (structured strict)
  · exact ⟨o, m, yields.takenFrom, yields, completed⟩
  · intro fits id hint e leads named
    exact leads.fits_usernameElement_iff.1 (fits _ (.usernameElement leads named))
  · intro typed o' taken
    by_cases username : o' = .usernameElement
    · subst username
      cases taken with
      | usernameElement leads named =>
        exact leads.fits_usernameElement_iff.2 (typed _ _ _ leads named)
    · exact taken.fits strict asked (yields.result_material asked) username

/-- A user name token of the document. -/
def usernameElement : Xml.Element :=
  ⟨⟨some Namespace.security, "UsernameToken"⟩, [⟨⟨none, "Id"⟩, "UT-1"⟩], []⟩

/-- A strict context with the user name token, under whose identifier a secret is known. -/
def usernameContext : Context where
  document := .ofRoot usernameElement []
  tokens := .empty
  source := none
  callback := some fun request => .ok (if request.id = "UT-1" then some [7] else none)
  processor := none
  compliance := .strict
  sizing := ⟨none, none⟩

/-- A direct reference to the user name token with a value type, or with none. -/
def usernameReference (hint : Option String) : TokenReference :=
  ⟨none, none, 1, .direct "#UT-1" hint⟩

theorem leadsToElement_usernameReference (hint : Option String) :
    LeadsToElement usernameContext (usernameReference hint) "UT-1" hint usernameElement where
  unprocessed := rfl
  direct := ⟨"#UT-1", rfl, by decide⟩
  found := ⟨⟨[], usernameElement⟩, rfl, rfl⟩

/-- A reference that has the value type conforms. -/
theorem fits_typedReference :
    (resolve usernameContext (usernameReference (some ValueType.usernameToken))).result
        = .ok (.ofSecret "UT-1" [7]) ∧
      (usernameReference (some ValueType.usernameToken)).IsWellFormed ∧
      Origin.usernameElement.Fits (usernameReference (some ValueType.usernameToken)) := by
  have h : (resolve usernameContext (usernameReference (some ValueType.usernameToken))).result
      = .ok (.ofSecret "UT-1" [7]) := rfl
  obtain ⟨wellFormed, -, conforms⟩ := (conforms_iff_of_resolve h).2 rfl
  refine ⟨h, wellFormed, conforms.2 (fun id hint e leads named => ?_) _
    (.usernameElement (leadsToElement_usernameReference _) rfl)⟩
  obtain ⟨uri, kind, -⟩ := leads.direct
  cases kind
  rfl

/-- A user name token gives a secret in strict mode to a reference without its value type, and
once it was processed the same reference is refused. -/
theorem not_fits_untypedReference :
    usernameContext.compliance = .strict ∧
      (resolve usernameContext (usernameReference none)).result = .ok (.ofSecret "UT-1" [7]) ∧
      TakenFrom usernameContext (usernameReference none) .usernameElement ∧
      ¬ Origin.usernameElement.Fits (usernameReference none) ∧
      ∀ token, (resolve { usernameContext with tokens := ⟨[("UT-1", .username token)]⟩ }
        (usernameReference none)).result = .error (.violation (.usernameValueType none)) := by
  have leads := leadsToElement_usernameReference none
  refine ⟨rfl, rfl, .usernameElement leads rfl, ?_, fun token => rfl⟩
  rw [leads.fits_usernameElement_iff]
  intro typed
  cases typed

end Resolution
end SecurityTokens
