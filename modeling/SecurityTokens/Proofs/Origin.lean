/-
# Where material comes from

Resolving a reference takes one of sixteen ways, and each way ends in material
of its own.  `Yields` lists the ways that succeed, each with all that it has
found on it, and `resolve_eq_ok_iff` says that these are all of them and that
each of them does succeed.  So what holds of every credential is shown by going
through the list.

| origin | found as |
| --- | --- |
| user name token | processed before; element, whose secret is asked for |
| binary token | processed before, element |
| encrypted key | processed before, element, secret under the SHA-1 of the key |
| security context, derived key | processed before |
| assertion | processed before, element, element with a key identifier's text |
| certificate | named by a key identifier, or by issuer and serial number |
| secret | URI outside the document, element of another kind |
-/

import SecurityTokens.Proofs.Success

namespace SecurityTokens
namespace Resolution

/-- What material was taken from. -/
inductive Origin where
  | username (token : UsernameToken)
  | usernameElement
  | binary (valueType : String) (validated : Bool)
  | encryptedKey
  | securityContext
  | derivedKey
  | assertion (a : Assertion)
  | certificate
  | secret

/-- The reference is direct and leads to `e`, found under `id`, which was not
processed before. -/
structure LeadsToElement (ctx : Context) (r : TokenReference) (id : String)
    (valueType : Option String) (e : Xml.Element) : Prop where
  unprocessed : processed? ctx r = none
  direct : ∃ uri, r.kind = .direct uri valueType ∧ fragment? uri = some id
  found : ∃ place, ctx.document.elementById id = .ok (some place) ∧ place.element = e

/-- The reference is a key identifier that names a thing of a kind, which was not
processed before. -/
structure Identifies (ctx : Context) (r : TokenReference) (target : IdentifierTarget)
    (value : String) : Prop where
  unprocessed : processed? ctx r = none
  identifier : ∃ type encoding, r.kind = .keyIdentifier type encoding value ∧
    type.target? = some target

/-- The ways to material that succeed.  `fits` is what strict mode asks of the
reference on that way. -/
inductive Yields (ctx : Context) (r : TokenReference) : Origin → Credential → Prop
  | processedUsername {token password secret}
      (indexed : processed? ctx r = some (.username token))
      (fits : ctx.compliance = .strict → Profile.checkUsernameToken r = .ok ())
      (known : (ctx.passwordOf token).result = .ok password)
      (derived : token.keyFor ctx.sizing password = .ok secret) :
      Yields ctx r (.username token)
        { secretKey := some secret
          principal := ⟨token.username, some (.username (.ofToken token))⟩ }
  | processedBinary {token}
      (indexed : processed? ctx r = some (.binary token))
      (fits : ctx.compliance = .strict →
        Profile.checkBinaryToken r (some token.valueType) = .ok ()) :
      Yields ctx r (.binary token.valueType token.validated)
        (.ofCertificates token.certificates token.validated)
  | processedKey {key}
      (indexed : processed? ctx r = some (.encryptedKey key))
      (fits : ctx.compliance = .strict → Profile.checkEncryptedKey r = .ok ()) :
      Yields ctx r .encryptedKey (.ofSecret key.id key.secret)
  | processedContext {context}
      (indexed : processed? ctx r = some (.securityContext context)) :
      Yields ctx r .securityContext (.ofSecret context.identifier context.secret)
  | processedDerivedKey {based c}
      (indexed : processed? ctx r = some (.derivedKey based))
      (derived : based.credential ctx.sizing = .ok c) :
      Yields ctx r .derivedKey c
  | processedAssertion {a}
      (indexed : processed? ctx r = some (.assertion a))
      (fits : ctx.compliance = .strict → Profile.checkAssertion r a.version = .ok ()) :
      Yields ctx r (.assertion a) (.ofAssertion a)
  | outside {uri valueType secret}
      (unprocessed : processed? ctx r = none)
      (direct : r.kind = .direct uri valueType) (external : fragment? uri = none)
      (known : (ctx.request ⟨uri, valueType, .secretKey⟩).result = .ok (some secret)) :
      Yields ctx r .secret (.ofSecret uri secret)
  | binaryElement {id valueType e source token encoding certificates}
      (leads : LeadsToElement ctx r id valueType e)
      (named : e.isNamed Namespace.security "BinarySecurityToken" = true)
      (configured : ctx.source = some source)
      (read : BinaryToken.ofElement e = .ok token) (encoded : token.encoding = .ok encoding)
      (fits : ctx.compliance = .strict →
        Profile.checkBinaryToken r (some token.valueType) = .ok ())
      (held : token.certificates source = .ok certificates) :
      Yields ctx r (.binary token.valueType false) (.ofCertificates certificates false)
  | assertionElement {id valueType e processor a}
      (leads : LeadsToElement ctx r id valueType e)
      (named : (AssertionVersion.ofElement? e).isSome = true)
      (configured : ctx.processor = some processor)
      (answered : (processor.assertion e).result = .ok a)
      (fits : ctx.compliance = .strict → Profile.checkAssertion r a.version = .ok ()) :
      Yields ctx r (.assertion a) (.ofAssertion a)
  | keyElement {id valueType e processor key}
      (leads : LeadsToElement ctx r id valueType e)
      (named : e.isNamed Namespace.encryption "EncryptedKey" = true)
      (fits : ctx.compliance = .strict → Profile.checkEncryptedKey r = .ok ())
      (configured : ctx.processor = some processor)
      (answered : (processor.encryptedKey e).result = .ok key) :
      Yields ctx r .encryptedKey (.ofSecret (e.id?.getD id) key.secret)
  | usernameElement {id valueType e secret}
      (leads : LeadsToElement ctx r id valueType e)
      (named : e.isNamed Namespace.security "UsernameToken" = true)
      (known : (ctx.request ⟨id, valueType, .secretKey⟩).result = .ok (some secret)) :
      Yields ctx r .usernameElement (.ofSecret id secret)
  | otherElement {id valueType e secret}
      (leads : LeadsToElement ctx r id valueType e)
      (notBinary : e.isNamed Namespace.security "BinarySecurityToken" = false)
      (notAssertion : (AssertionVersion.ofElement? e).isSome = false)
      (notKey : e.isNamed Namespace.encryption "EncryptedKey" = false)
      (notUsername : e.isNamed Namespace.security "UsernameToken" = false)
      (known : (ctx.request ⟨id, valueType, .secretKey⟩).result = .ok (some secret)) :
      Yields ctx r .secret (.ofSecret id secret)
  | issuerSerial {issuer serial source certificate}
      (unprocessed : processed? ctx r = none) (kind : r.kind = .issuerSerial issuer serial)
      (configured : ctx.source = some source)
      (found : source.byIssuerSerial issuer serial = .ok (some certificate)) :
      Yields ctx r .certificate (.ofCertificates [certificate] false)
  | identifiedKey {value secret}
      (identifies : Identifies ctx r .encryptedKey value)
      (fits : ctx.compliance = .strict → Profile.checkEncryptedKey r = .ok ())
      (known : (ctx.request ⟨value, some ValueType.encryptedKeySha1, .secretKey⟩).result
        = .ok (some secret)) :
      Yields ctx r .encryptedKey (.ofSecret value secret)
  | identifiedAssertion {value place processor a}
      (identifies : Identifies ctx r .assertion value)
      (found : ctx.document.elementById value = .ok (some place))
      (configured : ctx.processor = some processor)
      (answered : (processor.assertion place.element).result = .ok a)
      (fits : ctx.compliance = .strict → Profile.checkAssertion r a.version = .ok ()) :
      Yields ctx r (.assertion a) (.ofAssertion a)
  | identifiedCertificate {identifier value source bytes certificate}
      (identifies : Identifies ctx r (.certificate identifier) value)
      (fits : ctx.compliance = .strict → Profile.checkBinaryToken r none = .ok ())
      (configured : ctx.source = some source)
      (decoded : decodeBase64Text "KeyIdentifier" value = .ok bytes)
      (found : source.byIdentifier identifier bytes = .ok (some certificate)) :
      Yields ctx r .certificate (.ofCertificates [certificate] false)

/-- What is done once it is known what a reference asks for. -/
def material (ctx : Context) (r : TokenReference) (lookup : Lookup) : Asking Credential :=
  match processed? ctx r with
  | some token => ofProcessed ctx r token
  | none => ofLookup ctx r lookup

end Resolution

open Resolution in
/-- The four steps of a resolution. -/
theorem resolve_eq (ctx : Context) (r : TokenReference) :
    resolve ctx r = (do
      ctx.enforce (Profile.checkStructure r)
      let lookup ← r.lookup
      let credential ← material ctx r lookup
      complete r credential) := by
  unfold resolve material
  cases processed? ctx r <;> rfl

namespace Resolution

variable {ctx : Context} {r : TokenReference} {c : Credential}

theorem result_ofBinaryToken_eq_ok_iff {e : Xml.Element} :
    (ofBinaryToken ctx r e).result = .ok c ↔
      ∃ source token encoding certificates, ctx.source = some source ∧
        BinaryToken.ofElement e = .ok token ∧ token.encoding = .ok encoding ∧
        (ctx.compliance = .strict →
          Profile.checkBinaryToken r (some token.valueType) = .ok ()) ∧
        token.certificates source = .ok certificates ∧ c = .ofCertificates certificates false := by
  simp only [ofBinaryToken, Asking.result_bind_eq_ok_iff, Asking.result_liftM_eq_ok_iff,
    Context.result_enforce_eq_ok_iff, exists_const, Context.result_requireSource_eq_ok_iff,
    Asking.result_pure_eq_ok_iff]
  constructor
  · rintro ⟨source, configured, token, read, encoding, encoded, fits, certificates, held, rfl⟩
    exact ⟨source, token, encoding, certificates, configured, read, encoded, fits, held, rfl⟩
  · rintro ⟨source, token, encoding, certificates, configured, read, encoded, fits, held, rfl⟩
    exact ⟨source, configured, token, read, encoding, encoded, fits, certificates, held, rfl⟩

theorem result_ofAssertionElement_eq_ok_iff {e : Xml.Element} :
    (ofAssertionElement ctx r e).result = .ok c ↔
      ∃ processor a, ctx.processor = some processor ∧ (processor.assertion e).result = .ok a ∧
        (ctx.compliance = .strict → Profile.checkAssertion r a.version = .ok ()) ∧
        c = .ofAssertion a := by
  simp only [ofAssertionElement, Asking.result_bind_eq_ok_iff,
    Context.result_enforce_eq_ok_iff, exists_const, Context.result_requireProcessor_eq_ok_iff,
    Asking.result_pure_eq_ok_iff]
  constructor
  · rintro ⟨processor, configured, a, answered, fits, rfl⟩
    exact ⟨processor, a, configured, answered, fits, rfl⟩
  · rintro ⟨processor, a, configured, answered, fits, rfl⟩
    exact ⟨processor, configured, a, answered, fits, rfl⟩

theorem result_ofEncryptedKeyElement_eq_ok_iff {id : String} {e : Xml.Element} :
    (ofEncryptedKeyElement ctx r id e).result = .ok c ↔
      (ctx.compliance = .strict → Profile.checkEncryptedKey r = .ok ()) ∧
        ∃ processor key, ctx.processor = some processor ∧
          (processor.encryptedKey e).result = .ok key ∧
          c = .ofSecret (e.id?.getD id) key.secret := by
  simp only [ofEncryptedKeyElement, Asking.result_bind_eq_ok_iff,
    Context.result_enforce_eq_ok_iff, exists_const, Context.result_requireProcessor_eq_ok_iff,
    Asking.result_pure_eq_ok_iff]
  constructor
  · rintro ⟨fits, processor, configured, key, answered, rfl⟩
    exact ⟨fits, processor, key, configured, answered, rfl⟩
  · rintro ⟨fits, processor, key, configured, answered, rfl⟩
    exact ⟨fits, processor, configured, key, answered, rfl⟩

theorem result_ofIssuerSerial_eq_ok_iff {issuer serial : String} :
    (ofIssuerSerial ctx issuer serial).result = .ok c ↔
      ∃ source certificate, ctx.source = some source ∧
        source.byIssuerSerial issuer serial = .ok (some certificate) ∧
        c = .ofCertificates [certificate] false := by
  simp only [ofIssuerSerial, Asking.result_bind_eq_ok_iff, Asking.result_liftM_eq_ok_iff,
    Context.result_requireSource_eq_ok_iff, Asking.result_require_eq_ok_iff,
    Asking.result_pure_eq_ok_iff]
  constructor
  · rintro ⟨source, configured, _, found, certificate, rfl, rfl⟩
    exact ⟨source, certificate, configured, found, rfl⟩
  · rintro ⟨source, certificate, configured, found, rfl⟩
    exact ⟨source, configured, _, found, certificate, rfl, rfl⟩

theorem result_ofIdentifiedKey_eq_ok_iff {value : String} :
    (ofKeyIdentifier ctx r value .encryptedKey).result = .ok c ↔
      (ctx.compliance = .strict → Profile.checkEncryptedKey r = .ok ()) ∧
        ∃ secret, (ctx.request ⟨value, some ValueType.encryptedKeySha1, .secretKey⟩).result
          = .ok (some secret) ∧ c = .ofSecret value secret := by
  rw [ofKeyIdentifier, Context.result_enforce_bind_eq_ok_iff,
    Context.result_secretCredential_eq_ok_iff]

theorem result_ofIdentifiedAssertion_eq_ok_iff {value : String} :
    (ofKeyIdentifier ctx r value .assertion).result = .ok c ↔
      ∃ place, ctx.document.elementById value = .ok (some place) ∧
        (ofAssertionElement ctx r place.element).result = .ok c := by
  simp only [ofKeyIdentifier, Asking.result_bind_eq_ok_iff, Asking.result_liftM_eq_ok_iff,
    Asking.result_require_eq_ok_iff]
  constructor
  · rintro ⟨_, found, place, rfl, h⟩
    exact ⟨place, found, h⟩
  · rintro ⟨place, found, h⟩
    exact ⟨_, found, place, rfl, h⟩

theorem result_ofIdentifiedCertificate_eq_ok_iff {value : String}
    {identifier : CertificateIdentifier} :
    (ofKeyIdentifier ctx r value (.certificate identifier)).result = .ok c ↔
      (ctx.compliance = .strict → Profile.checkBinaryToken r none = .ok ()) ∧
        ∃ source bytes certificate, ctx.source = some source ∧
          decodeBase64Text "KeyIdentifier" value = .ok bytes ∧
          source.byIdentifier identifier bytes = .ok (some certificate) ∧
          c = .ofCertificates [certificate] false := by
  simp only [ofKeyIdentifier, Asking.result_bind_eq_ok_iff, Asking.result_liftM_eq_ok_iff,
    Context.result_enforce_eq_ok_iff, exists_const, Context.result_requireSource_eq_ok_iff,
    Asking.result_require_eq_ok_iff, Asking.result_pure_eq_ok_iff]
  constructor
  · rintro ⟨fits, source, configured, bytes, decoded, _, found, certificate, rfl, rfl⟩
    exact ⟨fits, source, bytes, certificate, configured, decoded, found, rfl⟩
  · rintro ⟨fits, source, bytes, certificate, configured, decoded, found, rfl⟩
    exact ⟨fits, source, configured, bytes, decoded, _, found, certificate, rfl, rfl⟩

/-- A token that was processed before gives material in the way of its kind. -/
theorem exists_yields_of_ofProcessed {token : ProcessedToken}
    (indexed : processed? ctx r = some token) (h : (ofProcessed ctx r token).result = .ok c) :
    ∃ o, Yields ctx r o c := by
  cases token with
  | username token =>
    simp only [ofProcessed, Context.result_enforce_eq_ok_iff, exists_const,
      Asking.result_bind_eq_ok_iff, Asking.result_liftM_eq_ok_iff,
      Asking.result_pure_eq_ok_iff] at h
    obtain ⟨fits, password, known, secret, derived, rfl⟩ := h
    exact ⟨_, .processedUsername indexed fits known derived⟩
  | binary token =>
    obtain ⟨fits, h⟩ := Context.result_enforce_bind_eq_ok_iff.1 h
    obtain rfl := Asking.result_pure_eq_ok_iff.1 h
    exact ⟨_, .processedBinary indexed fits⟩
  | encryptedKey key =>
    obtain ⟨fits, h⟩ := Context.result_enforce_bind_eq_ok_iff.1 h
    obtain rfl := Asking.result_pure_eq_ok_iff.1 h
    exact ⟨_, .processedKey indexed fits⟩
  | securityContext context =>
    obtain rfl := Asking.result_pure_eq_ok_iff.1 h
    exact ⟨_, .processedContext indexed⟩
  | derivedKey based => exact ⟨_, .processedDerivedKey indexed h⟩
  | assertion a =>
    obtain ⟨fits, h⟩ := Context.result_enforce_bind_eq_ok_iff.1 h
    obtain rfl := Asking.result_pure_eq_ok_iff.1 h
    exact ⟨_, .processedAssertion indexed fits⟩

/-- An assertion is no binary token. -/
theorem ofElement_eq_ofAssertionElement {id : String} {valueType : Option String}
    {e : Xml.Element} (named : (AssertionVersion.ofElement? e).isSome = true) :
    ofElement ctx r id valueType e = ofAssertionElement ctx r e := by
  have notBinary : e.isNamed Namespace.security "BinarySecurityToken" = false := by
    apply Xml.Element.isNamed_eq_false
    rw [AssertionVersion.localName_of_ofElement?_isSome named]
    decide
  simp [ofElement, notBinary, named]

/-- An encrypted key is neither a binary token nor an assertion. -/
theorem ofElement_eq_ofEncryptedKeyElement {id : String} {valueType : Option String}
    {e : Xml.Element} (named : e.isNamed Namespace.encryption "EncryptedKey" = true) :
    ofElement ctx r id valueType e = ofEncryptedKeyElement ctx r id e := by
  have notBinary : e.isNamed Namespace.security "BinarySecurityToken" = false :=
    Xml.Element.isNamed_eq_false_of_isNamed named (by decide)
  have notAssertion : (AssertionVersion.ofElement? e).isSome = false := by
    apply AssertionVersion.ofElement?_isSome_eq_false
    rw [(Xml.Element.isNamed_iff.1 named).1]
    decide
  simp [ofElement, notBinary, notAssertion, named]

/-- For any other element a secret is asked for. -/
theorem ofElement_eq_secretCredential {id : String} {valueType : Option String}
    {e : Xml.Element} (notBinary : e.isNamed Namespace.security "BinarySecurityToken" = false)
    (notAssertion : (AssertionVersion.ofElement? e).isSome = false)
    (notKey : e.isNamed Namespace.encryption "EncryptedKey" = false) :
    ofElement ctx r id valueType e = ctx.secretCredential id valueType := by
  simp [ofElement, notBinary, notAssertion, notKey]

/-- A user name token of the document is such an element. -/
theorem ofElement_eq_secretCredential_of_username {id : String} {valueType : Option String}
    {e : Xml.Element} (named : e.isNamed Namespace.security "UsernameToken" = true) :
    ofElement ctx r id valueType e = ctx.secretCredential id valueType := by
  apply ofElement_eq_secretCredential
  · exact Xml.Element.isNamed_eq_false_of_isNamed named (by decide)
  · apply AssertionVersion.ofElement?_isSome_eq_false
    rw [(Xml.Element.isNamed_iff.1 named).1]
    decide
  · exact Xml.Element.isNamed_eq_false_of_isNamed named (by decide)

theorem exists_yields_of_ofElement {id : String} {valueType : Option String} {e : Xml.Element}
    (leads : LeadsToElement ctx r id valueType e)
    (h : (ofElement ctx r id valueType e).result = .ok c) : ∃ o, Yields ctx r o c := by
  unfold ofElement at h
  split at h
  case isTrue named =>
    obtain ⟨source, token, encoding, certificates, configured, read, encoded, fits, held, rfl⟩ :=
      result_ofBinaryToken_eq_ok_iff.1 h
    exact ⟨_, .binaryElement leads named configured read encoded fits held⟩
  case isFalse notBinary =>
    split at h
    case isTrue named =>
      obtain ⟨processor, a, configured, answered, fits, rfl⟩ :=
        result_ofAssertionElement_eq_ok_iff.1 h
      exact ⟨_, .assertionElement leads named configured answered fits⟩
    case isFalse notAssertion =>
      split at h
      case isTrue named =>
        obtain ⟨fits, processor, key, configured, answered, rfl⟩ :=
          result_ofEncryptedKeyElement_eq_ok_iff.1 h
        exact ⟨_, .keyElement leads named fits configured answered⟩
      case isFalse notKey =>
        obtain ⟨secret, known, rfl⟩ := Context.result_secretCredential_eq_ok_iff.1 h
        cases username : e.isNamed Namespace.security "UsernameToken" with
        | true => exact ⟨_, .usernameElement leads username known⟩
        | false =>
          exact ⟨_, .otherElement leads (by simpa using notBinary) (by simpa using notAssertion)
            (by simpa using notKey) username known⟩

theorem exists_yields_of_ofLookup {lookup : Lookup} (unprocessed : processed? ctx r = none)
    (asked : r.lookup = .ok lookup) (h : (ofLookup ctx r lookup).result = .ok c) :
    ∃ o, Yields ctx r o c := by
  unfold TokenReference.lookup at asked
  split at asked
  case h_1 uri valueType kind =>
    obtain rfl := Except.ok.inj asked
    simp only [ofLookup, ofDirect] at h
    split at h
    case h_1 external =>
      obtain ⟨secret, known, rfl⟩ := Context.result_secretCredential_eq_ok_iff.1 h
      exact ⟨_, .outside unprocessed kind external known⟩
    case h_2 id isLocal =>
      simp only [Asking.result_bind_eq_ok_iff, Asking.result_liftM_eq_ok_iff,
        Asking.result_require_eq_ok_iff] at h
      obtain ⟨_, found, place, rfl, h⟩ := h
      exact exists_yields_of_ofElement
        ⟨unprocessed, ⟨uri, kind, isLocal⟩, ⟨place, found, rfl⟩⟩ h
  case h_2 issuer serial kind =>
    obtain rfl := Except.ok.inj asked
    obtain ⟨source, certificate, configured, found, rfl⟩ := result_ofIssuerSerial_eq_ok_iff.1 h
    exact ⟨_, .issuerSerial unprocessed kind configured found⟩
  case h_3 type encoding value kind =>
    split at asked
    case h_2 => cases asked
    case h_1 target known =>
      obtain rfl := Except.ok.inj asked
      have identifies : Identifies ctx r target value := ⟨unprocessed, type, encoding, kind, known⟩
      cases target with
      | encryptedKey =>
        obtain ⟨fits, secret, known, rfl⟩ := result_ofIdentifiedKey_eq_ok_iff.1 h
        exact ⟨_, .identifiedKey identifies fits known⟩
      | assertion =>
        obtain ⟨place, found, h⟩ := result_ofIdentifiedAssertion_eq_ok_iff.1 h
        obtain ⟨processor, a, configured, answered, fits, rfl⟩ :=
          result_ofAssertionElement_eq_ok_iff.1 h
        exact ⟨_, .identifiedAssertion identifies found configured answered fits⟩
      | certificate identifier =>
        obtain ⟨fits, source, bytes, certificate, configured, decoded, found, rfl⟩ :=
          result_ofIdentifiedCertificate_eq_ok_iff.1 h
        exact ⟨_, .identifiedCertificate identifies fits configured decoded found⟩

theorem LeadsToElement.result_material {id : String} {valueType : Option String}
    {e : Xml.Element} {lookup : Lookup} (leads : LeadsToElement ctx r id valueType e)
    (asked : r.lookup = .ok lookup) :
    (material ctx r lookup).result = (ofElement ctx r id valueType e).result := by
  obtain ⟨uri, kind, isLocal⟩ := leads.direct
  obtain ⟨place, found, rfl⟩ := leads.found
  obtain rfl : .direct uri valueType = lookup := by
    simpa only [TokenReference.lookup, kind, Except.ok.injEq] using asked
  simp only [material, leads.unprocessed, ofLookup, ofDirect, isLocal, found, Asking.result_bind,
    Asking.liftM_eq_ofExcept, Asking.result_ofExcept]
  rfl

theorem Identifies.material_eq {target : IdentifierTarget} {value : String} {lookup : Lookup}
    (identifies : Identifies ctx r target value) (asked : r.lookup = .ok lookup) :
    material ctx r lookup = ofKeyIdentifier ctx r value target := by
  obtain ⟨type, encoding, kind, known⟩ := identifies.identifier
  obtain rfl : .keyIdentifier target value = lookup := by
    simpa only [TokenReference.lookup, kind, known, Except.ok.injEq] using asked
  simp only [material, identifies.unprocessed, ofLookup]

/-- Each of the ways succeeds once it is known what the reference asks for. -/
theorem Yields.result_material {o : Origin} {lookup : Lookup} (yields : Yields ctx r o c)
    (asked : r.lookup = .ok lookup) : (material ctx r lookup).result = .ok c := by
  cases yields with
  | processedUsername indexed fits known derived =>
    simp only [material, indexed, ofProcessed, Context.result_enforce_eq_ok_iff, exists_const,
      Asking.result_bind_eq_ok_iff, Asking.result_liftM_eq_ok_iff]
    exact ⟨fits, _, known, _, derived, rfl⟩
  | processedBinary indexed fits =>
    rw [material, indexed]
    exact Context.result_enforce_bind_eq_ok_iff.2 ⟨fits, rfl⟩
  | processedKey indexed fits =>
    rw [material, indexed]
    exact Context.result_enforce_bind_eq_ok_iff.2 ⟨fits, rfl⟩
  | processedContext indexed =>
    rw [material, indexed]
    rfl
  | processedDerivedKey indexed derived =>
    rw [material, indexed]
    exact derived
  | processedAssertion indexed fits =>
    rw [material, indexed]
    exact Context.result_enforce_bind_eq_ok_iff.2 ⟨fits, rfl⟩
  | @outside uri valueType secret unprocessed direct external known =>
    obtain rfl : .direct uri valueType = lookup := by
      simpa only [TokenReference.lookup, direct, Except.ok.injEq] using asked
    simp only [material, unprocessed, ofLookup, ofDirect, external]
    exact Context.result_secretCredential_eq_ok_iff.2 ⟨secret, known, rfl⟩
  | binaryElement leads named configured read encoded fits held =>
    rw [leads.result_material asked, ofElement, if_pos named]
    exact result_ofBinaryToken_eq_ok_iff.2
      ⟨_, _, _, _, configured, read, encoded, fits, held, rfl⟩
  | assertionElement leads named configured answered fits =>
    rw [leads.result_material asked, ofElement_eq_ofAssertionElement named]
    exact result_ofAssertionElement_eq_ok_iff.2 ⟨_, _, configured, answered, fits, rfl⟩
  | keyElement leads named fits configured answered =>
    rw [leads.result_material asked, ofElement_eq_ofEncryptedKeyElement named]
    exact result_ofEncryptedKeyElement_eq_ok_iff.2 ⟨fits, _, _, configured, answered, rfl⟩
  | usernameElement leads named known =>
    rw [leads.result_material asked, ofElement_eq_secretCredential_of_username named]
    exact Context.result_secretCredential_eq_ok_iff.2 ⟨_, known, rfl⟩
  | otherElement leads notBinary notAssertion notKey _ known =>
    rw [leads.result_material asked, ofElement_eq_secretCredential notBinary notAssertion notKey]
    exact Context.result_secretCredential_eq_ok_iff.2 ⟨_, known, rfl⟩
  | @issuerSerial issuer serial source certificate unprocessed kind configured found =>
    obtain rfl : .issuerSerial issuer serial = lookup := by
      simpa only [TokenReference.lookup, kind, Except.ok.injEq] using asked
    rw [material, unprocessed]
    exact result_ofIssuerSerial_eq_ok_iff.2 ⟨_, _, configured, found, rfl⟩
  | identifiedKey identifies fits known =>
    rw [identifies.material_eq asked]
    exact result_ofIdentifiedKey_eq_ok_iff.2 ⟨fits, _, known, rfl⟩
  | @identifiedAssertion value place processor a identifies found configured answered fits =>
    rw [identifies.material_eq asked]
    refine result_ofIdentifiedAssertion_eq_ok_iff.2 ⟨place, found, ?_⟩
    exact result_ofAssertionElement_eq_ok_iff.2 ⟨processor, a, configured, answered, fits, rfl⟩
  | identifiedCertificate identifies fits configured decoded found =>
    rw [identifies.material_eq asked]
    exact result_ofIdentifiedCertificate_eq_ok_iff.2
      ⟨fits, _, _, _, configured, decoded, found, rfl⟩

/-- **The credentials are exactly the material of the ways**, completed, for
references whose structure passes and that ask for something known. -/
theorem resolve_eq_ok_iff : (resolve ctx r).result = .ok c ↔
    (ctx.compliance = .strict → Profile.checkStructure r = .ok ()) ∧
      (∃ lookup, r.lookup = .ok lookup) ∧ ∃ o m, Yields ctx r o m ∧ complete r m = .ok c := by
  rw [resolve_eq]
  simp only [Context.result_enforce_eq_ok_iff, exists_const, Asking.result_bind_eq_ok_iff,
    Asking.result_liftM_eq_ok_iff]
  constructor
  · rintro ⟨fits, lookup, asked, m, taken, completed⟩
    refine ⟨fits, ⟨lookup, asked⟩, ?_⟩
    unfold material at taken
    split at taken
    case h_1 token indexed =>
      obtain ⟨o, yields⟩ := exists_yields_of_ofProcessed indexed taken
      exact ⟨o, m, yields, completed⟩
    case h_2 unprocessed =>
      obtain ⟨o, yields⟩ := exists_yields_of_ofLookup unprocessed asked taken
      exact ⟨o, m, yields, completed⟩
  · rintro ⟨fits, ⟨lookup, asked⟩, o, m, yields, completed⟩
    exact ⟨fits, lookup, asked, m, yields.result_material asked, completed⟩

end Resolution
end SecurityTokens
