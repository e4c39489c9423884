/-
# What a key identifier yields

A key identifier tells by its type what it names, and in strict mode its material
is of that kind:

| it names | its material is |
| --- | --- |
| a certificate | certificates, and no secret |
| an encrypted key | the secret of the processed key, or else that of the callback |
| an assertion | the subject of the assertion that is drawn on |

There is one exception.  The tokens of a conversation, security contexts and derived
keys, are under no rule of the profile, so no type of key identifier is refused for
them.  If one of them was processed under the text of the key identifier, its secret
is what any type yields.
-/

import SecurityTokens.Proofs.Conformance

namespace SecurityTokens

/-- Whether the token is one of a conversation: a security context or a derived key. -/
def ProcessedToken.isOfConversation : ProcessedToken → Bool
  | securityContext _ => true
  | derivedKey _ => true
  | _ => false

/-- A derived key is a secret. -/
theorem BasedDerivedKey.secretKey_of_credential {based : BasedDerivedKey} {sizing : KeySizing}
    {c : Credential} (h : based.credential sizing = .ok c) : c.secretKey.isSome = true := by
  obtain ⟨length, secret, principal, -, -, -, rfl⟩ := credential_eq_ok_iff.1 h
  rfl

namespace Credential

variable {c : Credential}

@[simp] theorem certificates_withSubjectName :
    c.withSubjectName.certificates = c.certificates := by
  unfold withSubjectName
  split <;> rfl

@[simp] theorem publicKey_withSubjectName : c.withSubjectName.publicKey = c.publicKey := by
  unfold withSubjectName
  split <;> rfl

@[simp] theorem secretKey_withSubjectName : c.withSubjectName.secretKey = c.secretKey := by
  unfold withSubjectName
  split <;> rfl

@[simp] theorem token_withSubjectName :
    c.withSubjectName.principal.token = c.principal.token := by
  unfold withSubjectName
  split
  case h_1 unknown _ =>
    -- Only a credential without a token takes the name of its certificate.
    obtain ⟨-, absent⟩ := Bool.and_eq_true_iff.1 unknown
    rw [Option.isNone_iff_eq_none.1 absent, Principal.named]
  case h_2 => rfl

@[simp] theorem isEmpty_withSubjectName : c.withSubjectName.isEmpty = c.isEmpty := by
  simp [isEmpty]

end Credential

namespace Resolution

variable {ctx : Context} {r : TokenReference} {o : Origin} {c m : Credential} {value : String}
  {target : IdentifierTarget} {type : KeyIdentifierType}
  {encoding : Option String}

/-- A text identifies an encrypted key with a secret: the key that was processed
under the text, or, if nothing was, the one that the callback knows. -/
inductive KeyedBy (ctx : Context) (value : String) (secret : Bytes) : Prop
  | processed {id} (indexed : ctx.tokens.get? value = some (.encryptedKey ⟨id, secret⟩))
  | answered (unprocessed : ctx.tokens.get? value = none)
      (known : (ctx.request ⟨value, some ValueType.encryptedKeySha1, .secretKey⟩).result
        = .ok (some secret))

/-- A credential is made of what a key identifier with a text names. -/
def HoldsNamed (ctx : Context) (r : TokenReference) (value : String) (c : Credential) :
    IdentifierTarget → Prop
  | .certificate _ => c.certificates ≠ [] ∧ c.secretKey = none
  | .encryptedKey => c.certificates = [] ∧ c.publicKey = none ∧
      ∃ secret, c.secretKey = some secret ∧ KeyedBy ctx value secret
  | .assertion => ∃ a, DrawsOn ctx r a ∧ c.principal.token = some (.assertion a)

/-- Whether material was taken from a token of a conversation. -/
def Origin.isOfConversation : Origin → Bool
  | securityContext => true
  | derivedKey => true
  | _ => false

/-- Whether an origin of material is what a key identifier names. -/
def Origin.isNamedAs : Origin → IdentifierTarget → Bool
  | binary _ _, .certificate _ => true
  | certificate, .certificate _ => true
  | encryptedKey, .encryptedKey => true
  | assertion _, .assertion => true
  | _, _ => false

/-- A credential that a resolution ends with has key material. -/
theorem isEmpty_of_complete (h : complete r m = .ok c) : m.isEmpty = false := by
  unfold complete at h
  split at h
  case isTrue => cases h
  case isFalse filled => rwa [Bool.not_eq_true, Credential.isEmpty_withSubjectName] at filled

/-- A key identifier that asks for something names it. -/
theorem target?_of_lookup {lookup : Lookup} (kind : r.kind = .keyIdentifier type encoding value)
    (asked : r.lookup = .ok lookup) : ∃ target, type.target? = some target := by
  rw [TokenReference.lookup, kind] at asked
  cases known : type.target? with
  | some target => exact ⟨target, rfl⟩
  | none => simp [known] at asked

/-- A key identifier looks up its text. -/
theorem processed?_of_keyIdentifier (kind : r.kind = .keyIdentifier type encoding value) :
    processed? ctx r = ctx.tokens.get? value := by
  rw [processed?, TokenReference.lookupId?, kind]
  rfl

/-- A key identifier that fits an origin names it, unless that is a token of a
conversation. -/
theorem Origin.Fits.isNamedAs (fits : o.Fits r)
    (kind : r.kind = .keyIdentifier type encoding value) (known : type.target? = some target)
    (h : o.isOfConversation = false) : o.isNamedAs target = true := by
  have typed : r.keyIdentifierType? = some type := by
    rw [TokenReference.keyIdentifierType?, kind]
  have ofNames (names : r.NamesCertificate) : ∃ identifier, target = .certificate identifier := by
    obtain ⟨type', mem, typed'⟩ := names
    obtain rfl := Option.some.inj (typed.symm.trans typed')
    obtain ⟨identifier, known'⟩ := KeyIdentifierType.mem_ofCertificates_iff.1 mem
    exact ⟨identifier, Option.some.inj (known.symm.trans known')⟩
  cases o with
  | username token =>
    obtain ⟨uri, direct⟩ := fits
    cases kind.symm.trans direct
  | usernameElement =>
    obtain ⟨uri, direct⟩ := fits
    cases kind.symm.trans direct
  | binary valueType validated =>
    obtain ⟨⟨uri, direct⟩ | names, -⟩ := fits
    · cases kind.symm.trans direct
    · obtain ⟨identifier, rfl⟩ := ofNames names
      rfl
  | encryptedKey =>
    obtain rfl := fits.2 type typed
    obtain rfl := Option.some.inj known
    rfl
  | securityContext => cases h
  | derivedKey => cases h
  | assertion a =>
    obtain rfl := fits.2 type typed
    rw [AssertionVersion.target?_keyIdentifierType] at known
    obtain rfl := Option.some.inj known
    rfl
  | certificate =>
    obtain names | ⟨_, _, kind'⟩ := fits
    · obtain ⟨identifier, rfl⟩ := ofNames names
      rfl
    · cases kind.symm.trans kind'
  | secret =>
    obtain ⟨uri, hint, direct⟩ := fits
    cases kind.symm.trans direct

/-- A key identifier does not lead to a user name token of the document. -/
theorem Yields.ne_usernameElement (yields : Yields ctx r o m)
    (kind : r.kind = .keyIdentifier type encoding value) : o ≠ .usernameElement := by
  rintro rfl
  cases yields with
  | usernameElement leads =>
    obtain ⟨uri, direct, -⟩ := leads.direct
    cases kind.symm.trans direct

/-- Only a token of a conversation that was processed before is one that material is
taken from. -/
theorem Yields.exists_indexed_of_isOfConversation (yields : Yields ctx r o m)
    (h : o.isOfConversation = true) :
    ∃ token, processed? ctx r = some token ∧ token.isOfConversation = true := by
  cases yields with
  | processedContext indexed => exact ⟨_, indexed, rfl⟩
  | processedDerivedKey indexed => exact ⟨_, indexed, rfl⟩
  | _ => cases h

/-- A token of a conversation that was processed before gives a secret. -/
theorem secretKey_of_indexed {token : ProcessedToken} {lookup : Lookup}
    (indexed : processed? ctx r = some token) (h : token.isOfConversation = true)
    (taken : (material ctx r lookup).result = .ok m) : m.secretKey.isSome = true := by
  rw [material, indexed] at taken
  cases token with
  | securityContext context =>
    rw [Asking.result_pure_eq_ok_iff.1 taken]
    rfl
  | derivedKey based => exact BasedDerivedKey.secretKey_of_credential taken
  | _ => cases h

/-- Material that is taken from what a key identifier names is made of that. -/
theorem Yields.holdsNamed (yields : Yields ctx r o m)
    (kind : r.kind = .keyIdentifier type encoding value) (named : o.isNamedAs target = true)
    (filled : m.isEmpty = false) : HoldsNamed ctx r value m target := by
  cases target with
  | certificate identifier =>
    obtain ⟨certificates, trusted, rfl⟩ :
        ∃ certificates trusted, m = .ofCertificates certificates trusted := by
      cases yields with
      | processedBinary => exact ⟨_, _, rfl⟩
      | binaryElement => exact ⟨_, _, rfl⟩
      | issuerSerial => exact ⟨_, _, rfl⟩
      | identifiedCertificate => exact ⟨_, _, rfl⟩
      | _ => cases named
    refine ⟨?_, rfl⟩
    simpa [Credential.isEmpty, Credential.ofCertificates] using filled
  | encryptedKey =>
    cases yields with
    | processedKey indexed =>
      rw [processed?_of_keyIdentifier kind] at indexed
      exact ⟨rfl, rfl, _, rfl, .processed indexed⟩
    | keyElement leads =>
      obtain ⟨uri, direct, -⟩ := leads.direct
      cases kind.symm.trans direct
    | identifiedKey identifies fits known =>
      obtain ⟨_, _, kind', -⟩ := identifies.identifier
      cases kind.symm.trans kind'
      have unprocessed := identifies.unprocessed
      rw [processed?_of_keyIdentifier kind] at unprocessed
      exact ⟨rfl, rfl, _, rfl, .answered unprocessed known⟩
    | _ => cases named
  | assertion =>
    cases yields with
    | processedAssertion indexed => exact ⟨_, .processed indexed, rfl⟩
    | assertionElement leads =>
      obtain ⟨uri, direct, -⟩ := leads.direct
      cases kind.symm.trans direct
    | identifiedAssertion identifies found configured answered =>
      exact ⟨_, .identifier identifies found configured answered, rfl⟩
    | _ => cases named

/-- The secret of a token of a conversation is nothing that a key identifier names. -/
theorem not_holdsNamed_of_indexed {token : ProcessedToken}
    (kind : r.kind = .keyIdentifier type encoding value)
    (indexed : processed? ctx r = some token) (h : token.isOfConversation = true)
    (secret : c.secretKey.isSome = true) : ¬ HoldsNamed ctx r value c target := by
  intro holds
  cases target with
  | certificate identifier =>
    rw [holds.2] at secret
    cases secret
  | encryptedKey =>
    obtain ⟨-, -, key, -, keyed⟩ := holds
    rw [processed?_of_keyIdentifier kind] at indexed
    cases keyed with
    | processed indexed' =>
      cases indexed.symm.trans indexed'
      cases h
    | answered unprocessed => cases indexed.symm.trans unprocessed
  | assertion =>
    obtain ⟨a, draws, -⟩ := holds
    cases draws with
    | processed indexed' =>
      cases indexed.symm.trans indexed'
      cases h
    | element leads => cases indexed.symm.trans leads.unprocessed
    | identifier identifies => cases indexed.symm.trans identifies.unprocessed

/-- A credential is made of the same with the subject's name. -/
theorem holdsNamed_withSubjectName :
    HoldsNamed ctx r value c.withSubjectName target ↔ HoldsNamed ctx r value c target := by
  cases target <;> simp [HoldsNamed]

/-- **What a key identifier yields.**  A key identifier that strict mode accepts names
something, and its credential is made of that exactly if no token of a conversation
was processed under its text. -/
theorem holdsNamed_iff (strict : ctx.compliance = .strict)
    (kind : r.kind = .keyIdentifier type encoding value) (h : (resolve ctx r).result = .ok c) :
    ∃ target, type.target? = some target ∧
      (HoldsNamed ctx r value c target ↔
        ∀ token, ctx.tokens.get? value = some token → token.isOfConversation = false) := by
  obtain ⟨-, ⟨lookup, asked⟩, o, m, yields, completed⟩ := resolve_eq_ok_iff.1 h
  have taken := yields.result_material asked
  obtain ⟨target, known⟩ := target?_of_lookup kind asked
  obtain rfl := eq_withSubjectName_of_complete completed
  rw [← processed?_of_keyIdentifier kind]
  refine ⟨target, known, holdsNamed_withSubjectName.trans ⟨fun holds token indexed => ?_, ?_⟩⟩
  · rw [Bool.eq_false_iff]
    intro conversation
    have secret := secretKey_of_indexed indexed conversation taken
    exact not_holdsNamed_of_indexed kind indexed conversation secret holds
  · intro absent
    have apart : o.isOfConversation = false := by
      rw [Bool.eq_false_iff]
      intro conversation
      obtain ⟨token, indexed, conversation'⟩ :=
        yields.exists_indexed_of_isOfConversation conversation
      rw [absent token indexed] at conversation'
      cases conversation'
    have fits := yields.takenFrom.fits strict asked taken (yields.ne_usernameElement kind)
    exact yields.holdsNamed kind (fits.isNamedAs kind known apart) (isEmpty_of_complete completed)

/-- A strict context in which an encrypted key was processed. -/
def keyedContext : Context where
  document := .ofRoot ⟨⟨none, "Envelope"⟩, [], []⟩ []
  tokens := ⟨[("AAAA", .encryptedKey ⟨"EK-1", [7]⟩)]⟩
  source := none
  callback := none
  processor := none
  compliance := .strict
  sizing := ⟨none, none⟩

/-- A key identifier for the encrypted key. -/
def keyReference : TokenReference :=
  ⟨none, some TokenType.encryptedKey, 1,
    .keyIdentifier .encryptedKeySha1 (some Encoding.base64Binary) "AAAA"⟩

/-- A key identifier for an encrypted key yields the secret of the processed key. -/
theorem holdsNamed_keyReference :
    (resolve keyedContext keyReference).result = .ok (.ofSecret "EK-1" [7]) ∧
      HoldsNamed keyedContext keyReference "AAAA" (.ofSecret "EK-1" [7]) .encryptedKey := by
  have h : (resolve keyedContext keyReference).result = .ok (.ofSecret "EK-1" [7]) := rfl
  obtain ⟨target, known, holds⟩ := holdsNamed_iff rfl rfl h
  obtain rfl : .encryptedKey = target := Option.some.inj known
  refine ⟨h, holds.2 fun token indexed => ?_⟩
  obtain rfl : .encryptedKey ⟨"EK-1", [7]⟩ = token := Option.some.inj indexed
  rfl

/-- A strict context in which a security context was processed. -/
def conversationContext : Context :=
  { keyedContext with tokens := ⟨[("AAAA", .securityContext ⟨"AAAA", "urn:context", [7]⟩)]⟩ }

/-- A key identifier for a certificate. -/
def thumbprintReference : TokenReference :=
  ⟨none, none, 1, .keyIdentifier .thumbprintSha1 (some Encoding.base64Binary) "AAAA"⟩

/-- A key identifier for a certificate yields the secret of a security context that has
its text as identifier. -/
theorem not_holdsNamed_thumbprintReference :
    conversationContext.compliance = .strict ∧
      KeyIdentifierType.target? .thumbprintSha1 = some (.certificate .thumbprintSha1) ∧
      (resolve conversationContext thumbprintReference).result
        = .ok (.ofSecret "urn:context" [7]) ∧
      ¬ HoldsNamed conversationContext thumbprintReference "AAAA" (.ofSecret "urn:context" [7])
        (.certificate .thumbprintSha1) := by
  refine ⟨rfl, rfl, rfl, ?_⟩
  rintro ⟨-, absent⟩
  cases absent

end Resolution
end SecurityTokens
