/-
# What makes a credential trusted

Trust is never established by a resolution.  It is taken over from a token: a
binary token whose certificates were validated when it was processed, or an
assertion whose signature a processor has verified and whose first method is
that of a subject holding the key.

| the reference draws on an assertion | that |
| --- | --- |
| by the identifier it looks up | was processed before |
| as a direct reference | the processor gives for an assertion element |
| as a key identifier for assertions | the processor gives for the element found |
-/

import SecurityTokens.Proofs.Origin

namespace SecurityTokens
namespace Resolution

variable {ctx : Context} {r : TokenReference} {c m : Credential}

/-- The assertion a reference draws on. -/
inductive DrawsOn (ctx : Context) (r : TokenReference) (a : Assertion) : Prop
  | processed (indexed : processed? ctx r = some (.assertion a))
  | element {id valueType e processor} (leads : LeadsToElement ctx r id valueType e)
      (named : (AssertionVersion.ofElement? e).isSome = true)
      (configured : ctx.processor = some processor)
      (answered : (processor.assertion e).result = .ok a)
  | identifier {value place processor} (identifies : Identifies ctx r .assertion value)
      (found : ctx.document.elementById value = .ok (some place))
      (configured : ctx.processor = some processor)
      (answered : (processor.assertion place.element).result = .ok a)

/-- Whether the token that material was taken from passes on trust. -/
def Origin.isTrusted : Origin → Bool
  | binary _ validated => validated
  | assertion a => a.isTrusted
  | _ => false

end Resolution

/-- The trusted assertions: the first method is that of a subject holding the key,
and the signature has been verified. -/
theorem Assertion.isTrusted_iff {a : Assertion} : a.isTrusted = true ↔
    (∃ method, a.methods.head? = some method ∧ Confirmation.isHolderOfKey method = true) ∧
      a.signatureVerified = true := by
  simp [isTrusted, isHolderOfKey, Option.any_eq_true]

/-- A derived key is never trusted. -/
theorem BasedDerivedKey.trusted_of_credential {based : BasedDerivedKey} {sizing : KeySizing}
    {c : Credential} (h : based.credential sizing = .ok c) : c.trusted = false := by
  obtain ⟨length, secret, principal, -, -, -, rfl⟩ := credential_eq_ok_iff.1 h
  rfl

namespace Credential

variable {c : Credential}

/-- Naming a credential changes neither its material nor whether it is trusted. -/
@[simp] theorem trusted_withSubjectName : c.withSubjectName.trusted = c.trusted := by
  unfold withSubjectName
  split <;> rfl

/-- A credential with the token of its identity keeps its identity. -/
theorem withSubjectName_eq_self (h : c.principal.token.isSome = true) :
    c.withSubjectName = c := by
  have known : c.principal.isUnknown = false := by
    simp [Principal.isUnknown, h]
  simp [withSubjectName, known]

end Credential

namespace Resolution

variable {ctx : Context} {r : TokenReference} {c m : Credential} {o : Origin}

theorem eq_withSubjectName_of_complete (h : complete r m = .ok c) : c = m.withSubjectName := by
  unfold complete at h
  split at h
  · cases h
  · exact (Except.ok.inj h).symm

/-- Material is trusted exactly if the token it was taken from passes on trust. -/
theorem Yields.trusted_eq (yields : Yields ctx r o m) : m.trusted = o.isTrusted := by
  cases yields with
  | processedDerivedKey _ derived => exact BasedDerivedKey.trusted_of_credential derived
  | _ => rfl

/-- Only a binary token that was processed before passes on a validation. -/
theorem Yields.indexed_of_validated {valueType : String}
    (yields : Yields ctx r (.binary valueType true) m) :
    ∃ token, processed? ctx r = some (.binary token) ∧ token.validated = true := by
  generalize ho : Origin.binary valueType true = o at yields
  cases yields with
  | @processedBinary token indexed _ => exact ⟨token, indexed, (Origin.binary.inj ho).2.symm⟩
  | binaryElement => cases (Origin.binary.inj ho).2
  | _ => cases ho

theorem Yields.drawsOn {a : Assertion} (yields : Yields ctx r (.assertion a) m) :
    DrawsOn ctx r a := by
  cases yields with
  | processedAssertion indexed _ => exact .processed indexed
  | assertionElement leads named configured answered _ =>
    exact .element leads named configured answered
  | identifiedAssertion identifies found configured answered _ =>
    exact .identifier identifies found configured answered

/-- A binary token that was processed before is what its material is taken from. -/
theorem trusted_of_indexed {token : ProcessedBinaryToken} {lookup : Lookup}
    (indexed : processed? ctx r = some (.binary token))
    (taken : (material ctx r lookup).result = .ok m) : m.trusted = token.validated := by
  rw [material, indexed] at taken
  obtain ⟨-, taken⟩ := Context.result_enforce_bind_eq_ok_iff.1 taken
  rw [Asking.result_pure_eq_ok_iff.1 taken]
  rfl

/-- An assertion that is drawn on fits its reference, where the mode asks for that,
and is what the material is taken from. -/
theorem DrawsOn.fits_and_eq_ofAssertion {a : Assertion} {lookup : Lookup}
    (draws : DrawsOn ctx r a) (asked : r.lookup = .ok lookup)
    (taken : (material ctx r lookup).result = .ok m) :
    (ctx.compliance = .strict → Profile.checkAssertion r a.version = .ok ()) ∧
      m = .ofAssertion a := by
  have of_element {e : Xml.Element} {processor : TokenProcessor}
      (configured : ctx.processor = some processor)
      (answered : (processor.assertion e).result = .ok a)
      (taken : (ofAssertionElement ctx r e).result = .ok m) :
      (ctx.compliance = .strict → Profile.checkAssertion r a.version = .ok ()) ∧
        m = .ofAssertion a := by
    obtain ⟨processor', a', configured', answered', fits, rfl⟩ :=
      result_ofAssertionElement_eq_ok_iff.1 taken
    obtain rfl : processor = processor' := Option.some.inj (configured.symm.trans configured')
    obtain rfl : a = a' := Except.ok.inj (answered.symm.trans answered')
    exact ⟨fits, rfl⟩
  cases draws with
  | processed indexed =>
    rw [material, indexed] at taken
    obtain ⟨fits, taken⟩ := Context.result_enforce_bind_eq_ok_iff.1 taken
    exact ⟨fits, Asking.result_pure_eq_ok_iff.1 taken⟩
  | element leads named configured answered =>
    rw [leads.result_material asked, ofElement_eq_ofAssertionElement named] at taken
    exact of_element configured answered taken
  | @identifier value place processor identifies found configured answered =>
    rw [identifies.material_eq asked] at taken
    obtain ⟨place', found', taken⟩ := result_ofIdentifiedAssertion_eq_ok_iff.1 taken
    obtain rfl : place = place' := Option.some.inj (Except.ok.inj (found.symm.trans found'))
    exact of_element configured answered taken

/-- A credential is the subject of the assertion that its reference draws on. -/
theorem DrawsOn.credential_eq {a : Assertion} (draws : DrawsOn ctx r a)
    (h : (resolve ctx r).result = .ok c) : c = .ofAssertion a := by
  obtain ⟨-, ⟨lookup, asked⟩, o, m, yields, completed⟩ := resolve_eq_ok_iff.1 h
  obtain ⟨-, rfl⟩ := draws.fits_and_eq_ofAssertion asked (yields.result_material asked)
  rw [eq_withSubjectName_of_complete completed]
  exact Credential.withSubjectName_eq_self rfl

/-- **Trust is exact.**  A credential is trusted if and only if the identifier of
its reference leads to a binary token that was validated, or its reference draws
on an assertion that is trusted.  The credential then is the subject of that
assertion, and whether it is trusted does not depend on anything else. -/
theorem trusted_iff (h : (resolve ctx r).result = .ok c) :
    (c.trusted = true ↔
      (∃ token, processed? ctx r = some (.binary token) ∧ token.validated = true) ∨
      ∃ a, DrawsOn ctx r a ∧
        (∃ method, a.methods.head? = some method ∧ Confirmation.isHolderOfKey method = true) ∧
        a.signatureVerified = true) ∧
    ∀ a, DrawsOn ctx r a → c = .ofAssertion a := by
  simp only [← Assertion.isTrusted_iff]
  refine ⟨⟨fun trusted => ?_, ?_⟩, fun a draws => draws.credential_eq h⟩
  · obtain ⟨-, -, o, m, yields, completed⟩ := resolve_eq_ok_iff.1 h
    rw [eq_withSubjectName_of_complete completed, Credential.trusted_withSubjectName,
      yields.trusted_eq] at trusted
    cases o with
    | binary valueType validated =>
      obtain rfl : validated = true := trusted
      exact .inl yields.indexed_of_validated
    | assertion a => exact .inr ⟨a, yields.drawsOn, trusted⟩
    | _ => cases trusted
  · rintro (⟨token, indexed, validated⟩ | ⟨a, draws, trusted⟩)
    · obtain ⟨-, ⟨lookup, asked⟩, o, m, yields, completed⟩ := resolve_eq_ok_iff.1 h
      have taken := yields.result_material asked
      rw [eq_withSubjectName_of_complete completed, Credential.trusted_withSubjectName,
        trusted_of_indexed indexed taken, validated]
    · rw [draws.credential_eq h]
      exact trusted

/-- An assertion that confirms its subject by a key first and as the bearer next,
its signature verified. -/
def verifiedAssertion : Assertion where
  id := "_a1"
  version := .v20
  issuer := none
  subjectName := some "alice"
  methods := [Confirmation.saml2HolderOfKey, "urn:oasis:names:tc:SAML:2.0:cm:bearer"]
  hasSignature := true
  signatureVerified := true
  keyInfo := .empty
  secret := some [7]

/-- A strict context with the element of an assertion and a processor for it. -/
def verifyingContext : Context where
  document := .ofRoot ⟨⟨some Namespace.saml2, "Assertion"⟩, [⟨⟨none, "ID"⟩, "_a1"⟩], []⟩ []
  tokens := .empty
  source := none
  callback := none
  processor := some ⟨fun _ => pure verifiedAssertion, fun _ => .fail .xmlSyntax⟩
  compliance := .strict
  sizing := ⟨none, none⟩

/-- A key identifier for the assertion. -/
def identifyingReference : TokenReference :=
  ⟨none, some TokenType.saml20, 1, .keyIdentifier .saml2Id none "_a1"⟩

/-- The assertion that a key identifier leads to makes its credential trusted. -/
theorem trusted_of_verifiedAssertion :
    (resolve verifyingContext identifyingReference).result = .ok (.ofAssertion verifiedAssertion) ∧
      (Credential.ofAssertion verifiedAssertion).trusted = true := by
  have h : (resolve verifyingContext identifyingReference).result
      = .ok (.ofAssertion verifiedAssertion) := rfl
  have found : verifyingContext.document.elementById "_a1"
      = .ok (some ⟨[], verifyingContext.document.root⟩) := rfl
  have draws : DrawsOn verifyingContext identifyingReference verifiedAssertion :=
    .identifier ⟨rfl, _, _, rfl, rfl⟩ found rfl rfl
  exact ⟨h, (trusted_iff h).1.2 (.inr ⟨_, draws, ⟨_, rfl, by decide⟩, rfl⟩)⟩

end Resolution
end SecurityTokens
