/-
# When a breach of the profile comes first

Which rule of the profile is on a reference to an element of the document depends on
the kind of the element, and for a binary token on its value type, for an assertion
on its version.  A reference that breaks the rule is refused for that just if all
succeeds that is done with the element before:

| element | done before |
| --- | --- |
| encrypted key | nothing |
| binary token | the source is required, and the bytes of the token are read |
| assertion | the processor is required, and its answer is waited for |

The version of an assertion is what the processor answers, so the rule that is broken
is that of the answer.  If something fails before, its error is all that is told.
-/

import SecurityTokens.Proofs.Rules
import SecurityTokens.Proofs.Strictness

namespace SecurityTokens

namespace Asking

variable {α β : Type}

/-- The computation ends with a breach of the profile. -/
def Breaches (x : Asking α) : Prop := ∃ v, x.result = .error (.violation v)

theorem not_breaches_of_ok {x : Asking α} {a : α} (h : x.result = .ok a) : ¬ x.Breaches := by
  rintro ⟨v, broken⟩
  cases h.symm.trans broken

theorem breaches_bind_iff {x : Asking α} {next : α → Asking β} :
    (x >>= next).Breaches ↔ x.Breaches ∨ ∃ a, x.result = .ok a ∧ (next a).Breaches := by
  cases h : x.result with
  | ok a => simp [Breaches, bind_of_ok h, h]
  | error e => simp [Breaches, bind_of_error h, h]

/-- After a step that never refuses for a breach, the computation ends with one just if
the step succeeds and the rest does. -/
theorem breaches_liftM_bind_iff {x : Except Error α} {next : α → Asking β}
    (h : ∀ v, x ≠ .error (.violation v)) :
    ((liftM x : Asking α) >>= next).Breaches ↔ ∃ a, x = .ok a ∧ (next a).Breaches := by
  rw [breaches_bind_iff]
  refine or_iff_right ?_
  rintro ⟨v, broken⟩
  exact h v broken

end Asking

namespace Context

variable {ctx : Context} {β : Type}

theorem breaches_requireSource_bind_iff {next : CertificateSource → Asking β} :
    (ctx.requireSource >>= next).Breaches ↔
      ∃ source, ctx.source = some source ∧ (next source).Breaches := by
  simp only [Asking.breaches_bind_iff, result_requireSource_eq_ok_iff]
  refine or_iff_right ?_
  cases configured : ctx.source <;> simp [Asking.Breaches, requireSource, configured]

theorem breaches_requireProcessor_bind_iff {next : TokenProcessor → Asking β} :
    (ctx.requireProcessor >>= next).Breaches ↔
      ∃ processor, ctx.processor = some processor ∧ (next processor).Breaches := by
  simp only [Asking.breaches_bind_iff, result_requireProcessor_eq_ok_iff]
  refine or_iff_right ?_
  cases configured : ctx.processor <;> simp [Asking.Breaches, requireProcessor, configured]

/-- In strict mode a check ends the computation with a breach just if it does not
pass. -/
theorem breaches_enforce_bind_iff {check : Except Error Unit} {next : Asking β}
    (strict : ctx.compliance = .strict) (only : Profile.OnlyBreaches check) :
    (ctx.enforce check >>= fun _ => next).Breaches ↔ check ≠ .ok () ∨ next.Breaches := by
  have enforced : (ctx.enforce check).result = check := by
    rw [enforce, strict]
    rfl
  rw [Asking.breaches_bind_iff, Asking.Breaches, enforced]
  cases check with
  | ok _ => simp
  | error e =>
    obtain ⟨v, rfl⟩ := only e rfl
    simp

end Context

namespace BinaryToken

/-- Reading a binary token refuses nothing for a breach. -/
theorem ofElement_ne_violation (e : Xml.Element) (v : Violation) :
    ofElement e ≠ .error (.violation v) := by
  intro h
  cases named : e.isNamed Namespace.security "BinarySecurityToken" with
  | false =>
    rw [ofElement, named] at h
    cases h
  | true =>
    simp only [ofElement, named, Bool.not_true, Bool.false_eq_true, if_false] at h
    split at h
    next =>
      split at h
      next => cases h
      next =>
        rw [decodeBase64Text] at h
        cases decoded : Base64.decodeText e.text with
        | ok data =>
          rw [decoded] at h
          cases h
        | error fault =>
          rw [decoded] at h
          cases h
    next => cases h

/-- A binary token of a known value type holds certificates. -/
theorem exists_encoding_of_mem {t : BinaryToken}
    (known : t.valueType ∈ [ValueType.x509v3, ValueType.x509PkiPath]) :
    ∃ encoding, t.encoding = .ok encoding := by
  unfold encoding
  split
  case isTrue => exact ⟨_, rfl⟩
  case isFalse notSingle =>
    rw [if_pos (List.eq_of_mem_singleton (List.mem_of_ne_of_mem notSingle known))]
    exact ⟨_, rfl⟩

/-- The encoding of a binary token refuses nothing for a breach. -/
theorem encoding_ne_violation (t : BinaryToken) (v : Violation) :
    t.encoding ≠ .error (.violation v) := by
  intro h
  unfold encoding at h
  split at h
  · cases h
  · split at h <;> cases h

end BinaryToken

namespace Resolution

/-- The rule on references to an element of the document, by the kind of element. -/
inductive ElementRule where
  | binaryToken (valueType : String)
  | assertion (version : AssertionVersion)
  | encryptedKey

namespace ElementRule

/-- The check of a rule. -/
def check (r : TokenReference) : ElementRule → Except Error Unit
  | binaryToken valueType => Profile.checkBinaryToken r (some valueType)
  | assertion version => Profile.checkAssertion r version
  | encryptedKey => Profile.checkEncryptedKey r

/-- The reference leads to an element that the rule is on, and the element was not
processed before.  A key identifier leads to assertions only. -/
inductive Governs (ctx : Context) (r : TokenReference) (e : Xml.Element) : ElementRule → Prop
  | binaryToken {id hint valueType} (leads : LeadsToElement ctx r id hint e)
      (named : e.isNamed Namespace.security "BinarySecurityToken" = true)
      (typed : e.attribute? "ValueType" = some valueType)
      (known : valueType ∈ [ValueType.x509v3, ValueType.x509PkiPath]) :
      Governs ctx r e (.binaryToken valueType)
  | assertion {id hint version} (leads : LeadsToElement ctx r id hint e)
      (named : AssertionVersion.ofElement? e = some version) : Governs ctx r e (.assertion version)
  | encryptedKey {id hint} (leads : LeadsToElement ctx r id hint e)
      (named : e.isNamed Namespace.encryption "EncryptedKey" = true) :
      Governs ctx r e .encryptedKey
  | identifiedAssertion {value version place} (identifies : Identifies ctx r .assertion value)
      (found : ctx.document.elementById value = .ok (some place)) (located : place.element = e)
      (named : AssertionVersion.ofElement? e = some version) : Governs ctx r e (.assertion version)

/-- All that is done with the element before the rule is looked at succeeds, so that
a breach of it is found.  A processor may as well refuse an assertion for a breach. -/
def IsReached (ctx : Context) (r : TokenReference) (e : Xml.Element) : ElementRule → Prop
  | binaryToken _ => ctx.source.isSome = true ∧ ∃ token, BinaryToken.ofElement e = .ok token
  | assertion _ => ∃ processor, ctx.processor = some processor ∧
      ((processor.assertion e).Breaches ∨
        ∃ a, (processor.assertion e).result = .ok a ∧ Profile.checkAssertion r a.version ≠ .ok ())
  | encryptedKey => True

end ElementRule

variable {ctx : Context} {r : TokenReference} {e : Xml.Element} {rule : ElementRule}
  {lookup : Lookup}

theorem breaches_ofBinaryToken_iff {valueType : String} (strict : ctx.compliance = .strict)
    (typed : e.attribute? "ValueType" = some valueType)
    (known : valueType ∈ [ValueType.x509v3, ValueType.x509PkiPath])
    (broken : Profile.checkBinaryToken r (some valueType) ≠ .ok ()) :
    (ofBinaryToken ctx r e).Breaches ↔
      ctx.source.isSome = true ∧ ∃ token, BinaryToken.ofElement e = .ok token := by
  constructor
  · intro h
    obtain ⟨source, configured, h⟩ := Context.breaches_requireSource_bind_iff.1 h
    obtain ⟨token, read, -⟩ :=
      (Asking.breaches_liftM_bind_iff (BinaryToken.ofElement_ne_violation e)).1 h
    exact ⟨Option.isSome_iff_exists.2 ⟨source, configured⟩, token, read⟩
  · rintro ⟨configured, token, read⟩
    obtain ⟨source, configured⟩ := Option.isSome_iff_exists.1 configured
    obtain ⟨valueType', data, -, typed', -, -, rfl⟩ := BinaryToken.ofElement_eq_ok_iff.1 read
    obtain rfl := Option.some.inj (typed.symm.trans typed')
    obtain ⟨encoding, encoded⟩ :=
      BinaryToken.exists_encoding_of_mem (t := ⟨e.id?, valueType, data⟩) known
    refine Context.breaches_requireSource_bind_iff.2 ⟨source, configured, ?_⟩
    refine (Asking.breaches_liftM_bind_iff (BinaryToken.ofElement_ne_violation e)).2 ⟨_, read, ?_⟩
    refine (Asking.breaches_liftM_bind_iff (BinaryToken.encoding_ne_violation _)).2
      ⟨encoding, encoded, ?_⟩
    exact (Context.breaches_enforce_bind_iff strict
      (Profile.onlyBreaches_checkBinaryToken r _)).2 (.inl broken)

/-- An assertion is refused for a breach by its processor or for its answer. -/
theorem breaches_ofAssertionElement_iff (strict : ctx.compliance = .strict) :
    (ofAssertionElement ctx r e).Breaches ↔ ∃ processor, ctx.processor = some processor ∧
      ((processor.assertion e).Breaches ∨
        ∃ a, (processor.assertion e).result = .ok a ∧
          Profile.checkAssertion r a.version ≠ .ok ()) := by
  have answered {a : Assertion} :
      (ctx.enforce (Profile.checkAssertion r a.version) >>=
        fun _ => (pure (.ofAssertion a) : Asking Credential)).Breaches ↔
      Profile.checkAssertion r a.version ≠ .ok () := by
    rw [Context.breaches_enforce_bind_iff strict (Profile.onlyBreaches_checkAssertion r _)]
    exact or_iff_left (Asking.not_breaches_of_ok rfl)
  simp only [ofAssertionElement, Context.breaches_requireProcessor_bind_iff,
    Asking.breaches_bind_iff (x := TokenProcessor.assertion _ _), answered]

/-- A key identifier for assertions does with the element that is found what a direct
reference does. -/
theorem Identifies.result_material {value : String} {place : Xml.Place}
    (identifies : Identifies ctx r .assertion value) (asked : r.lookup = .ok lookup)
    (found : ctx.document.elementById value = .ok (some place)) :
    (material ctx r lookup).result = (ofAssertionElement ctx r place.element).result := by
  rw [identifies.material_eq asked, ofKeyIdentifier, found]
  simp only [Asking.result_bind, Asking.liftM_eq_ofExcept, Asking.result_ofExcept]
  rfl

/-- A reference that breaks the rule is refused for a breach, once it is known what it
asks for, just if the rule is reached. -/
theorem ElementRule.Governs.breaches_material_iff (governs : rule.Governs ctx r e)
    (strict : ctx.compliance = .strict) (broken : rule.check r ≠ .ok ())
    (asked : r.lookup = .ok lookup) :
    (material ctx r lookup).Breaches ↔ rule.IsReached ctx r e := by
  cases governs with
  | binaryToken leads named typed known =>
    rw [Asking.Breaches, leads.result_material asked, ofElement, if_pos named]
    exact breaches_ofBinaryToken_iff strict typed known broken
  | assertion leads named =>
    rw [Asking.Breaches, leads.result_material asked,
      ofElement_eq_ofAssertionElement (Option.isSome_iff_exists.2 ⟨_, named⟩)]
    exact breaches_ofAssertionElement_iff strict
  | encryptedKey leads named =>
    rw [Asking.Breaches, leads.result_material asked, ofElement_eq_ofEncryptedKeyElement named]
    refine iff_of_true ?_ trivial
    exact (Context.breaches_enforce_bind_iff strict (Profile.onlyBreaches_checkEncryptedKey r)).2
      (.inl broken)
  | identifiedAssertion identifies found located named =>
    rw [Asking.Breaches, identifies.result_material asked found, located]
    exact breaches_ofAssertionElement_iff strict

/-- A reference that leads to an element asks for something. -/
theorem ElementRule.Governs.asks (governs : rule.Governs ctx r e) :
    ∃ lookup, r.lookup = .ok lookup := by
  have direct {id : String} {hint : Option String} (leads : LeadsToElement ctx r id hint e) :
      ∃ lookup, r.lookup = .ok lookup := by
    obtain ⟨uri, kind, -⟩ := leads.direct
    rw [TokenReference.lookup, kind]
    exact ⟨_, rfl⟩
  cases governs with
  | binaryToken leads => exact direct leads
  | assertion leads => exact direct leads
  | encryptedKey leads => exact direct leads
  | identifiedAssertion identifies =>
    obtain ⟨type, encoding, kind, known⟩ := identifies.identifier
    rw [TokenReference.lookup, kind]
    simp only [known]
    exact ⟨_, rfl⟩

/-- In strict mode a resolution ends with a breach just if the reference is not well
formed, or if what it asks for ends with one.  Completing a credential never does. -/
theorem breaches_resolve_iff (strict : ctx.compliance = .strict) (asked : r.lookup = .ok lookup) :
    (resolve ctx r).Breaches ↔ ¬ r.IsWellFormed ∨ (material ctx r lookup).Breaches := by
  have completes (c : Credential) :
      ¬ (liftM (complete r c) : Asking Credential).Breaches := by
    rintro ⟨v, broken⟩
    rw [Asking.liftM_eq_ofExcept, Asking.result_ofExcept, complete] at broken
    split at broken <;> cases broken
  rw [resolve_eq, Context.breaches_enforce_bind_iff strict (Profile.onlyBreaches_checkStructure r),
    Ne, Profile.checkStructure_eq_ok_iff]
  refine or_congr Iff.rfl ?_
  rw [Asking.breaches_liftM_bind_iff (by simp [asked])]
  simp only [asked, Except.ok.injEq, exists_eq_left']
  rw [Asking.breaches_bind_iff]
  refine or_iff_left ?_
  rintro ⟨c, -, broken⟩
  exact completes c broken

/-- **When a breach comes first.**  In strict mode, a reference that breaks the rule on
the element it leads to is refused for a breach of the profile exactly if it is not
well formed in the first place or nothing fails before the rule is looked at. -/
theorem violation_iff_of_broken (strict : ctx.compliance = .strict)
    (governs : rule.Governs ctx r e) (broken : rule.check r ≠ .ok ()) :
    (∃ v, (resolve ctx r).result = .error (.violation v)) ↔
      ¬ r.IsWellFormed ∨ rule.IsReached ctx r e := by
  obtain ⟨lookup, asked⟩ := governs.asks
  rw [← governs.breaches_material_iff strict broken asked]
  exact breaches_resolve_iff strict asked

/-- A strict context without collaborators, for a document of one element. -/
def unconfigured (root : Xml.Element) : Context where
  document := .ofRoot root []
  tokens := .empty
  source := none
  callback := none
  processor := none
  compliance := .strict
  sizing := ⟨none, none⟩

/-- An encrypted key. -/
def keyElement : Xml.Element :=
  ⟨⟨some Namespace.encryption, "EncryptedKey"⟩, [⟨⟨none, "Id"⟩, "T-1"⟩], []⟩

/-- A binary token for a certificate. -/
def certificateElement : Xml.Element :=
  ⟨⟨some Namespace.security, "BinarySecurityToken"⟩,
    [⟨⟨none, "Id"⟩, "T-1"⟩, ⟨⟨none, "ValueType"⟩, ValueType.x509v3⟩], []⟩

/-- A direct reference without types. -/
def untypedReference : TokenReference := ⟨none, none, 1, .direct "#T-1" none⟩

/-- A reference to an encrypted key is refused before a processor is missed. -/
theorem violation_of_keyElement :
    (∃ id hint, LeadsToElement (unconfigured keyElement) untypedReference id hint keyElement) ∧
      ∃ v, (resolve (unconfigured keyElement) untypedReference).result
        = .error (.violation v) := by
  have leads : LeadsToElement (unconfigured keyElement) untypedReference "T-1" none keyElement :=
    ⟨rfl, ⟨_, rfl, by decide⟩, ⟨⟨[], _⟩, rfl, rfl⟩⟩
  have broken : ElementRule.encryptedKey.check untypedReference ≠ .ok () := by
    show Profile.checkEncryptedKey untypedReference ≠ .ok ()
    intro passed
    cases (Profile.checkEncryptedKey_eq_ok_iff.1 passed).1
  refine ⟨⟨_, _, leads⟩, ?_⟩
  exact (violation_iff_of_broken rfl (.encryptedKey leads (by decide)) broken).2 (.inr trivial)

/-- A reference to a binary token is not refused for a breach if the source is missed
before. -/
theorem not_violation_of_certificateElement :
    (unconfigured certificateElement).compliance = .strict ∧
      (ElementRule.binaryToken ValueType.x509v3).Governs (unconfigured certificateElement)
        untypedReference certificateElement ∧
      (ElementRule.binaryToken ValueType.x509v3).check untypedReference ≠ .ok () ∧
      ¬ ∃ v, (resolve (unconfigured certificateElement) untypedReference).result
        = .error (.violation v) := by
  have leads : LeadsToElement (unconfigured certificateElement) untypedReference "T-1" none
      certificateElement :=
    ⟨rfl, ⟨_, rfl, by decide⟩, ⟨⟨[], _⟩, rfl, rfl⟩⟩
  refine ⟨rfl, .binaryToken leads (by decide) rfl List.mem_cons_self, ?_, ?_⟩
  · intro passed
    cases passed
  · rintro ⟨v, broken⟩
    have missed : (resolve (unconfigured certificateElement) untypedReference).result
        = .error (.configuration .noStore) := rfl
    cases missed.symm.trans broken

end Resolution
end SecurityTokens
