/-
# References to tokens that come later

A derived key token takes its secret from where its reference leads.  The record of a
pass holds tokens before it only.  But an identifier without a record is looked up in
the document, and the element found there may come later in the same header, or be the
derived key token itself (`ForwardReference`).  What it is decides:

| the element ahead | gives a secret |
| --- | --- |
| binary token | never |
| assertion | if its processor adds one |
| encrypted key | if its processor knows it |
| any other, a derived key token among them | if the callback knows its identifier |

So a forward reference does not end the pass by itself.  It does exactly if the element
ahead gives no secret and none was recorded under its identifier
(`ForwardReference.process_exact`).
-/

import SecurityTokens.Proofs.NamedMaterial
import SecurityTokens.Proofs.ReadAgain

namespace SecurityTokens
namespace Resolution

/-- The secret that an element of the document gives for a reference. -/
inductive GivesSecret (ctx : Context) (r : TokenReference) (id : String)
    (valueType : Option String) (e : Xml.Element) : Bytes → Prop
  | assertion {processor a secret}
      (named : (AssertionVersion.ofElement? e).isSome = true)
      (configured : ctx.processor = some processor)
      (answered : (processor.assertion e).result = .ok a)
      (fits : ctx.compliance = .strict → Profile.checkAssertion r a.version = .ok ())
      (held : a.secret = some secret) : GivesSecret ctx r id valueType e secret
  | encryptedKey {processor key}
      (named : e.isNamed Namespace.encryption "EncryptedKey" = true)
      (fits : ctx.compliance = .strict → Profile.checkEncryptedKey r = .ok ())
      (configured : ctx.processor = some processor)
      (answered : (processor.encryptedKey e).result = .ok key) :
      GivesSecret ctx r id valueType e key.secret
  | other {secret}
      (notBinary : e.isNamed Namespace.security "BinarySecurityToken" = false)
      (notAssertion : (AssertionVersion.ofElement? e).isSome = false)
      (notKey : e.isNamed Namespace.encryption "EncryptedKey" = false)
      (known : (ctx.request ⟨id, valueType, .secretKey⟩).result = .ok (some secret)) :
      GivesSecret ctx r id valueType e secret

variable {ctx : Context} {r : TokenReference} {id : String} {valueType : Option String}
  {e : Xml.Element} {secret : Bytes} {c m : Credential}

theorem exists_secret_of_ofElement_iff :
    (∃ m, (ofElement ctx r id valueType e).result = .ok m ∧ m.secretKey = some secret) ↔
      GivesSecret ctx r id valueType e secret := by
  constructor
  · rintro ⟨m, h, held⟩
    unfold ofElement at h
    split at h
    next =>
      obtain ⟨_, _, _, certificates, -, -, -, -, -, rfl⟩ := result_ofBinaryToken_eq_ok_iff.1 h
      cases held
    next notBinary =>
    split at h
    next named =>
      obtain ⟨processor, a, configured, answered, fits, rfl⟩ :=
        result_ofAssertionElement_eq_ok_iff.1 h
      exact .assertion named configured answered fits held
    next notAssertion =>
    split at h
    next named =>
      obtain ⟨fits, processor, key, configured, answered, rfl⟩ :=
        result_ofEncryptedKeyElement_eq_ok_iff.1 h
      obtain rfl := Option.some.inj held
      exact .encryptedKey named fits configured answered
    next notKey =>
      obtain ⟨secret', known, rfl⟩ := Context.result_secretCredential_eq_ok_iff.1 h
      obtain rfl := Option.some.inj held
      exact .other (Bool.eq_false_iff.2 notBinary) (Bool.eq_false_iff.2 notAssertion)
        (Bool.eq_false_iff.2 notKey) known
  · intro gives
    cases gives with
    | @assertion processor a secret named configured answered fits held =>
      refine ⟨.ofAssertion a, ?_, held⟩
      rw [ofElement_eq_ofAssertionElement named]
      exact result_ofAssertionElement_eq_ok_iff.2 ⟨_, _, configured, answered, fits, rfl⟩
    | @encryptedKey processor key named fits configured answered =>
      refine ⟨.ofSecret (e.id?.getD id) key.secret, ?_, rfl⟩
      rw [ofElement_eq_ofEncryptedKeyElement named]
      exact result_ofEncryptedKeyElement_eq_ok_iff.2 ⟨fits, _, _, configured, answered, rfl⟩
    | @other secret notBinary notAssertion notKey known =>
      refine ⟨.ofSecret id secret, ?_, rfl⟩
      simp only [ofElement, notBinary, notAssertion, notKey, Bool.false_eq_true, if_false]
      exact Context.result_secretCredential_eq_ok_iff.2 ⟨_, known, rfl⟩

/-- Material with a secret is not refused for being empty. -/
theorem complete_of_secretKey (held : m.secretKey = some secret) :
    complete r m = .ok m.withSubjectName := by
  have filled : m.withSubjectName.isEmpty = false := by
    rw [Credential.isEmpty_withSubjectName, Credential.isEmpty, held, Option.isNone_some,
      Bool.and_false]
  rw [complete, filled]
  rfl

/-- A reference that leads to an element gives the secret that the element gives. -/
theorem LeadsToElement.exists_secret_iff (leads : LeadsToElement ctx r id valueType e) :
    (∃ c, (resolve ctx r).result = .ok c ∧ c.secretKey = some secret) ↔
      (ctx.compliance = .strict → Profile.checkStructure r = .ok ()) ∧
        GivesSecret ctx r id valueType e secret := by
  obtain ⟨uri, direct, -⟩ := leads.direct
  have asked : r.lookup = .ok (.direct uri valueType) := by rw [TokenReference.lookup, direct]
  rw [← exists_secret_of_ofElement_iff]
  simp only [resolve_eq, Asking.result_bind_eq_ok_iff, Context.result_enforce_eq_ok_iff,
    exists_const, Asking.result_liftM_eq_ok_iff, asked, Except.ok.injEq, exists_eq_left',
    leads.result_material asked]
  constructor
  · rintro ⟨c, ⟨wellFormed, m, taken, completed⟩, held⟩
    rw [eq_withSubjectName_of_complete completed, Credential.secretKey_withSubjectName] at held
    exact ⟨wellFormed, m, taken, held⟩
  · rintro ⟨wellFormed, m, taken, held⟩
    refine ⟨m.withSubjectName, ⟨wellFormed, m, taken, complete_of_secretKey held⟩, ?_⟩
    rw [Credential.secretKey_withSubjectName, held]

end Resolution

/-- A derived key token of a header whose reference leads, in the document, to an
element of the header that does not come before it. -/
structure ForwardReference (root : Xml.Element) (extra : List String) (header : Xml.Element) where
  -- Where the header is, and the token in it.
  path : List Nat
  header_eq : root.at? path = some header
  position : Nat
  element : Xml.Element
  element_eq : header.elements[position]? = some element
  token : DerivedKeyToken
  token_eq : DerivedKeyToken.ofElement element = .ok token
  -- What the token refers to, by an identifier of the document.
  reference : TokenReference
  reference_eq : token.reference = some reference
  uri : String
  valueType : Option String
  direct : reference.kind = .direct uri valueType
  id : String
  isLocal : fragment? uri = some id
  -- The element that carries the identifier: the token itself or one after it.
  targetPosition : Nat
  ahead : position ≤ targetPosition
  target : Xml.Element
  found : (Xml.Document.ofRoot root extra).elementById id
    = .ok (some ⟨path ++ [targetPosition], target⟩)

namespace ForwardReference

open HeaderPass Resolution

/-- The secret a forward reference leads to: that of a token recorded before under its
identifier, or else the one that the element ahead gives. -/
inductive DrawsOn {root : Xml.Element} {extra : List String} {header : Xml.Element}
    (f : ForwardReference root extra header) (ctx : Context) : Bytes → Prop
  | recorded {token c secret}
      (known : ctx.tokens.get? f.id = some token)
      (resolved : (resolve ctx f.reference).result = .ok c) (held : c.secretKey = some secret) :
      DrawsOn f ctx secret
  | ahead {secret}
      (unrecorded : ctx.tokens.get? f.id = none)
      (wellFormed : ctx.compliance = .strict → Profile.checkStructure f.reference = .ok ())
      (gives : GivesSecret ctx f.reference f.id f.valueType f.target secret) :
      DrawsOn f ctx secret

variable {root : Xml.Element} {extra : List String} {header : Xml.Element} {pass : HeaderPass}
  {before : TokenIndex} {secret : Bytes}

theorem exists_secret_iff (f : ForwardReference root extra header) :
    (∃ c, (resolve (pass.context (.ofRoot root extra) before) f.reference).result = .ok c ∧
        c.secretKey = some secret) ↔
      f.DrawsOn (pass.context (.ofRoot root extra) before) secret := by
  cases known : before.get? f.id with
  | some token =>
    constructor
    · rintro ⟨c, resolved, held⟩
      exact .recorded known resolved held
    · rintro (⟨-, resolved, held⟩ | ⟨unrecorded, -, -⟩)
      · exact ⟨_, resolved, held⟩
      · cases known.symm.trans unrecorded
  | none =>
    have leads : LeadsToElement (pass.context (.ofRoot root extra) before) f.reference f.id
        f.valueType f.target := {
      unprocessed := (processed?_of_fragment f.direct f.isLocal).trans known
      direct := ⟨f.uri, f.direct, f.isLocal⟩
      found := ⟨_, f.found, rfl⟩ }
    rw [leads.exists_secret_iff]
    constructor
    · rintro ⟨wellFormed, gives⟩
      exact .ahead known wellFormed gives
    · rintro (⟨known', -, -⟩ | ⟨-, wellFormed, gives⟩)
      · cases known.symm.trans known'
      · exact ⟨wellFormed, gives⟩

/-- The derived key token is processed just if its reference leads to a secret. -/
theorem process_eq_ok_iff (f : ForwardReference root extra header) (outcome : Outcome) :
    (pass.process (pass.context (.ofRoot root extra) before) f.element).result = .ok outcome ↔
      ∃ secret, f.DrawsOn (pass.context (.ofRoot root extra) before) secret ∧
        outcome = entry f.token.id (.derivedKey ⟨f.token, secret⟩) := by
  rw [process_eq_of_derivedKey (DerivedKeyToken.isSome_of_ofElement f.token_eq)]
  simp only [Asking.result_bind_eq_ok_iff, Asking.result_pure_eq_ok_iff, ← exists_secret_iff,
    BasedDerivedKey.result_ofElement_eq_ok_iff]
  constructor
  · rintro ⟨based, ⟨reference, c, read, refers, resolved, held⟩, rfl⟩
    obtain ⟨token, secret⟩ := based
    obtain rfl : f.token = token := Except.ok.inj (f.token_eq.symm.trans read)
    obtain rfl : f.reference = reference := Option.some.inj (f.reference_eq.symm.trans refers)
    exact ⟨secret, ⟨c, resolved, held⟩, rfl⟩
  · rintro ⟨secret, ⟨c, resolved, held⟩, rfl⟩
    exact ⟨⟨f.token, secret⟩, ⟨f.reference, c, f.token_eq, f.reference_eq, resolved, held⟩, rfl⟩

/-- With the parsing processor, no element before the token carries the identifier, so
all that can be recorded under it is a context by its own identifier. -/
theorem exists_context_of_get? (f : ForwardReference root extra header)
    {secrets : SecretCallback} {token : ProcessedToken}
    (parsing : pass.processor = .parsing secrets)
    (recorded : (pass.record (.ofRoot root extra) (header.elements.take f.position)).result
      = .ok before)
    (known : before.get? f.id = some token) :
    ∃ context, token = .securityContext context ∧ context.identifier = f.id := by
  obtain ⟨_, e, element, offers⟩ := exists_offers_of_get? recorded known
  rcases offers.carries parsing extra with carries | ⟨-, context⟩
  · obtain ⟨k, element⟩ := List.mem_iff_getElem?.1 element
    rw [List.getElem?_take] at element
    split at element
    case isFalse => cases element
    case isTrue earlier =>
    have there := Xml.Element.at?_concat f.header_eq element
    have same := Xml.Document.eq_of_elementById (q := ⟨f.path ++ [k], e⟩) f.found there carries
    have reached : f.path ++ [k] = f.path ++ [f.targetPosition] := congrArg Xml.Place.path same
    have late : k = f.targetPosition := List.head_eq_of_cons_eq (List.append_cancel_left reached)
    have ahead := f.ahead
    omega
  · exact context

/-- **When a forward reference ends the pass.**  In whatever context, the derived key
token is refused if and only if neither a token recorded under the identifier nor the
element ahead gives a secret, and otherwise it is processed with that secret.  So a pass
fails in which no record of the elements before gives one.  With the parsing processor,
what may be recorded before is a context named by its own identifier, and nothing else. -/
theorem process_exact (f : ForwardReference root extra header) (pass : HeaderPass) :
    (∀ before,
      (∃ error, (pass.process (pass.context (.ofRoot root extra) before) f.element).result
        = .error error) ↔
      ∀ secret, ¬ f.DrawsOn (pass.context (.ofRoot root extra) before) secret) ∧
    (∀ before secret, f.DrawsOn (pass.context (.ofRoot root extra) before) secret →
      (pass.process (pass.context (.ofRoot root extra) before) f.element).result
        = .ok (entry f.token.id (.derivedKey ⟨f.token, secret⟩))) ∧
    ((∀ before,
      (pass.record (.ofRoot root extra) (header.elements.take f.position)).result = .ok before →
        ∀ secret, ¬ f.DrawsOn (pass.context (.ofRoot root extra) before) secret) →
      ∃ error, (pass.indexTokens (.ofRoot root extra) header).result = .error error) ∧
    ∀ secrets before token, pass.processor = .parsing secrets →
      (pass.record (.ofRoot root extra) (header.elements.take f.position)).result = .ok before →
      before.get? f.id = some token →
      ∃ context, token = .securityContext context ∧ context.identifier = f.id := by
  refine ⟨fun before => ?_, fun before secret draws => ?_, fun drawsNone => ?_,
    fun secrets before token parsing => f.exists_context_of_get? parsing⟩
  · constructor
    · rintro ⟨error, failed⟩ secret draws
      have processed := (f.process_eq_ok_iff _).2 ⟨secret, draws, rfl⟩
      cases failed.symm.trans processed
    · intro drawsNone
      cases processed : (pass.process (pass.context (.ofRoot root extra) before)
          f.element).result with
      | error error => exact ⟨error, rfl⟩
      | ok outcome =>
        obtain ⟨secret, draws, -⟩ := (f.process_eq_ok_iff outcome).1 processed
        exact absurd draws (drawsNone secret)
  · exact (f.process_eq_ok_iff _).2 ⟨secret, draws, rfl⟩
  · cases recorded : (pass.indexTokens (.ofRoot root extra) header).result with
    | error error => exact ⟨error, rfl⟩
    | ok tokens =>
      obtain ⟨before, outcome, earlier, processed⟩ := exists_record_take f.element_eq recorded
      obtain ⟨secret, draws, -⟩ := (f.process_eq_ok_iff outcome).1 processed
      exact absurd draws (drawsNone before earlier secret)

/-- A derived key token that refers to an encrypted key. -/
def derivingElement : Xml.Element :=
  ⟨⟨some Namespace.conversation0502, "DerivedKeyToken"⟩, [⟨⟨none, "Id"⟩, "DK-1"⟩],
    [.element ⟨some Namespace.security, "SecurityTokenReference"⟩
        [⟨⟨some Namespace.security11, "TokenType"⟩, TokenType.encryptedKey⟩]
        [.element ⟨some Namespace.security, "Reference"⟩ [⟨⟨none, "URI"⟩, "#EK-1"⟩] []],
      .element ⟨some Namespace.conversation0502, "Nonce"⟩ [] [.text "AAAA"]]⟩

/-- The token it is read as. -/
def derivingToken : DerivedKeyToken :=
  ⟨some "DK-1", .pSha1, some localKeyReference, .beginning, none, none, [0, 0, 0]⟩

theorem ofElement_derivingElement :
    DerivedKeyToken.ofElement derivingElement = .ok derivingToken := by
  decide +kernel

/-- A header with the encrypted key after the token that refers to it. -/
def headerAhead : Xml.Element :=
  ⟨⟨some Namespace.security, "Security"⟩, [], [derivingElement.toNode, namedKeyElement.toNode]⟩

/-- The reference to the encrypted key. -/
def keyAhead : ForwardReference headerAhead [] headerAhead where
  path := []
  header_eq := rfl
  position := 0
  element := derivingElement
  element_eq := rfl
  token := derivingToken
  token_eq := ofElement_derivingElement
  reference := localKeyReference
  reference_eq := rfl
  uri := "#EK-1"
  valueType := none
  direct := rfl
  id := "EK-1"
  isLocal := by decide
  targetPosition := 1
  ahead := Nat.zero_le 1
  target := namedKeyElement
  found := rfl

/-- A pass that parses and knows no secret. -/
def ignorantPass : HeaderPass :=
  { parsingPass with callback := fun _ => .ok none, processor := .parsing fun _ => .ok none }

/-- If the secret of the key is not known, the reference to it ends the pass. -/
theorem fails_of_keyAhead : ∃ error,
    (ignorantPass.indexTokens (.ofRoot headerAhead []) headerAhead).result = .error error := by
  refine (keyAhead.process_exact _).2.2.1 fun before recorded secret draws => ?_
  obtain rfl := Asking.result_pure_eq_ok_iff.1 recorded
  cases draws with
  | recorded known => cases known
  | ahead unrecorded wellFormed gives =>
    cases gives with
    | assertion named => cases named
    | encryptedKey named fits configured answered =>
      obtain rfl := Option.some.inj configured
      cases answered
    | other notBinary notAssertion notKey => cases notKey

/-- If the secret of the key is known, the pass gives an index in which the token derives
from the key after it. -/
theorem derives_from_keyAhead :
    keyAhead.position < keyAhead.targetPosition ∧
      ∃ tokens, (parsingPass.indexTokens (.ofRoot headerAhead []) headerAhead).result = .ok tokens ∧
        tokens.get? "DK-1" = some (.derivedKey ⟨derivingToken, [7]⟩) := by
  have entries : (parsingPass.indexTokens (.ofRoot headerAhead []) headerAhead).result.map
      TokenIndex.entries = .ok [("DK-1", .derivedKey ⟨derivingToken, [7]⟩),
        ("EK-1", .encryptedKey ⟨"EK-1", [7]⟩)] := by
    decide +kernel
  refine ⟨Nat.zero_lt_one, ?_⟩
  cases recorded : (parsingPass.indexTokens (.ofRoot headerAhead []) headerAhead).result with
  | error error =>
    rw [recorded] at entries
    cases entries
  | ok tokens =>
    rw [recorded] at entries
    refine ⟨tokens, rfl, ?_⟩
    rw [TokenIndex.get?, Except.ok.inj entries]
    rfl

end ForwardReference
end SecurityTokens
