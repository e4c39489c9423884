/-
# What an element of a header is entered as

An element of one of six kinds offers its result, under an identifier of its own
if it has one.  `Offers` lists the kinds, each with all that processing has found,
and `process_eq_ok_iff` says that an element whose processing succeeds either
offers something or is passed over.

| element | is entered |
| --- | --- |
| of one of the kinds, with an identifier | under that identifier |
| of one of the kinds, without one | not at all, but it is processed |
| an encrypted key whose secret is not found | not at all |
| of no kind | not at all |

The parsing processor gives no identifier that the element does not carry.  The
one exception is a security context without `Id`, entered under the identifier of
its context.
-/

import SecurityTokens.Header.Pass
import SecurityTokens.Proofs.Identifiers
import SecurityTokens.Proofs.TokenFields

namespace SecurityTokens

/-- A vocabulary is found for an element with the local name asked for. -/
theorem localName_of_conversationOf?_isSome {e : Xml.Element} {localName : String}
    (h : (conversationOf? e localName).isSome = true) : e.localName = localName := by
  obtain ⟨vocabulary, -, named⟩ := List.find?_isSome.1 h
  exact (Xml.Element.isNamed_iff.1 named).1

/-- An element of another local name belongs to no vocabulary. -/
theorem conversationOf?_isSome_eq_false {e : Xml.Element} {localName : String}
    (h : e.localName ≠ localName) : (conversationOf? e localName).isSome = false := by
  rw [Bool.eq_false_iff]
  exact fun known => h (localName_of_conversationOf?_isSome known)

/-- The identifier of an element is one that it carries. -/
theorem Xml.Element.carries_of_id? {e : Xml.Element} {id : String} (extra : List String)
    (h : e.id? = some id) : e.Carries extra id := by
  rcases Option.or_eq_some_iff.1 h with utility | ⟨-, plain⟩
  · exact .inl utility
  · exact .inr ⟨"Id", by simp [idAttributes], plain⟩

/-- So is the identifier of an assertion, in an attribute of its own. -/
theorem AssertionVersion.carries_of_idAttribute {e : Xml.Element} {id : String}
    (version : AssertionVersion) (extra : List String)
    (h : e.attribute? version.idAttribute = some id) : e.Carries extra id := by
  refine .inr ⟨version.idAttribute, ?_, h⟩
  cases version <;> simp [idAttribute, Xml.idAttributes]

/-- A user name token goes by the identifier of its element. -/
theorem UsernameToken.id_of_ofElement {e : Xml.Element} {t : UsernameToken}
    (h : ofElement e = .ok t) : t.id = e.id? :=
  (ofElement_eq_ok_iff.1 h).id

/-- What a derived key token is read from belongs to a vocabulary. -/
theorem DerivedKeyToken.isSome_of_ofElement {e : Xml.Element} {t : DerivedKeyToken}
    (h : ofElement e = .ok t) : (conversationOf? e "DerivedKeyToken").isSome = true := by
  obtain ⟨vocabulary, read⟩ := ofElement_eq_ok_iff.1 h
  exact Option.isSome_of_eq_some read.known

/-- A derived key token goes by the identifier of its element. -/
theorem DerivedKeyToken.id_of_ofElement {e : Xml.Element} {t : DerivedKeyToken}
    (h : ofElement e = .ok t) : t.id = e.id? := by
  obtain ⟨vocabulary, read⟩ := ofElement_eq_ok_iff.1 h
  exact read.id

/-- A binary token is processed to the certificates that the source reads. -/
theorem BinaryToken.process_eq_ok_iff {t : BinaryToken} {source : CertificateSource}
    {validated : Bool} {result : ProcessedBinaryToken} :
    t.process source validated = .ok result ↔ ∃ certificates,
      t.certificates source = .ok certificates ∧
      result = { id := t.id.getD "", valueType := t.valueType, certificates, validated } := by
  rw [process, Except.bind_eq_ok_iff]
  refine exists_congr fun certificates => and_congr_right fun _ => ?_
  exact ⟨fun h => (Except.ok.inj h).symm, congrArg Except.ok ∘ Eq.symm⟩

/-- What a derived key token derives from is the secret its reference leads to. -/
theorem BasedDerivedKey.result_ofElement_eq_ok_iff {ctx : Context} {e : Xml.Element}
    {based : BasedDerivedKey} :
    (ofElement ctx e).result = .ok based ↔ ∃ reference base,
      DerivedKeyToken.ofElement e = .ok based.token ∧
      based.token.reference = some reference ∧
      (resolve ctx reference).result = .ok base ∧ base.secretKey = some based.baseSecret := by
  simp only [ofElement, Asking.result_bind_eq_ok_iff, Asking.result_liftM_eq_ok_iff]
  constructor
  · rintro ⟨token, read, h⟩
    split at h
    next => cases h
    next reference refers =>
      simp only [Asking.result_bind_eq_ok_iff, Asking.result_require_eq_ok_iff,
        Asking.result_pure_eq_ok_iff] at h
      obtain ⟨base, resolved, secret, held, rfl⟩ := h
      exact ⟨reference, base, read, refers, resolved, held⟩
  · rintro ⟨reference, base, read, refers, resolved, held⟩
    refine ⟨based.token, read, ?_⟩
    simp only [refers, Asking.result_bind_eq_ok_iff, Asking.result_require_eq_ok_iff,
      Asking.result_pure_eq_ok_iff]
    exact ⟨base, resolved, based.baseSecret, held, rfl⟩

/-- The parts of a security context that is established. -/
theorem EstablishedContext.result_ofElement_eq_ok_iff {ctx : Context} {e : Xml.Element}
    {context : EstablishedContext} :
    (ofElement ctx e).result = .ok context ↔ ∃ vocabulary,
      contextIdentifier e = .ok (vocabulary, context.identifier) ∧
      (ctx.request ⟨context.identifier, some vocabulary, .secretKey⟩).result
        = .ok (some context.secret) ∧
      context.id = e.id?.getD context.identifier := by
  simp only [ofElement, Asking.result_bind_eq_ok_iff, Asking.result_liftM_eq_ok_iff,
    Asking.result_require_eq_ok_iff, Asking.result_pure_eq_ok_iff]
  constructor
  · rintro ⟨⟨vocabulary, identifier⟩, read, answer, answered, secret, rfl, rfl⟩
    exact ⟨vocabulary, read, answered, rfl⟩
  · rintro ⟨vocabulary, read, answered, named⟩
    refine ⟨(vocabulary, context.identifier), read, _, answered, context.secret, rfl, ?_⟩
    rw [← named]

/-- The key that is asked for is that of the identifier of the element. -/
theorem TokenProcessor.result_askForKey_eq_ok_iff {callback : SecretCallback} {e : Xml.Element}
    {key : DecryptedKey} :
    (askForKey callback e).result = .ok key ↔ e.id? = some key.id ∧
      (Asking.ask callback ⟨key.id, some TokenType.encryptedKey, .secretKey⟩).result
        = .ok (some key.secret) := by
  cases known : e.id? with
  | none => simp [askForKey, known]
  | some id =>
    simp only [askForKey, known, Asking.result_bind_eq_ok_iff, Asking.result_require_eq_ok_iff,
      Asking.result_pure_eq_ok_iff, Option.some.injEq]
    constructor
    · rintro ⟨answer, answered, secret, rfl, rfl⟩
      exact ⟨rfl, answered⟩
    · rintro ⟨rfl, answered⟩
      exact ⟨_, answered, key.secret, rfl, rfl⟩

namespace HeaderPass

/-- The ways in which an element of a header has a result, with the identifier it
goes by. -/
inductive Offers (pass : HeaderPass) (ctx : Context) (e : Xml.Element) :
    Option String → ProcessedToken → Prop
  | binary {token result}
      (named : e.isNamed Namespace.security "BinarySecurityToken" = true)
      (read : BinaryToken.ofElement e = .ok token)
      (processed : token.process pass.source false = .ok result) :
      Offers pass ctx e token.id (.binary result)
  | username {token}
      (named : e.isNamed Namespace.security "UsernameToken" = true)
      (read : UsernameToken.ofElement e = .ok token) :
      Offers pass ctx e token.id (.username token)
  | derivedKey {based}
      (named : (conversationOf? e "DerivedKeyToken").isSome = true)
      (resolved : (BasedDerivedKey.ofElement ctx e).result = .ok based) :
      Offers pass ctx e based.token.id (.derivedKey based)
  | securityContext {context}
      (named : (conversationOf? e "SecurityContextToken").isSome = true)
      (established : (EstablishedContext.ofElement ctx e).result = .ok context) :
      Offers pass ctx e (some context.id) (.securityContext context)
  | assertion {a}
      (named : (AssertionVersion.ofElement? e).isSome = true)
      (answered : (pass.processor.assertion e).result = .ok a) :
      Offers pass ctx e (some a.id) (.assertion a)
  | encryptedKey {key}
      (named : e.isNamed Namespace.encryption "EncryptedKey" = true)
      (answered : (pass.processor.encryptedKey e).result = .ok key) :
      Offers pass ctx e (some key.id) (.encryptedKey key)

/-- The element is of none of the kinds of tokens. -/
structure IsNoToken (e : Xml.Element) : Prop where
  notBinary : e.isNamed Namespace.security "BinarySecurityToken" = false
  notUsername : e.isNamed Namespace.security "UsernameToken" = false
  notDerivedKey : (conversationOf? e "DerivedKeyToken").isSome = false
  notContext : (conversationOf? e "SecurityContextToken").isSome = false
  notAssertion : (AssertionVersion.ofElement? e).isSome = false
  notKey : e.isNamed Namespace.encryption "EncryptedKey" = false

/-- The element is passed over. -/
inductive PassesOver (pass : HeaderPass) (e : Xml.Element) : Prop
  | ignored (kind : IsNoToken e)
  | skipped {missing} (named : e.isNamed Namespace.encryption "EncryptedKey" = true)
      (answered : (pass.processor.encryptedKey e).result = .error (.notFound missing))

/-- What is entered of a result: nothing if it goes by no identifier or an empty one. -/
theorem entry_eq_some_iff {id : Option String} {token : ProcessedToken}
    {entered : String × ProcessedToken} :
    entry id token = some entered ↔ id = some entered.1 ∧ entered.1 ≠ "" ∧ token = entered.2 := by
  obtain ⟨key, token'⟩ := entered
  simp only [entry, Option.map_eq_some_iff, Option.filter_eq_some_iff, decide_eq_true_eq,
    Prod.mk.injEq]
  constructor
  · rintro ⟨_, ⟨known, filled⟩, rfl, rfl⟩
    exact ⟨known, filled, rfl⟩
  · rintro ⟨known, filled, rfl⟩
    exact ⟨key, ⟨known, filled⟩, rfl, rfl⟩

/-- A derived key token has the local name of no kind that is looked for before it. -/
theorem process_eq_of_derivedKey {pass : HeaderPass} {ctx : Context} {e : Xml.Element}
    (named : (conversationOf? e "DerivedKeyToken").isSome = true) :
    pass.process ctx e = (do
      let based ← BasedDerivedKey.ofElement ctx e
      return entry based.token.id (.derivedKey based)) := by
  have name := localName_of_conversationOf?_isSome named
  simp only [process, Xml.Element.isNamed_eq_false, name, named, ne_eq, String.reduceEq,
    not_false_eq_true, Bool.false_eq_true, if_false, if_true]

/-- An encrypted key is left to the processor, since it has the local name of no other
kind. -/
theorem process_eq_of_encryptedKey {pass : HeaderPass} {ctx : Context} {e : Xml.Element}
    (named : e.isNamed Namespace.encryption "EncryptedKey" = true) :
    pass.process ctx e = (do
      let key ← (pass.processor.encryptedKey e).unlessMissing
      return key.bind fun key => entry (some key.id) (.encryptedKey key)) := by
  have name := (Xml.Element.isNamed_iff.1 named).1
  simp only [process, Xml.Element.isNamed_eq_false, conversationOf?_isSome_eq_false,
    AssertionVersion.ofElement?_isSome_eq_false, name, named, ne_eq, String.reduceEq,
    not_false_eq_true, Bool.false_eq_true, if_false, if_true]

theorem result_unlessMissing_eq_ok_iff {α : Type} {x : Asking α} {found : Option α} :
    x.unlessMissing.result = .ok found ↔
      (∃ a, x.result = .ok a ∧ found = some a) ∨
        ∃ missing, x.result = .error (.notFound missing) ∧ found = none := by
  unfold Asking.unlessMissing
  cases x.result with
  | ok a => simp [eq_comm]
  | error e => cases e <;> simp [eq_comm]

variable {pass : HeaderPass} {ctx : Context} {e : Xml.Element}
  {outcome : Option (String × ProcessedToken)}

/-- The kinds are told apart by the local name, so the tests for other kinds fail. -/
theorem Offers.result_process {id : Option String} {token : ProcessedToken}
    (offers : Offers pass ctx e id token) :
    (pass.process ctx e).result = .ok (entry id token) := by
  cases offers with
  | binary named read processed =>
    rw [process, if_pos named]
    exact Asking.result_bind_eq_ok_iff.2 ⟨_, read, Asking.result_bind_eq_ok_iff.2
      ⟨_, processed, rfl⟩⟩
  | username named read =>
    have name := (Xml.Element.isNamed_iff.1 named).1
    simp only [process, Xml.Element.isNamed_eq_false, name, named, ne_eq, String.reduceEq,
      not_false_eq_true, Bool.false_eq_true, if_false, if_true]
    exact Asking.result_bind_eq_ok_iff.2 ⟨_, read, rfl⟩
  | derivedKey named resolved =>
    rw [process_eq_of_derivedKey named]
    exact Asking.result_bind_eq_ok_iff.2 ⟨_, resolved, rfl⟩
  | securityContext named established =>
    have name := localName_of_conversationOf?_isSome named
    simp only [process, Xml.Element.isNamed_eq_false, conversationOf?_isSome_eq_false, name, named,
      ne_eq, String.reduceEq, not_false_eq_true, Bool.false_eq_true, if_false, if_true]
    exact Asking.result_bind_eq_ok_iff.2 ⟨_, established, rfl⟩
  | assertion named answered =>
    have name := AssertionVersion.localName_of_ofElement?_isSome named
    simp only [process, Xml.Element.isNamed_eq_false, conversationOf?_isSome_eq_false, name, named,
      ne_eq, String.reduceEq, not_false_eq_true, Bool.false_eq_true, if_false, if_true]
    exact Asking.result_bind_eq_ok_iff.2 ⟨_, answered, rfl⟩
  | encryptedKey named answered =>
    rw [process_eq_of_encryptedKey named]
    exact Asking.result_bind_eq_ok_iff.2 ⟨_, result_unlessMissing_eq_ok_iff.2
      (.inl ⟨_, answered, rfl⟩), rfl⟩

theorem PassesOver.result_process (passes : PassesOver pass e) :
    (pass.process ctx e).result = .ok none := by
  cases passes with
  | ignored kind =>
    simp only [process, kind.notBinary, kind.notUsername, kind.notDerivedKey, kind.notContext,
      kind.notAssertion, kind.notKey, Bool.false_eq_true, if_false]
    rfl
  | skipped named answered =>
    rw [process_eq_of_encryptedKey named]
    exact Asking.result_bind_eq_ok_iff.2 ⟨_, result_unlessMissing_eq_ok_iff.2
      (.inr ⟨_, answered, rfl⟩), rfl⟩

/-- **An element is processed to what it offers, or passed over.**  Its processing
succeeds just if it does either. -/
theorem process_eq_ok_iff : (pass.process ctx e).result = .ok outcome ↔
    (∃ id token, Offers pass ctx e id token ∧ outcome = entry id token) ∨
      PassesOver pass e ∧ outcome = none := by
  constructor
  · intro h
    unfold process at h
    split at h
    next named =>
      obtain ⟨token, read, h⟩ := Asking.result_bind_eq_ok_iff.1 h
      obtain ⟨result, processed, h⟩ := Asking.result_bind_eq_ok_iff.1 h
      exact .inl ⟨_, _, .binary named read processed, Asking.result_pure_eq_ok_iff.1 h⟩
    next notBinary =>
    split at h
    next named =>
      obtain ⟨token, read, h⟩ := Asking.result_bind_eq_ok_iff.1 h
      exact .inl ⟨_, _, .username named read, Asking.result_pure_eq_ok_iff.1 h⟩
    next notUsername =>
    split at h
    next named =>
      obtain ⟨based, read, h⟩ := Asking.result_bind_eq_ok_iff.1 h
      exact .inl ⟨_, _, .derivedKey named read, Asking.result_pure_eq_ok_iff.1 h⟩
    next notDerivedKey =>
    split at h
    next named =>
      obtain ⟨context, established, h⟩ := Asking.result_bind_eq_ok_iff.1 h
      exact .inl ⟨_, _, .securityContext named established, Asking.result_pure_eq_ok_iff.1 h⟩
    next notContext =>
    split at h
    next named =>
      obtain ⟨a, answered, h⟩ := Asking.result_bind_eq_ok_iff.1 h
      exact .inl ⟨_, _, .assertion named answered, Asking.result_pure_eq_ok_iff.1 h⟩
    next notAssertion =>
    split at h
    next named =>
      obtain ⟨found, asked, h⟩ := Asking.result_bind_eq_ok_iff.1 h
      obtain rfl := Asking.result_pure_eq_ok_iff.1 h
      rcases result_unlessMissing_eq_ok_iff.1 asked with ⟨key, answered, rfl⟩ |
        ⟨missing, answered, rfl⟩
      · exact .inl ⟨_, _, .encryptedKey named answered, rfl⟩
      · exact .inr ⟨.skipped named answered, rfl⟩
    next notKey =>
      have kind : IsNoToken e := {
        notBinary := Bool.eq_false_iff.2 notBinary
        notUsername := Bool.eq_false_iff.2 notUsername
        notDerivedKey := Bool.eq_false_iff.2 notDerivedKey
        notContext := Bool.eq_false_iff.2 notContext
        notAssertion := Bool.eq_false_iff.2 notAssertion
        notKey := Bool.eq_false_iff.2 notKey }
      exact .inr ⟨.ignored kind, Asking.result_pure_eq_ok_iff.1 h⟩
  · rintro (⟨id, token, offers, rfl⟩ | ⟨passes, rfl⟩)
    · exact offers.result_process
    · exact passes.result_process

/-- **The parsing processor takes identifiers from elements.**  The identifier of a
result is one that its element carries, or that of a context whose token has none. -/
theorem Offers.carries {secrets : SecretCallback} {id : String} {token : ProcessedToken}
    (parsing : pass.processor = .parsing secrets) (extra : List String)
    (offers : Offers pass ctx e (some id) token) :
    e.Carries extra id ∨
      e.id? = none ∧ ∃ context, token = .securityContext context ∧ context.identifier = id := by
  generalize known : some id = id' at offers
  cases offers with
  | binary named read processed =>
    obtain ⟨valueType, data, -, -, -, -, rfl⟩ := BinaryToken.ofElement_eq_ok_iff.1 read
    exact .inl (Xml.Element.carries_of_id? extra known.symm)
  | username named read =>
    rw [UsernameToken.id_of_ofElement read] at known
    exact .inl (Xml.Element.carries_of_id? extra known.symm)
  | derivedKey named resolved =>
    obtain ⟨reference, base, read, -⟩ := BasedDerivedKey.result_ofElement_eq_ok_iff.1 resolved
    rw [DerivedKeyToken.id_of_ofElement read] at known
    exact .inl (Xml.Element.carries_of_id? extra known.symm)
  | @securityContext context named established =>
    obtain ⟨vocabulary, -, -, chosen⟩ := EstablishedContext.result_ofElement_eq_ok_iff.1 established
    obtain rfl := Option.some.inj known
    cases own : e.id? with
    | some id =>
      rw [chosen, own]
      exact .inl (Xml.Element.carries_of_id? extra own)
    | none =>
      rw [chosen, own]
      exact .inr ⟨rfl, context, rfl, rfl⟩
  | @assertion a named answered =>
    obtain rfl := Option.some.inj known
    rw [parsing] at answered
    obtain ⟨version, id, keyInfo, -, identified, -, rfl⟩ := Assertion.ofElement_eq_ok_iff.1 answered
    exact .inl (version.carries_of_idAttribute extra identified)
  | @encryptedKey key named answered =>
    obtain rfl := Option.some.inj known
    rw [parsing] at answered
    have identified := (TokenProcessor.result_askForKey_eq_ok_iff.1 answered).1
    exact .inl (Xml.Element.carries_of_id? extra identified)

end HeaderPass
end SecurityTokens
