/-
# When a computation succeeds

What a step that succeeds has found on its way, for the steps that readers and
resolutions are made of.  All but the search are equivalences, so what is found
tells the result as well.

| step | succeeds with |
| --- | --- |
| two steps | what the second gives for what the first gives |
| one step for each item of a list | what they give, in the order of the items |
| a search that one item alone passes | that item |
| a collaborator that is required | that collaborator, if there is one |
| a check that is enforced | nothing, unless the mode is strict and it does not pass |
| the secret of an identifier | the credential of the secret that is answered |
| a derived key | the secret and the parameters it is named by |
| the binary token of an element | its value type and its bytes |
| the assertion of an element | its parts, each read apart from the others |
-/

import Mathlib.Data.List.Forall2
import SecurityTokens.Resolution.Basic

namespace SecurityTokens

variable {α β : Type}

/-- A computation in two steps succeeds when both steps do. -/
theorem Except.bind_eq_ok_iff {ε : Type} {x : Except ε α} {next : α → Except ε β} {b : β} :
    (x >>= next) = .ok b ↔ ∃ a, x = .ok a ∧ next a = .ok b := by
  constructor
  · intro h
    cases x with
    | error e => cases h
    | ok a => exact ⟨a, rfl, h⟩
  · rintro ⟨a, rfl, h⟩
    exact h

/-- A list that is read item by item succeeds with what each of the items gives. -/
theorem Except.mapM_eq_ok_iff {ε : Type} {read : α → Except ε β} {xs : List α} {ys : List β} :
    xs.mapM read = .ok ys ↔ List.Forall₂ (fun x y => read x = .ok y) xs ys := by
  induction xs generalizing ys with
  | nil =>
    rw [List.mapM_nil, List.forall₂_nil_left_iff]
    constructor
    · intro done
      exact (Except.ok.inj done).symm
    · rintro rfl
      rfl
  | cons x xs ih =>
    rw [List.mapM_cons, bind_eq_ok_iff, List.forall₂_cons_left_iff]
    constructor
    · rintro ⟨y, first, rest⟩
      obtain ⟨ys, others, done⟩ := bind_eq_ok_iff.1 rest
      obtain rfl := Except.ok.inj done
      exact ⟨y, ys, first, ih.1 others, rfl⟩
    · rintro ⟨y, ys, first, others, rfl⟩
      exact ⟨y, first, bind_eq_ok_iff.2 ⟨ys, ih.2 others, rfl⟩⟩

/-- It succeeds just if each item does. -/
theorem Except.exists_mapM_eq_ok_iff {ε : Type} {step : α → Except ε β} {xs : List α} :
    (∃ ys, xs.mapM step = .ok ys) ↔ ∀ x ∈ xs, ∃ y, step x = .ok y := by
  simp only [mapM_eq_ok_iff]
  induction xs with
  | nil => exact iff_of_true ⟨[], .nil⟩ fun x mem => absurd mem List.not_mem_nil
  | cons x xs ih =>
    rw [List.forall_mem_cons, ← ih]
    constructor
    · rintro ⟨_, read⟩
      obtain ⟨y, ys, first, others, -⟩ := List.forall₂_cons_left_iff.1 read
      exact ⟨⟨y, first⟩, ys, others⟩
    · rintro ⟨⟨y, first⟩, ys, others⟩
      exact ⟨y :: ys, .cons first others⟩

/-- The only item of which a test holds is what is found with it. -/
theorem find?_eq_some_of_unique {p : α → Bool} {xs : List α} {x : α}
    (mem : x ∈ xs) (holds : p x = true) (unique : ∀ y ∈ xs, p y = true → y = x) :
    xs.find? p = some x := by
  cases found : xs.find? p with
  | none => exact absurd holds (List.find?_eq_none.1 found x mem)
  | some y => rw [unique y (List.mem_of_find?_eq_some found) (List.find?_some found)]

namespace Asking

theorem result_bind_eq_ok_iff {x : Asking α} {next : α → Asking β} {b : β} :
    (x >>= next).result = .ok b ↔ ∃ a, x.result = .ok a ∧ (next a).result = .ok b := by
  rw [result_bind, Except.bind_eq_ok_iff]

theorem result_liftM_eq_ok_iff {x : Except Error α} {a : α} :
    (liftM x : Asking α).result = .ok a ↔ x = .ok a :=
  Iff.rfl

theorem result_pure_eq_ok_iff {a b : α} : (pure a : Asking α).result = .ok b ↔ b = a := by
  rw [result_pure, Except.ok.injEq, eq_comm]

theorem result_require_eq_ok_iff {missing : Missing} {x : Option α} {a : α} :
    (require missing x).result = .ok a ↔ x = some a := by
  cases x <;> simp [require]

end Asking

namespace Context

variable {ctx : Context}

theorem result_enforce_eq_ok_iff {check : Except Error Unit} {u : Unit} :
    (ctx.enforce check).result = .ok u ↔ (ctx.compliance = .strict → check = .ok ()) := by
  cases h : ctx.compliance <;> simp [enforce, Compliance.enforce, h]

/-- What follows a check is reached unless the mode is strict and the check does not
pass. -/
theorem result_enforce_bind_eq_ok_iff {check : Except Error Unit} {next : Asking α} {a : α} :
    (ctx.enforce check >>= fun _ => next).result = .ok a ↔
      (ctx.compliance = .strict → check = .ok ()) ∧ next.result = .ok a := by
  rw [Asking.result_bind_eq_ok_iff]
  constructor
  · rintro ⟨u, passed, h⟩
    exact ⟨result_enforce_eq_ok_iff.1 passed, h⟩
  · rintro ⟨fits, h⟩
    exact ⟨(), result_enforce_eq_ok_iff.2 fits, h⟩

theorem result_requireSource_eq_ok_iff {source : CertificateSource} :
    ctx.requireSource.result = .ok source ↔ ctx.source = some source := by
  cases h : ctx.source <;> simp [requireSource, h]

theorem result_requireProcessor_eq_ok_iff {processor : TokenProcessor} :
    ctx.requireProcessor.result = .ok processor ↔ ctx.processor = some processor := by
  cases h : ctx.processor <;> simp [requireProcessor, h]

theorem result_secretCredential_eq_ok_iff {id : String} {hint : Option String} {c : Credential} :
    (ctx.secretCredential id hint).result = .ok c ↔
      ∃ secret, (ctx.request ⟨id, hint, .secretKey⟩).result = .ok (some secret) ∧
        c = .ofSecret id secret := by
  simp only [secretCredential, Asking.result_bind_eq_ok_iff, Asking.result_require_eq_ok_iff,
    Asking.result_pure_eq_ok_iff]
  constructor
  · rintro ⟨_, answered, secret, rfl, rfl⟩
    exact ⟨secret, answered, rfl⟩
  · rintro ⟨secret, answered, rfl⟩
    exact ⟨_, answered, secret, rfl, rfl⟩

end Context

/-- The parts of the credential of a derived key. -/
theorem BasedDerivedKey.credential_eq_ok_iff {based : BasedDerivedKey} {sizing : KeySizing}
    {c : Credential} : based.credential sizing = .ok c ↔ ∃ length secret principal,
      based.token.keyLength sizing = .ok length ∧
      based.token.deriveKey length based.baseSecret = .ok secret ∧
      DerivedKeyPrincipal.ofToken based.token length based.baseSecret = .ok principal ∧
      c = {
        secretKey := some secret
        principal := ⟨principal.id, some (.derivedKey principal)⟩ } := by
  simp only [credential, Except.bind_eq_ok_iff]
  constructor
  · rintro ⟨length, sized, secret, derived, principal, named, h⟩
    exact ⟨length, secret, principal, sized, derived, named, (Except.ok.inj h).symm⟩
  · rintro ⟨length, secret, principal, sized, derived, named, rfl⟩
    exact ⟨length, sized, secret, derived, principal, named, rfl⟩

namespace Xml.Element

variable {e : Element} {namespaceUri localName : String}

theorem isNamed_iff : e.isNamed namespaceUri localName = true ↔
    e.localName = localName ∧ e.namespaceUri = namespaceUri := by
  simp [isNamed]

/-- An element has one local name. -/
theorem isNamed_eq_false (h : e.localName ≠ localName) :
    e.isNamed namespaceUri localName = false := by
  simp [isNamed, h]

/-- An element that has a name has no name with another local part. -/
theorem isNamed_eq_false_of_isNamed {uri name : String} (named : e.isNamed uri name = true)
    (other : name ≠ localName) : e.isNamed namespaceUri localName = false := by
  refine isNamed_eq_false ?_
  rw [(isNamed_iff.1 named).1]
  exact other

end Xml.Element

theorem AssertionVersion.localName_of_ofElement?_isSome {e : Xml.Element}
    (h : (ofElement? e).isSome = true) : e.localName = "Assertion" := by
  obtain ⟨v, -, hv⟩ := List.find?_isSome.1 h
  exact (Xml.Element.isNamed_iff.1 hv).1

/-- An element of another local name is no assertion. -/
theorem AssertionVersion.ofElement?_isSome_eq_false {e : Xml.Element}
    (h : e.localName ≠ "Assertion") : (ofElement? e).isSome = false := by
  rw [Bool.eq_false_iff]
  exact fun known => h (localName_of_ofElement?_isSome known)

/-- The parts of a binary token that is read. -/
theorem BinaryToken.ofElement_eq_ok_iff {e : Xml.Element} {t : BinaryToken} :
    ofElement e = .ok t ↔ ∃ valueType data,
      e.isNamed Namespace.security "BinarySecurityToken" = true ∧
      e.attribute? "ValueType" = some valueType ∧
      (e.attribute? "EncodingType").filter (· ≠ Encoding.base64Binary) = none ∧
      decodeBase64Text "BinarySecurityToken" e.text = .ok data ∧
      t = { id := e.id?, valueType, data } := by
  constructor
  · intro h
    cases named : e.isNamed Namespace.security "BinarySecurityToken" with
    | false =>
      rw [ofElement, named] at h
      cases h
    | true =>
      simp only [ofElement, named, Bool.not_true, Bool.false_eq_true, if_false] at h
      split at h
      next valueType typed =>
        split at h
        next => cases h
        next unencoded =>
          obtain ⟨data, decoded, h⟩ := Except.bind_eq_ok_iff.1 h
          exact ⟨valueType, data, rfl, typed, unencoded, decoded, (Except.ok.inj h).symm⟩
      next => cases h
  · rintro ⟨valueType, data, named, typed, unencoded, decoded, rfl⟩
    simp only [ofElement, named, Bool.not_true, Bool.false_eq_true, if_false, typed, unencoded]
    exact Except.bind_eq_ok_iff.2 ⟨data, decoded, rfl⟩

/-- The parts of an assertion that is read. -/
theorem Assertion.ofElement_eq_ok_iff {e : Xml.Element} {a : Assertion} :
    ofElement e = .ok a ↔ ∃ version id keyInfo,
      AssertionVersion.ofElement? e = some version ∧
      e.attribute? version.idAttribute = some id ∧
      KeyInfo.firstOf ((version.confirmations e).filterMap (·.keyInfo)) = .ok keyInfo ∧
      a = {
        id, version, keyInfo
        issuer := version.issuer? e
        subjectName := version.subjectName? e
        methods := (version.confirmations e).flatMap (·.methods)
        hasSignature := (e.child? Namespace.signature "Signature").isSome
        signatureVerified := false
        secret := none } := by
  constructor
  · intro h
    unfold ofElement at h
    split at h
    next version known =>
      unfold ofVersion at h
      split at h
      next id identified =>
        obtain ⟨keyInfo, found, h⟩ := Except.bind_eq_ok_iff.1 h
        cases h
        exact ⟨version, id, keyInfo, known, identified, found, rfl⟩
      next => cases h
    next => cases h
  · rintro ⟨version, id, keyInfo, known, identified, found, rfl⟩
    simp only [ofElement, known, ofVersion, identified]
    exact Except.bind_eq_ok_iff.2 ⟨keyInfo, found, rfl⟩

end SecurityTokens
