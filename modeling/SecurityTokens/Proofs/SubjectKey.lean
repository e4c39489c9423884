/-
# Whose key an assertion carries

An assertion is trusted for the first method that it names, and its key is the
first that one of its confirmations carries.  The two are looked for apart from
each other, so they need not come from one confirmation.  `KeyFrom` singles out
the confirmation that the key comes from, and `Astray` tells when the key has
nothing to do with the method that is trusted:

| the first method is named | the confirmation with the key |
| --- | --- |
| after it | names no method |
| before it | names no method of a subject holding the key |

When neither is the case the confirmation with the key names such a method.
-/

import SecurityTokens.Proofs.Trust

namespace SecurityTokens

/-- Material that is empty is the empty material. -/
theorem KeyInfo.eq_empty_of_isEmpty {k : KeyInfo} (h : k.isEmpty = true) : k = .empty := by
  obtain ⟨certificates, publicKey⟩ := k
  simp only [isEmpty, Bool.and_eq_true, List.isEmpty_iff, Option.isNone_iff_eq_none] at h
  obtain ⟨rfl, rfl⟩ := h
  rfl

namespace Confirmation

/-- What the `ds:KeyInfo` of a confirmation carries, which may be missing. -/
def key (c : Confirmation) : Except Error KeyInfo := c.keyInfo.elim (.ok .empty) KeyInfo.ofElement

/-- A confirmation by the subject's holding a key. -/
def HoldsKey (c : Confirmation) : Prop := ∃ method ∈ c.methods, isHolderOfKey method = true

variable {before after cs : List Confirmation} {c d : Confirmation} {k : KeyInfo} {method : String}

/-- Key material that is found comes from the first confirmation that carries any. -/
theorem exists_key_of_firstOf (found : KeyInfo.firstOf (cs.filterMap (·.keyInfo)) = .ok k)
    (carries : k.isEmpty = false) :
    ∃ before c after, cs = before ++ c :: after ∧ (∀ b ∈ before, b.key = .ok .empty) ∧
      c.key = .ok k := by
  induction cs with
  | nil =>
    cases found
    cases carries
  | cons c cs ih =>
    -- a confirmation that is passed over joins those before
    have pass (empty : c.key = .ok .empty)
        (found : KeyInfo.firstOf (cs.filterMap (·.keyInfo)) = .ok k) :
        ∃ before d after, c :: cs = before ++ d :: after ∧ (∀ b ∈ before, b.key = .ok .empty) ∧
          d.key = .ok k := by
      obtain ⟨before, d, after, rfl, skipped, read⟩ := ih found
      refine ⟨c :: before, d, after, rfl, ?_, read⟩
      rintro b hb
      rcases List.mem_cons.1 hb with rfl | hb
      · exact empty
      · exact skipped b hb
    cases hc : c.keyInfo with
    | none =>
      rw [List.filterMap_cons_none hc] at found
      exact pass (by rw [key, hc]; rfl) found
    | some e =>
      rw [List.filterMap_cons_some hc, KeyInfo.firstOf, Except.bind_eq_ok_iff] at found
      obtain ⟨first, read, found⟩ := found
      have read : c.key = .ok first := by rw [key, hc]; exact read
      by_cases empty : first.isEmpty = true
      · rw [if_pos empty] at found
        rw [KeyInfo.eq_empty_of_isEmpty empty] at read
        exact pass read found
      · rw [if_neg empty] at found
        obtain rfl : first = k := Except.ok.inj found
        exact ⟨[], c, cs, rfl, fun _ h => absurd h List.not_mem_nil, read⟩

/-- The first method is named by the first confirmation that names any. -/
theorem exists_of_head?_methods (first : (cs.flatMap (·.methods)).head? = some method) :
    ∃ c ∈ cs, c.methods.head? = some method := by
  rw [List.head?_flatMap] at first
  exact List.exists_of_findSome?_eq_some first

/-- The ways in which a key strays from the method that is trusted; the key is
that of `c`, and `before` are the confirmations before it. -/
inductive Astray (before : List Confirmation) (c : Confirmation) : Prop
  | early (unnamed : ∀ b ∈ before, b.methods = []) (silent : c.methods = [])
  | late {b method} (mem : b ∈ before) (named : b.methods.head? = some method)
      (holds : isHolderOfKey method = true)
      (others : ∀ method ∈ c.methods, isHolderOfKey method = false)

/-- **A confirmation holds the key unless its key has strayed.**  This is so
whenever the first method of all is that of a subject holding the key. -/
theorem holdsKey_iff_not_astray
    (first : ((before ++ c :: after).flatMap (·.methods)).head? = some method)
    (holds : isHolderOfKey method = true) : c.HoldsKey ↔ ¬ Astray before c := by
  rw [List.flatMap_append, List.flatMap_cons] at first
  by_cases unnamed : ∀ b ∈ before, b.methods = []
  · rw [List.flatMap_eq_nil_iff.2 unnamed, List.nil_append] at first
    constructor
    · rintro ⟨m, hm, -⟩ (⟨-, silent⟩ | ⟨mem, named, -, -⟩)
      · rw [silent] at hm
        cases hm
      · rw [unnamed _ mem] at named
        cases named
    · intro straight
      cases hc : c.methods with
      | nil => exact absurd (.early unnamed hc) straight
      | cons m rest =>
        rw [hc] at first
        obtain rfl : m = method := Option.some.inj first
        exact ⟨m, by rw [hc]; exact List.mem_cons_self, holds⟩
  · have named : before.flatMap (·.methods) ≠ [] := mt List.flatMap_eq_nil_iff.1 unnamed
    obtain ⟨m, rest, split⟩ := List.exists_cons_of_ne_nil named
    rw [split] at first
    obtain rfl : m = method := Option.some.inj first
    have leads : (before.flatMap (·.methods)).head? = some m := by rw [split]; rfl
    obtain ⟨b, mem, named⟩ := exists_of_head?_methods leads
    constructor
    · rintro ⟨m, hm, hold⟩ (⟨none, -⟩ | ⟨-, -, -, others⟩)
      · exact unnamed none
      · rw [others m hm] at hold
        cases hold
    · intro straight
      refine Classical.byContradiction fun lacks => ?_
      refine straight (.late mem named holds fun m hm => ?_)
      exact Bool.eq_false_iff.2 fun hold => lacks ⟨m, hm, hold⟩

end Confirmation

namespace Assertion

open Confirmation (Astray)

variable {e : Xml.Element} {a : Assertion}

/-- The confirmations of the assertion that an element stands for. -/
def confirmationsOf (e : Xml.Element) : List Confirmation :=
  (AssertionVersion.ofElement? e).elim [] (·.confirmations e)

/-- The key material of an element comes from the confirmation `c`; none of those
before it carries anything. -/
structure KeyFrom (e : Xml.Element) (k : KeyInfo) (before : List Confirmation)
    (c : Confirmation) : Prop where
  split : ∃ after, confirmationsOf e = before ++ c :: after
  skipped : ∀ b ∈ before, b.key = .ok .empty
  read : c.key = .ok k

/-- The assertion with its signature verified. -/
def verified (a : Assertion) : Assertion := { a with signatureVerified := true }

/-- Methods and key of an assertion are gathered apart from each other. -/
theorem gathered_of_ofElement (h : ofElement e = .ok a) :
    a.methods = (confirmationsOf e).flatMap (·.methods) ∧
      KeyInfo.firstOf ((confirmationsOf e).filterMap (·.keyInfo)) = .ok a.keyInfo := by
  obtain ⟨version, id, k, known, -, found, rfl⟩ := ofElement_eq_ok_iff.1 h
  have confirmations : confirmationsOf e = version.confirmations e := by
    rw [confirmationsOf, known]
    rfl
  rw [confirmations]
  exact ⟨rfl, found⟩

/-- A trusted assertion with one confirmation only has the key of a holder. -/
theorem holdsKey_of_confirmationsOf_singleton {c : Confirmation} (parsed : ofElement e = .ok a)
    (trusted : a.verified.isTrusted = true) (only : confirmationsOf e = [c]) : c.HoldsKey := by
  obtain ⟨methods, -⟩ := gathered_of_ofElement parsed
  obtain ⟨⟨method, first, holds⟩, -⟩ := isTrusted_iff.1 trusted
  rw [only, List.flatMap_singleton] at methods
  have named : method ∈ a.methods := List.mem_of_head? first
  rw [methods] at named
  exact ⟨method, named, holds⟩

/-- **When a trusted key is that of a holder.**  Key material that a trusted
assertion carries comes from one of its confirmations, which is by holding a key
unless the material is astray.  Either way a credential drawn from the assertion
has the material and is trusted. -/
theorem trusted_key_of_holder_iff (parsed : ofElement e = .ok a)
    (trusted : a.verified.isTrusted = true) (carries : a.keyInfo.isEmpty = false) :
    (∃ before c, KeyFrom e a.keyInfo before c) ∧
    (∀ before c, KeyFrom e a.keyInfo before c → (c.HoldsKey ↔ ¬ Astray before c)) ∧
    ∀ ctx r credential, (resolve ctx r).result = .ok credential →
      Resolution.DrawsOn ctx r a.verified →
        credential.trusted = true ∧ credential.publicKey = a.keyInfo.publicKey ∧
          credential.certificates = a.keyInfo.certificates.take 1 := by
  obtain ⟨methods, found⟩ := gathered_of_ofElement parsed
  obtain ⟨⟨method, first, holds⟩, -⟩ := isTrusted_iff.1 trusted
  refine ⟨?_, fun before c keyed => ?_, fun ctx r credential resolved draws => ?_⟩
  · obtain ⟨before, c, after, split, skipped, read⟩ :=
      Confirmation.exists_key_of_firstOf found carries
    exact ⟨before, c, ⟨after, split⟩, skipped, read⟩
  · obtain ⟨after, split⟩ := keyed.split
    have first : ((before ++ c :: after).flatMap (·.methods)).head? = some method := by
      rw [← split, ← methods]
      exact first
    exact Confirmation.holdsKey_iff_not_astray first holds
  · rw [draws.credential_eq resolved]
    exact ⟨trusted, rfl, rfl⟩

/-- A `ds:KeyInfo` with an RSA key of modulus fifteen and exponent three. -/
def smallKeyInfo : Xml.Element :=
  let inSignature (localName : String) (children : List Xml.Node) : Xml.Node :=
    .element ⟨some Namespace.signature, localName⟩ [] children
  ⟨⟨some Namespace.signature, "KeyInfo"⟩, [], [inSignature "KeyValue" [inSignature "RSAKeyValue"
    [inSignature "Modulus" [.text "Dw=="], inSignature "Exponent" [.text "Aw=="]]]]⟩

theorem ofElement_smallKeyInfo :
    KeyInfo.ofElement smallKeyInfo = .ok ⟨[], some (.rsa ⟨15, 3⟩)⟩ := by
  have read : (KeyInfo.ofElement smallKeyInfo).toOption = some ⟨[], some (.rsa ⟨15, 3⟩)⟩ := by
    decide +kernel
  cases h : KeyInfo.ofElement smallKeyInfo with
  | error _ =>
    rw [h] at read
    cases read
  | ok k =>
    rw [h] at read
    exact congrArg Except.ok (Option.some.inj read)

/-- An assertion with two confirmations, of which the second carries a key. -/
def confirmedTwice (first second : String) : Xml.Element :=
  let inSaml (localName : String) (attributes : List Xml.Attribute)
      (children : List Xml.Node) : Xml.Node :=
    .element ⟨some Namespace.saml2, localName⟩ attributes children
  ⟨⟨some Namespace.saml2, "Assertion"⟩, [⟨⟨none, "ID"⟩, "_a1"⟩],
    [inSaml "Subject" []
      [inSaml "SubjectConfirmation" [⟨⟨none, "Method"⟩, first⟩] [],
       inSaml "SubjectConfirmation" [⟨⟨none, "Method"⟩, second⟩]
        [inSaml "SubjectConfirmationData" [] [smallKeyInfo.toNode]]]]⟩

/-- The assertion with two confirmations, its subject having no name. -/
def readTwice (first second : String) : Assertion where
  id := "_a1"
  version := .v20
  issuer := none
  subjectName := none
  methods := [first, second]
  hasSignature := false
  signatureVerified := false
  keyInfo := ⟨[], some (.rsa ⟨15, 3⟩)⟩
  secret := none

theorem ofElement_confirmedTwice (first second : String) :
    ofElement (confirmedTwice first second) = .ok (readTwice first second) := by
  refine ofElement_eq_ok_iff.2 ⟨.v20, "_a1", _, rfl, rfl, ?_, rfl⟩
  show KeyInfo.firstOf [smallKeyInfo] = _
  rw [KeyInfo.firstOf, ofElement_smallKeyInfo]
  rfl

/-- The key comes from the second confirmation. -/
theorem keyFrom_confirmedTwice (first second : String) :
    KeyFrom (confirmedTwice first second) (readTwice first second).keyInfo [⟨[first], none⟩]
      ⟨[second], some smallKeyInfo⟩ := by
  refine ⟨⟨[], rfl⟩, ?_, ofElement_smallKeyInfo⟩
  intro b hb
  obtain rfl := List.mem_singleton.1 hb
  rfl

/-- Two confirmations by holding a key, the second with a key of its own. -/
theorem trusted_key_of_two_holders :
    KeyFrom (confirmedTwice Confirmation.saml2HolderOfKey Confirmation.saml2HolderOfKey)
        ⟨[], some (.rsa ⟨15, 3⟩)⟩ [⟨[Confirmation.saml2HolderOfKey], none⟩]
        ⟨[Confirmation.saml2HolderOfKey], some smallKeyInfo⟩ ∧
      Confirmation.HoldsKey ⟨[Confirmation.saml2HolderOfKey], some smallKeyInfo⟩ := by
  have parsed := ofElement_confirmedTwice
    Confirmation.saml2HolderOfKey Confirmation.saml2HolderOfKey
  have keyed := keyFrom_confirmedTwice Confirmation.saml2HolderOfKey Confirmation.saml2HolderOfKey
  refine ⟨keyed, ((trusted_key_of_holder_iff parsed (by decide) rfl).2.1 _ _ keyed).2 ?_⟩
  rintro (⟨-, silent⟩ | ⟨-, -, -, others⟩)
  · cases silent
  · cases others _ List.mem_cons_self

/-- The key of a bearer is trusted when an earlier confirmation is by holding a
key: the key's own confirmation is not. -/
theorem trusted_key_of_bearer :
    ¬ ∀ a, ofElement (confirmedTwice Confirmation.saml2HolderOfKey
        "urn:oasis:names:tc:SAML:2.0:cm:bearer") = .ok a →
      a.verified.isTrusted = true → a.keyInfo.isEmpty = false →
      ∀ before c, KeyFrom (confirmedTwice Confirmation.saml2HolderOfKey
        "urn:oasis:names:tc:SAML:2.0:cm:bearer") a.keyInfo before c → c.HoldsKey := by
  intro holds
  obtain ⟨method, mem, isHolder⟩ := holds _ (ofElement_confirmedTwice _ _) (by decide) rfl _ _
    (keyFrom_confirmedTwice _ _)
  obtain rfl := List.mem_singleton.1 mem
  exact absurd isHolder (by decide)

end Assertion
end SecurityTokens
