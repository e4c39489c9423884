/-
# What an unverified pass vouches for

The parsing processor verifies nothing, and a pass with it vouches for nothing: no
result it records passes on trust, and none holds an empty secret.  Both carry over
to every reference that is resolved from the record, whatever the callback answers.

| result | of an unverified pass |
| --- | --- |
| binary token | at least one certificate, not validated |
| assertion | signature not verified, no secret |
| encrypted key, security context, derived key | a secret of at least one byte |

The invariant goes once round: a result that is recorded may be taken from a
credential, namely the base of a derived key, which in turn may be taken from a
result recorded before (`Offers.isUnverified`, `isUnverified_of_resolve`).
-/

import SecurityTokens.Proofs.KeyLengths
import SecurityTokens.Proofs.NamedMaterial
import SecurityTokens.Proofs.Record

namespace SecurityTokens

/-- Nothing about the result was verified, and what it holds is not empty. -/
def ProcessedToken.IsUnverified : ProcessedToken → Prop
  | username _ => True
  | binary token => token.certificates ≠ [] ∧ token.validated = false
  | encryptedKey key => key.secret ≠ []
  | securityContext context => context.secret ≠ []
  | derivedKey based => based.baseSecret ≠ []
  | assertion a => a.signatureVerified = false ∧ a.secret = none

/-- The credential is not trusted, and its secret is not empty if it has one. -/
structure Credential.IsUnverified (c : Credential) : Prop where
  untrusted : c.trusted = false
  filled : ∀ secret, c.secretKey = some secret → secret ≠ []

/-- No result of the index was verified. -/
def TokenIndex.IsUnverified (index : TokenIndex) : Prop :=
  ∀ id token, (id, token) ∈ index.entries → token.IsUnverified

namespace Credential

theorem isUnverified_ofSecret {name : String} {secret : Bytes} (filled : secret ≠ []) :
    (ofSecret name secret).IsUnverified := by
  refine ⟨rfl, fun secret' held => ?_⟩
  obtain rfl := Option.some.inj held
  exact filled

theorem isUnverified_ofCertificates (certificates : List Certificate) :
    (ofCertificates certificates false).IsUnverified :=
  ⟨rfl, fun _ held => by cases held⟩

theorem isUnverified_ofAssertion {a : Assertion} (unverified : a.signatureVerified = false)
    (unproven : a.secret = none) : (ofAssertion a).IsUnverified := by
  refine ⟨?_, fun secret held => ?_⟩
  · show a.isTrusted = false
    rw [Assertion.isTrusted, unverified, Bool.and_false]
  · cases unproven.symm.trans held

/-- Naming a credential verifies nothing. -/
theorem isUnverified_withSubjectName {c : Credential} (h : c.IsUnverified) :
    c.withSubjectName.IsUnverified := by
  refine ⟨trusted_withSubjectName.trans h.untrusted, fun secret held => ?_⟩
  rw [secretKey_withSubjectName] at held
  exact h.filled secret held

end Credential

/-- A derived key is not empty, whatever it derives from. -/
theorem BasedDerivedKey.isUnverified_of_credential {based : BasedDerivedKey} {sizing : KeySizing}
    {c : Credential} (h : based.credential sizing = .ok c) : c.IsUnverified := by
  obtain ⟨length, secret, principal, -, derived, -, rfl⟩ := credential_eq_ok_iff.1 h
  refine ⟨rfl, fun secret' held => ?_⟩
  obtain rfl := Option.some.inj held
  exact DerivedKeyToken.ne_nil_of_deriveKey derived

/-- An assertion that is parsed is not verified. -/
theorem Assertion.unverified_of_ofElement {e : Xml.Element} {a : Assertion}
    (h : ofElement e = .ok a) : a.signatureVerified = false ∧ a.secret = none := by
  obtain ⟨version, id, keyInfo, -, -, -, rfl⟩ := ofElement_eq_ok_iff.1 h
  exact ⟨rfl, rfl⟩

namespace Resolution

variable {ctx : Context} {r : TokenReference} {c m : Credential} {o : Origin}
  {secrets : SecretCallback}

/-- Every way to material keeps it unverified, if the results it may start from are
and the processor parses. -/
theorem Yields.isUnverified (parsing : ctx.processor = some (.parsing secrets))
    (unverified : ctx.tokens.IsUnverified) (yields : Yields ctx r o m) : m.IsUnverified := by
  have recorded {token} (indexed : processed? ctx r = some token) : token.IsUnverified := by
    obtain ⟨id, -, known⟩ := Option.bind_eq_some_iff.1 indexed
    exact unverified id token (TokenIndex.mem_entries_of_get? known)
  cases yields with
  | processedUsername indexed fits known derived =>
    refine ⟨rfl, fun secret held => ?_⟩
    obtain rfl := Option.some.inj held
    exact UsernameToken.ne_nil_of_keyFor derived
  | processedBinary indexed fits =>
    rw [(recorded indexed).2]
    exact Credential.isUnverified_ofCertificates _
  | processedKey indexed fits =>
    exact Credential.isUnverified_ofSecret (recorded indexed)
  | processedContext indexed =>
    exact Credential.isUnverified_ofSecret (recorded indexed)
  | processedDerivedKey indexed derived =>
    exact BasedDerivedKey.isUnverified_of_credential derived
  | processedAssertion indexed fits =>
    exact Credential.isUnverified_ofAssertion (recorded indexed).1 (recorded indexed).2
  | outside unprocessed direct external known =>
    exact Credential.isUnverified_ofSecret (Context.ne_nil_of_request known)
  | binaryElement leads named configured read encoded fits held =>
    exact Credential.isUnverified_ofCertificates _
  | assertionElement leads named configured answered fits =>
    obtain rfl := Option.some.inj (parsing.symm.trans configured)
    obtain ⟨unverified, unproven⟩ := Assertion.unverified_of_ofElement answered
    exact Credential.isUnverified_ofAssertion unverified unproven
  | keyElement leads named fits configured answered =>
    obtain rfl := Option.some.inj (parsing.symm.trans configured)
    have asked := (TokenProcessor.result_askForKey_eq_ok_iff.1 answered).2
    exact Credential.isUnverified_ofSecret (Asking.ne_nil_of_ask asked)
  | usernameElement leads named known =>
    exact Credential.isUnverified_ofSecret (Context.ne_nil_of_request known)
  | otherElement leads notBinary notAssertion notKey notUsername known =>
    exact Credential.isUnverified_ofSecret (Context.ne_nil_of_request known)
  | issuerSerial unprocessed kind configured found =>
    exact Credential.isUnverified_ofCertificates _
  | identifiedKey identifies fits known =>
    exact Credential.isUnverified_ofSecret (Context.ne_nil_of_request known)
  | identifiedAssertion identifies found configured answered fits =>
    obtain rfl := Option.some.inj (parsing.symm.trans configured)
    obtain ⟨unverified, unproven⟩ := Assertion.unverified_of_ofElement answered
    exact Credential.isUnverified_ofAssertion unverified unproven
  | identifiedCertificate identifies fits configured decoded found =>
    exact Credential.isUnverified_ofCertificates _

/-- So does the whole resolution. -/
theorem isUnverified_of_resolve (parsing : ctx.processor = some (.parsing secrets))
    (unverified : ctx.tokens.IsUnverified) (h : (resolve ctx r).result = .ok c) :
    c.IsUnverified := by
  obtain ⟨-, -, o, m, yields, completed⟩ := resolve_eq_ok_iff.1 h
  rw [eq_withSubjectName_of_complete completed]
  exact Credential.isUnverified_withSubjectName (yields.isUnverified parsing unverified)

end Resolution

namespace HeaderPass

variable {pass : HeaderPass} {document : Xml.Document} {header e : Xml.Element}
  {tokens : TokenIndex} {id : Option String} {token : ProcessedToken}
  {store : CertificateStore} {secrets : SecretCallback}

/-- One element further: what it offers is unverified if what was recorded before is. -/
theorem Offers.isUnverified (source : pass.source = store.source)
    (parsing : pass.processor = .parsing secrets) (unverified : tokens.IsUnverified)
    (offers : Offers pass (pass.context document tokens) e id token) : token.IsUnverified := by
  cases offers with
  | binary named read processed =>
    obtain ⟨certificates, held, rfl⟩ := BinaryToken.process_eq_ok_iff.1 processed
    rw [source] at held
    exact ⟨BinaryToken.ne_nil_of_certificates held, rfl⟩
  | username named read => trivial
  | derivedKey named resolved =>
    obtain ⟨reference, base, -, -, resolved, held⟩ :=
      BasedDerivedKey.result_ofElement_eq_ok_iff.1 resolved
    have base := Resolution.isUnverified_of_resolve (congrArg some parsing) unverified resolved
    exact base.filled _ held
  | securityContext named established =>
    obtain ⟨vocabulary, -, answered, -⟩ :=
      EstablishedContext.result_ofElement_eq_ok_iff.1 established
    exact Context.ne_nil_of_request answered
  | assertion named answered =>
    rw [parsing] at answered
    exact Assertion.unverified_of_ofElement answered
  | encryptedKey named answered =>
    rw [parsing] at answered
    exact Asking.ne_nil_of_ask (TokenProcessor.result_askForKey_eq_ok_iff.1 answered).2

/-- **An unverified pass yields neither trust nor empty keys.**  Whatever the callbacks
answer, no result that a pass with a store and the parsing processor records was
verified or is empty, and every reference that is then resolved from the record gives
a credential that is not trusted, with a key of at least one byte if it has one. -/
theorem isUnverified_of_indexTokens (source : pass.source = store.source)
    (parsing : pass.processor = .parsing secrets)
    (recorded : (pass.indexTokens document header).result = .ok tokens) :
    (∀ id token, (id, token) ∈ tokens.entries → token.IsUnverified) ∧
      ∀ r c, (resolve (pass.context document tokens) r).result = .ok c →
        c.trusted = false ∧ ∀ secret, c.secretKey = some secret → secret ≠ [] := by
  have unverified : tokens.IsUnverified := by
    refine record_induction (fun before e id token unverified _ offers => ?_) recorded
    exact offers.isUnverified source parsing unverified
  refine ⟨unverified, fun r c resolved => ?_⟩
  have credential := Resolution.isUnverified_of_resolve (congrArg some parsing) unverified resolved
  exact ⟨credential.untrusted, credential.filled⟩

/-- A direct reference to the security context. -/
def contextReference : TokenReference := ⟨none, none, 1, .direct "urn:context" none⟩

/-- The context of the header gives a key of one byte and no trust. -/
theorem isUnverified_of_headerOfThree :
    (parsingPass.indexTokens (.ofRoot headerOfThree []) headerOfThree).result
        = .ok (.ofOutcomes outcomesOfThree) ∧
      (resolve (parsingPass.context (.ofRoot headerOfThree []) (.ofOutcomes outcomesOfThree))
          contextReference).result = .ok (.ofSecret "urn:context" [8]) ∧
      (Credential.ofSecret "urn:context" [8]).trusted = false ∧ ([8] : Bytes) ≠ [] := by
  have source : parsingPass.source = CertificateStore.empty.source := rfl
  have recorded : (parsingPass.indexTokens (.ofRoot headerOfThree []) headerOfThree).result
      = .ok (.ofOutcomes outcomesOfThree) := rfl
  have resolved : (resolve (parsingPass.context (.ofRoot headerOfThree [])
      (.ofOutcomes outcomesOfThree)) contextReference).result = .ok (.ofSecret "urn:context" [8]) :=
    rfl
  obtain ⟨-, unverified⟩ := isUnverified_of_indexTokens source rfl recorded
  obtain ⟨untrusted, filled⟩ := unverified _ _ resolved
  exact ⟨recorded, resolved, untrusted, filled _ rfl⟩

end HeaderPass
end SecurityTokens
