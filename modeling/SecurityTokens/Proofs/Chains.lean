/-
# Keys derived from derived keys

A derived key token is recorded with the secret that its reference led to when the pass
came to it.  By then only part of the header had been recorded.  But what has been
recorded stays (`exists_kept_of_record`), and of what is recorded a resolution consults
the one result that its reference looks up.  So the secret is still the one that the
reference leads to when the pass is over.

A token may be built on another derived key token, and that again on another:

| link of a chain | secret that it is recorded with |
| --- | --- |
| the first | whatever its reference leads to |
| any other | the key of the link before |

The key at the end of a chain is therefore the first secret, expanded by one token after
the other (`derivedKeys_consistent`).  What else is in the header does not matter.
-/

import SecurityTokens.Proofs.Precedence
import SecurityTokens.Proofs.Settled

namespace SecurityTokens

namespace DerivedKeyToken

/-- The key that a token derives from a secret: a window of the stream of `P_SHA1`,
which starts and ends where the token says. -/
def keyFrom (sizing : KeySizing) (secret : Bytes) (t : DerivedKeyToken) : Except Error Bytes := do
  let length ← t.keyLength sizing
  let offset ← t.effectiveOffset length
  KeyDerivation.pSha1 secret (Bytes.ofText t.effectiveLabel ++ t.nonce) offset length

/-- The key that tokens derive from a secret, each from the key of the one before. -/
def keyThrough (sizing : KeySizing) (tokens : List DerivedKeyToken) (secret : Bytes) :
    Except Error Bytes :=
  tokens.foldlM (keyFrom sizing) secret

theorem keyFrom_eq (sizing : KeySizing) (secret : Bytes) (t : DerivedKeyToken) :
    t.keyFrom sizing secret = t.keyLength sizing >>= fun length => t.deriveKey length secret := by
  unfold keyFrom deriveKey KeyDerivation.derive
  cases t.algorithm
  rfl

theorem keyThrough_concat (sizing : KeySizing) (tokens : List DerivedKeyToken)
    (t : DerivedKeyToken) (secret : Bytes) : keyThrough sizing (tokens ++ [t]) secret
      = keyThrough sizing tokens secret >>= fun key => t.keyFrom sizing key := by
  simp only [keyThrough, List.foldlM_append, List.foldlM_cons, List.foldlM_nil, bind_pure]

end DerivedKeyToken

/-- The secret of a derived key is the key that its token derives from its base. -/
theorem BasedDerivedKey.map_secretKey_credential (based : BasedDerivedKey) (sizing : KeySizing) :
    (based.credential sizing).map (·.secretKey)
      = (based.token.keyFrom sizing based.baseSecret).map some := by
  rw [DerivedKeyToken.keyFrom_eq, credential]
  cases based.token.keyLength sizing with
  | error e => rfl
  | ok length =>
    show (based.token.deriveKey length based.baseSecret >>= _).map _
      = (based.token.deriveKey length based.baseSecret).map _
    cases derived : based.token.deriveKey length based.baseSecret with
    | error e => rfl
    | ok secret =>
      obtain ⟨offset, placed, -⟩ := Except.bind_eq_ok_iff.1 derived
      rw [DerivedKeyPrincipal.ofToken, placed]
      rfl

/-- A reference to a derived key token that was recorded leads to the key of the token,
if the reference itself passes. -/
theorem Resolution.map_secretKey_resolve {ctx : Context} {r : TokenReference}
    {based : BasedDerivedKey} (indexed : processed? ctx r = some (.derivedKey based)) :
    (resolve ctx r).result.map (·.secretKey) = (do
      ctx.compliance.enforce (Profile.checkStructure r)
      let _ ← r.lookup
      (based.token.keyFrom ctx.sizing based.baseSecret).map some) := by
  rw [resolve_eq]
  simp only [Asking.result_bind, Context.enforce, Asking.result_ofExcept, material, indexed,
    ofProcessed, Asking.liftM_eq_ofExcept, ← based.map_secretKey_credential]
  cases ctx.compliance.enforce (Profile.checkStructure r) with
  | error e => rfl
  | ok _ =>
    cases r.lookup with
    | error e => rfl
    | ok lookup =>
      cases derived : based.credential ctx.sizing with
      | error e => rfl
      | ok m =>
        obtain ⟨secret, held⟩ := Option.isSome_iff_exists.1 (based.secretKey_of_credential derived)
        show (complete r m).map _ = .ok m.secretKey
        rw [complete_of_secretKey held]
        exact congrArg Except.ok Credential.secretKey_withSubjectName

/-- So the secret that it leads to is that key. -/
theorem Resolution.keyFrom_of_resolve {ctx : Context} {r : TokenReference}
    {based : BasedDerivedKey} {c : Credential} {key : Bytes}
    (indexed : processed? ctx r = some (.derivedKey based))
    (resolved : (resolve ctx r).result = .ok c) (held : c.secretKey = some key) :
    based.token.keyFrom ctx.sizing based.baseSecret = .ok key := by
  have leads := (map_secretKey_resolve indexed).symm
  rw [resolved] at leads
  obtain ⟨-, -, leads⟩ := Except.bind_eq_ok_iff.1 leads
  obtain ⟨-, -, leads⟩ := Except.bind_eq_ok_iff.1 leads
  cases derived : based.token.keyFrom ctx.sizing based.baseSecret with
  | error e =>
    rw [derived] at leads
    cases leads
  | ok key' =>
    rw [derived] at leads
    have same : some key' = c.secretKey := Except.ok.inj leads
    rw [Option.some.inj (same.trans held)]

namespace HeaderPass

open Resolution

variable {pass : HeaderPass} {document : Xml.Document} {header : Xml.Element}
  {es : List Xml.Element} {e : Xml.Element} {before tokens : TokenIndex} {i : Nat} {id : String}
  {token : ProcessedToken}

/-- A derived key token is taken as one that has a base, and is recorded as that. -/
theorem exists_based_of_record (element : es[i]? = some e)
    (named : (conversationOf? e "DerivedKeyToken").isSome = true)
    (recorded : (pass.record document es).result = .ok tokens) : ∃ before based,
      (pass.record document (es.take i)).result = .ok before ∧
        (∀ id token, before.get? id = some token → tokens.get? id = some token) ∧
        (BasedDerivedKey.ofElement (pass.context document before) e).result = .ok based ∧
        ∀ id, based.token.id = some id → id ≠ "" → tokens.get? id = some (.derivedKey based) := by
  obtain ⟨before, earlier, kept⟩ := exists_kept_of_record i recorded
  obtain ⟨before', outcome, earlier', processed⟩ := exists_record_take element recorded
  obtain rfl : before = before' := Except.ok.inj (earlier.symm.trans earlier')
  have taken := processed
  rw [process_eq_of_derivedKey named] at taken
  obtain ⟨based, read, h⟩ := Asking.result_bind_eq_ok_iff.1 taken
  obtain rfl := Asking.result_pure_eq_ok_iff.1 h
  refine ⟨before, based, earlier, kept, read, fun id identified filled => ?_⟩
  have entered : entry based.token.id (.derivedKey based) = some (id, .derivedKey based) :=
    entry_eq_some_iff.2 ⟨identified, filled, rfl⟩
  rw [entered] at processed
  exact get?_of_process element recorded earlier processed

/-- A reference that an index settles is settled alike by one that keeps its results. -/
theorem resolve_eq_of_kept {r : TokenReference} (pass : HeaderPass) (document : Xml.Document)
    (looksUp : r.lookupId? = some id)
    (known : before.get? id = some token) (known' : tokens.get? id = some token) :
    resolve (pass.context document tokens) r = resolve (pass.context document before) r :=
  resolve_congr ((processed?_of_lookupId? looksUp).trans known)
    ((processed?_of_lookupId? looksUp).trans known') rfl rfl fun _ _ => rfl

end HeaderPass

/-- A derived key token among elements, with the identifier it is recorded under. -/
structure Link (es : List Xml.Element) where
  position : Nat
  element : Xml.Element
  element_eq : es[position]? = some element
  token : DerivedKeyToken
  token_eq : DerivedKeyToken.ofElement element = .ok token
  id : String
  id_eq : token.id = some id
  filled : id ≠ ""

namespace Link

variable {es : List Xml.Element}

/-- One link is built on another that comes before, whose identifier its reference looks
up. -/
structure BuiltOn (next last : Link es) : Prop where
  later : last.position < next.position
  refers : next.token.reference.bind TokenReference.lookupId? = some last.id

/-- The tokens from one link to another, each built on the one before. -/
inductive Chain (first : Link es) : List DerivedKeyToken → Link es → Prop
  | single : Chain first [first.token] first
  | snoc {chain : List DerivedKeyToken} {last next : Link es} (before : Chain first chain last)
      (built : next.BuiltOn last) : Chain first (chain ++ [next.token]) next

variable {pass : HeaderPass} {document : Xml.Document} {tokens : TokenIndex}
  {first last next : Link es} {chain : List DerivedKeyToken}

/-- A link is also one of the first elements. -/
def take (link : Link es) {i : Nat} (inside : link.position < i) : Link (es.take i) :=
  { link with element_eq := (List.getElem?_take_of_lt inside).trans link.element_eq }

/-- A link is recorded with the secret that its reference led to. -/
theorem exists_based (link : Link es) (recorded : (pass.record document es).result = .ok tokens) :
    ∃ before based, (pass.record document (es.take link.position)).result = .ok before ∧
      (∀ id token, before.get? id = some token → tokens.get? id = some token) ∧
      (BasedDerivedKey.ofElement (pass.context document before) link.element).result = .ok based ∧
      based.token = link.token ∧ tokens.get? link.id = some (.derivedKey based) := by
  have named := DerivedKeyToken.isSome_of_ofElement link.token_eq
  obtain ⟨before, based, earlier, kept, read, entered⟩ :=
    HeaderPass.exists_based_of_record link.element_eq named recorded
  obtain ⟨-, -, read', -⟩ := BasedDerivedKey.result_ofElement_eq_ok_iff.1 read
  have same : based.token = link.token := Except.ok.inj (read'.symm.trans link.token_eq)
  have identified : based.token.id = some link.id := by rw [same, link.id_eq]
  exact ⟨before, based, earlier, kept, read, same, entered link.id identified link.filled⟩

/-- A link that is built on another is recorded with the key of the other. -/
theorem BuiltOn.exists_key {base : Bytes} (built : next.BuiltOn last)
    (recorded : (pass.record document es).result = .ok tokens)
    (known : tokens.get? last.id = some (.derivedKey ⟨last.token, base⟩)) :
    ∃ key, last.token.keyFrom pass.sizing base = .ok key ∧
      tokens.get? next.id = some (.derivedKey ⟨next.token, key⟩) := by
  obtain ⟨before, based, earlier, kept, read, same, entered⟩ := next.exists_based recorded
  obtain ⟨r, c, -, refers, resolved, held⟩ := BasedDerivedKey.result_ofElement_eq_ok_iff.1 read
  have looksUp : r.lookupId? = some last.id := by
    have := built.refers
    rwa [← same, refers] at this
  -- The other link had been recorded by then, and its record has stayed.
  obtain ⟨-, other, -, -, -, -, known'⟩ := (last.take built.later).exists_based earlier
  obtain rfl : other = ⟨last.token, base⟩ := by
    have stayed := (kept _ _ known').symm.trans known
    exact ProcessedToken.derivedKey.inj (Option.some.inj stayed)
  have indexed : Resolution.processed? (pass.context document before) r
      = some (.derivedKey ⟨last.token, base⟩) :=
    (Resolution.processed?_of_lookupId? looksUp).trans known'
  refine ⟨based.baseSecret, Resolution.keyFrom_of_resolve indexed resolved held, ?_⟩
  rw [entered, ← same]

/-- The last link of a chain is recorded with what the links before it derive from the
secret of the first. -/
theorem Chain.exists_key {secret : Bytes} (links : Chain first chain last)
    (recorded : (pass.record document es).result = .ok tokens)
    (known : tokens.get? first.id = some (.derivedKey ⟨first.token, secret⟩)) :
    ∃ before base, chain = before ++ [last.token] ∧
      DerivedKeyToken.keyThrough pass.sizing before secret = .ok base ∧
      tokens.get? last.id = some (.derivedKey ⟨last.token, base⟩) := by
  induction links with
  | single => exact ⟨[], secret, rfl, rfl, known⟩
  | @snoc chain last next _ built ih =>
    obtain ⟨before, base, rfl, through, entered⟩ := ih
    obtain ⟨key, derived, entered⟩ := built.exists_key recorded entered
    refine ⟨before ++ [last.token], key, rfl, ?_, entered⟩
    rw [DerivedKeyToken.keyThrough_concat, through]
    exact derived

end Link

namespace HeaderPass

open Resolution

variable {pass : HeaderPass} {document : Xml.Document} {header : Xml.Element} {tokens : TokenIndex}

/-- **Derived keys agree with the whole record.**  A pass that succeeds has recorded each
derived key token with the secret that its reference led to when its turn came.  If that
reference looked up what had been recorded by then, it leads to the same secret by the
whole record.  So a reference to the end of a chain of derived key tokens leads to what
the tokens of the chain derive, one after the other, from the secret of the first. -/
theorem derivedKeys_consistent
    (recorded : (pass.indexTokens document header).result = .ok tokens) :
    (∀ i e, header.elements[i]? = some e →
      (conversationOf? e "DerivedKeyToken").isSome = true →
      ∃ before based r, (pass.record document (header.elements.take i)).result = .ok before ∧
        (BasedDerivedKey.ofElement (pass.context document before) e).result = .ok based ∧
        based.token.reference = some r ∧
        (∀ id, based.token.id = some id → id ≠ "" →
          tokens.get? id = some (.derivedKey based)) ∧
        ∀ id, r.lookupId? = some id → before.contains id = true →
          ∃ c, (resolve (pass.context document tokens) r).result = .ok c ∧
            c.secretKey = some based.baseSecret) ∧
    ∀ (first last : Link header.elements) (chain : List DerivedKeyToken),
      first.Chain chain last → ∃ secret,
        tokens.get? first.id = some (.derivedKey ⟨first.token, secret⟩) ∧
        ∀ r, r.lookupId? = some last.id →
          (resolve (pass.context document tokens) r).result.map (·.secretKey) = (do
            pass.compliance.enforce (Profile.checkStructure r)
            let _ ← r.lookup
            (DerivedKeyToken.keyThrough pass.sizing chain secret).map some) := by
  constructor
  · intro i e element named
    obtain ⟨before, based, earlier, kept, read, entered⟩ :=
      exists_based_of_record element named recorded
    obtain ⟨r, c, -, refers, resolved, held⟩ := BasedDerivedKey.result_ofElement_eq_ok_iff.1 read
    refine ⟨before, based, r, earlier, read, refers, entered, fun id looksUp bound => ?_⟩
    obtain ⟨token, known⟩ := Option.isSome_iff_exists.1 bound
    have same := resolve_eq_of_kept pass document looksUp known (kept id token known)
    exact ⟨c, (congrArg Asking.result same).trans resolved, held⟩
  · intro first last chain links
    obtain ⟨-, ⟨token, secret⟩, -, -, -, same, entered⟩ := first.exists_based recorded
    obtain rfl : token = first.token := same
    refine ⟨secret, entered, fun r looksUp => ?_⟩
    obtain ⟨before, base, rfl, through, known⟩ := links.exists_key recorded entered
    rw [map_secretKey_resolve ((processed?_of_lookupId? looksUp).trans known),
      DerivedKeyToken.keyThrough_concat, through]
    rfl

open ForwardReference (derivingElement derivingToken)

/-- A derived key token that refers to another. -/
def chainedElement : Xml.Element :=
  ⟨⟨some Namespace.conversation0502, "DerivedKeyToken"⟩, [⟨⟨none, "Id"⟩, "DK-2"⟩],
    [.element ⟨some Namespace.security, "SecurityTokenReference"⟩ []
        [.element ⟨some Namespace.security, "Reference"⟩ [⟨⟨none, "URI"⟩, "#DK-1"⟩] []],
      .element ⟨some Namespace.conversation0502, "Nonce"⟩ [] [.text "AAAA"]]⟩

/-- The token it is read as. -/
def chainedToken : DerivedKeyToken :=
  ⟨some "DK-2", .pSha1, some ⟨none, none, 1, .direct "#DK-1" none⟩, .beginning, none, none,
    [0, 0, 0]⟩

/-- A header of an encrypted key, the token that derives from it, and the one that
derives from that. -/
def chainedHeader : Xml.Element :=
  ⟨⟨some Namespace.security, "Security"⟩, [],
    [namedKeyElement.toNode, derivingElement.toNode, timestampElement.toNode,
      chainedElement.toNode]⟩

/-- A pass that knows how long the keys are of which their tokens do not tell it. -/
def sizedPass : HeaderPass := { parsingPass with sizing := ⟨some Algorithm.hmacSha1, none⟩ }

/-- The token that derives from the key. -/
def firstLink : Link chainedHeader.elements where
  position := 1
  element := derivingElement
  element_eq := rfl
  token := derivingToken
  token_eq := ForwardReference.ofElement_derivingElement
  id := "DK-1"
  id_eq := rfl
  filled := by decide

/-- The token that derives from the other. -/
def secondLink : Link chainedHeader.elements where
  position := 3
  element := chainedElement
  element_eq := rfl
  token := chainedToken
  token_eq := by decide +kernel
  id := "DK-2"
  id_eq := rfl
  filled := by decide

/-- A reference to the end of the chain. -/
def chainReference : TokenReference := ⟨none, none, 1, .direct "#DK-2" none⟩

/-- The second token derives from what the first derives from the secret of the key. -/
theorem derivedKeys_chainedHeader : ∃ tokens,
    (sizedPass.indexTokens (.ofRoot chainedHeader []) chainedHeader).result = .ok tokens ∧
      firstLink.Chain [derivingToken, chainedToken] secondLink ∧
      (resolve (sizedPass.context (.ofRoot chainedHeader []) tokens) chainReference).result.map
          (·.secretKey)
        = (DerivedKeyToken.keyThrough sizedPass.sizing [derivingToken, chainedToken] [7]).map
          some := by
  have first : (sizedPass.indexTokens (.ofRoot chainedHeader []) chainedHeader).result.map
      (·.get? "DK-1") = .ok (some (.derivedKey ⟨derivingToken, [7]⟩)) := by
    decide +kernel
  have built : secondLink.BuiltOn firstLink := ⟨by decide, by decide⟩
  have chain : firstLink.Chain [derivingToken, chainedToken] secondLink := .snoc .single built
  cases recorded : (sizedPass.indexTokens (.ofRoot chainedHeader []) chainedHeader).result with
  | error error =>
    rw [recorded] at first
    cases first
  | ok tokens =>
    rw [recorded] at first
    obtain ⟨secret, known, leads⟩ := (derivedKeys_consistent recorded).2 _ _ _ chain
    obtain rfl : [7] = secret := by
      have same := (Except.ok.inj first).symm.trans known
      exact (BasedDerivedKey.mk.inj (ProcessedToken.derivedKey.inj (Option.some.inj same))).2
    exact ⟨tokens, rfl, chain, leads chainReference (by decide)⟩

end HeaderPass
end SecurityTokens
