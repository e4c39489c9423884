/-
# The leading certificate of a `ds:KeyInfo`

A chain of certificates may be spread over several `ds:X509Data`, in any order.  Each of these
gives its certificates with its own leaf in front, and they are put together as they stand.
So the first one that holds anything decides which certificate leads:

| the first `ds:X509Data` with certificates holds | in front is |
| --- | --- |
| not the leaf of the chain | another certificate |
| the leaf and a certificate that overtakes it | another certificate |
| the leaf and none that overtakes it | the leaf |

A certificate overtakes the leaf only if the one that it has issued stands in another
`ds:X509Data`: with the first certificates of the chain together in front, the leaf leads
(`leads_with_leaf_iff`).
-/

import Mathlib.Data.List.Chain
import SecurityTokens.Proofs.LeafChoice
import SecurityTokens.Proofs.Loading
import SecurityTokens.Proofs.TokenFields

namespace SecurityTokens

/-! ## Chains -/

namespace Certificate

/-- Certificates with different subjects, each of them issued by the next one, and the last
one by itself. -/
structure IsChain (cs : List Certificate) : Prop where
  distinct : (cs.map subject).Nodup
  issued : List.IsChain (fun c d => c.issuer = d.subject) cs
  anchored : ∀ c, cs.getLast? = some c → c.issuer = c.subject

variable {c leaf : Certificate} {cs rest : List Certificate}

/-- All but the first certificate of a chain have issued another one. -/
theorem exists_issued (issued : List.IsChain (fun c d => c.issuer = d.subject) cs)
    (distinct : cs.Nodup) (mem : c ∈ cs.tail) : ∃ d ∈ cs, d ≠ c ∧ d.issuer = c.subject := by
  obtain ⟨i, inside, rfl⟩ := List.getElem_of_mem mem
  have next : i + 1 < cs.length := by
    rw [List.length_tail] at inside
    omega
  rw [List.getElem_tail]
  refine ⟨cs[i], List.getElem_mem _, ?_, List.isChain_iff_getElem.1 issued i next⟩
  intro same
  have position : i = i + 1 := (distinct.getElem_inj_iff).1 same
  omega

/-- The first certificate of a chain has issued no other one. -/
theorem IsChain.issuer_ne (chain : IsChain (leaf :: rest)) (mem : c ∈ leaf :: rest)
    (other : c ≠ leaf) : c.issuer ≠ leaf.subject := by
  intro same
  have known {d : Certificate} (mem : d ∈ leaf :: rest) (same : d.subject = leaf.subject) :
      d = leaf :=
    List.inj_on_of_nodup_map chain.distinct mem List.mem_cons_self same
  obtain ⟨i, inside, rfl⟩ := List.getElem_of_mem mem
  by_cases next : i + 1 < (leaf :: rest).length
  · have issuer := List.isChain_iff_getElem.1 chain.issued i next
    have back := known (List.getElem_mem next) (issuer.symm.trans same)
    have notLeaf : leaf ∉ rest := (List.nodup_cons.1 chain.distinct.of_map).1
    rw [List.getElem_cons_succ] at back
    rw [← back] at notLeaf
    exact notLeaf (List.getElem_mem _)
  · have final : (leaf :: rest).getLast? = some (leaf :: rest)[i] := by
      rw [List.getLast?_eq_getElem?, ← List.getElem?_eq_getElem inside]
      congr 1
      omega
    exact other (known mem ((chain.anchored _ final).symm.trans same))

/-- Nothing overtakes the leaf among the first certificates of its chain. -/
theorem IsChain.not_overtakes (chain : IsChain (leaf :: rest)) {n : Nat}
    (initial : cs.Perm ((leaf :: rest).take n)) (other : Certificate) :
    ¬Overtakes cs leaf other := by
  rintro ⟨mem, issuesNone, ahead⟩
  have different : other ≠ leaf := by
    rintro rfl
    rcases ahead with ⟨plain, authority⟩ | ⟨-, before⟩
    · exact Bool.false_ne_true (plain.symm.trans authority)
    · exact Nat.lt_irrefl _ before
  have inTail : other ∈ ((leaf :: rest).take n).tail := by
    cases n with
    | zero => exact absurd (initial.mem_iff.1 mem) List.not_mem_nil
    | succ n => exact List.mem_of_ne_of_mem different (initial.mem_iff.1 mem)
  obtain ⟨d, memD, apart, issued⟩ := exists_issued (chain.issued.take n)
    (chain.distinct.of_map.sublist (List.take_sublist n _)) inTail
  exact issuesNone d (initial.mem_iff.2 memD) apart issued

/-- Certificates of a chain have its leaf in front just if it is there and not overtaken. -/
theorem IsChain.eq_leaf_iff (chain : IsChain (leaf :: rest)) (part : ∀ c ∈ cs, c ∈ leaf :: rest)
    (distinct : cs.Nodup) (front : (leafFirst cs).head? = some c) :
    c = leaf ↔ leaf ∈ cs ∧ ∀ other, ¬Overtakes cs leaf other := by
  have chosen (there : leaf ∈ cs) :
      (leafFirst cs).head? = some leaf ↔ ∀ other, ¬Overtakes cs leaf other :=
    head?_leafFirst_eq_some_iff distinct there fun d mem => chain.issuer_ne (part d mem)
  constructor
  · rintro rfl
    have there : c ∈ cs := (leafFirst_perm cs).mem_iff.1 (List.mem_of_head? front)
    exact ⟨there, (chosen there).1 front⟩
  · rintro ⟨there, none⟩
    exact Option.some.inj (front.symm.trans ((chosen there).2 none))

/-- Of lists that hold a chain together, the first one that holds anything has a part of it. -/
theorem IsChain.exists_first (chain : IsChain (leaf :: rest)) {groups : List (List Certificate)}
    (spread : groups.flatten.Perm (leaf :: rest)) :
    ∃ first, groups.find? (!·.isEmpty) = some first ∧ first ≠ [] ∧ first.Nodup ∧
      ∀ c ∈ first, c ∈ leaf :: rest := by
  obtain ⟨group, memGroup, inGroup⟩ := List.mem_flatten.1 (spread.mem_iff.2 List.mem_cons_self)
  have filled : (groups.find? (!·.isEmpty)).isSome = true := by
    refine List.find?_isSome.2 ⟨group, memGroup, ?_⟩
    rw [Bool.not_eq_true', List.isEmpty_eq_false_iff]
    exact List.ne_nil_of_mem inGroup
  obtain ⟨first, found⟩ := Option.isSome_iff_exists.1 filled
  have mem : first ∈ groups := List.mem_of_find?_eq_some found
  refine ⟨first, found, ?_, ?_, ?_⟩
  · rintro rfl
    exact absurd (List.find?_some found) (by decide)
  · exact (List.nodup_flatten.1 (spread.nodup_iff.2 chain.distinct.of_map)).1 first mem
  · intro c inFirst
    exact spread.mem_iff.1 (List.mem_flatten.2 ⟨first, mem, inFirst⟩)

end Certificate

/-! ## What a `ds:KeyInfo` holds -/

namespace KeyInfo

variable {e : Xml.Element} {groups : List (List Certificate)} {value : Option PublicKey}

/-- The certificates in each of the `ds:X509Data`, as they stand there. -/
def heldCertificates (e : Xml.Element) : Except Error (List (List Certificate)) :=
  (e.childrenNamed Namespace.signature "X509Data").mapM fun data =>
    (data.childrenNamed Namespace.signature "X509Certificate").mapM Certificate.ofElement

/-- Each `ds:X509Data` gives its certificates with its leaf first. -/
theorem mapM_certificatesOf (held : heldCertificates e = .ok groups) :
    (e.childrenNamed Namespace.signature "X509Data").mapM certificatesOf
      = .ok (groups.map Certificate.leafFirst) := by
  rw [heldCertificates, Except.mapM_eq_ok_iff] at held
  rw [Except.mapM_eq_ok_iff, List.forall₂_map_right_iff]
  refine held.imp fun data group read => ?_
  exact Except.bind_eq_ok_iff.2 ⟨group, read, rfl⟩

variable {child : Xml.Element} {k : KeyInfo}

/-- A `ds:X509Data` adds its certificates. -/
theorem addChild_of_data {cs : List Certificate}
    (data : child.isNamed Namespace.signature "X509Data" = true)
    (read : certificatesOf child = .ok cs) :
    k.addChild child = .ok ⟨k.certificates ++ cs, k.publicKey⟩ := by
  rw [addChild, if_pos data, read]
  rfl

/-- A `ds:KeyValue` gives the key if there is none yet. -/
theorem addChild_of_value {key : PublicKey}
    (isValue : child.isNamed Namespace.signature "KeyValue" = true) (free : k.publicKey = none)
    (read : PublicKey.ofElement child = .ok key) :
    k.addChild child = .ok ⟨k.certificates, some key⟩ := by
  have noData : child.isNamed Namespace.signature "X509Data" = false :=
    Xml.Element.isNamed_eq_false_of_isNamed isValue (by decide)
  rw [addChild, noData, if_neg Bool.false_ne_true, isValue, free, read]
  rfl

/-- All other children are passed over. -/
theorem addChild_of_other (noData : child.isNamed Namespace.signature "X509Data" = false)
    (passed : child.isNamed Namespace.signature "KeyValue" = false ∨ k.publicKey ≠ none) :
    k.addChild child = .ok k := by
  have notFresh : (child.isNamed Namespace.signature "KeyValue" && k.publicKey.isNone) = false := by
    rw [Bool.and_eq_false_iff, Option.isNone_eq_false_iff, Option.isSome_iff_ne_none]
    exact passed
  rw [addChild, noData, if_neg Bool.false_ne_true, notFresh, if_neg Bool.false_ne_true]
  rfl

/-- Children are read when their certificates and the first key value are: the certificates
are put together, and a key that is there already stays. -/
theorem foldlM_addChild {es : List Xml.Element} {lists : List (List Certificate)}
    (held : (es.filter (·.isNamed Namespace.signature "X509Data")).mapM certificatesOf = .ok lists)
    (read : k.publicKey = none → readOptional PublicKey.ofElement
      (es.find? (·.isNamed Namespace.signature "KeyValue")) = .ok value) :
    es.foldlM addChild k = .ok ⟨k.certificates ++ lists.flatten, k.publicKey.or value⟩ := by
  -- after the first key value no other one is read, so `read` is asked for only before it
  induction es generalizing k lists value with
  | nil =>
    obtain rfl : [] = lists := Except.ok.inj held
    have unchanged : k.publicKey.or value = k.publicKey := by
      cases key : k.publicKey with
      | some key => rfl
      | none =>
        obtain rfl : none = value := Except.ok.inj (read key)
        rfl
    rw [List.flatten_nil, List.append_nil, unchanged]
    rfl
  | cons child es ih =>
    rw [List.filter_cons] at held
    rw [List.find?_cons] at read
    cases data : child.isNamed Namespace.signature "X509Data" with
    | true =>
      have noValue : child.isNamed Namespace.signature "KeyValue" = false :=
        Xml.Element.isNamed_eq_false_of_isNamed data (by decide)
      rw [data, if_pos rfl, List.mapM_cons] at held
      rw [noValue] at read
      obtain ⟨cs, first, held⟩ := Except.bind_eq_ok_iff.1 held
      obtain ⟨lists, others, done⟩ := Except.bind_eq_ok_iff.1 held
      obtain rfl := Except.ok.inj done
      rw [List.foldlM_cons, addChild_of_data data first, List.flatten_cons, ← List.append_assoc]
      exact ih others read
    | false =>
      rw [data, if_neg Bool.false_ne_true] at held
      rw [List.foldlM_cons]
      cases isValue : child.isNamed Namespace.signature "KeyValue" with
      | false =>
        rw [isValue] at read
        rw [addChild_of_other data (.inl isValue)]
        exact ih held read
      | true =>
        rw [isValue] at read
        by_cases free : k.publicKey = none
        · obtain ⟨missing, -⟩ | ⟨_, key, found, readKey, rfl⟩ :=
            readOptional_eq_ok_iff.1 (read free)
          · cases missing
          · obtain rfl := Option.some.inj found
            rw [addChild_of_value isValue free readKey, free]
            exact @ih none _ _ held fun none => absurd none (Option.some_ne_none key)
        · rw [addChild_of_other data (.inr free)]
          exact ih held fun none => absurd none free

/-! ## The certificate in front -/

/-- What a `ds:KeyInfo` carries has a certificate in front, and a public key, which is that of
the `ds:KeyValue` or else that of this certificate. -/
structure IsLedBy (k : KeyInfo) (value : Option PublicKey) (c : Certificate) : Prop where
  front : k.certificates.head? = some c
  key : ∃ key, k.publicKey = some key ∧ (value = some key ∨ value = none ∧ c.publicKey = .ok key)

/-- The key of the certificate in front is taken if there is no other one. -/
theorem exists_completed_isLedBy {c : Certificate} (front : k.certificates.head? = some c)
    (supported : ∃ key, c.publicKey = .ok key) :
    ∃ k', k.completed = .ok k' ∧ k'.IsLedBy k.publicKey c := by
  obtain ⟨rest, held⟩ := List.head?_eq_some_iff.1 front
  obtain ⟨key, supported⟩ := supported
  cases given : k.publicKey with
  | some value =>
    refine ⟨k, ?_, front, value, given, .inl rfl⟩
    rw [completed, given]
  | none =>
    refine ⟨⟨k.certificates, some key⟩, ?_, front, key, rfl, .inr ⟨rfl, supported⟩⟩
    rw [completed, given, held]
    dsimp only
    rw [supported]
    rfl

/-- The first list that holds anything has the certificate in front. -/
theorem head?_flatten_leafFirst {first : List Certificate}
    (found : groups.find? (!·.isEmpty) = some first) :
    (groups.map Certificate.leafFirst).flatten.head? = (Certificate.leafFirst first).head? := by
  have firstFilled : first ≠ [] := by
    rintro rfl
    exact absurd (List.find?_some found) (by decide)
  induction groups with
  | nil => cases found
  | cons group groups ih =>
    rw [List.map_cons, List.flatten_cons]
    cases group with
    | nil => exact ih found
    | cons c cs =>
      obtain rfl : c :: cs = first := Option.some.inj found
      obtain ⟨d, -, moved⟩ := Certificate.exists_leafFirst_eq firstFilled
      rw [moved]
      rfl

/-- What is carried is led by the leaf of the first `ds:X509Data` that holds anything. -/
theorem exists_isLedBy {first : List Certificate} {c : Certificate}
    (held : heldCertificates e = .ok groups)
    (read : readOptional PublicKey.ofElement (e.child? Namespace.signature "KeyValue") = .ok value)
    (found : groups.find? (!·.isEmpty) = some first)
    (front : (Certificate.leafFirst first).head? = some c)
    (supported : ∃ key, c.publicKey = .ok key) :
    ∃ k, ofElement e = .ok k ∧ k.IsLedBy value c := by
  have gathered : e.elements.foldlM addChild empty
      = .ok ⟨(groups.map Certificate.leafFirst).flatten, value⟩ :=
    foldlM_addChild (mapM_certificatesOf held) fun _ => read
  obtain ⟨k, done, ledBy⟩ := exists_completed_isLedBy
    (k := ⟨(groups.map Certificate.leafFirst).flatten, value⟩)
    ((head?_flatten_leafFirst found).trans front) supported
  refine ⟨k, ?_, ledBy⟩
  rw [ofElement, gathered]
  exact done

/-- **Which certificate leads.**  Of the certificates of a chain, spread over the `ds:X509Data`
of a `ds:KeyInfo`, the one in front comes from the first of these that holds any, and its key
is the public key unless there is a `ds:KeyValue`.  It is the leaf if and only if the leaf is
there and no certificate there overtakes it, in particular if the first certificates of the
chain are there and no others. -/
theorem leads_with_leaf_iff {leaf : Certificate} {rest : List Certificate}
    (held : heldCertificates e = .ok groups) (chain : Certificate.IsChain (leaf :: rest))
    (spread : groups.flatten.Perm (leaf :: rest))
    (supported : ∀ c ∈ leaf :: rest, ∃ key, c.publicKey = .ok key)
    (read : readOptional PublicKey.ofElement (e.child? Namespace.signature "KeyValue") = .ok value) :
    ∃ k c first, ofElement e = .ok k ∧ k.IsLedBy value c ∧
      groups.find? (!·.isEmpty) = some first ∧ c ∈ first ∧
      (c = leaf ↔ leaf ∈ first ∧ ∀ other, ¬Certificate.Overtakes first leaf other) ∧
      ∀ n, first.Perm ((leaf :: rest).take n) → c = leaf := by
  obtain ⟨first, found, filled, distinct, part⟩ := chain.exists_first spread
  obtain ⟨c, -, moved⟩ := Certificate.exists_leafFirst_eq filled
  have front : (Certificate.leafFirst first).head? = some c := by
    rw [moved, List.head?_cons]
  have mem : c ∈ first :=
    (Certificate.leafFirst_perm first).mem_iff.1 (List.mem_of_head? front)
  have leads := chain.eq_leaf_iff part distinct front
  obtain ⟨k, done, ledBy⟩ := exists_isLedBy held read found front (supported c (part c mem))
  refine ⟨k, c, first, done, ledBy, found, mem, leads, fun n initial => ?_⟩
  have there : leaf ∈ first := by
    cases n with
    | zero => exact absurd initial.eq_nil filled
    | succ n => exact initial.mem_iff.2 List.mem_cons_self
  exact leads.2 ⟨there, chain.not_overtakes initial⟩

/-! ## Two certificates -/

/-- An element of the signature vocabulary. -/
def signatureElement (localName : String) (children : List Xml.Node) : Xml.Element :=
  ⟨⟨some Namespace.signature, localName⟩, [], children⟩

theorem childrenNamed_signatureElement {α : Type} (parent name : String) (inside : α → List Xml.Node)
    (xs : List α) :
    (signatureElement parent (xs.map fun x => (signatureElement name (inside x)).toNode)).childrenNamed
      Namespace.signature name = xs.map fun x => signatureElement name (inside x) := by
  have named (x : α) :
      (signatureElement name (inside x)).isNamed Namespace.signature name = true :=
    Xml.Element.isNamed_iff.2 ⟨rfl, rfl⟩
  induction xs with
  | nil => rfl
  | cons x xs ih =>
    have first := List.filter_cons_of_pos (p := (·.isNamed Namespace.signature name))
      (l := (signatureElement parent
        (xs.map fun x => (signatureElement name (inside x)).toNode)).elements) (named x)
    rw [List.map_cons, List.map_cons, ← ih]
    exact first

/-- A `ds:KeyInfo` with a `ds:X509Data` for each list of certificates. -/
def spreadOver (groups : List (List Certificate)) : Xml.Element :=
  signatureElement "KeyInfo" <| groups.map fun group =>
    (signatureElement "X509Data" <| group.map fun c =>
      (signatureElement "X509Certificate" [.text (Base64.encode c.der)]).toNode).toNode

/-- It holds these certificates. -/
theorem heldCertificates_spreadOver
    (each : ∀ group ∈ groups, ∀ c ∈ group, Certificate.ofDer c.der = .ok c) :
    heldCertificates (spreadOver groups) = .ok groups := by
  have certificate {c : Certificate} (plain : Certificate.ofDer c.der = .ok c) :
      Certificate.ofElement (signatureElement "X509Certificate" [.text (Base64.encode c.der)])
        = .ok c := by
    refine Except.bind_eq_ok_iff.2 ⟨c.der, ?_, plain⟩
    refine decodeBase64Text_of_dropBlanks ?_ (Certificate.ne_nil_of_ofDer plain)
    show Text.dropBlanks (Text.trim (Base64.encode c.der)) = _
    rw [Text.dropBlanks_trim, Base64.dropBlanks_encode]
  rw [heldCertificates, spreadOver, childrenNamed_signatureElement, Except.mapM_eq_ok_iff,
    List.forall₂_map_left_iff, List.forall₂_same]
  intro group memGroup
  rw [childrenNamed_signatureElement, Except.mapM_eq_ok_iff, List.forall₂_map_left_iff,
    List.forall₂_same]
  exact fun c mem => certificate (each group memGroup c mem)

/-- The fields of a certificate for one letter that is issued by another one. -/
def letterRecord (subject issuer modulus : UInt8) (constraints : List Der.Tlv) : X509.Record :=
  { Resolution.smallRecord with
    version := 2
    issuer := [[⟨⟨[0x55, 0x04, 0x03]⟩, ⟨0x0C, [issuer]⟩⟩]]
    subject := [[⟨⟨[0x55, 0x04, 0x03]⟩, ⟨0x0C, [subject]⟩⟩]]
    subjectKey := ⟨⟨RsaKey.objectId, some ⟨0x05, []⟩⟩, ⟨0, [0x30, 6, 2, 1, modulus, 2, 1, 3]⟩⟩
    extensions := some [⟨.basicConstraints, true, (Der.Tlv.sequence constraints).encode⟩] }

/-- The certificate of `a`, who is no authority, issued by `b`. -/
def leafCertificate : Certificate := .ofRecord (letterRecord 0x61 0x62 15 [])

/-- The certificate of the authority `b`, issued by itself. -/
def authorityCertificate : Certificate := .ofRecord (letterRecord 0x62 0x62 21 [⟨0x01, [0xFF]⟩])

theorem isChain_leaf_authority : Certificate.IsChain [leafCertificate, authorityCertificate] where
  distinct := by decide +kernel
  issued := by
    refine List.isChain_cons_cons.2 ⟨rfl, List.isChain_singleton _⟩
  anchored := by
    intro c last
    obtain rfl : authorityCertificate = c := Option.some.inj last
    rfl

theorem ofDer_leafCertificate : Certificate.ofDer leafCertificate.der = .ok leafCertificate :=
  Certificate.ofDer_eq_ok_iff.2 ⟨by decide +kernel, rfl⟩

theorem ofDer_authorityCertificate :
    Certificate.ofDer authorityCertificate.der = .ok authorityCertificate :=
  Certificate.ofDer_eq_ok_iff.2 ⟨by decide +kernel, rfl⟩

theorem publicKey_of_reads {c : Certificate} {key : PublicKey}
    (reads : c.record.subjectKey.bits.wholeBytes?.bind
      (PublicKey.ofBits? c.record.subjectKey.algorithm) = some key) : c.publicKey = .ok key := by
  rw [Certificate.publicKey, PublicKey.ofSubjectKey, reads]

theorem publicKey_leafCertificate : leafCertificate.publicKey = .ok (.rsa ⟨15, 3⟩) :=
  publicKey_of_reads (by decide +kernel)

theorem publicKey_authorityCertificate : authorityCertificate.publicKey = .ok (.rsa ⟨21, 3⟩) :=
  publicKey_of_reads (by decide +kernel)

theorem supported_leaf_authority :
    ∀ c ∈ [leafCertificate, authorityCertificate], ∃ key, c.publicKey = .ok key := by
  intro c mem
  rcases List.mem_pair.1 mem with rfl | rfl
  · exact ⟨_, publicKey_leafCertificate⟩
  · exact ⟨_, publicKey_authorityCertificate⟩

/-- Together, the authority's certificate may stand first: the leaf leads. -/
theorem leads_with_leaf_of_together :
    heldCertificates (spreadOver [[], [authorityCertificate, leafCertificate]])
        = .ok [[], [authorityCertificate, leafCertificate]] ∧
      Certificate.IsChain [leafCertificate, authorityCertificate] ∧
      ∃ k, ofElement (spreadOver [[], [authorityCertificate, leafCertificate]]) = .ok k ∧
        k.IsLedBy none leafCertificate := by
  have held : heldCertificates (spreadOver [[], [authorityCertificate, leafCertificate]])
      = .ok [[], [authorityCertificate, leafCertificate]] := by
    refine heldCertificates_spreadOver fun group mem c inside => ?_
    rcases List.mem_pair.1 mem with rfl | rfl
    · exact absurd inside List.not_mem_nil
    · rcases List.mem_pair.1 inside with rfl | rfl
      · exact ofDer_authorityCertificate
      · exact ofDer_leafCertificate
  obtain ⟨k, c, first, done, ledBy, found, -, -, initial⟩ := leads_with_leaf_iff held
    isChain_leaf_authority (.swap _ _ _) supported_leaf_authority rfl
  obtain rfl : [authorityCertificate, leafCertificate] = first := Option.some.inj found
  obtain rfl : c = leafCertificate := initial 2 (.swap _ _ _)
  exact ⟨held, isChain_leaf_authority, k, done, ledBy⟩

/-- Apart, the authority's certificate leads if it stands first, and its key is taken for the
subject's. -/
theorem leads_with_authority_of_apart :
    heldCertificates (spreadOver [[authorityCertificate], [leafCertificate]])
        = .ok [[authorityCertificate], [leafCertificate]] ∧
      Certificate.IsChain [leafCertificate, authorityCertificate] ∧
      leafCertificate.publicKey = .ok (.rsa ⟨15, 3⟩) ∧
      authorityCertificate.publicKey = .ok (.rsa ⟨21, 3⟩) ∧
      (spreadOver [[authorityCertificate], [leafCertificate]]).child? Namespace.signature "KeyValue"
        = none ∧
      ∃ k, ofElement (spreadOver [[authorityCertificate], [leafCertificate]]) = .ok k ∧
        k.certificates.head? = some authorityCertificate ∧
        k.certificates.head? ≠ some leafCertificate ∧
        k.publicKey = some (.rsa ⟨21, 3⟩) := by
  have held : heldCertificates (spreadOver [[authorityCertificate], [leafCertificate]])
      = .ok [[authorityCertificate], [leafCertificate]] := by
    refine heldCertificates_spreadOver fun group mem c inside => ?_
    rcases List.mem_pair.1 mem with rfl | rfl
    · obtain rfl := List.mem_singleton.1 inside
      exact ofDer_authorityCertificate
    · obtain rfl := List.mem_singleton.1 inside
      exact ofDer_leafCertificate
  have alone : Certificate.leafFirst [authorityCertificate] = [authorityCertificate] :=
    (Certificate.leafFirst_perm _).eq_singleton
  obtain ⟨k, done, front, key, taken, own⟩ := exists_isLedBy held rfl rfl
    (congrArg List.head? alone) ⟨_, publicKey_authorityCertificate⟩
  refine ⟨held, isChain_leaf_authority, publicKey_leafCertificate, publicKey_authorityCertificate,
    rfl, k, done, front, ?_, ?_⟩
  · rw [front]
    decide +kernel
  · rcases own with given | ⟨-, own⟩
    · cases given
    · rw [publicKey_authorityCertificate, Except.ok.injEq] at own
      rw [taken, own]

end KeyInfo
end SecurityTokens
