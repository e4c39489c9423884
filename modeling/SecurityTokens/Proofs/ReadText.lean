/-
# What is read of a message

The readers of tokens look at names, at attributes, at the elements inside, and
at the text of the elements in `textNames`.  `Element.asRead` keeps that and
nothing else, so no reader can tell an element from what is kept of it
(`Element.readsAlike_asRead`).

| read of | |
| --- | --- |
| every element | name, attributes, the elements inside |
| an element in `textNames` | the text it begins with, trimmed |
| any other node | nothing |
-/

import SecurityTokens.Assertion.Basic
import SecurityTokens.Header.Processing
import SecurityTokens.Proofs.Comments
import SecurityTokens.Token.Binary
import SecurityTokens.Token.DerivedKey

namespace SecurityTokens

namespace Xml

/-- The elements whose text is read, by namespace and local name.  The text of a
`PublicKey` is read in any namespace. -/
def textNames : List (String × String) :=
  [(Namespace.saml1, "NameIdentifier"), (Namespace.saml1, "ConfirmationMethod"),
   (Namespace.saml2, "NameID"), (Namespace.saml2, "Issuer"),
   (Namespace.security, "Username"), (Namespace.security, "Password"),
   (Namespace.security, "Nonce"), (Namespace.utility, "Created"),
   (Namespace.security11, "Salt"), (Namespace.security11, "Iteration"),
   (Namespace.security, "BinarySecurityToken"), (Namespace.security, "KeyIdentifier"),
   (Namespace.signature, "X509IssuerName"), (Namespace.signature, "X509SerialNumber"),
   (Namespace.signature, "X509Certificate"), (Namespace.signature, "Modulus"),
   (Namespace.signature, "Exponent")] ++
  Namespace.conversations.flatMap fun vocabulary =>
    ["Offset", "Generation", "Length", "Nonce", "Label", "Identifier"].map (vocabulary, ·)

namespace Element

/-- Whether the text of the element is read. -/
def isText (e : Element) : Bool :=
  e.localName == "PublicKey" || textNames.any fun (uri, name) => e.isNamed uri name

theorem isText_of_isNamed {e : Element} {uri name : String} (named : e.isNamed uri name = true)
    (mem : (uri, name) ∈ textNames) : e.isText = true := by
  refine Bool.or_eq_true_iff.2 (.inr (List.any_eq_true.2 ?_))
  exact ⟨(uri, name), mem, named⟩

/-- The text of the element, trimmed, if it is read. -/
def heading (e : Element) : List Node := if e.isText then [.text e.text] else []

end Element

mutual

/-- What is read of a node: nothing unless it is an element. -/
def Node.asRead : Node → List Node
  | .element name attributes children =>
    [.element name attributes
      (Element.heading ⟨name, attributes, children⟩ ++ nodesAsRead children)]
  | .text _ => []
  | .comment _ => []
  | .instruction _ _ => []

/-- What is read of nodes. -/
def nodesAsRead : List Node → List Node
  | [] => []
  | node :: rest => node.asRead ++ nodesAsRead rest

end

namespace Element

variable {e d : Element} {uri name : String}

/-- What is read of an element. -/
def asRead (e : Element) : Element := ⟨e.name, e.attributes, e.heading ++ nodesAsRead e.children⟩

/-- Nodes are read for the elements among them. -/
theorem nodesAsRead_eq (nodes : List Node) :
    nodesAsRead nodes = (nodes.filterMap Node.element?).map fun c => c.asRead.toNode := by
  induction nodes with
  | nil => rfl
  | cons node rest ih =>
    rw [nodesAsRead, ih]
    cases node <;> rfl

/-- What is read of an element are its attributes and what is read of the elements
inside. -/
theorem keeps_asRead : Keeps asRead where
  name _ := rfl
  attributes _ := rfl
  elements e := by
    have none : e.heading.filterMap Node.element? = [] := by
      unfold heading
      split <;> rfl
    rw [elements, asRead, List.filterMap_append, none, List.nil_append, nodesAsRead_eq,
      List.filterMap_map]
    show List.filterMap (some ∘ asRead) e.elements = _
    rw [List.filterMap_eq_map]

@[simp] theorem elements_asRead (e : Element) : e.asRead.elements = e.elements.map asRead :=
  keeps_asRead.elements e

@[simp] theorem isNamed_asRead : e.asRead.isNamed uri name = e.isNamed uri name := rfl

@[simp] theorem attribute?_asRead : e.asRead.attribute? name = e.attribute? name := rfl

@[simp] theorem attributeIn?_asRead :
    e.asRead.attributeIn? uri name = e.attributeIn? uri name := rfl

@[simp] theorem id?_asRead : e.asRead.id? = e.id? := rfl

@[simp] theorem child?_asRead : e.asRead.child? uri name = (e.child? uri name).map asRead :=
  keeps_asRead.child? e uri name

@[simp] theorem childrenNamed_asRead :
    e.asRead.childrenNamed uri name = (e.childrenNamed uri name).map asRead :=
  keeps_asRead.childrenNamed e uri name

@[simp] theorem childOfAnyNamespace?_asRead :
    e.asRead.childOfAnyNamespace? name = (e.childOfAnyNamespace? name).map asRead := by
  rw [childOfAnyNamespace?, elements_asRead, List.find?_map]
  rfl

/-- The text of an element is kept if it is read at all. -/
theorem text_asRead (h : e.isText = true) : e.asRead.text = e.text := by
  rw [text, asRead, heading, if_pos h]
  exact Text.trim_trim e.leadingText

theorem isNamed_of_child? (h : e.child? uri name = some d) : d.isNamed uri name = true := by
  unfold child? at h
  have named := List.find?_some h
  exact named

theorem isNamed_of_mem_childrenNamed (h : d ∈ e.childrenNamed uri name) :
    d.isNamed uri name = true := by
  unfold childrenNamed at h
  exact (List.mem_filter.1 h).2

theorem isText_of_child? (h : e.child? uri name = some d) (mem : (uri, name) ∈ textNames) :
    d.isText = true :=
  isText_of_isNamed (isNamed_of_child? h) mem

theorem isText_of_mem_childrenNamed (h : d ∈ e.childrenNamed uri name)
    (mem : (uri, name) ∈ textNames) : d.isText = true :=
  isText_of_isNamed (isNamed_of_mem_childrenNamed h) mem

/-- A child whose text alone is read is read alike. -/
theorem map_child?_asRead {β : Type} {f : Element → β} (mem : (uri, name) ∈ textNames)
    (same : ∀ d, d.isText = true → f d.asRead = f d) :
    (e.asRead.child? uri name).map f = (e.child? uri name).map f := by
  rw [child?_asRead, Option.map_map]
  cases h : e.child? uri name with
  | none => rfl
  | some d => exact congrArg some (same d (isText_of_child? h mem))

/-- The text of a child, or none. -/
theorem elim_text_child?_asRead (mem : (uri, name) ∈ textNames) :
    (e.asRead.child? uri name).elim "" text = (e.child? uri name).elim "" text := by
  rw [child?_asRead]
  cases h : e.child? uri name with
  | none => rfl
  | some d => exact text_asRead (isText_of_child? h mem)

theorem readOptional_child?_asRead {β : Type} {read : Element → Except Error β}
    (mem : (uri, name) ∈ textNames) (same : ∀ d, d.isText = true → read d.asRead = read d) :
    readOptional read (e.asRead.child? uri name) = readOptional read (e.child? uri name) := by
  rw [child?_asRead]
  cases h : e.child? uri name with
  | none => rfl
  | some d =>
    have same := same d (isText_of_child? h mem)
    simp only [Option.map_some, readOptional, same]

theorem readOptional_base64_asRead {what : String} (mem : (uri, name) ∈ textNames) :
    readOptional (fun d => decodeBase64Text what d.text) (e.asRead.child? uri name)
      = readOptional (fun d => decodeBase64Text what d.text) (e.child? uri name) := by
  refine readOptional_child?_asRead mem fun d h => ?_
  rw [text_asRead h]

end Element
end Xml

open Xml (Element textNames)

variable {e d : Element}

theorem mapM_asRead {β : Type} {read : Element → Except Error β} {ds : List Element}
    (same : ∀ d ∈ ds, read d.asRead = read d) :
    (ds.map Element.asRead).mapM read = ds.mapM read := by
  induction ds with
  | nil => rfl
  | cons d ds ih =>
    rw [List.map_cons, List.mapM_cons, List.mapM_cons, same d List.mem_cons_self,
      ih fun d hd => same d (List.mem_cons_of_mem _ hd)]

/-! ## Key material -/

theorem Certificate.ofElement_asRead (h : e.isText = true) :
    Certificate.ofElement e.asRead = Certificate.ofElement e := by
  rw [Certificate.ofElement, Element.text_asRead h]
  rfl

theorem keyValueBytes_asRead {name : String} (mem : (Namespace.signature, name) ∈ textNames) :
    keyValueBytes e.asRead name = keyValueBytes e name := by
  unfold keyValueBytes
  rw [Element.child?_asRead]
  cases h : e.child? Namespace.signature name with
  | none => rfl
  | some d =>
    simp only [Option.map_some, Element.text_asRead (Element.isText_of_child? h mem)]

theorem RsaKey.ofElement_asRead : RsaKey.ofElement e.asRead = RsaKey.ofElement e := by
  unfold RsaKey.ofElement
  rw [keyValueBytes_asRead (by simp [textNames]), keyValueBytes_asRead (by simp [textNames])]

theorem CurvePoint.ofElement_asRead : CurvePoint.ofElement e.asRead = CurvePoint.ofElement e := by
  unfold CurvePoint.ofElement
  simp only [Element.childOfAnyNamespace?_asRead]
  cases h : e.childOfAnyNamespace? "PublicKey" with
  | none => cases e.childOfAnyNamespace? "NamedCurve" <;> rfl
  | some d =>
    have named : d.isText = true := by
      unfold Element.childOfAnyNamespace? at h
      have named := List.find?_some h
      exact Bool.or_eq_true_iff.2 (.inl named)
    simp only [Option.map_some, Element.text_asRead named]
    cases e.childOfAnyNamespace? "NamedCurve" <;> rfl

theorem PublicKey.ofElement_asRead : PublicKey.ofElement e.asRead = PublicKey.ofElement e := by
  unfold PublicKey.ofElement
  simp only [Element.child?_asRead]
  cases e.child? Namespace.signature "RSAKeyValue" with
  | some child => simp only [Option.map_some, RsaKey.ofElement_asRead]
  | none =>
    rw [← Option.map_or]
    cases (e.child? Namespace.signature11 "ECKeyValue").or _ with
    | some child => simp only [Option.map_some, Option.map_none, CurvePoint.ofElement_asRead]
    | none => rfl

namespace KeyInfo

theorem certificatesOf_asRead : certificatesOf e.asRead = certificatesOf e := by
  unfold certificatesOf
  rw [Element.childrenNamed_asRead, mapM_asRead fun d hd => ?_]
  exact Certificate.ofElement_asRead
    (Element.isText_of_mem_childrenNamed hd (by simp [textNames]))

theorem addChild_asRead (k : KeyInfo) : k.addChild e.asRead = k.addChild e := by
  simp only [addChild, Element.isNamed_asRead, certificatesOf_asRead, PublicKey.ofElement_asRead]

theorem ofElement_asRead : ofElement e.asRead = ofElement e := by
  unfold ofElement
  rw [Element.elements_asRead, List.foldlM_map]
  simp only [addChild_asRead]

theorem firstOf_asRead (es : List Element) : firstOf (es.map Element.asRead) = firstOf es := by
  induction es with
  | nil => rfl
  | cons e es ih => rw [List.map_cons, firstOf, firstOf, ofElement_asRead, ih]

end KeyInfo

/-! ## Assertions -/

namespace Confirmation

/-- What is read of a confirmation. -/
def asRead (c : Confirmation) : Confirmation := ⟨c.methods, c.keyInfo.map Element.asRead⟩

theorem ofSaml1_asRead : ofSaml1 e.asRead = (ofSaml1 e).asRead := by
  have methods : (e.childrenNamed Namespace.saml1 "ConfirmationMethod").map
      (Element.text ∘ Element.asRead)
        = (e.childrenNamed Namespace.saml1 "ConfirmationMethod").map Element.text := by
    refine List.map_congr_left fun d hd => ?_
    exact Element.text_asRead (Element.isText_of_mem_childrenNamed hd (by simp [textNames]))
  simp only [ofSaml1, asRead, Element.childrenNamed_asRead, Element.child?_asRead, List.map_map,
    methods]

theorem ofSaml2_asRead : ofSaml2 e.asRead = (ofSaml2 e).asRead := by
  simp only [ofSaml2, asRead, Element.attribute?_asRead, Element.child?_asRead]
  cases e.child? Namespace.saml2 "SubjectConfirmationData" <;> simp

end Confirmation

namespace AssertionVersion

variable {version : AssertionVersion}

theorem subjects_of_keeps {change : Element → Element} (keeps : Element.Keeps change)
    (e : Element) : version.subjects (change e) = (version.subjects e).map change := by
  cases version with
  | v11 =>
    simp only [subjects, keeps.elements, List.filterMap_map, List.map_filterMap]
    exact List.filterMap_congr fun d _ => keeps.child? ..
  | v20 =>
    simp only [subjects, keeps.child?]
    cases e.child? Namespace.saml2 "Subject" <;> rfl

/-- The element that names the subject of an assertion. -/
def subjectNamed? (version : AssertionVersion) (e : Element) : Option Element :=
  (version.subjects e).findSome? (·.child? version.namespaceUri version.subjectNameElement)

theorem subjectName?_eq (version : AssertionVersion) (e : Element) :
    version.subjectName? e = (version.subjectNamed? e).map Element.text := rfl

theorem subjectNamed?_of_keeps {change : Element → Element} (keeps : Element.Keeps change)
    (e : Element) : version.subjectNamed? (change e) = (version.subjectNamed? e).map change := by
  rw [subjectNamed?, subjectNamed?, subjects_of_keeps keeps, List.findSome?_map,
    List.map_findSome?]
  refine congrArg (List.findSome? · _) (funext fun s => ?_)
  exact keeps.child? ..

theorem isText_of_subjectNamed? (h : version.subjectNamed? e = some d) : d.isText = true := by
  obtain ⟨s, -, found⟩ := List.exists_of_findSome?_eq_some h
  refine Element.isText_of_child? found ?_
  cases version <;> simp [namespaceUri, subjectNameElement, textNames]

theorem subjectName?_asRead : version.subjectName? e.asRead = version.subjectName? e := by
  rw [subjectName?_eq, subjectName?_eq, subjectNamed?_of_keeps Element.keeps_asRead]
  cases h : version.subjectNamed? e with
  | none => rfl
  | some d => exact congrArg some (Element.text_asRead (isText_of_subjectNamed? h))

theorem confirmations_asRead :
    version.confirmations e.asRead = (version.confirmations e).map Confirmation.asRead := by
  cases version with
  | v11 =>
    simp only [confirmations, subjects_of_keeps Element.keeps_asRead, List.filterMap_map,
      List.map_filterMap]
    refine List.filterMap_congr fun s _ => ?_
    simp only [Function.comp_apply, Element.child?_asRead, Option.map_map]
    congr 1
    funext d
    exact Confirmation.ofSaml1_asRead
  | v20 =>
    simp only [confirmations, subjects_of_keeps Element.keeps_asRead, List.flatMap_map,
      List.map_flatMap]
    congr 1
    funext s
    simp only [Element.childrenNamed_asRead, List.map_map]
    congr 1
    funext d
    exact Confirmation.ofSaml2_asRead

theorem issuer?_asRead : version.issuer? e.asRead = version.issuer? e := by
  cases version with
  | v11 => rfl
  | v20 => exact Element.map_child?_asRead (by simp [textNames]) fun d => Element.text_asRead

end AssertionVersion

theorem Assertion.ofElement_asRead : Assertion.ofElement e.asRead = Assertion.ofElement e := by
  have version : AssertionVersion.ofElement? e.asRead = AssertionVersion.ofElement? e := rfl
  unfold ofElement
  rw [version]
  cases AssertionVersion.ofElement? e with
  | none => rfl
  | some version =>
    have methods : (version.confirmations e.asRead).flatMap (·.methods)
        = (version.confirmations e).flatMap (·.methods) := by
      rw [AssertionVersion.confirmations_asRead, List.flatMap_map]
      rfl
    have keys : (version.confirmations e.asRead).filterMap (·.keyInfo)
        = ((version.confirmations e).filterMap (·.keyInfo)).map Element.asRead := by
      rw [AssertionVersion.confirmations_asRead, List.filterMap_map, List.map_filterMap]
      rfl
    simp only [ofVersion, methods, keys, KeyInfo.firstOf_asRead, Element.attribute?_asRead,
      AssertionVersion.issuer?_asRead, AssertionVersion.subjectName?_asRead, Element.child?_asRead,
      Option.isSome_map]

/-! ## The other tokens -/

theorem readNumber_asRead {what : String} (h : e.isText = true) :
    readNumber what e.asRead = readNumber what e := by
  unfold readNumber
  rw [Element.text_asRead h]

namespace ReferenceKind

theorem ofDirect_asRead : ofDirect e.asRead = ofDirect e := rfl

theorem ofKeyIdentifier_asRead (h : e.isText = true) :
    ofKeyIdentifier e.asRead = ofKeyIdentifier e := by
  unfold ofKeyIdentifier
  rw [Element.text_asRead h]
  rfl

theorem ofIssuerSerial_asRead : ofIssuerSerial e.asRead = ofIssuerSerial e := by
  unfold ofIssuerSerial
  rw [Element.elim_text_child?_asRead (by simp [textNames]),
    Element.elim_text_child?_asRead (by simp [textNames])]

theorem ofElement_asRead : ofElement e.asRead = ofElement e := by
  unfold ofElement
  simp only [Element.child?_asRead]
  cases e.child? Namespace.security "Reference" with
  | some child => exact ofDirect_asRead
  | none =>
    cases h : e.child? Namespace.security "KeyIdentifier" with
    | some child =>
      exact ofKeyIdentifier_asRead (Element.isText_of_child? h (by simp [textNames]))
    | none =>
      cases e.child? Namespace.signature "X509Data" with
      | none => rfl
      | some data =>
        simp only [Option.map_none, Option.map_some, Option.bind_some, Element.child?_asRead]
        cases data.child? Namespace.signature "X509IssuerSerial" with
        | none => rfl
        | some child => exact ofIssuerSerial_asRead

end ReferenceKind

theorem TokenReference.ofElement_asRead :
    TokenReference.ofElement e.asRead = TokenReference.ofElement e := by
  simp only [ofElement, Element.isNamed_asRead, ReferenceKind.ofElement_asRead, Element.id?_asRead,
    Element.attributeIn?_asRead, Element.elements_asRead, List.length_map]
  rfl

/-- An element of another name is no binary token. -/
theorem BinaryToken.ofElement_of_not_isNamed
    (h : e.isNamed Namespace.security "BinarySecurityToken" = false) :
    ofElement e = .error (.xmlStructure (.expected "wsse:BinarySecurityToken")) := by
  unfold ofElement
  rw [h]
  rfl

theorem BinaryToken.ofElement_asRead :
    BinaryToken.ofElement e.asRead = BinaryToken.ofElement e := by
  cases named : e.isNamed Namespace.security "BinarySecurityToken" with
  | false =>
    rw [ofElement_of_not_isNamed named]
    exact ofElement_of_not_isNamed named
  | true =>
    have := Element.isText_of_isNamed named (by simp [textNames])
    simp only [ofElement, Element.isNamed_asRead, Element.attribute?_asRead, Element.id?_asRead,
      Element.text_asRead this]

theorem Password.ofElement_asRead (h : e.isText = true) :
    Password.ofElement e.asRead = Password.ofElement e := by
  unfold ofElement
  rw [Element.text_asRead h]
  rfl

theorem UsernameToken.ofElement_asRead :
    UsernameToken.ofElement e.asRead = UsernameToken.ofElement e := by
  have username : (Namespace.security, "Username") ∈ textNames := by simp [textNames]
  have password : (Namespace.security, "Password") ∈ textNames := by simp [textNames]
  have nonce : (Namespace.security, "Nonce") ∈ textNames := by simp [textNames]
  have salt : (Namespace.security11, "Salt") ∈ textNames := by simp [textNames]
  have iteration : (Namespace.security11, "Iteration") ∈ textNames := by simp [textNames]
  have created : (Namespace.utility, "Created") ∈ textNames := by simp [textNames]
  simp only [ofElement, Element.isNamed_asRead, Element.elim_text_child?_asRead username,
    Element.readOptional_base64_asRead nonce, Element.readOptional_base64_asRead salt,
    Element.readOptional_child?_asRead iteration fun d => readNumber_asRead,
    Element.map_child?_asRead password fun d => Password.ofElement_asRead,
    Element.map_child?_asRead created fun d => Element.text_asRead, Element.id?_asRead]

/-- The texts of a derived key token are read in its own vocabulary. -/
theorem mem_textNames_of_conversationOf? {localName name vocabulary : String}
    (h : conversationOf? e localName = some vocabulary)
    (mem : name ∈ ["Offset", "Generation", "Length", "Nonce", "Label", "Identifier"]) :
    (vocabulary, name) ∈ textNames := by
  refine List.mem_append_right _ (List.mem_flatMap.2 ⟨vocabulary, ?_, ?_⟩)
  · exact List.mem_of_find?_eq_some h
  · exact List.mem_map.2 ⟨name, mem, rfl⟩

theorem conversationOf?_asRead {localName : String} :
    conversationOf? e.asRead localName = conversationOf? e localName := rfl

theorem DerivedKeyToken.ofElement_asRead :
    DerivedKeyToken.ofElement e.asRead = DerivedKeyToken.ofElement e := by
  unfold ofElement
  rw [conversationOf?_asRead]
  cases h : conversationOf? e "DerivedKeyToken" with
  | none => rfl
  | some vocabulary =>
    have number (name : String) (mem : name ∈ ["Offset", "Generation", "Length"]) :
        readOptional (readNumber name) (e.asRead.child? vocabulary name)
          = readOptional (readNumber name) (e.child? vocabulary name) := by
      refine Element.readOptional_child?_asRead ?_ fun d => readNumber_asRead
      exact mem_textNames_of_conversationOf? h (List.mem_append_left _ mem)
    have label : (vocabulary, "Label") ∈ textNames := mem_textNames_of_conversationOf? h (by simp)
    have nonce : (vocabulary, "Nonce") ∈ textNames := mem_textNames_of_conversationOf? h (by simp)
    have reference : readOptional TokenReference.ofElement
          (e.asRead.child? Namespace.security "SecurityTokenReference")
        = readOptional TokenReference.ofElement
          (e.child? Namespace.security "SecurityTokenReference") := by
      rw [Element.child?_asRead]
      cases e.child? Namespace.security "SecurityTokenReference" with
      | none => rfl
      | some d => simp only [Option.map_some, readOptional, TokenReference.ofElement_asRead]
    simp only [number "Offset" (by simp), number "Generation" (by simp), number "Length" (by simp),
      reference, Element.map_child?_asRead label fun d => Element.text_asRead,
      Element.attribute?_asRead, Element.id?_asRead]
    rw [Element.child?_asRead]
    cases found : e.child? vocabulary "Nonce" with
    | none => rfl
    | some d =>
      simp only [Option.map_some, Element.text_asRead (Element.isText_of_child? found nonce)]

theorem contextIdentifier_asRead : contextIdentifier e.asRead = contextIdentifier e := by
  unfold contextIdentifier
  rw [conversationOf?_asRead]
  cases h : conversationOf? e "SecurityContextToken" with
  | none => rfl
  | some vocabulary =>
    have identifier : (vocabulary, "Identifier") ∈ textNames :=
      mem_textNames_of_conversationOf? h (by simp)
    simp only [Element.elim_text_child?_asRead identifier]

/-! ## All readers -/

/-- No reader of tokens tells two elements apart. -/
structure ReadsAlike (e e' : Element) : Prop where
  assertion : Assertion.ofElement e = Assertion.ofElement e'
  username : UsernameToken.ofElement e = UsernameToken.ofElement e'
  derivedKey : DerivedKeyToken.ofElement e = DerivedKeyToken.ofElement e'
  binary : BinaryToken.ofElement e = BinaryToken.ofElement e'
  reference : TokenReference.ofElement e = TokenReference.ofElement e'
  securityContext : contextIdentifier e = contextIdentifier e'

namespace Xml.Element

theorem readsAlike_asRead (e : Element) : ReadsAlike e e.asRead where
  assertion := Assertion.ofElement_asRead.symm
  username := UsernameToken.ofElement_asRead.symm
  derivedKey := DerivedKeyToken.ofElement_asRead.symm
  binary := BinaryToken.ofElement_asRead.symm
  reference := TokenReference.ofElement_asRead.symm
  securityContext := contextIdentifier_asRead.symm

end Xml.Element
end SecurityTokens
