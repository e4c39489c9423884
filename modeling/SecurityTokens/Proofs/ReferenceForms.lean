/-
# Which references can be read

A reference has the form of one of its children, and everything that is read of it comes
from there:

| form | the child | it can be read if |
| --- | --- | --- |
| direct | the first `wsse:Reference` | its URI is not empty |
| key identifier | without one, the first `wsse:KeyIdentifier` | its text has a character that is no blank |
| issuer and serial number | without both, the first `ds:X509Data` | its first `ds:X509IssuerSerial` has both texts |

`Reads` says what each form is read from, and an element is accepted just if there is a
form that it reads as (`TokenReference.ofElement_eq_ok_iff`).  The child that decides
(`Xml.Element.deciding?`) is the same however the children of the three names are mixed with
each other and with others, and it is not replaced by a later one that could be read.
-/

import SecurityTokens.Proofs.Comments
import SecurityTokens.Proofs.Success

namespace SecurityTokens

open Xml (Element)

/-! ## First children -/

namespace Xml.Element

variable {e e' c : Element} {namespaceUri localName : String}

/-- The first of the elements directly inside that have a name. -/
structure HasFirst (e : Element) (namespaceUri localName : String) (c : Element) : Prop where
  named : c.isNamed namespaceUri localName = true
  first : ∃ before after, e.elements = before ++ c :: after ∧
    ∀ d ∈ before, d.isNamed namespaceUri localName = false

/-- No element directly inside has the name. -/
def Lacks (e : Element) (namespaceUri localName : String) : Prop :=
  ∀ d ∈ e.elements, d.isNamed namespaceUri localName = false

theorem child?_eq_some_iff : e.child? namespaceUri localName = some c ↔
    e.HasFirst namespaceUri localName c := by
  rw [child?, List.find?_eq_some_iff_append]
  simp only [Bool.not_eq_true']
  constructor
  · rintro ⟨named, first⟩
    exact ⟨named, first⟩
  · rintro ⟨named, first⟩
    exact ⟨named, first⟩

theorem child?_eq_none_iff : e.child? namespaceUri localName = none ↔
    e.Lacks namespaceUri localName := by
  rw [child?, List.find?_eq_none]
  simp only [Bool.not_eq_true]
  rfl

/-- The text of an element is trimmed. -/
theorem trim_text (e : Element) : Text.trim e.text = e.text := Text.trim_trim e.leadingText

end Xml.Element

/-- Something is left of a text without its blanks just if it has another character. -/
theorem Text.dropBlanks_ne_empty_iff {s : String} :
    dropBlanks s ≠ "" ↔ ∃ c ∈ s.toList, isBlank c = false := by
  rw [dropBlanks, ne_eq, String.ofList_eq_empty_iff, List.filter_eq_nil_iff]
  simp

/-! ## Forms -/

namespace ReferenceKind

/-- What a form is read from. -/
inductive Reads (e : Element) : ReferenceKind → Prop
  | direct {child : Element} {uri : String}
    (first : e.HasFirst Namespace.security "Reference" child)
    (given : child.attribute? "URI" = some uri) (filled : uri ≠ "") :
    Reads e (.direct uri (child.attribute? "ValueType"))
  | keyIdentifier {child : Element}
    (noReference : e.Lacks Namespace.security "Reference")
    (first : e.HasFirst Namespace.security "KeyIdentifier" child)
    (visible : ∃ c ∈ child.text.toList, Text.isBlank c = false) :
    Reads e (.keyIdentifier (.ofValueType (child.attribute? "ValueType"))
      (child.attribute? "EncodingType") (Text.dropBlanks child.text))
  | issuerSerial {data child issuer serial : Element}
    (noReference : e.Lacks Namespace.security "Reference")
    (noKeyIdentifier : e.Lacks Namespace.security "KeyIdentifier")
    (first : e.HasFirst Namespace.signature "X509Data" data)
    (inside : data.HasFirst Namespace.signature "X509IssuerSerial" child)
    (issuerNamed : child.HasFirst Namespace.signature "X509IssuerName" issuer)
    (serialNamed : child.HasFirst Namespace.signature "X509SerialNumber" serial)
    (issuerFilled : issuer.text ≠ "") (serialFilled : serial.text ≠ "") :
    Reads e (.issuerSerial issuer.text serial.text)

variable {e child : Element} {kind : ReferenceKind}

theorem ofDirect_eq_ok_iff : ofDirect child = .ok kind ↔
    ∃ uri, child.attribute? "URI" = some uri ∧ uri ≠ "" ∧
      kind = .direct uri (child.attribute? "ValueType") := by
  unfold ofDirect
  cases child.attribute? "URI" with
  | none => simp
  | some uri =>
    by_cases empty : uri = ""
    · simp [Option.filter, empty]
    · simp [Option.filter, empty, eq_comm]

theorem ofKeyIdentifier_eq_ok_iff : ofKeyIdentifier child = .ok kind ↔
    (∃ c ∈ child.text.toList, Text.isBlank c = false) ∧
      kind = .keyIdentifier (.ofValueType (child.attribute? "ValueType"))
        (child.attribute? "EncodingType") (Text.dropBlanks child.text) := by
  rw [← Text.dropBlanks_ne_empty_iff, ofKeyIdentifier]
  by_cases empty : Text.dropBlanks child.text = ""
  · simp [empty]
  · simp [empty, eq_comm]

/-- The text of an optional element is filled just if it is there with a text. -/
theorem elim_text_ne_empty_iff {e? : Option Element} :
    e?.elim "" Element.text ≠ "" ↔ ∃ e, e? = some e ∧ e.text ≠ "" := by
  cases e? <;> simp

theorem ofIssuerSerial_eq_ok_iff : ofIssuerSerial child = .ok kind ↔
    ∃ issuer serial, child.HasFirst Namespace.signature "X509IssuerName" issuer ∧
      child.HasFirst Namespace.signature "X509SerialNumber" serial ∧
      issuer.text ≠ "" ∧ serial.text ≠ "" ∧ kind = .issuerSerial issuer.text serial.text := by
  simp only [← Element.child?_eq_some_iff]
  constructor
  · intro h
    rw [ofIssuerSerial] at h
    split at h
    next => cases h
    next filled =>
      obtain ⟨issuerFilled, serialFilled⟩ := not_or.1 filled
      obtain ⟨issuer, issuerNamed, issuerFilled⟩ := elim_text_ne_empty_iff.1 issuerFilled
      obtain ⟨serial, serialNamed, serialFilled⟩ := elim_text_ne_empty_iff.1 serialFilled
      rw [issuerNamed, serialNamed] at h
      exact ⟨issuer, serial, issuerNamed, serialNamed, issuerFilled, serialFilled,
        (Except.ok.inj h).symm⟩
  · rintro ⟨issuer, serial, issuerNamed, serialNamed, issuerFilled, serialFilled, rfl⟩
    rw [ofIssuerSerial, issuerNamed, serialNamed]
    exact if_neg (not_or.2 ⟨issuerFilled, serialFilled⟩)

/-- An element is read as a form just if it has what the form is read from. -/
theorem ofElement_eq_ok_iff : ofElement e = .ok kind ↔ kind.Reads e := by
  constructor
  · intro h
    unfold ofElement at h
    split at h
    next child first =>
      obtain ⟨uri, given, filled, rfl⟩ := ofDirect_eq_ok_iff.1 h
      exact .direct (Element.child?_eq_some_iff.1 first) given filled
    next noReference =>
      have noReference := Element.child?_eq_none_iff.1 noReference
      split at h
      next child first =>
        obtain ⟨visible, rfl⟩ := ofKeyIdentifier_eq_ok_iff.1 h
        exact .keyIdentifier noReference (Element.child?_eq_some_iff.1 first) visible
      next noKeyIdentifier =>
        have noKeyIdentifier := Element.child?_eq_none_iff.1 noKeyIdentifier
        split at h
        next child found =>
          obtain ⟨data, first, inside⟩ := Option.bind_eq_some_iff.1 found
          obtain ⟨issuer, serial, issuerNamed, serialNamed, issuerFilled, serialFilled, rfl⟩ :=
            ofIssuerSerial_eq_ok_iff.1 h
          exact .issuerSerial noReference noKeyIdentifier (Element.child?_eq_some_iff.1 first)
            (Element.child?_eq_some_iff.1 inside) issuerNamed serialNamed issuerFilled serialFilled
        next => cases h
  · intro reads
    cases reads with
    | direct first given filled =>
      rw [ofElement, Element.child?_eq_some_iff.2 first]
      exact ofDirect_eq_ok_iff.2 ⟨_, given, filled, rfl⟩
    | keyIdentifier noReference first visible =>
      rw [ofElement, Element.child?_eq_none_iff.2 noReference, Element.child?_eq_some_iff.2 first]
      exact ofKeyIdentifier_eq_ok_iff.2 ⟨visible, rfl⟩
    | issuerSerial noReference noKeyIdentifier first inside issuerNamed serialNamed issuerFilled
        serialFilled =>
      rw [ofElement, Element.child?_eq_none_iff.2 noReference,
        Element.child?_eq_none_iff.2 noKeyIdentifier, Element.child?_eq_some_iff.2 first,
        Option.bind_some, Element.child?_eq_some_iff.2 inside]
      exact ofIssuerSerial_eq_ok_iff.2
        ⟨_, _, issuerNamed, serialNamed, issuerFilled, serialFilled, rfl⟩

end ReferenceKind

/-! ## The child that decides -/

namespace Xml.Element

/-- The names of the children that can decide; an earlier one goes before a later one. -/
def formNames : List (String × String) :=
  [(Namespace.security, "Reference"), (Namespace.security, "KeyIdentifier"),
   (Namespace.signature, "X509Data")]

/-- The child that decides the form of a reference. -/
def deciding? (e : Element) : Option Element :=
  formNames.findSome? fun name => e.child? name.1 name.2

/-- Where there are the same children of each of these names in the same order, the same one
decides. -/
theorem deciding?_congr {e e' : Element}
    (same : ∀ name ∈ formNames, e'.childrenNamed name.1 name.2 = e.childrenNamed name.1 name.2) :
    e'.deciding? = e.deciding? := by
  have first : formNames.map (fun name => e'.child? name.1 name.2)
      = formNames.map (fun name => e.child? name.1 name.2) := by
    refine List.map_congr_left fun name mem => ?_
    rw [child?, child?, ← List.head?_filter, ← List.head?_filter]
    exact congrArg List.head? (same name mem)
  have found := congrArg (List.findSome? id) first
  rwa [List.findSome?_map, List.findSome?_map] at found

end Xml.Element

namespace ReferenceKind

/-- The form that a child decides for, by its name. -/
def ofDeciding (c : Element) : Except Error ReferenceKind :=
  if c.isNamed Namespace.security "Reference" then ofDirect c
  else if c.isNamed Namespace.security "KeyIdentifier" then ofKeyIdentifier c
  else
    match c.child? Namespace.signature "X509IssuerSerial" with
    | some child => ofIssuerSerial child
    | none => .error (.malformedReference .noForm)

/-- A reference has the form that the deciding child decides for. -/
theorem ofElement_eq_ofDeciding (e : Element) :
    ofElement e = e.deciding?.elim (.error (.malformedReference .noForm)) ofDeciding := by
  have named {c : Element} {uri name : String} (found : e.child? uri name = some c) :
      c.isNamed uri name = true := (Element.child?_eq_some_iff.1 found).named
  unfold ofElement Element.deciding? Element.formNames
  simp only [List.findSome?_cons, List.findSome?_nil]
  cases first : e.child? Namespace.security "Reference" with
  | some c => exact (if_pos (named first)).symm
  | none =>
    cases second : e.child? Namespace.security "KeyIdentifier" with
    | some c =>
      have other : c.isNamed Namespace.security "Reference" = false :=
        Element.isNamed_eq_false_of_isNamed (named second) (by decide)
      exact ((if_neg (ne_true_of_eq_false other)).trans (if_pos (named second))).symm
    | none =>
      cases third : e.child? Namespace.signature "X509Data" with
      | some data =>
        have other : data.isNamed Namespace.security "Reference" = false :=
          Element.isNamed_eq_false_of_isNamed (named third) (by decide)
        have other' : data.isNamed Namespace.security "KeyIdentifier" = false :=
          Element.isNamed_eq_false_of_isNamed (named third) (by decide)
        exact ((if_neg (ne_true_of_eq_false other)).trans
          (if_neg (ne_true_of_eq_false other'))).symm
      | none => rfl

/-- What every form that is read holds: a URI, a value without blanks, or two trimmed texts. -/
def IsFilled : ReferenceKind → Prop
  | direct uri _ => uri ≠ ""
  | keyIdentifier _ _ value => value ≠ "" ∧ ∀ c ∈ value.toList, Text.isBlank c = false
  | issuerSerial issuer serial =>
    (issuer ≠ "" ∧ Text.trim issuer = issuer) ∧ serial ≠ "" ∧ Text.trim serial = serial

theorem Reads.isFilled {e : Element} {kind : ReferenceKind} (reads : kind.Reads e) :
    kind.IsFilled := by
  cases reads with
  | direct _ _ filled => exact filled
  | keyIdentifier _ _ visible =>
    refine ⟨Text.dropBlanks_ne_empty_iff.2 visible, fun c mem => ?_⟩
    exact Text.isBlank_of_mem_dropBlanks mem
  | issuerSerial _ _ _ _ _ _ issuerFilled serialFilled =>
    exact ⟨⟨issuerFilled, Element.trim_text _⟩, serialFilled, Element.trim_text _⟩

end ReferenceKind

/-! ## References -/

namespace TokenReference

/-- What the parts of a reference are read from. -/
structure Reads (e : Element) (r : TokenReference) : Prop where
  named : e.isNamed Namespace.security "SecurityTokenReference" = true
  id : r.id = e.id?
  tokenType : r.tokenType = e.attributeIn? Namespace.security11 "TokenType"
  childCount : r.childCount = e.elements.length
  kind : r.kind.Reads e

/-- The steps in which an element of the right name is read. -/
theorem ofElement_of_named {e : Element}
    (named : e.isNamed Namespace.security "SecurityTokenReference" = true) :
    ofElement e = (do
      let kind ← ReferenceKind.ofElement e
      return ⟨e.id?, e.attributeIn? Namespace.security11 "TokenType", e.elements.length,
        kind⟩) := by
  rw [ofElement, named]
  rfl

/-- An element of another name is refused. -/
theorem ofElement_of_not_named {e : Element}
    (other : e.isNamed Namespace.security "SecurityTokenReference" = false) :
    ofElement e = .error (.malformedReference (.unexpectedElement e.localName)) := by
  rw [ofElement, other]
  rfl

/-- A reference is read just if each of its parts is. -/
theorem ofElement_eq_ok_iff {e : Element} {r : TokenReference} :
    ofElement e = .ok r ↔ r.Reads e := by
  cases named : e.isNamed Namespace.security "SecurityTokenReference" with
  | false =>
    rw [ofElement_of_not_named named]
    constructor
    · intro h
      cases h
    · intro reads
      exact absurd (named.symm.trans reads.named) Bool.false_ne_true
  | true =>
    rw [ofElement_of_named named, Except.bind_eq_ok_iff]
    constructor
    · rintro ⟨kind, read, done⟩
      obtain rfl := Except.ok.inj done
      exact ⟨named, rfl, rfl, rfl, ReferenceKind.ofElement_eq_ok_iff.1 read⟩
    · rintro ⟨-, id, tokenType, childCount, kind⟩
      refine ⟨r.kind, ReferenceKind.ofElement_eq_ok_iff.2 kind, ?_⟩
      rw [← id, ← tokenType, ← childCount]
      rfl

/-- An element is accepted just if it has the right name and reads as one of the forms. -/
theorem exists_ofElement_iff {e : Element} : (∃ r, ofElement e = .ok r) ↔
    e.isNamed Namespace.security "SecurityTokenReference" = true ∧
      ∃ kind : ReferenceKind, kind.Reads e := by
  simp only [ofElement_eq_ok_iff]
  constructor
  · rintro ⟨r, reads⟩
    exact ⟨reads.named, r.kind, reads.kind⟩
  · rintro ⟨named, kind, reads⟩
    exact ⟨⟨_, _, _, kind⟩, named, rfl, rfl, rfl, reads⟩

/-- Where the same child decides, the same is read but for the number of children. -/
theorem ofElement_of_deciding? {e e' : Element} (name : e'.name = e.name)
    (attributes : e'.attributes = e.attributes) (decides : e'.deciding? = e.deciding?) :
    ofElement e' = (ofElement e).map fun r => { r with childCount := e'.elements.length } := by
  have named : e'.isNamed Namespace.security "SecurityTokenReference"
      = e.isNamed Namespace.security "SecurityTokenReference" := by
    rw [Element.isNamed, Element.isNamed, Element.localName, Element.localName,
      Element.namespaceUri, Element.namespaceUri, name]
  have id : e'.id? = e.id? := by
    rw [Element.id?, Element.id?, Element.attributeIn?, Element.attributeIn?, Element.attribute?,
      Element.attribute?, attributes]
  have tokenType : e'.attributeIn? Namespace.security11 "TokenType"
      = e.attributeIn? Namespace.security11 "TokenType" := by
    rw [Element.attributeIn?, Element.attributeIn?, attributes]
  have kind : ReferenceKind.ofElement e' = ReferenceKind.ofElement e := by
    rw [ReferenceKind.ofElement_eq_ofDeciding, ReferenceKind.ofElement_eq_ofDeciding, decides]
  cases known : e.isNamed Namespace.security "SecurityTokenReference" with
  | false =>
    rw [ofElement_of_not_named known, ofElement_of_not_named (named.trans known), Element.localName,
      Element.localName, name]
    rfl
  | true =>
    rw [ofElement_of_named known, ofElement_of_named (named.trans known), kind, id, tokenType]
    cases ReferenceKind.ofElement e <;> rfl

/-- **References are classified exactly.**  An element is accepted just if it is a
`wsse:SecurityTokenReference` and reads as one of the three forms, and then each part of the
reference is what it is read from.  The form comes from the child that decides alone: whatever
else changes, but the name and the attributes of the element, the same is read or refused but
for the number of children.  The same child decides where the children of the three names are
the same and in the same order among their own, however they are mixed with each other and
with others.  A reference that is read has a URI, a value without blanks, or a trimmed issuer
and a trimmed serial number, and none of these is empty. -/
theorem classified_exactly :
    (∀ e : Element, (∃ r, ofElement e = .ok r) ↔
      e.isNamed Namespace.security "SecurityTokenReference" = true ∧
        ∃ kind : ReferenceKind, kind.Reads e) ∧
    (∀ (e : Element) (r : TokenReference), ofElement e = .ok r ↔ r.Reads e) ∧
    (∀ e e' : Element, e'.name = e.name → e'.attributes = e.attributes →
      e'.deciding? = e.deciding? →
        ofElement e' = (ofElement e).map fun r => { r with childCount := e'.elements.length }) ∧
    (∀ e e' : Element, (∀ name ∈ Element.formNames,
      e'.childrenNamed name.1 name.2 = e.childrenNamed name.1 name.2) →
        e'.deciding? = e.deciding?) ∧
    ∀ (e : Element) (r : TokenReference), ofElement e = .ok r → r.kind.IsFilled := by
  refine ⟨fun e => exists_ofElement_iff, fun e r => ofElement_eq_ok_iff, ?_, ?_, ?_⟩
  · intro e e' name attributes decides
    exact ofElement_of_deciding? name attributes decides
  · intro e e' same
    exact Element.deciding?_congr same
  · intro e r read
    exact (ofElement_eq_ok_iff.1 read).kind.isFilled

/-- A later child that could be read does not stand in for a first one without a URI. -/
example : ofElement ⟨⟨some Namespace.security, "SecurityTokenReference"⟩, [],
    [.element ⟨some Namespace.security, "KeyIdentifier"⟩ [] [.text "AAAA"],
     .element ⟨some Namespace.security, "Reference"⟩ [] []]⟩
      = .error (.malformedReference .withoutUri) := by
  decide +kernel

end TokenReference

end SecurityTokens
