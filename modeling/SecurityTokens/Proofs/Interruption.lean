/-
# Texts that comments interrupt

A text is whole when comments cut off nothing of it but blanks
(`Element.IsWhole`).  What is read of a message is the same with its comments and
without just if all the texts that are read are whole; the values are then the
same, too.  A text that is not whole is read short of what is cut off:

| message | name | name without the comment |
| --- | --- | --- |
| `<NameID>admin.evil</NameID>` | `admin.evil` | |
| `<NameID>admin<!---->.evil</NameID>` | `admin` | `admin.evil` |
-/

import SecurityTokens.Proofs.Places
import SecurityTokens.Proofs.ReadText
import SecurityTokens.Proofs.Success

namespace SecurityTokens

open Xml (Element)

namespace Xml

namespace Element

/-- The element `d` is `e` itself or lies inside it. -/
inductive Within : Element → Element → Prop
  | refl (e : Element) : Within e e
  | step {e c d : Element} (child : c ∈ e.elements) (within : Within c d) : Within e d

theorem within_iff {e d : Element} : Within e d ↔ d = e ∨ ∃ c ∈ e.elements, Within c d := by
  constructor
  · rintro (_ | ⟨child, within⟩)
    · exact .inl rfl
    · exact .inr ⟨_, child, within⟩
  · rintro (rfl | ⟨c, child, within⟩)
    · exact .refl _
    · exact .step child within

theorem toNode_inj {e e' : Element} : e.toNode = e'.toNode ↔ e = e' := by
  constructor
  · intro h
    exact Option.some.inj (congrArg Node.element? h)
  · rintro rfl
    rfl

/-- What is read of an element is its text and what is read of the elements inside. -/
theorem asRead_withoutComments_eq_iff {e : Element} :
    e.asRead = e.withoutComments.asRead ↔
      (e.isText = true → e.text = e.withoutComments.text) ∧
        ∀ c ∈ e.elements, c.asRead = c.withoutComments.asRead := by
  have isText : e.withoutComments.isText = e.isText := rfl
  have inside : nodesAsRead e.children = nodesAsRead e.withoutComments.children ↔
      ∀ c ∈ e.elements, c.asRead = c.withoutComments.asRead := by
    have same : e.withoutComments.children.filterMap Node.element?
        = e.elements.map withoutComments := keeps_withoutComments.elements e
    rw [nodesAsRead_eq, nodesAsRead_eq, same, List.map_map, ← elements, List.map_inj_left]
    simp only [Function.comp_apply, toNode_inj]
  rw [← inside, asRead, asRead, mk.injEq, heading, heading, isText]
  by_cases read : e.isText = true
  · rw [if_pos read, if_pos read]
    constructor
    · rintro ⟨-, -, h⟩
      obtain ⟨text, nodes⟩ := List.cons.inj h
      exact ⟨fun _ => Node.text.inj text, nodes⟩
    · rintro ⟨text, nodes⟩
      exact ⟨rfl, rfl, by rw [text read, nodes]⟩
  · rw [if_neg read, if_neg read]
    constructor
    · rintro ⟨-, -, nodes⟩
      exact ⟨fun h => absurd h read, nodes⟩
    · rintro ⟨-, nodes⟩
      exact ⟨rfl, rfl, nodes⟩

/-- Comments cut off no more than blanks from the text of an element. -/
def IsWhole (e : Element) : Prop := ∀ c ∈ e.cutOff.toList, Text.isBlank c = true

/-- All the texts that are read of a message are whole. -/
def ReadsWhole (e : Element) : Prop := ∀ d, Within e d → d.isText = true → d.IsWhole

/-- What is read of a message is what is read of it without comments just if all
the texts that are read are whole. -/
theorem asRead_withoutComments_iff (e : Element) :
    e.asRead = e.withoutComments.asRead ↔ e.ReadsWhole := by
  induction e using induction_elements with
  | step e ih =>
    rw [asRead_withoutComments_eq_iff, text_withoutComments_iff, ← IsWhole]
    constructor
    · rintro ⟨here, inside⟩ d within
      rcases within_iff.1 within with rfl | ⟨c, child, within⟩
      · exact here
      · exact (ih c child).1 (inside c child) d within
    · intro whole
      refine ⟨whole e (.refl e), fun c child => (ih c child).2 fun d within => ?_⟩
      exact whole d (.step child within)

end Element
end Xml

variable {e : Element}

theorem ReadsAlike.symm {e e' : Element} (h : ReadsAlike e e') : ReadsAlike e' e where
  assertion := h.assertion.symm
  username := h.username.symm
  derivedKey := h.derivedKey.symm
  binary := h.binary.symm
  reference := h.reference.symm
  securityContext := h.securityContext.symm

theorem ReadsAlike.trans {e e' e'' : Element} (h : ReadsAlike e e') (h' : ReadsAlike e' e'') :
    ReadsAlike e e'' where
  assertion := h.assertion.trans h'.assertion
  username := h.username.trans h'.username
  derivedKey := h.derivedKey.trans h'.derivedKey
  binary := h.binary.trans h'.binary
  reference := h.reference.trans h'.reference
  securityContext := h.securityContext.trans h'.securityContext

/-- The name of an assertion's subject is the text of the element that names it. -/
theorem Assertion.subjectName_of_ofElement {a : Assertion} {version : AssertionVersion}
    (known : AssertionVersion.ofElement? e = some version) (h : Assertion.ofElement e = .ok a) :
    a.subjectName = (version.subjectNamed? e).map Element.text := by
  obtain ⟨version', _, _, known', -, -, rfl⟩ := Assertion.ofElement_eq_ok_iff.1 h
  obtain rfl : version = version' := Option.some.inj (known.symm.trans known')
  exact AssertionVersion.subjectName?_eq version e

/-- The name of a subject is kept without comments just if its text is whole. -/
theorem Assertion.subjectName_withoutComments_iff {a a' : Assertion} {version : AssertionVersion}
    (known : AssertionVersion.ofElement? e = some version) (h : Assertion.ofElement e = .ok a)
    (h' : Assertion.ofElement e.withoutComments = .ok a') :
    a.subjectName = a'.subjectName ↔ ∀ d, version.subjectNamed? e = some d → d.IsWhole := by
  have known' : AssertionVersion.ofElement? e.withoutComments = some version := known
  rw [subjectName_of_ofElement known h, subjectName_of_ofElement known' h',
    AssertionVersion.subjectNamed?_of_keeps Element.keeps_withoutComments]
  cases version.subjectNamed? e with
  | none => simp
  | some d => simp [Element.IsWhole, Element.text_withoutComments_iff]

/-- A message whose texts are whole reads as it does without comments. -/
theorem Xml.Element.ReadsWhole.readsAlike (whole : e.ReadsWhole) :
    ReadsAlike e e.withoutComments := by
  refine e.readsAlike_asRead.trans ?_
  rw [e.asRead_withoutComments_iff.2 whole]
  exact e.withoutComments.readsAlike_asRead.symm

/-- **A comment matters for the text that it cuts off.**  The readers see of a
message what `asRead` keeps.  This is the same with comments and without just if
the texts that are read are whole; messages that differ in comments alone then
have the same values.  A text that is not whole is read short of what is cut off,
and the name of an assertion's subject is such a text. -/
theorem comments_matter_iff (e : Element) :
    ReadsAlike e e.asRead ∧
    (e.asRead = e.withoutComments.asRead ↔ e.ReadsWhole) ∧
    (e.ReadsWhole → ReadsAlike e e.withoutComments ∧ ∀ e' : Element, e'.ReadsWhole →
      e.withoutComments = e'.withoutComments → ReadsAlike e e') ∧
    (∀ d, Element.Within e d → d.withoutComments.leadingText = d.leadingText ++ d.cutOff ∧
      (d.text = d.withoutComments.text ↔ d.IsWhole)) ∧
    ∀ version a a', AssertionVersion.ofElement? e = some version → Assertion.ofElement e = .ok a →
      Assertion.ofElement e.withoutComments = .ok a' →
      (a.subjectName = a'.subjectName ↔ ∀ d, version.subjectNamed? e = some d → d.IsWhole) := by
  refine ⟨e.readsAlike_asRead, e.asRead_withoutComments_iff, fun whole => ⟨whole.readsAlike, ?_⟩,
    fun d _ => ?_, fun version a a' known h h' => ?_⟩
  · intro e' whole' same
    refine whole.readsAlike.trans ?_
    rw [same]
    exact whole'.readsAlike.symm
  · exact ⟨d.leadingText_withoutComments, d.text_withoutComments_iff⟩
  · exact Assertion.subjectName_withoutComments_iff known h h'

/-- An assertion about `admin.evil`, whose name a comment interrupts. -/
def interruptedName : Element :=
  ⟨⟨some Namespace.saml2, "Assertion"⟩, [⟨⟨none, "ID"⟩, "_a1"⟩],
    [.element ⟨some Namespace.saml2, "Subject"⟩ []
      [.element ⟨some Namespace.saml2, "NameID"⟩ []
        [.text "admin", .comment "", .text ".evil"]]]⟩

/-- The assertion about a subject of some name, and nothing else. -/
def namedAssertion (name : String) : Assertion where
  id := "_a1"
  version := .v20
  issuer := none
  subjectName := some name
  methods := []
  hasSignature := false
  signatureVerified := false
  keyInfo := .empty
  secret := none

/-- With the comment the assertion is about somebody else. -/
theorem not_readsAlike_interruptedName :
    ¬ ReadsAlike interruptedName interruptedName.withoutComments := by
  have short : Assertion.ofElement interruptedName = .ok (namedAssertion "admin") := rfl
  have full : Assertion.ofElement interruptedName.withoutComments
      = .ok (namedAssertion "admin.evil") := rfl
  intro alike
  have same := alike.assertion
  rw [short, full] at same
  have names := congrArg Assertion.subjectName (Except.ok.inj same)
  exact absurd names (by decide)

end SecurityTokens
