/-
# What the fields of tokens are read from

A token is read field by field, each from the first child element of the name of the
field.  `Reads` says, for each of two kinds of token, what every field is read from, and
`ofElement_eq_ok_iff` that an element is accepted just if all of its fields can be read and
are within their limits.  So children of other names change nothing, and elements that have
the same attributes and the same first children are read alike (`Element.SameBut`).

| token | has to be there | is read if it is there | has limits |
| --- | --- | --- | --- |
| user name token | user name | password, nonce, creation time, salt | iterations |
| derived key token | nonce | algorithm, reference, label | offset or generation, length |
-/

import SecurityTokens.Proofs.Success

namespace SecurityTokens

open Xml (Element)

/-! ## Fields -/

/-- A field that may be missing is read if it is missing, or if it is there and can be
read. -/
theorem readOptional_eq_ok_iff {α β : Type} {read : α → Except Error β} {a? : Option α}
    {b? : Option β} : readOptional read a? = .ok b? ↔
      a? = none ∧ b? = none ∨ ∃ a b, a? = some a ∧ read a = .ok b ∧ b? = some b := by
  cases a? with
  | none =>
    rw [readOptional, Except.ok.injEq]
    constructor
    · rintro rfl
      exact .inl ⟨rfl, rfl⟩
    · rintro (⟨-, rfl⟩ | ⟨_, _, there, -, -⟩)
      · rfl
      · cases there
  | some a =>
    rw [readOptional]
    cases done : read a with
    | error e =>
      constructor
      · intro h
        cases h
      · rintro (⟨missing, -⟩ | ⟨a', b, there, read, -⟩)
        · cases missing
        · obtain rfl := Option.some.inj there
          cases done.symm.trans read
    | ok b =>
      show Except.ok (some b) = Except.ok b? ↔ _
      rw [Except.ok.injEq]
      constructor
      · rintro rfl
        exact .inr ⟨a, b, rfl, done, rfl⟩
      · rintro (⟨missing, -⟩ | ⟨a', b', there, read, rfl⟩)
        · cases missing
        · obtain rfl := Option.some.inj there
          exact congrArg some (Except.ok.inj (done.symm.trans read))

theorem readNumber_eq_ok_iff {what : String} {e : Element} {n : Nat} :
    readNumber what e = .ok n ↔ Text.word? e.text = some n := by
  unfold readNumber
  cases Text.word? e.text with
  | none => simp
  | some m => simp

/-- Two elements have the same name and attributes, and the same first child of every name
but the given ones. -/
structure Xml.Element.SameBut (names : List (String × String)) (e e' : Element) : Prop where
  name : e'.name = e.name
  attributes : e'.attributes = e.attributes
  child? : ∀ uri name, (uri, name) ∉ names → e'.child? uri name = e.child? uri name

namespace Xml.Element.SameBut

variable {names : List (String × String)} {e e' : Element}

theorem symm (same : SameBut names e e') : SameBut names e' e where
  name := same.name.symm
  attributes := same.attributes.symm
  child? := fun uri name other => (same.child? uri name other).symm

theorem isNamed (same : SameBut names e e') (uri name : String) :
    e'.isNamed uri name = e.isNamed uri name := by
  rw [Element.isNamed, Element.isNamed, localName, localName, namespaceUri, namespaceUri,
    same.name]

theorem attribute? (same : SameBut names e e') (name : String) :
    e'.attribute? name = e.attribute? name := by
  rw [Element.attribute?, Element.attribute?, same.attributes]

theorem id? (same : SameBut names e e') : e'.id? = e.id? := by
  rw [Element.id?, Element.id?, attributeIn?, attributeIn?, same.attribute?, same.attributes]

theorem conversationOf? (same : SameBut names e e') (localName : String) :
    conversationOf? e' localName = SecurityTokens.conversationOf? e localName := by
  simp only [SecurityTokens.conversationOf?, same.isNamed]

/-- It is enough that one child stands in place of another, whatever is around it. -/
theorem ofReplaced {c c' : Element} (one : (c.namespaceUri, c.localName) ∈ names)
    (other : (c'.namespaceUri, c'.localName) ∈ names) (name : ExpandedName)
    (attributes : List Attribute) (before after : List Node) :
    SameBut names ⟨name, attributes, before ++ c.toNode :: after⟩
      ⟨name, attributes, before ++ c'.toNode :: after⟩ where
  name := rfl
  attributes := rfl
  child? uri localName outside := by
    -- Looking for any other name, the search passes over the child.
    have passed {x : Element} (named : (x.namespaceUri, x.localName) ∈ names) :
        (Element.mk name attributes (before ++ x.toNode :: after)).child? uri localName
          = (Element.mk name attributes (before ++ after)).child? uri localName := by
      have different : x.isNamed uri localName = false := by
        rw [Bool.eq_false_iff]
        intro same
        obtain ⟨rfl, rfl⟩ := Element.isNamed_iff.1 same
        exact outside named
      have read : x.toNode.element? = some x := rfl
      simp only [Element.child?, elements, List.filterMap_append, List.filterMap_cons, read,
        List.find?_append, List.find?_cons, different]
    exact (passed other).trans (passed one).symm

end Xml.Element.SameBut

/-! ## User name tokens -/

/-- What the fields of a user name token are read from. -/
structure UsernameToken.Reads (e : Element) (t : UsernameToken) : Prop where
  named : e.isNamed Namespace.security "UsernameToken" = true
  id : t.id = e.id?
  username : t.username = (e.child? Namespace.security "Username").elim "" Element.text
  filled : t.username ≠ ""
  password : t.password = (e.child? Namespace.security "Password").map Password.ofElement
  nonce : readOptional (fun n => decodeBase64Text "UsernameToken Nonce" n.text)
    (e.child? Namespace.security "Nonce") = .ok t.nonce
  created : t.created = (e.child? Namespace.utility "Created").map Element.text
  salt : readOptional (fun n => decodeBase64Text "UsernameToken Salt" n.text)
    (e.child? Namespace.security11 "Salt") = .ok t.salt
  iterations : readOptional (readNumber "UsernameToken Iteration")
    (e.child? Namespace.security11 "Iteration") = .ok t.iterations
  counted : ∀ n, t.iterations = some n → 0 < n ∧ n ≤ KeyDerivation.maxIterations

/-- A user name token is read just if each of its fields is. -/
theorem UsernameToken.ofElement_eq_ok_iff {e : Element} {t : UsernameToken} :
    ofElement e = .ok t ↔ t.Reads e := by
  constructor
  · intro h
    simp only [ofElement] at h
    split at h
    next => cases h
    next named =>
    split at h
    next => cases h
    next filled =>
      obtain ⟨nonce, readNonce, h⟩ := Except.bind_eq_ok_iff.1 h
      obtain ⟨salt, readSalt, h⟩ := Except.bind_eq_ok_iff.1 h
      obtain ⟨iterations, readIterations, h⟩ := Except.bind_eq_ok_iff.1 h
      have named : e.isNamed Namespace.security "UsernameToken" = true := by simpa using named
      cases iterations with
      | none =>
        cases h
        exact ⟨named, rfl, rfl, filled, rfl, readNonce, rfl, readSalt, readIterations,
          fun n given => by cases given⟩
      | some n =>
        obtain ⟨_, counted, h⟩ := Except.bind_eq_ok_iff.1 h
        cases h
        refine ⟨named, rfl, rfl, filled, rfl, readNonce, rfl, readSalt, readIterations, ?_⟩
        intro m given
        obtain rfl := Option.some.inj given
        exact KeyDerivation.checkIterations_eq_ok.1 counted
  · rintro ⟨named, id, username, filled, password, nonce, created, salt, iterations, counted⟩
    obtain ⟨id', username', password', nonce', created', salt', iterations'⟩ := t
    obtain rfl := id
    obtain rfl := username
    obtain rfl := password
    obtain rfl := created
    simp only [ofElement, named, Bool.not_true, Bool.false_eq_true, if_false, if_neg filled]
    refine Except.bind_eq_ok_iff.2 ⟨nonce', nonce, ?_⟩
    refine Except.bind_eq_ok_iff.2 ⟨salt', salt, ?_⟩
    refine Except.bind_eq_ok_iff.2 ⟨iterations', iterations, ?_⟩
    cases iterations' with
    | none => rfl
    | some n =>
      have passed := KeyDerivation.checkIterations_eq_ok.2 (counted n rfl)
      exact Except.bind_eq_ok_iff.2 ⟨(), passed, rfl⟩

/-! ## Derived key tokens -/

namespace WindowStart

/-- Offset and generation are put together to the start that has them. -/
theorem ofParts_eq_ok_iff {offset generation : Option Nat} {start : WindowStart} :
    ofParts offset generation = .ok start ↔
      offset = start.offset? ∧ generation = start.generation? := by
  cases start <;> cases offset <;> cases generation <;>
    simp [ofParts, WindowStart.offset?, WindowStart.generation?, eq_comm]

theorem generation?_eq_some_iff {start : WindowStart} {index : Nat} :
    start.generation? = some index ↔ start = generation index := by
  cases start <;> simp [generation?]

theorem offset?_eq_some_iff {start : WindowStart} {position : Nat} :
    start.offset? = some position ↔ start = offset position := by
  cases start <;> simp [offset?]

/-- Where the window of a key of some length starts, however far out that is. -/
def place (start : WindowStart) (length : Nat) : Nat :=
  match start with
  | offset position => position
  | generation index => index * length
  | beginning => 0

/-- A start is placed just if it needs no multiplication or that stays within 32 bits. -/
theorem position_eq_ok_iff {start : WindowStart} {length position : Nat} :
    start.position length = .ok position ↔ position = start.place length ∧
      ∀ index, start = generation index → index * length < Text.wordBound := by
  cases start with
  | offset p => simp [WindowStart.position, place, eq_comm]
  | beginning => simp [WindowStart.position, place, eq_comm]
  | generation index =>
    by_cases small : index * length < Text.wordBound
    · simp [WindowStart.position, place, small, eq_comm]
    · simp [WindowStart.position, place, small]

/-- The last position that is reached is far below the bound of 32 bits, so within the
limits every start is placed. -/
theorem position_of_reached {start : WindowStart} {length : Nat}
    (reached : start.place length + length ≤ KeyDerivation.maxPosition) :
    start.position length = .ok (start.place length) := by
  refine position_eq_ok_iff.2 ⟨rfl, ?_⟩
  rintro index rfl
  have within : index * length + length ≤ KeyDerivation.maxPosition := reached
  have far : KeyDerivation.maxPosition < Text.wordBound := by decide
  omega

end WindowStart

namespace DerivedKeyToken

/-- The algorithm that an element names, if it names one. -/
def readAlgorithm (e : Element) : Except Error KeyDerivation.Algorithm :=
  match e.attribute? "Algorithm" with
  | some uri => KeyDerivation.Algorithm.ofUri uri
  | none => .ok .pSha1

/-- What the fields of a derived key token are read from. -/
structure Reads (e : Element) (vocabulary : String) (t : DerivedKeyToken) : Prop where
  known : conversationOf? e "DerivedKeyToken" = some vocabulary
  id : t.id = e.id?
  algorithm : readAlgorithm e = .ok t.algorithm
  reference : readOptional TokenReference.ofElement
    (e.child? Namespace.security "SecurityTokenReference") = .ok t.reference
  offset : readOptional (readNumber "Offset") (e.child? vocabulary "Offset")
    = .ok t.start.offset?
  generation : readOptional (readNumber "Generation") (e.child? vocabulary "Generation")
    = .ok t.start.generation?
  length : readOptional (readNumber "Length") (e.child? vocabulary "Length") = .ok t.length
  short : t.length.getD 0 ≤ KeyDerivation.maxLength
  reached : t.start.place (t.length.getD 0) + t.length.getD 0 ≤ KeyDerivation.maxPosition
  label : t.label = (e.child? vocabulary "Label").map Element.text
  nonce : ∃ n, e.child? vocabulary "Nonce" = some n ∧
    decodeBase64Text "DerivedKeyToken Nonce" n.text = .ok t.nonce

/-- A missing length counts as zero, at which every generation is at the beginning. -/
theorem earlyPosition_eq (start : WindowStart) (length : Option Nat) :
    earlyPosition start length = start.position (length.getD 0) := by
  cases length with
  | some l => cases start <;> rfl
  | none =>
    cases start with
    | offset p => rfl
    | beginning => rfl
    | generation index => simp [earlyPosition, WindowStart.position, Text.wordBound]

/-- The steps in which an element of a known vocabulary is read. -/
theorem ofElement_of_known {e : Element} {vocabulary : String}
    (known : conversationOf? e "DerivedKeyToken" = some vocabulary) :
    ofElement e = (do
      let algorithm ← readAlgorithm e
      let offset ← readOptional (readNumber "Offset") (e.child? vocabulary "Offset")
      let generation ← readOptional (readNumber "Generation") (e.child? vocabulary "Generation")
      let start ← WindowStart.ofParts offset generation
      let length ← readOptional (readNumber "Length") (e.child? vocabulary "Length")
      let position ← earlyPosition start length
      KeyDerivation.checkWindow position (length.getD 0)
      match e.child? vocabulary "Nonce" with
      | none => .error (.xmlStructure (.without "DerivedKeyToken" "Nonce"))
      | some n =>
        let reference ← readOptional TokenReference.ofElement
          (e.child? Namespace.security "SecurityTokenReference")
        let nonce ← decodeBase64Text "DerivedKeyToken Nonce" n.text
        return { id := e.id?, algorithm, reference, start, length, nonce,
                 label := (e.child? vocabulary "Label").map Element.text }) := by
  unfold ofElement readAlgorithm
  rw [known]
  dsimp only
  cases e.attribute? "Algorithm" with
  | none => cases e.child? vocabulary "Nonce" <;> rfl
  | some uri => cases e.child? vocabulary "Nonce" <;> rfl

/-- A derived key token is read just if it belongs to a vocabulary and each of its fields
is read in that. -/
theorem ofElement_eq_ok_iff {e : Element} {t : DerivedKeyToken} :
    ofElement e = .ok t ↔ ∃ vocabulary, t.Reads e vocabulary := by
  constructor
  · intro h
    cases known : conversationOf? e "DerivedKeyToken" with
    | none =>
      rw [ofElement, known] at h
      cases h
    | some vocabulary =>
      rw [ofElement_of_known known] at h
      obtain ⟨algorithm, readAlgorithm, h⟩ := Except.bind_eq_ok_iff.1 h
      obtain ⟨offset, readOffset, h⟩ := Except.bind_eq_ok_iff.1 h
      obtain ⟨generation, readGeneration, h⟩ := Except.bind_eq_ok_iff.1 h
      obtain ⟨start, together, h⟩ := Except.bind_eq_ok_iff.1 h
      obtain ⟨length, readLength, h⟩ := Except.bind_eq_ok_iff.1 h
      obtain ⟨position, placed, h⟩ := Except.bind_eq_ok_iff.1 h
      obtain ⟨_, passed, h⟩ := Except.bind_eq_ok_iff.1 h
      rw [earlyPosition_eq] at placed
      obtain ⟨same, -⟩ := WindowStart.position_eq_ok_iff.1 placed
      obtain ⟨short, reached⟩ := KeyDerivation.checkWindow_eq_ok.1 (same ▸ passed)
      obtain ⟨fromOffset, fromGeneration⟩ := WindowStart.ofParts_eq_ok_iff.1 together
      cases found : e.child? vocabulary "Nonce" with
      | none =>
        rw [found] at h
        cases h
      | some n =>
        rw [found] at h
        obtain ⟨reference, readReference, h⟩ := Except.bind_eq_ok_iff.1 h
        obtain ⟨nonce, readNonce, h⟩ := Except.bind_eq_ok_iff.1 h
        cases h
        exact ⟨vocabulary, known, rfl, readAlgorithm, readReference, fromOffset ▸ readOffset,
          fromGeneration ▸ readGeneration, readLength, short, reached, rfl, n, found, readNonce⟩
  · rintro ⟨vocabulary, known, id, algorithm, reference, offset, generation, length, short,
      reached, label, n, found, nonce⟩
    obtain ⟨id', algorithm', reference', start, length', label', nonce'⟩ := t
    obtain rfl := id
    obtain rfl := label
    have together := WindowStart.ofParts_eq_ok_iff.2 ⟨Eq.refl start.offset?, Eq.refl _⟩
    have placed : earlyPosition start length' = .ok (start.place (length'.getD 0)) :=
      (earlyPosition_eq start length').trans (WindowStart.position_of_reached reached)
    have passed := KeyDerivation.checkWindow_eq_ok.2 ⟨short, reached⟩
    rw [ofElement_of_known known, found]
    refine Except.bind_eq_ok_iff.2 ⟨algorithm', algorithm, ?_⟩
    refine Except.bind_eq_ok_iff.2 ⟨start.offset?, offset, ?_⟩
    refine Except.bind_eq_ok_iff.2 ⟨start.generation?, generation, ?_⟩
    refine Except.bind_eq_ok_iff.2 ⟨start, together, ?_⟩
    refine Except.bind_eq_ok_iff.2 ⟨length', length, ?_⟩
    refine Except.bind_eq_ok_iff.2 ⟨_, placed, ?_⟩
    refine Except.bind_eq_ok_iff.2 ⟨(), passed, ?_⟩
    refine Except.bind_eq_ok_iff.2 ⟨reference', reference, ?_⟩
    exact Except.bind_eq_ok_iff.2 ⟨nonce', nonce, rfl⟩

/-- It is read in the vocabulary that its name belongs to. -/
theorem reads_of_ofElement {e : Element} {vocabulary : String} {t : DerivedKeyToken}
    (known : conversationOf? e "DerivedKeyToken" = some vocabulary)
    (accepted : ofElement e = .ok t) : t.Reads e vocabulary := by
  obtain ⟨w, read⟩ := ofElement_eq_ok_iff.1 accepted
  obtain rfl := Option.some.inj (read.known.symm.trans known)
  exact read

end DerivedKeyToken
end SecurityTokens
