/-
# Derived key tokens

A `wsc:DerivedKeyToken` describes a key that is derived from the secret of
another token, to which it refers.  The key is a window of the stream that this
secret expands to under the token's label and nonce.  The window starts at
`Offset`, or at `Generation` times the length, or at the beginning.
-/

import SecurityTokens.Reference.Basic
import SecurityTokens.Token.Username

namespace SecurityTokens

/-- Where the window of a derived key starts.  An element that states both an
offset and a generation is refused (see `ofParts`), so no start has the two. -/
inductive WindowStart where
  | offset (position : Nat)
  | generation (index : Nat)
  | beginning
deriving DecidableEq, Repr

namespace WindowStart

/-- The position for a key of some length, which has to fit 32 bits. -/
def position (start : WindowStart) (length : Nat) : Except Error Nat :=
  match start with
  | offset position => .ok position
  | generation index =>
    if index * length < Text.wordBound then .ok (index * length)
    else .error (.derivation .generationOverflow)
  | beginning => .ok 0

/-- The explicit offset. -/
def offset? : WindowStart → Option Nat
  | offset position => some position
  | _ => none

/-- The explicit generation. -/
def generation? : WindowStart → Option Nat
  | generation index => some index
  | _ => none

/-- Offset and generation as they were read; both at once are refused. -/
def ofParts : (offset generation : Option Nat) → Except Error WindowStart
  | some _, some _ => .error (.xmlStructure .offsetAndGeneration)
  | some position, none => .ok (offset position)
  | none, some index => .ok (generation index)
  | none, none => .ok beginning

end WindowStart

/-- A derived key token. -/
structure DerivedKeyToken where
  id : Option String
  algorithm : KeyDerivation.Algorithm
  reference : Option TokenReference
  start : WindowStart
  length : Option Nat
  label : Option String
  nonce : Bytes
deriving DecidableEq, Repr

namespace DerivedKeyToken

/-- The start a token's window is checked with when it is read: a generation
without a length is not placed yet. -/
def earlyPosition (start : WindowStart) (length : Option Nat) : Except Error Nat :=
  match start, length with
  | .generation _, none => .ok 0
  | start, length => start.position (length.getD 0)

/-- The token a `wsc:DerivedKeyToken` stands for. -/
def ofElement (e : Xml.Element) : Except Error DerivedKeyToken := do
  let some vocabulary := conversationOf? e "DerivedKeyToken"
    | throw (.xmlStructure (.expected "wsc:DerivedKeyToken"))
  let algorithm ← match e.attribute? "Algorithm" with
    | some uri => KeyDerivation.Algorithm.ofUri uri
    | none => pure .pSha1
  let number (name : String) := readOptional (readNumber name) (e.child? vocabulary name)
  let offset ← number "Offset"
  let generation ← number "Generation"
  let start ← WindowStart.ofParts offset generation
  let length ← number "Length"
  let position ← earlyPosition start length
  KeyDerivation.checkWindow position (length.getD 0)
  let some nonceElement := e.child? vocabulary "Nonce"
    | throw (.xmlStructure (.without "DerivedKeyToken" "Nonce"))
  let reference ← readOptional TokenReference.ofElement
    (e.child? Namespace.security "SecurityTokenReference")
  let nonce ← decodeBase64Text "DerivedKeyToken Nonce" nonceElement.text
  return {
    id := e.id?
    algorithm
    reference
    start
    length
    label := (e.child? vocabulary "Label").map Xml.Element.text
    nonce }

/-- The label, or the default one when it is missing or empty. -/
def effectiveLabel (t : DerivedKeyToken) : String :=
  match t.label with
  | some label => if label = "" then KeyDerivation.defaultLabel else label
  | none => KeyDerivation.defaultLabel

/-- Where the window of a key of some length starts. -/
def effectiveOffset (t : DerivedKeyToken) (length : Nat) : Except Error Nat :=
  t.start.position length

/-- The key of some length that a secret gives. -/
def deriveKey (t : DerivedKeyToken) (length : Nat) (secret : Bytes) : Except Error Bytes := do
  let offset ← t.effectiveOffset length
  KeyDerivation.derive {
    secret
    label := Bytes.ofText t.effectiveLabel
    nonce := t.nonce
    offset
    length
    algorithm := t.algorithm }

/-- The description of a token. -/
def describe (t : DerivedKeyToken) : String :=
  let number := fun n : Option Nat => Text.describeOption (n.map toString)
  Text.describeRecord "DerivedKeyToken"
    [("id", Text.quotedOption t.id), ("algorithm", t.algorithm.label),
     ("reference", Text.describeOption (t.reference.map TokenReference.describe)),
     ("offset", number t.start.offset?), ("length", number t.length),
     ("generation", number t.start.generation?), ("label", Text.quotedOption t.label),
     ("nonce", Text.describeBytes t.nonce)]

end DerivedKeyToken
end SecurityTokens
