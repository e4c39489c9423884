/-
# Armoured certificates

A certificate travels as text between two boundary lines.  Lines end in a line
feed, a carriage return, or both in that order; the line end after the closing
boundary may be missing.

    -----BEGIN CERTIFICATE-----
    base64 text in lines of 64 characters, the last one shorter or equal
    -----END CERTIFICATE-----

Anything before the opening boundary is refused, unless it is a text that itself
begins like a boundary and ends a line right before it.  One blank line may stand
before the closing boundary.

The base64 text is decoded as it is read.  So symbols that nobody comes to read
may be wrong, as long as the lines are long enough and the last quad is sound.
-/

import SecurityTokens.Base64

namespace SecurityTokens
namespace Pem

/-- What every opening boundary begins with; armoured text is known by it. -/
def opening : Bytes := Bytes.ofText "-----BEGIN"

/-- The opening boundary up to the label. -/
def openingBoundary : Bytes := Bytes.ofText "-----BEGIN "

/-- The closing boundary up to the label. -/
def closingBoundary : Bytes := Bytes.ofText "-----END "

/-- The label of certificates, with the dashes after it. -/
def label : Bytes := Bytes.ofText "CERTIFICATE-----"

/-- The number of characters of a full line. -/
def lineLength : Nat := 64

/-- What follows a line end. -/
def afterLineEnd? : Bytes → Option Bytes
  | 0x0D :: 0x0A :: rest => some rest
  | 0x0D :: rest => some rest
  | 0x0A :: rest => some rest
  | _ => none

/-- A line end takes at least one byte. -/
theorem afterLineEnd?_length {text rest : Bytes} (h : afterLineEnd? text = some rest) :
    rest.length < text.length := by
  unfold afterLineEnd? at h
  split at h
  · obtain rfl := Option.some.inj h
    exact Nat.lt_trans (Nat.lt_succ_self _) (Nat.lt_succ_self _)
  · obtain rfl := Option.some.inj h
    exact Nat.lt_succ_self _
  · obtain rfl := Option.some.inj h
    exact Nat.lt_succ_self _
  · simp at h

/-- What precedes a line end, both being written backwards. -/
def beforeLineEnd? : Bytes → Option Bytes
  | 0x0A :: 0x0D :: rest => some rest
  | 0x0A :: rest => some rest
  | 0x0D :: rest => some rest
  | _ => none

/-- The text from the opening boundary on, what stands before it being dropped. -/
def skipPreamble? : Bytes → Option Bytes
  | [] => none
  | b :: rest =>
    if b = 0x00 then none
    else if b = 0x0A ∧ openingBoundary.isPrefixOf rest then some rest
    else skipPreamble? rest

/-- The rest of a text that begins with some bytes. -/
def dropLeading? (leading text : Bytes) : Option Bytes :=
  if leading.isPrefixOf text then some (text.drop leading.length) else none

/-- The text between the boundary lines. -/
def enclosed? (text : Bytes) : Option Bytes := do
  let text ← if openingBoundary.isPrefixOf text then some text else skipPreamble? text
  let body ← afterLineEnd? (← dropLeading? (openingBoundary ++ label) text)
  let backwards := body.reverse
  let backwards := (beforeLineEnd? backwards).getD backwards
  let backwards ← dropLeading? (closingBoundary ++ label).reverse backwards
  return (← beforeLineEnd? backwards).reverse

/-- A line without the line end that may close it. -/
def dropLineEnd (line : Bytes) : Bytes :=
  match beforeLineEnd? line.reverse with
  | some backwards => backwards.reverse
  | none => line

/-- The lines of a text, all of which but the last are full.  What is left after
the full lines is the last one, its line end included. -/
def lines? (text : Bytes) : Option (List Bytes) :=
  if text.length ≤ lineLength then some [dropLineEnd text]
  else
    match h : afterLineEnd? (text.drop lineLength) with
    | some rest =>
      have : rest.length < text.length := by
        have := afterLineEnd?_length h
        rw [List.length_drop] at this
        omega
      if rest.isEmpty then some [text.take lineLength]
      else (lines? rest).map (text.take lineLength :: ·)
    | none => none
termination_by text.length
decreasing_by assumption

/-- The bytes inside the armour: how many there are, and those before the first
one that cannot be read. -/
structure Content where
  size : Nat
  readable : Bytes
deriving DecidableEq, Repr

/-- The content of armoured text.  Only the number of symbols and the last quad
are checked at once.  The last quad can be read unless pads make it shorter and
an empty line follows it. -/
def content? (text : Bytes) : Option Content := do
  let lines ← lines? (← enclosed? text)
  let symbols := lines.flatten
  let start := symbols.length - 4
  let last ←
    if symbols.length % 4 = 0 then (Base64.decodeLast start (symbols.drop start)).toOption
    else none
  let leading := Base64.decodeQuads (symbols.take start)
  let size := start / 4 * 3 + last.length
  if leading.length + last.length = size ∧ (last.length = 3 ∨ lines.getLast? ≠ some []) then
    return ⟨size, leading ++ last⟩
  else return ⟨size, leading⟩

/-- The number of bytes that are read at a time. -/
def pieceLength : Nat := 256

/-- Whether a number of bytes can be taken from the front of a content.  Bytes
are read a piece at a time, the next piece as soon as one is used up, so the rest
of the piece that follows the bytes has to be readable as well. -/
def Content.serves (c : Content) (used : Nat) : Bool :=
  min c.size (pieceLength * (used / pieceLength + 1)) ≤ c.readable.length

/-- Full lines and a last one, each with a line feed at its end. -/
def splitLines (text : Bytes) : Bytes :=
  if text.length ≤ lineLength then text ++ [0x0A]
  else text.take lineLength ++ 0x0A :: splitLines (text.drop lineLength)
termination_by text.length
decreasing_by
  rename_i h
  rw [List.length_drop]
  simp only [lineLength] at *
  omega

/-- The armour around bytes. -/
def encode (bs : Bytes) : Bytes :=
  openingBoundary ++ label ++ 0x0A :: splitLines (Base64.encodeBytes bs) ++ closingBoundary
    ++ label ++ [0x0A]

end Pem
end SecurityTokens
