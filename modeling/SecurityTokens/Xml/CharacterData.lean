/-
# Character data

The text between tags and the values of attributes hold characters that are
typed and characters that are referenced, as in `&amp;` or `&#65;`.  Line ends
and, in attributes, white space are normalised only where they are typed.

| typed | in text | in an attribute |
| --- | --- | --- |
| carriage return and line feed | line feed | blank |
| carriage return | line feed | blank |
| line feed | line feed | blank |
| tab | tab | blank |

In text a typed carriage return stays when a reference follows it, and when it
ends the text right after a reference.
-/

import SecurityTokens.Text.Decimal
import SecurityTokens.Xml.Character

namespace SecurityTokens
namespace Xml

/-- A character of a text, with the way it got there. -/
inductive Piece where
  | typed (c : Char)
  | referenced (c : Char)
deriving DecidableEq, Repr

/-- The five entities that need no declaration. -/
def entity? (name : List Char) : Option Char :=
  [("quot", '"'), ("amp", '&'), ("apos", '\''), ("lt", '<'), ("gt", '>')].lookup
    (String.ofList name)

/-- The value of a hexadecimal digit. -/
def hexDigit? (c : Char) : Option Nat :=
  if '0' ≤ c ∧ c ≤ '9' then some (c.toNat - 48)
  else if 'a' ≤ c ∧ c ≤ 'f' then some (c.toNat - 87)
  else if 'A' ≤ c ∧ c ≤ 'F' then some (c.toNat - 55)
  else none

/-- The value of a decimal digit. -/
def decimalDigit? (c : Char) : Option Nat :=
  if '0' ≤ c ∧ c ≤ '9' then some (c.toNat - 48) else none

/-- The number of a non-empty sequence of digits, if it fits 32 bits. -/
def number? (base : Nat) (digit? : Char → Option Nat) (cs : List Char) : Option Nat := do
  let digits ← cs.mapM digit?
  if digits.isEmpty then none
  let n := digits.foldl (fun n d => n * base + d) 0
  if n < Text.wordBound then some n else none

/-- The character of a number: the replacement character when there is none, and
nothing when it may not stand in a document. -/
def characterOf? (n : Nat) : Option Char :=
  let c := if n.isValidChar then Char.ofNat n else Char.ofNat 0xFFFD
  if isAllowed c then some c else none

/-- The character that stands for the inside of a reference, which lies between
the ampersand and the semicolon. -/
def reference? : List Char → Option Char
  | '#' :: 'x' :: digits => (number? 16 hexDigit? digits).bind characterOf?
  | '#' :: digits => (number? 10 decimalDigit? digits).bind characterOf?
  | name => entity? name

/-- The pieces of a run of character data.  `inside` holds what has been read of
a reference, last character first, while one is open. -/
def piecesFrom : (inside : Option (List Char)) → List Char → Option (List Piece)
  | none, [] => some []
  | some _, [] => none
  | none, '&' :: cs => piecesFrom (some []) cs
  | none, c :: cs => (piecesFrom none cs).map (.typed c :: ·)
  | some name, ';' :: cs => do
    let c ← reference? name.reverse
    let rest ← piecesFrom none cs
    return .referenced c :: rest
  | some name, c :: cs => piecesFrom (some (c :: name)) cs

/-- The pieces of a run of character data, if all its references are known. -/
def pieces? (cs : List Char) : Option (List Piece) := piecesFrom none cs

/-- The characters of a text.  `afterReference` tells whether the piece before
was a reference. -/
def textFrom : (afterReference : Bool) → List Piece → List Char
  | _, [] => []
  | _, .referenced c :: ps => c :: textFrom true ps
  | after, .typed c :: ps =>
    if c = '\r' then
      match ps with
      | [] => [if after then '\r' else '\n']
      | .typed '\n' :: qs => '\n' :: textFrom false qs
      | .typed d :: qs => '\n' :: textFrom false (.typed d :: qs)
      | .referenced d :: qs => '\r' :: textFrom false (.referenced d :: qs)
    else c :: textFrom false ps

/-- The characters of a text. -/
def textOf (ps : List Piece) : List Char := textFrom false ps

/-- The characters of an attribute's value. -/
def valueOf : List Piece → List Char
  | [] => []
  | .referenced c :: ps => c :: valueOf ps
  | .typed c :: ps =>
    if c = '\r' ∧ ps.head? = some (.typed '\n') then valueOf ps
    else (if isSpace c then ' ' else c) :: valueOf ps

end Xml
end SecurityTokens
