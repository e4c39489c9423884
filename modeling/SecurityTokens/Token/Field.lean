/-
# The fields of tokens

Tokens hold their fields in child elements.  A field that is missing is no
error by itself, one that is there and cannot be read is.
-/

import SecurityTokens.Text.Decimal
import SecurityTokens.Xml.Document

namespace SecurityTokens

/-- The number an element's text is; `what` names the element in the error. -/
def readNumber (what : String) (e : Xml.Element) : Except Error Nat :=
  match Text.word? e.text with
  | some n => .ok n
  | none => .error (.xmlStructure (.notANumber what))

/-- Reads something that may be missing. -/
def readOptional {α β : Type} (read : α → Except Error β) : Option α → Except Error (Option β)
  | some a => (read a).map some
  | none => .ok none

/-- The conversation vocabulary an element of some local name belongs to. -/
def conversationOf? (e : Xml.Element) (localName : String) : Option String :=
  Namespace.conversations.find? (e.isNamed · localName)

end SecurityTokens
