/-
# Lower case of a text

Every character is lowered on its own, but for the capital sigma, which has two
small forms: the final one at the end of a word, that is after a letter and not
before one, characters that are ignored for case being passed over.
-/

import SecurityTokens.Text.Letter

namespace SecurityTokens
namespace Text

/-- Whether the first character that counts for case is a letter. -/
def meetsLetter (cs : List Char) : Bool :=
  match cs.dropWhile caseIgnorableRanges.contains with
  | c :: _ => casedRanges.contains c
  | [] => false

/-- The small sigma between the characters before (nearest first) and after. -/
def lowerSigma (before after : List Char) : Char :=
  if meetsLetter before && !meetsLetter after then 'ς' else 'σ'

/-- Lower case of `cs`, which stands after the reversed text `before`. -/
def lowerAfter (before : List Char) : List Char → List Char
  | [] => []
  | c :: cs =>
    (if c = 'Σ' then [lowerSigma before cs] else lowerChar c) ++ lowerAfter (c :: before) cs

/-- Lower case of a text. -/
def lowerChars (cs : List Char) : List Char := lowerAfter [] cs

/-- Lower case of a text. -/
def lower (s : String) : String := String.ofList (lowerChars s.toList)

/-- Upper case of the letters of ASCII; every other character stays. -/
def upperAscii (s : String) : String := s.map Char.toUpper

end Text
end SecurityTokens
