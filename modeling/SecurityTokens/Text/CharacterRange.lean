/-
# Sets of characters given by ranges

A property of characters that a standard tabulates is a list of closed ranges
of code points.  Membership is a linear scan: the tables are consulted for
characters outside ASCII, which are rare in messages.
-/

namespace SecurityTokens
namespace Text

/-- Closed ranges of code points, first and last included. -/
abbrev CharacterRanges := List (Nat × Nat)

/-- A character is in the set when one of the ranges holds its code point. -/
def CharacterRanges.contains (ranges : CharacterRanges) (c : Char) : Bool :=
  ranges.any fun r => r.1 ≤ c.toNat && c.toNat ≤ r.2

end Text
end SecurityTokens
