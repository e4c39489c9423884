/-
# Decimal numerals

Numbers in messages and on the command line are decimal numerals of at most 32
bits.  A single plus sign may stand in front, leading zeros change nothing, and
no other character may appear.
-/

namespace SecurityTokens
namespace Text

/-- Numbers of 32 bits are below this bound. -/
def wordBound : Nat := 1 <<< 32

/-- The value of a sequence of ASCII digits, each read after those before it. -/
def digitsValue (cs : List Char) : Nat := cs.foldl (fun n c => n * 10 + (c.toNat - 48)) 0

/-- The value of a non-empty sequence of ASCII digits. -/
def digits? (cs : List Char) : Option Nat :=
  if !cs.isEmpty && cs.all Char.isDigit then some (digitsValue cs) else none

/-- The number of a numeral, if it is one and fits 32 bits. -/
def word? (s : String) : Option Nat :=
  let cs := match s.toList with
    | '+' :: cs => cs
    | cs => cs
  (digits? cs).filter (· < wordBound)

theorem lt_wordBound_of_word? {s : String} {n : Nat} (h : word? s = some n) : n < wordBound := by
  simp [word?, Option.filter_eq_some_iff] at h
  exact h.2

end Text
end SecurityTokens
