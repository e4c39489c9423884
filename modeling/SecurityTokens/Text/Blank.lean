/-
# White space

Element text is trimmed, and the text of encoded values is read without its
white space.  White space is the Unicode property `White_Space`, which is wider
than the four characters XML calls white space.
-/

import SecurityTokens.Text.CharacterRange

namespace SecurityTokens
namespace Text

/-- The characters with the Unicode property `White_Space`. -/
def blanks : CharacterRanges :=
  [(0x9, 0xD), (0x20, 0x20), (0x85, 0x85), (0xA0, 0xA0), (0x1680, 0x1680), (0x2000, 0x200A),
   (0x2028, 0x2029), (0x202F, 0x202F), (0x205F, 0x205F), (0x3000, 0x3000)]

/-- White space in the sense of Unicode. -/
def isBlank (c : Char) : Bool := blanks.contains c

/-- The text without the blanks at its two ends. -/
def trimChars (cs : List Char) : List Char :=
  ((cs.dropWhile isBlank).reverse.dropWhile isBlank).reverse

/-- The text without the blanks at its two ends. -/
def trim (s : String) : String := String.ofList (trimChars s.toList)

/-- The text without any of its blanks. -/
def dropBlanks (s : String) : String := String.ofList (s.toList.filter fun c => !isBlank c)

/-- The white space of core is white space here. -/
theorem isBlank_of_isWhitespace {c : Char} (h : c.isWhitespace) : isBlank c := by
  simp only [Char.isWhitespace, Bool.or_eq_true, decide_eq_true_eq] at h
  rcases h with ((rfl | rfl) | rfl) | rfl <;> decide

/-- Nothing that `dropBlanks` keeps is a blank. -/
theorem isBlank_of_mem_dropBlanks {s : String} {c : Char} (h : c ∈ (dropBlanks s).toList) :
    isBlank c = false := by
  simp [dropBlanks] at h
  exact h.2

end Text
end SecurityTokens
