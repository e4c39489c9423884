/-
# Bytes read as text

Bytes that should be UTF-8 but may not be are shown with a replacement
character, U+FFFD, for every longest piece that begins like a character and is
none.  The lead byte fixes how many bytes follow and in which range the first
of them lies:

| lead | bytes | second byte |
| --- | ---: | --- |
| `00`-`7F` | 1 | |
| `C2`-`DF` | 2 | `80`-`BF` |
| `E0` | 3 | `A0`-`BF` |
| `E1`-`EC`, `EE`, `EF` | 3 | `80`-`BF` |
| `ED` | 3 | `80`-`9F` |
| `F0` | 4 | `90`-`BF` |
| `F1`-`F3` | 4 | `80`-`BF` |
| `F4` | 4 | `80`-`8F` |
-/

import SecurityTokens.Bytes

namespace SecurityTokens
namespace Text

/-- The number of bytes a lead byte announces, and the range of the second. -/
def leadRange? (lead : UInt8) : Option (Nat × UInt8 × UInt8) :=
  if 0xC2 ≤ lead ∧ lead ≤ 0xDF then some (2, 0x80, 0xBF)
  else if lead = 0xE0 then some (3, 0xA0, 0xBF)
  else if lead = 0xED then some (3, 0x80, 0x9F)
  else if 0xE1 ≤ lead ∧ lead ≤ 0xEF then some (3, 0x80, 0xBF)
  else if lead = 0xF0 then some (4, 0x90, 0xBF)
  else if lead = 0xF4 then some (4, 0x80, 0x8F)
  else if 0xF1 ≤ lead ∧ lead ≤ 0xF3 then some (4, 0x80, 0xBF)
  else none

/-- The six low bits that a following byte adds. -/
def followBits (b : UInt8) : Nat := b.toNat % 64

/-- Whether a byte may follow after the second. -/
def isFollow (b : UInt8) : Bool := 0x80 ≤ b && b ≤ 0xBF

/-- The replacement character. -/
def replacement : Char := Char.ofNat 0xFFFD

/-- The text of bytes, whatever is not UTF-8 being replaced. -/
def lossyChars : Bytes → List Char
  | [] => []
  | a :: rest =>
    if a < 0x80 then Char.ofNat a.toNat :: lossyChars rest
    else
      match leadRange? a with
      | none => replacement :: lossyChars rest
      | some (count, low, high) =>
        match rest with
        | [] => [replacement]
        | b :: rest₁ =>
          if low ≤ b ∧ b ≤ high then
            if count = 2 then
              Char.ofNat (a.toNat % 32 * 64 + followBits b) :: lossyChars rest₁
            else
              match rest₁ with
              | [] => [replacement]
              | c :: rest₂ =>
                if isFollow c then
                  if count = 3 then
                    Char.ofNat (a.toNat % 16 * 4096 + followBits b * 64 + followBits c)
                      :: lossyChars rest₂
                  else
                    match rest₂ with
                    | [] => [replacement]
                    | d :: rest₃ =>
                      if isFollow d then
                        Char.ofNat (a.toNat % 8 * 262144 + followBits b * 4096
                            + followBits c * 64 + followBits d) :: lossyChars rest₃
                      else replacement :: lossyChars (d :: rest₃)
                else replacement :: lossyChars (c :: rest₂)
          else replacement :: lossyChars (b :: rest₁)

/-- The text of bytes, whatever is not UTF-8 being replaced. -/
def lossy (bs : Bytes) : String := String.ofList (lossyChars bs)

end Text
end SecurityTokens
