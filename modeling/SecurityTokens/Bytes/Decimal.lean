/-
# Bytes in decimal

A number of many bytes is written in decimal without being held in one word.  Its
digits so far, the least significant one first, are those of the bytes read so
far.  Each further byte multiplies them by 256 and is added: what a digit cannot
hold is carried to the next one, and what the last digit cannot hold becomes
further digits.

| bytes | digits, least significant first |
| --- | --- |
| none | 0 |
| `01` | 1 |
| `01 00` | 6, 5, 2 |
-/

import SecurityTokens.Bytes

namespace SecurityTokens
namespace Bytes

/-- The digits that become of a carry beyond the last digit. -/
def carryDigits (carry : Nat) : List Nat :=
  if carry = 0 then [] else carry % 10 :: carryDigits (carry / 10)
termination_by carry
decreasing_by omega

/-- Digits that are multiplied by 256, with `carry` added to the least significant one. -/
def shiftDigits (carry : Nat) : List Nat → List Nat
  | [] => carryDigits carry
  | d :: ds => (d * 256 + carry) % 10 :: shiftDigits ((d * 256 + carry) / 10) ds

/-- The decimal digits of big-endian bytes, zeros behind the last one that counts
included. -/
def digits (bs : Bytes) : List Nat := bs.foldl (fun ds b => shiftDigits b.toNat ds) [0]

/-- The decimal numeral of big-endian bytes, without zeros in front. -/
def decimal (bs : Bytes) : String :=
  match (digits bs).reverse.dropWhile (· == 0) with
  | [] => "0"
  | ds => String.ofList (ds.map Nat.digitChar)

end Bytes
end SecurityTokens
