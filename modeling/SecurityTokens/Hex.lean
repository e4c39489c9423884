/-
# Hexadecimal text

Two digits stand for one byte, the high half first.  Bytes are written with
small letters; both cases are read.  A text with an odd number of bytes is
refused before its digits are looked at, and the first byte that is no digit is
reported with its position.
-/

import SecurityTokens.Bytes
import SecurityTokens.Text.Quoted

namespace SecurityTokens
namespace Hex

/-- Why a text is not hexadecimal. -/
inductive Fault where
  | oddLength
  | invalidCharacter (byte : UInt8) (position : Nat)
deriving DecidableEq, Repr

/-- The wording of a fault; the offending byte shows as the character it is in
Latin-1. -/
def Fault.message : Fault → String
  | .oddLength => "Odd number of digits"
  | .invalidCharacter byte position =>
    "Invalid character " ++ Text.quotedChar (Char.ofNat byte.toNat) ++ " at position "
      ++ toString position

/-- The digit of a half byte. -/
def digit (n : Nat) : Char := if n < 10 then Char.ofNat (48 + n) else Char.ofNat (87 + n)

/-- The half byte a digit stands for. -/
def nibble? (b : UInt8) : Option Nat :=
  let n := b.toNat
  if 48 ≤ n ∧ n ≤ 57 then some (n - 48)
  else if 97 ≤ n ∧ n ≤ 102 then some (n - 87)
  else if 65 ≤ n ∧ n ≤ 70 then some (n - 55)
  else none

/-- Two small digits for each byte. -/
def encodeChars (bs : Bytes) : List Char :=
  bs.flatMap fun b => [digit (b.toNat / 16), digit (b.toNat % 16)]

/-- Two small digits for each byte. -/
def encode (bs : Bytes) : String := String.ofList (encodeChars bs)

/-- The half byte at a position, or the fault of the byte that stands there. -/
def nibbleAt (position : Nat) (b : UInt8) : Except Fault Nat :=
  match nibble? b with
  | some n => .ok n
  | none => .error (.invalidCharacter b position)

/-- Reads digit pairs, the first of which stands at `position`. -/
def decodeFrom (position : Nat) : Bytes → Except Fault Bytes
  | high :: low :: rest => do
    let h ← nibbleAt position high
    let l ← nibbleAt (position + 1) low
    let bs ← decodeFrom (position + 2) rest
    return UInt8.ofNat (h * 16 + l) :: bs
  | _ => return []

/-- The bytes a hexadecimal text stands for. -/
def decode (s : String) : Except Fault Bytes :=
  let bs := Bytes.ofText s
  if bs.length % 2 = 1 then .error .oddLength else decodeFrom 0 bs

end Hex
end SecurityTokens
