/-
# Base64 text

The standard alphabet with padding.  Every quad of symbols stands for three
bytes; the last quad may end in one or two pads and then stands for two bytes
or one, the bits left over being zero.  So each sequence of bytes has exactly
one text.

| fault | of |
| --- | --- |
| `invalidByte` | a byte outside the alphabet, or a pad out of place |
| `invalidLength` | fewer than two symbols in the last quad |
| `invalidPadding` | a last quad that is not filled up to four |
| `invalidLastSymbol` | left-over bits that are not zero |
-/

import SecurityTokens.Bytes
import SecurityTokens.Text.Blank

namespace SecurityTokens
namespace Base64

/-- Why a text is not base64. -/
inductive Fault where
  | emptyValue
  | invalidByte (offset : Nat) (byte : UInt8)
  | invalidLength (symbols : Nat)
  | invalidPadding
  | invalidLastSymbol (offset : Nat) (byte : UInt8)
deriving DecidableEq, Repr

/-- The wording of a fault. -/
def Fault.message : Fault → String
  | .emptyValue => "empty value"
  | .invalidByte offset byte =>
    "Invalid symbol " ++ toString byte.toNat ++ ", offset " ++ toString offset ++ "."
  | .invalidLength symbols => "Invalid input length: " ++ toString symbols
  | .invalidPadding => "Invalid padding"
  | .invalidLastSymbol offset byte =>
    "Invalid last symbol " ++ toString byte.toNat ++ ", offset " ++ toString offset ++ "."

/-- The pad, an equals sign. -/
def pad : UInt8 := 61

/-- The symbol of a six-bit number: capital letters, small letters, digits, plus
sign, slash. -/
def symbol (n : Nat) : UInt8 :=
  if n < 26 then UInt8.ofNat (65 + n)
  else if n < 52 then UInt8.ofNat (71 + n)
  else if n < 62 then UInt8.ofNat (n - 4)
  else if n = 62 then 43
  else 47

/-- The six-bit number of a symbol. -/
def value? (b : UInt8) : Option Nat :=
  let n := b.toNat
  if 65 ≤ n ∧ n ≤ 90 then some (n - 65)
  else if 97 ≤ n ∧ n ≤ 122 then some (n - 71)
  else if 48 ≤ n ∧ n ≤ 57 then some (n + 4)
  else if n = 43 then some 62
  else if n = 47 then some 63
  else none

/-- The text of a sequence of bytes. -/
def encodeBytes : Bytes → Bytes
  | a :: b :: c :: rest =>
    let n := a.toNat * 65536 + b.toNat * 256 + c.toNat
    symbol (n / 262144) :: symbol (n / 4096 % 64) :: symbol (n / 64 % 64) :: symbol (n % 64)
      :: encodeBytes rest
  | [a, b] =>
    let n := a.toNat * 1024 + b.toNat * 4
    [symbol (n / 4096), symbol (n / 64 % 64), symbol (n % 64), pad]
  | [a] =>
    let n := a.toNat * 16
    [symbol (n / 64), symbol (n % 64), pad, pad]
  | [] => []

/-- The text of a sequence of bytes. -/
def encode (bs : Bytes) : String :=
  String.ofList ((encodeBytes bs).map fun b => Char.ofNat b.toNat)

/-- The number of the symbol at an offset, or the fault of the byte there. -/
def valueAt (offset : Nat) (b : UInt8) : Except Fault Nat :=
  match value? b with
  | some n => .ok n
  | none => .error (.invalidByte offset b)

/-- The numbers of a run of symbols that starts at an offset. -/
def valuesFrom (offset : Nat) : Bytes → Except Fault (List Nat)
  | [] => return []
  | b :: bs => do
    let n ← valueAt offset b
    let ns ← valuesFrom (offset + 1) bs
    return n :: ns

/-- The pads after `symbols` many symbols: only pads, and none among the first
two places of the quad. -/
def checkPads (offset symbols : Nat) (pads : Bytes) : Except Fault Unit :=
  if pads ≠ [] ∧ (symbols < 2 ∨ pads.any (· != pad)) then
    .error (.invalidByte (offset + symbols) pad)
  else .ok ()

/-- The bytes of a last quad, given its symbols, their numbers and its pads. -/
def closeQuad (offset : Nat) (symbols : Bytes) (pads : Nat) : List Nat → Except Fault Bytes
  | [p, q, r, s] =>
    let n := p * 262144 + q * 4096 + r * 64 + s
    if pads ≠ 0 then .error .invalidPadding
    else .ok [UInt8.ofNat (n / 65536), UInt8.ofNat (n / 256), UInt8.ofNat n]
  | [p, q, r] =>
    let n := p * 4096 + q * 64 + r
    if pads ≠ 1 then .error .invalidPadding
    else if n % 4 ≠ 0 then .error (.invalidLastSymbol (offset + 2) (symbols.getLastD pad))
    else .ok [UInt8.ofNat (n / 1024), UInt8.ofNat (n / 4)]
  | [p, q] =>
    let n := p * 64 + q
    if pads ≠ 2 then .error .invalidPadding
    else if n % 16 ≠ 0 then .error (.invalidLastSymbol (offset + 1) (symbols.getLastD pad))
    else .ok [UInt8.ofNat (n / 16)]
  | values => .error (.invalidLength (offset + values.length))

/-- The bytes of the last quad: up to the first pad it holds symbols, from there
on pads. -/
def decodeLast (offset : Nat) (quad : Bytes) : Except Fault Bytes := do
  let symbols := quad.takeWhile (· != pad)
  let pads := quad.dropWhile (· != pad)
  let values ← valuesFrom offset symbols
  checkPads offset symbols.length pads
  closeQuad offset symbols pads.length values

/-- Reads quads, the first of which starts at `offset`.  A quad that more text
follows holds four symbols. -/
def decodeFrom (offset : Nat) : Bytes → Except Fault Bytes
  | a :: b :: c :: d :: e :: rest => do
    let values ← valuesFrom offset [a, b, c, d]
    let bs ← closeQuad offset [a, b, c, d] 0 values
    let tail ← decodeFrom (offset + 4) (e :: rest)
    return bs ++ tail
  | [] => return []
  | quad => decodeLast offset quad

/-- The bytes of the quads before the first one that is not four symbols. -/
def decodeQuads : Bytes → Bytes
  | a :: b :: c :: d :: rest =>
    match [a, b, c, d].mapM value? with
    | some [p, q, r, s] =>
      let n := p * 262144 + q * 4096 + r * 64 + s
      UInt8.ofNat (n / 65536) :: UInt8.ofNat (n / 256) :: UInt8.ofNat n :: decodeQuads rest
    | _ => []
  | _ => []

/-- A text one symbol longer than whole quads is refused at once if that symbol
is no symbol. -/
def checkLone (bs : Bytes) : Except Fault Unit :=
  match bs.getLast? with
  | some b =>
    if bs.length % 4 = 1 ∧ b ≠ pad ∧ value? b = none then
      .error (.invalidByte (bs.length - 1) b)
    else .ok ()
  | none => .ok ()

/-- The bytes a base64 text stands for. -/
def decodeBytes (bs : Bytes) : Except Fault Bytes := do
  checkLone bs
  decodeFrom 0 bs

/-- The bytes a base64 text stands for; white space is not skipped. -/
def decode (s : String) : Except Fault Bytes := decodeBytes (Bytes.ofText s)

/-- The bytes of an element's base64 text, which may hold white space anywhere
but not consist of it. -/
def decodeText (s : String) : Except Fault Bytes :=
  let text := Text.dropBlanks s
  if text = "" then .error .emptyValue else decode text

end Base64
end SecurityTokens
