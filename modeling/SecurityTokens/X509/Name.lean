/-
# Distinguished names

A distinguished name is a sequence of relative names, and each of these a set
of attributes, a type with a value.  The set is kept in the order of its
encodings, all of which differ.

The text of a name gives the relative names from last to first, with commas
between them and plus signs inside them.

| attribute | written |
| --- | --- |
| type with a name, text in a known and valid encoding | name, equals sign, escaped text |
| any other | dotted type, equals sign, number sign, hexadecimal encoding |
-/

import SecurityTokens.Der.RegisteredName
import SecurityTokens.Hex
import SecurityTokens.Text.Lowercase

namespace SecurityTokens
namespace X509

open Der (Tlv ObjectId)

/-- An attribute of a name. -/
structure NameAttribute where
  type : ObjectId
  value : Tlv
deriving DecidableEq, Repr

/-- A set of attributes. -/
abbrev RelativeName := List NameAttribute

/-- A distinguished name. -/
abbrev Name := List RelativeName

/-- Characters of the string type for printing. -/
def isPrintable (b : UInt8) : Bool :=
  (65 ≤ b && b ≤ 90) || (97 ≤ b && b ≤ 122) || (48 ≤ b && b ≤ 57)
    || [32, 39, 40, 41, 43, 44, 45, 46, 47, 58, 61, 63].contains b

/-- The text of a value in one of the four string types that are read: UTF-8,
printable, and two that are read as ASCII. -/
def stringValue? (value : Tlv) : Option String :=
  if value.tag = 0x0C then Bytes.text? value.content
  else if value.tag = 0x13 then
    if value.content.all isPrintable then Bytes.text? value.content else none
  else if value.tag = 0x14 ∨ value.tag = 0x16 then
    if value.content.all (· < 0x80) then Bytes.text? value.content else none
  else none

/-- Characters that take a backslash wherever they stand. -/
def isSpecial (c : Char) : Bool := ['"', '+', ',', ';', '<', '>', '\\'].contains c

/-- A character that is not special by its place: it takes a backslash when it
means something in a name, and a control is written as two digits. -/
def escapeInner (c : Char) : List Char :=
  if isSpecial c then ['\\', c]
  else if c.toNat < 0x20 ∨ c.toNat = 0x7F then
    ['\\', Hex.digit (c.toNat / 16), Hex.digit (c.toNat % 16)]
  else [c]

/-- The rest of a value, in which a blank at the end takes a backslash. -/
def escapeRest : List Char → List Char
  | [] => []
  | [' '] => ['\\', ' ']
  | c :: cs => escapeInner c ++ escapeRest cs

/-- The text of a value: a number sign or a blank at its beginning takes a
backslash as well. -/
def escapeValue : List Char → List Char
  | '#' :: cs => '\\' :: '#' :: escapeRest cs
  | ' ' :: cs => '\\' :: ' ' :: escapeRest cs
  | cs => escapeRest cs

namespace NameAttribute

/-- The attribute of a value. -/
def ofTlv? (t : Tlv) : Option NameAttribute :=
  match t.sequence? with
  | some [type, value] => (ObjectId.ofTlv? type).map (⟨·, value⟩)
  | _ => none

/-- The attribute as a value. -/
def toTlv (a : NameAttribute) : Tlv := .sequence [a.type.toTlv, a.value]

/-- The text of an attribute.  The key is the registered name of the type, whether
or not that is one of attributes. -/
def text (a : NameAttribute) : String :=
  match a.type.name?, stringValue? a.value with
  | some key, some value =>
    Text.upperAscii key ++ "=" ++ String.ofList (escapeValue value.toList)
  | _, _ => a.type.dotted ++ "=#" ++ Hex.encode a.value.encode

end NameAttribute

/-- Puts an attribute into an ordered set, unless it is in it. -/
def insertOrdered? (a : NameAttribute) : RelativeName → Option RelativeName
  | [] => some [a]
  | b :: rest =>
    if a.toTlv.encode < b.toTlv.encode then some (a :: b :: rest)
    else if a.toTlv.encode = b.toTlv.encode then none
    else (insertOrdered? a rest).map (b :: ·)

namespace RelativeName

/-- The set of attributes in order; none may be there twice. -/
def ofAttributes? (attributes : List NameAttribute) : Option RelativeName :=
  attributes.foldlM (fun set a => insertOrdered? a set) []

/-- The relative name of a value. -/
def ofTlv? (t : Tlv) : Option RelativeName := do
  let items ← t.parts? 0x31
  ofAttributes? (← items.mapM NameAttribute.ofTlv?)

/-- The relative name as a value. -/
def toTlv (r : RelativeName) : Tlv := .set (r.map NameAttribute.toTlv)

/-- The text of a relative name. -/
def text (r : RelativeName) : String := "+".intercalate (r.map NameAttribute.text)

end RelativeName

namespace Name

/-- The name of a value. -/
def ofTlv? (t : Tlv) : Option Name := do
  let items ← t.sequence?
  items.mapM RelativeName.ofTlv?

/-- The name as a value. -/
def toTlv (n : Name) : Tlv := .sequence (n.map RelativeName.toTlv)

/-- The text of a name. -/
def text (n : Name) : String := ",".intercalate (n.reverse.map RelativeName.text)

end Name
end X509
end SecurityTokens
