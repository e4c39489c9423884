/-
# Comparing printed names and serial numbers

References give the issuer of a certificate as printed text.  Two texts name the
same issuer when they have equal components: types are compared under one of
their spellings, values without regard to case and to blanks around them.

| spellings of a type, in any case | compared as |
| --- | --- |
| `CN`, 2.5.4.3 | `CN` |
| `O`, 2.5.4.10 | `O` |
| `OU`, 2.5.4.11 | `OU` |
| `C`, 2.5.4.6 | `C` |
| `L`, 2.5.4.7 | `L` |
| `S`, `ST`, 2.5.4.8 | `ST` |
| `E`, `EMAILADDRESS`, 1.2.840.113549.1.9.1 | `EMAILADDRESS` |
| any other | the spelling in capitals |

A serial number is given in decimal digits; zeros in front change nothing.
-/

import SecurityTokens.Text.Blank
import SecurityTokens.Text.Lowercase

namespace SecurityTokens
namespace X509

/-- One component of a printed name: a type and a value. -/
structure NameComponent where
  type : String
  value : String
deriving DecidableEq, Repr

/-- The spellings of attribute types that are compared under another one. -/
def typeSpellings : List (String × String) :=
  [("2.5.4.3", "CN"), ("2.5.4.10", "O"), ("2.5.4.11", "OU"), ("2.5.4.6", "C"), ("2.5.4.7", "L"),
   ("S", "ST"), ("2.5.4.8", "ST"), ("E", "EMAILADDRESS"), ("1.2.840.113549.1.9.1", "EMAILADDRESS")]

/-- The spelling a type is compared under. -/
def canonicalType (type : String) : String :=
  let type := Text.upperAscii type
  (typeSpellings.lookup type).getD type

/-- Cuts a name at its separators, commas and semicolons that no backslash
precedes.  `current` is the component being read, backwards. -/
def cutComponents (current : List Char) : List Char → List (List Char)
  | [] => [current.reverse]
  | '\\' :: c :: cs => cutComponents (c :: '\\' :: current) cs
  | c :: cs =>
    if c = ',' ∨ c = ';' then current.reverse :: cutComponents [] cs
    else cutComponents (c :: current) cs

/-- The components of a name as they are written; the last one counts only if it
is not blank. -/
def components (name : String) : List (List Char) :=
  let cut := cutComponents [] name.toList
  if (cut.getLastD []).all Text.isBlank then cut.dropLast else cut

namespace NameComponent

/-- The component some text stands for: the first equals sign ends the type, and
without one there is no type. -/
def ofChars (cs : List Char) : NameComponent :=
  match cs.dropWhile (· ≠ '=') with
  | _ :: value =>
    ⟨canonicalType (Text.trim (String.ofList (cs.takeWhile (· ≠ '=')))),
     Text.lower (Text.trim (String.ofList value))⟩
  | [] => ⟨"", Text.lower (Text.trim (String.ofList cs))⟩

end NameComponent

/-- What two printed names have to agree in to name the same issuer. -/
def comparisonForm (name : String) : List NameComponent :=
  (components name).map NameComponent.ofChars

/-- A serial number without blanks around it and zeros in front. -/
def normalSerial (serial : String) : String :=
  match (Text.trim serial).toList.dropWhile (· == '0') with
  | [] => "0"
  | digits => String.ofList digits

end X509
end SecurityTokens
