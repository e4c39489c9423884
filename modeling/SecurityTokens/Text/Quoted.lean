/-
# Quoted text

Messages and descriptions show texts between double quotes and characters
between single ones.  The quote in use and the backslash take a backslash, four
controls have a short form, and every other character that does not show as
itself is written by its code point:

| character | written |
| --- | --- |
| quote, backslash | after a backslash |
| line feed, carriage return, tab, NUL | `\n`, `\r`, `\t`, `\0` |
| unprintable or extending a grapheme | backslash, `u`, hexadecimal in braces |
| any other | as it is |
-/

import SecurityTokens.Text.Unprintable

namespace SecurityTokens
namespace Text

/-- The lower-case hexadecimal numeral of a number. -/
def hexNumeral (n : Nat) : List Char := Nat.toDigits 16 n

/-- One character between quotes of the given kind. -/
def escapeChar (quote : Char) (c : Char) : List Char :=
  if c = quote then ['\\', c]
  else
    match c with
    | '\\' => ['\\', '\\']
    | '\n' => ['\\', 'n']
    | '\r' => ['\\', 'r']
    | '\t' => ['\\', 't']
    | _ =>
      if c.toNat = 0 then ['\\', '0']
      else if isPlain c then [c]
      else ['\\', 'u', '\x7b'] ++ hexNumeral c.toNat ++ ['\x7d']

/-- A text between double quotes. -/
def quoted (s : String) : String :=
  String.ofList ('"' :: s.toList.flatMap (escapeChar '"') ++ ['"'])

/-- A character between single quotes. -/
def quotedChar (c : Char) : String :=
  String.ofList ('\'' :: escapeChar '\'' c ++ ['\''])

/-- A text that may be missing: `None`, or `Some` of the quoted text. -/
def quotedOption : Option String → String
  | none => "None"
  | some s => "Some(" ++ quoted s ++ ")"

end Text
end SecurityTokens
