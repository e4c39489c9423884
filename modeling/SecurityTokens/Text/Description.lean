/-
# Descriptions

Values are described on one line, for people who look into a run.  A record
shows its name and its fields, a sequence its items in brackets, and something
that may be missing is `None` or `Some` of what is there.  Secrets are described
by their length, or not at all.
-/

import SecurityTokens.Bytes
import SecurityTokens.Text.Quoted

namespace SecurityTokens
namespace Text

/-- The fields of a record with their descriptions. -/
abbrev Fields := List (String × String)

/-- Items one after the other, with a comma and a blank between them. -/
def commaSeparated (items : List String) : String := ", ".intercalate items

/-- The fields of a record, each after its name. -/
def describeFields (fields : Fields) : String :=
  commaSeparated (fields.map fun f => f.1 ++ ": " ++ f.2)

/-- A record with all its fields. -/
def describeRecord (name : String) (fields : Fields) : String :=
  name ++ " \x7b " ++ describeFields fields ++ " \x7d"

/-- A record some of whose fields are not shown. -/
def describePartly (name : String) (fields : Fields) : String :=
  name ++ " \x7b " ++ describeFields fields ++ ", .. \x7d"

/-- A record none of whose fields is shown. -/
def describeHidden (name : String) : String := name ++ " \x7b .. \x7d"

/-- A value inside a named wrapper. -/
def describeWrapped (name inner : String) : String := name ++ "(" ++ inner ++ ")"

/-- A sequence of described items. -/
def describeList (items : List String) : String := "[" ++ commaSeparated items ++ "]"

/-- A value that may be missing. -/
def describeOption : Option String → String
  | none => "None"
  | some s => describeWrapped "Some" s

/-- Bytes as a sequence of numbers. -/
def describeBytes (bs : Bytes) : String := describeList (bs.map fun b => toString b.toNat)

/-- A secret: nothing but its length. -/
def describeSecret (secret : Bytes) : String := "<" ++ toString secret.length ++ " bytes>"

/-- A truth value. -/
def describeBool (b : Bool) : String := if b then "true" else "false"

/-- Secrets of one length have one description. -/
theorem describeSecret_congr {s t : Bytes} (h : s.length = t.length) :
    describeSecret s = describeSecret t := by
  simp [describeSecret, h]

end Text
end SecurityTokens
