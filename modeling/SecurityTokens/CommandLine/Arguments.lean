/-
# Arguments

A command takes options and operands.  Arguments are read from left to right:

| argument | is |
| --- | --- |
| `--name=value` | an option with its value |
| `--name` | an option; its value, if it takes one, is the next argument |
| `-v`, `-vv`, ... | flags of one letter each |
| `--` | the end of the options |
| `-`, or anything without a dash in front | an operand |

A value in an argument of its own may not begin with a dash, unless it is one.
Reading stops at the first argument that is misused or asks for help.
-/

import SecurityTokens.Text.Decimal

namespace SecurityTokens
namespace CommandLine

/-- Why reading arguments stops before their end. -/
inductive Stop where
  | misuse
  | help
  | version
deriving DecidableEq, Repr

/-- What an option takes as its value. -/
inductive ValueForm where
  | nothing
  | text
  | path
  | number
deriving DecidableEq, Repr

/-- An option of a command. -/
structure OptionForm where
  name : String
  value : ValueForm
  repeatable : Bool
deriving DecidableEq, Repr

/-- The options of a command, and how many operands it takes.  Operands are
paths. -/
structure CommandForm where
  options : List OptionForm
  operands : Nat
deriving DecidableEq, Repr

/-- The arguments of a command: values with the names of their options, in order,
and operands. -/
structure Arguments where
  options : List (String × String)
  operands : List String
deriving DecidableEq, Repr

/-- The two sides of the first equals sign of a text. -/
def splitAtEquals? (s : String) : Option (String × String) :=
  match s.toList.dropWhile (· ≠ '=') with
  | _ :: value => some (String.ofList (s.toList.takeWhile (· ≠ '=')), String.ofList value)
  | [] => none

/-- What a single argument is. -/
inductive Argument where
  | long (name : String) (value : Option String)
  | flags (letters : List Char)
  | endOfOptions
  | operand (text : String)
deriving DecidableEq, Repr

/-- What an argument is by the dashes in front of it. -/
def Argument.ofText (s : String) : Argument :=
  match s.toList with
  | ['-', '-'] => endOfOptions
  | '-' :: '-' :: rest =>
    match splitAtEquals? (String.ofList rest) with
    | some (name, value) => long name (some value)
    | none => long (String.ofList rest) none
  | '-' :: c :: rest => flags (c :: rest)
  | _ => operand s

/-- The number an option is given, with a plus or, if it is zero, a minus sign. -/
def optionNumber? (s : String) : Option Nat :=
  match s.toList with
  | '-' :: digits => (Text.digits? digits).filter (· = 0)
  | _ => Text.word? s

/-- Whether a value has the form that is asked for. -/
def ValueForm.accepts : ValueForm → String → Bool
  | nothing, _ => false
  | text, _ => true
  | path, s => s ≠ ""
  | number, s => (optionNumber? s).isSome

/-- Reads flags of one letter.  Only the program itself, not one of its commands,
can be asked for its version. -/
def readFlags (ofProgram : Bool) : List Char → Except Stop Unit
  | [] => .ok ()
  | c :: rest =>
    if c = 'v' then readFlags ofProgram rest
    else if c = 'h' then .error .help
    else if c = 'V' ∧ ofProgram then .error .version
    else .error .misuse

namespace Arguments

/-- The values of an option, in order. -/
def values (a : Arguments) (name : String) : List String :=
  (a.options.filter (·.1 == name)).map (·.2)

/-- The value of an option that is given once. -/
def value? (a : Arguments) (name : String) : Option String := (a.values name).head?

/-- The number an option is given. -/
def number? (a : Arguments) (name : String) : Option Nat := (a.value? name).bind optionNumber?

/-- Whether an option is given. -/
def has (a : Arguments) (name : String) : Bool := !(a.values name).isEmpty

end Arguments

namespace CommandForm

/-- The option with a name. -/
def option? (form : CommandForm) (name : String) : Option OptionForm :=
  form.options.find? (·.name == name)

/-- Takes an option with its value; one that is not repeatable only once. -/
def take (seen : Arguments) (option : OptionForm) (value : String) : Except Stop Arguments :=
  if !option.repeatable && seen.has option.name then .error .misuse
  else .ok { seen with options := seen.options ++ [(option.name, value)] }

/-- Takes an option with a value that has to have the form it asks for. -/
def takeValue (seen : Arguments) (option : OptionForm) (value : String) :
    Except Stop Arguments :=
  if option.value.accepts value then take seen option value else .error .misuse

/-- Takes an operand, if one more is allowed. -/
def takeOperand (form : CommandForm) (seen : Arguments) (text : String) :
    Except Stop Arguments :=
  if seen.operands.length < form.operands ∧ ValueForm.path.accepts text then
    .ok { seen with operands := seen.operands ++ [text] }
  else .error .misuse

/-- The arguments, if no operand is missing. -/
def close (form : CommandForm) (seen : Arguments) : Except Stop Arguments :=
  if seen.operands.length = form.operands then .ok seen else .error .misuse

/-- Reads the arguments that follow those seen. -/
def readAfter (form : CommandForm) (seen : Arguments) : List String → Except Stop Arguments
  | [] => form.close seen
  | argument :: rest =>
    match Argument.ofText argument with
    | .endOfOptions => (rest.foldlM form.takeOperand seen).bind form.close
    | .flags letters => (readFlags false letters).bind fun _ => form.readAfter seen rest
    | .operand text => (form.takeOperand seen text).bind fun seen => form.readAfter seen rest
    | .long name value =>
      match form.option? name, value with
      | none, value =>
        if name = "help" ∧ value = none then .error .help
        else if name = "verbose" ∧ value = none then form.readAfter seen rest
        else .error .misuse
      | some option, some value =>
        (takeValue seen option value).bind fun seen => form.readAfter seen rest
      | some option, none =>
        if option.value = .nothing then
          (take seen option "").bind fun seen => form.readAfter seen rest
        else
          match rest with
          | [] => .error .misuse
          | next :: rest =>
            match Argument.ofText next with
            | .operand value =>
              (takeValue seen option value).bind fun seen => form.readAfter seen rest
            | _ => .error .misuse

/-- Reads the arguments of a command. -/
def read (form : CommandForm) (arguments : List String) : Except Stop Arguments :=
  form.readAfter ⟨[], []⟩ arguments

end CommandForm
end CommandLine
end SecurityTokens
