/-
# Commands

| command | operand | options |
| --- | --- | --- |
| `resolve` | the message | those of `ResolveArguments.form` |
| `derive` | | those of `DeriveArguments.form` |
| `info` | | |
| `help` | a command, or none | |

Certificates, secrets, passwords and identifier attributes may be given several
times.  Flags may stand before the command as well.
-/

import SecurityTokens.CommandLine.Arguments
import SecurityTokens.KeyDerivation

namespace SecurityTokens
namespace CommandLine

/-- What the references of a message are resolved with. -/
structure ResolveArguments where
  file : String
  certificates : List String
  secrets : List String
  passwords : List String
  algorithm : String
  secretKeyLength : Option Nat
  permissive : Bool
  idAttributes : List String
deriving DecidableEq, Repr

/-- What a key is derived from. -/
structure DeriveArguments where
  secret : String
  nonce : String
  label : String
  offset : Nat
  length : Nat
deriving DecidableEq, Repr

/-- A command. -/
inductive Command where
  | resolve (arguments : ResolveArguments)
  | derive (arguments : DeriveArguments)
  | info
deriving DecidableEq, Repr

namespace ResolveArguments

/-- The options of `resolve`. -/
def form : CommandForm where
  options :=
    [⟨"cert", .path, true⟩, ⟨"secret", .text, true⟩, ⟨"password", .text, true⟩,
     ⟨"algorithm", .text, false⟩, ⟨"secret-key-length", .number, false⟩,
     ⟨"permissive", .nothing, false⟩, ⟨"id-attr", .text, true⟩]
  operands := 1

/-- The arguments of `resolve`; keys are sized for HMAC-SHA1 unless another
algorithm is given. -/
def ofArguments (a : Arguments) : Except Stop ResolveArguments :=
  match a.operands with
  | [file] => .ok {
      file
      certificates := a.values "cert"
      secrets := a.values "secret"
      passwords := a.values "password"
      algorithm := (a.value? "algorithm").getD Algorithm.hmacSha1
      secretKeyLength := a.number? "secret-key-length"
      permissive := a.has "permissive"
      idAttributes := a.values "id-attr" }
  | _ => .error .misuse

end ResolveArguments

namespace DeriveArguments

/-- The options of `derive`. -/
def form : CommandForm where
  options :=
    [⟨"secret", .text, false⟩, ⟨"nonce", .text, false⟩, ⟨"label", .text, false⟩,
     ⟨"offset", .number, false⟩, ⟨"length", .number, false⟩]
  operands := 0

/-- The number of bytes that are derived when no length is given. -/
def defaultLength : Nat := 32

/-- The arguments of `derive`, of which secret and nonce are required. -/
def ofArguments (a : Arguments) : Except Stop DeriveArguments :=
  match a.value? "secret", a.value? "nonce" with
  | some secret, some nonce => .ok {
      secret
      nonce
      label := (a.value? "label").getD KeyDerivation.defaultLabel
      offset := (a.number? "offset").getD 0
      length := (a.number? "length").getD defaultLength }
  | _, _ => .error .misuse

end DeriveArguments

namespace Command

/-- The options of `info`, of which there are none. -/
def infoForm : CommandForm := ⟨[], 0⟩

/-- The names of the commands that have no others inside them. -/
def names : List String := ["resolve", "derive", "info", "help"]

/-- Reads the arguments of `help`. -/
def readHelp : List String → Stop
  | [] => .help
  | [name] => if names.contains name then .help else .misuse
  | _ => .misuse

/-- Reads the arguments of the program: flags, a command and its arguments. -/
def read : List String → Except Stop Command
  | [] => .error .misuse
  | argument :: rest =>
    match Argument.ofText argument with
    | .flags letters => (readFlags true letters).bind fun _ => read rest
    | .long "verbose" none => read rest
    | .long "help" none => .error .help
    | .long "version" none => .error .version
    | .operand "resolve" =>
      ((ResolveArguments.form.read rest).bind ResolveArguments.ofArguments).map resolve
    | .operand "derive" =>
      ((DeriveArguments.form.read rest).bind DeriveArguments.ofArguments).map derive
    | .operand "info" => (infoForm.read rest).map fun _ => info
    | .operand "help" => .error (readHelp rest)
    | _ => .error .misuse

end Command
end CommandLine
end SecurityTokens
