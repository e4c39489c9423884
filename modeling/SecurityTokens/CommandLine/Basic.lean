/-
# The program

A run reads its arguments and, for `resolve`, files.  It ends in one of three
ways:

| end | exit code | standard output | standard error |
| --- | ---: | --- | --- |
| finished | 0 | all there is to say | |
| failed | 1 | what was said before | the error |
| misused | 2 | | how the program is used |
-/

import SecurityTokens.CommandLine.Command
import SecurityTokens.CommandLine.Report
import SecurityTokens.Header.Pass
import SecurityTokens.Secret.Table

namespace SecurityTokens
namespace CommandLine

/-- How a run ends. -/
inductive Outcome where
  | finished (output : String)
  | failed (output : String) (error : Error)
  | misused
deriving DecidableEq

namespace Outcome

/-- The exit code of the program. -/
def exitCode : Outcome → UInt32
  | finished _ => 0
  | failed _ _ => 1
  | misused => 2

/-- What the program writes to its standard output. -/
def output : Outcome → String
  | finished output => output
  | failed output _ => output
  | misused => ""

/-- What the program writes to its standard error. -/
def errorOutput : Outcome → String
  | finished _ => ""
  | failed _ error => lines ["Error: " ++ error.message]
  | misused => lines helpLines

/-- The outcome after something has been said. -/
def after (said : String) : Outcome → Outcome
  | finished output => finished (said ++ output)
  | failed output error => failed (said ++ output) error
  | misused => misused

/-- The outcome of a computation that says nothing before its end. -/
def ofExcept : Except Error String → Outcome
  | .ok output => finished output
  | .error error => failed "" error

end Outcome

/-- Enters a secret given as an identifier, an equals sign and hexadecimal text. -/
def enterSecret (t : SecretTable) (argument : String) : Except Error SecretTable :=
  match splitAtEquals? argument with
  | none => .error (.configuration (.secretArgument argument))
  | some (id, text) =>
    match Hex.decode text with
    | .ok secret => .ok (t.insertSecret id secret)
    | .error fault => .error (.configuration (.secretNotHex id fault))

/-- Enters a password given as a user name, an equals sign and the password. -/
def enterPassword (t : SecretTable) (argument : String) : Except Error SecretTable :=
  match splitAtEquals? argument with
  | none => .error (.configuration .passwordArgument)
  | some (username, password) => .ok (t.insertPassword username password)

/-- The table of all secrets and passwords that are given. -/
def secretTable (secrets passwords : List String) : Except Error SecretTable := do
  passwords.foldlM enterPassword (← secrets.foldlM enterSecret .empty)

/-- The pass over a message that tables and a store make possible. -/
def passOf (a : ResolveArguments) (store : CertificateStore) (table : SecretTable) :
    HeaderPass where
  source := store.source
  callback := table.callback
  processor := .parsing table.callback
  compliance := if a.permissive then .permissive else .strict
  sizing := ⟨some a.algorithm, a.secretKeyLength⟩

/-- Resolves references one after the other, up to the first that fails. -/
def resolveAll (ctx : Context) : List (ReferenceSite × TokenReference) → Outcome
  | [] => .finished ""
  | (site, r) :: rest =>
    let announced := lines [referenceLine site r]
    match (SecurityTokens.resolve ctx r).result with
    | .ok credential =>
      (resolveAll ctx rest).after (announced ++ lines (credentialLines credential))
    | .error error => .failed announced error

/-- The outcome of resolving the references of a message, given the context of
its header and the references, or the error that was met before. -/
def reportOn (file : String) :
    Except Error (Context × List (ReferenceSite × TokenReference)) → Outcome
  | .error error => .failed "" error
  | .ok (_, []) => .finished (lines ["No SecurityTokenReference found in " ++ file])
  | .ok (ctx, references) => resolveAll ctx references

/-- The references of a message with the context of its header. -/
def prepare (a : ResolveArguments) (document : Xml.Document) (store : CertificateStore) :
    Except Error (Context × List (ReferenceSite × TokenReference)) := do
  let table ← secretTable a.secrets a.passwords
  let pass := passOf a store table
  let some header := document.find? Namespace.security "Security"
    | throw (.xmlStructure .noSecurityHeader)
  let tokens ← (pass.indexTokens document header.element).result
  let references ← document.parseKeyReferences
  return (pass.context document tokens, references)

/-- The document that the bytes of a file are. -/
def readDocument (extra : List String) (bs : Bytes) : Except Error Xml.Document :=
  match bs.text? with
  | some text => Xml.Document.parse text extra
  | none => .error (.file .notText)

section Files

variable {m : Type → Type} [Monad m] (read : String → m (Except FileFault Bytes))

/-- Reads a file and what it holds. -/
def readFile {α : Type} (decode : Bytes → Except Error α) (path : String) :
    m (Except Error α) := do
  return ((← read path).mapError Error.file).bind decode

/-- Adds the certificates of files to a store, in order. -/
def loadCertificates (store : CertificateStore) :
    List String → m (Except Error CertificateStore)
  | [] => return .ok store
  | path :: rest => do
    match ← readFile read Certificate.ofPemOrDer path with
    | .ok certificate => loadCertificates (store.add certificate) rest
    | .error error => return .error error

/-- Resolves the references of a message. -/
def runResolve (a : ResolveArguments) : m Outcome := do
  match ← readFile read (readDocument a.idAttributes) a.file with
  | .error error => return .failed "" error
  | .ok document =>
    let store ← loadCertificates read .empty a.certificates
    return reportOn a.file (store.bind (prepare a document))

end Files

/-- Derives a key and gives it in hexadecimal. -/
def runDerive (a : DeriveArguments) : Except Error String := do
  let secret ← (Hex.decode (Text.trim a.secret)).mapError fun fault =>
    .configuration (.baseSecretNotHex fault)
  let nonce ← (Base64.decode (Text.trim a.nonce)).mapError (Error.base64 "--nonce")
  let key ← KeyDerivation.derive {
    secret, label := Bytes.ofText a.label, nonce, offset := a.offset, length := a.length
    algorithm := .pSha1 }
  return lines [Hex.encode key]

/-- Runs the program on its arguments, files being read by `read`. -/
def run {m : Type → Type} [Monad m] (read : String → m (Except FileFault Bytes))
    (arguments : List String) : m Outcome :=
  match Command.read arguments with
  | .error .misuse => return .misused
  | .error .help => return .finished (lines helpLines)
  | .error .version => return .finished (lines versionLines)
  | .ok (.resolve a) => runResolve read a
  | .ok (.derive a) => return .ofExcept (runDerive a)
  | .ok .info => return .finished (lines infoLines)

end CommandLine
end SecurityTokens
