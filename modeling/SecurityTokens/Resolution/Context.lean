/-
# What a resolution consults

A reference is resolved in a context: the document, the results of tokens that
were processed before, collaborators each of which may be missing, the mode, and
what tells the length of keys.

| mode | a breach of the Basic Security Profile |
| --- | --- |
| strict | is an error |
| permissive | is passed over |
-/

import SecurityTokens.Resolution.KeySizing
import SecurityTokens.Secret.Asking
import SecurityTokens.Token.Processed

namespace SecurityTokens

/-- Whether the Basic Security Profile is enforced. -/
inductive Compliance where
  | strict
  | permissive
deriving DecidableEq, Repr

/-- Processes tokens of the document that a reference leads to. -/
structure TokenProcessor where
  assertion : Xml.Element → Asking Assertion
  encryptedKey : Xml.Element → Asking DecryptedKey

/-- What a resolution consults. -/
structure Context where
  document : Xml.Document
  tokens : TokenIndex
  source : Option CertificateSource
  callback : Option SecretCallback
  processor : Option TokenProcessor
  compliance : Compliance
  sizing : KeySizing

/-- Takes the outcome of a profile check into account, in strict mode only. -/
def Compliance.enforce : Compliance → Except Error Unit → Except Error Unit
  | strict, check => check
  | permissive, _ => .ok ()

namespace Context

/-- The outcome of a profile check, as far as the mode asks for it. -/
def enforce (ctx : Context) (check : Except Error Unit) : Asking Unit :=
  .ofExcept (ctx.compliance.enforce check)

/-- The source of certificates, which has to be configured. -/
def requireSource (ctx : Context) : Asking CertificateSource :=
  match ctx.source with
  | some source => pure source
  | none => .fail (.configuration .noStore)

/-- The processor of tokens, which has to be configured. -/
def requireProcessor (ctx : Context) : Asking TokenProcessor :=
  match ctx.processor with
  | some processor => pure processor
  | none => .fail (.configuration .noProcessor)

/-- Asks the callback, which has to be configured, for a secret. -/
def request (ctx : Context) (request : SecretRequest) : Asking (Option Bytes) :=
  match ctx.callback with
  | some callback => .ask callback request
  | none => .fail (.configuration .noCallback)

end Context
end SecurityTokens
