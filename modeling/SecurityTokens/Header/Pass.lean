/-
# One pass over a security header

The tokens of a `wsse:Security` header are processed in document order, each in
the context of the tokens before it.  What is recorded when a token is processed
comes before it; the document, in which its reference is followed if it leads to
nothing recorded, holds tokens after it as well.

| element | entered under |
| --- | --- |
| binary token, user name token, derived key token | its identifier |
| security context token | its identifier, or else that of its context |
| assertion, encrypted key | the identifier the processor gives |
| any other | nothing |

A token without an identifier is processed and not entered.  An encrypted key
whose secret is not found is passed over; any other error ends the pass.
-/

import SecurityTokens.Header.Processing

namespace SecurityTokens

/-- The collaborators of a pass. -/
structure HeaderPass where
  source : CertificateSource
  callback : SecretCallback
  processor : TokenProcessor
  compliance : Compliance
  sizing : KeySizing

/-- The result of a computation, or nothing when something it asks for is not
there. -/
def Asking.unlessMissing {α : Type} (x : Asking α) : Asking (Option α) where
  requests := x.requests
  result :=
    match x.result with
    | .ok a => .ok (some a)
    | .error (.notFound _) => .ok none
    | .error e => .error e

namespace HeaderPass

/-- The context in which references are resolved against an index. -/
def context (pass : HeaderPass) (document : Xml.Document) (tokens : TokenIndex) : Context where
  document
  tokens
  source := some pass.source
  callback := some pass.callback
  processor := some pass.processor
  compliance := pass.compliance
  sizing := pass.sizing

/-- A result with the identifier it is entered under, if there is one. -/
def entry (id : Option String) (token : ProcessedToken) : Option (String × ProcessedToken) :=
  (id.filter (· ≠ "")).map (·, token)

/-- The entry of one element of a header, in the context of those before it. -/
def process (pass : HeaderPass) (ctx : Context) (e : Xml.Element) :
    Asking (Option (String × ProcessedToken)) :=
  if e.isNamed Namespace.security "BinarySecurityToken" then do
    let token ← BinaryToken.ofElement e
    let result ← token.process pass.source false
    return entry token.id (.binary result)
  else if e.isNamed Namespace.security "UsernameToken" then do
    let token ← UsernameToken.ofElement e
    return entry token.id (.username token)
  else if (conversationOf? e "DerivedKeyToken").isSome then do
    let based ← BasedDerivedKey.ofElement ctx e
    return entry based.token.id (.derivedKey based)
  else if (conversationOf? e "SecurityContextToken").isSome then do
    let context ← EstablishedContext.ofElement ctx e
    return entry (some context.id) (.securityContext context)
  else if (AssertionVersion.ofElement? e).isSome then do
    let a ← pass.processor.assertion e
    return entry (some a.id) (.assertion a)
  else if e.isNamed Namespace.encryption "EncryptedKey" then do
    let key ← (pass.processor.encryptedKey e).unlessMissing
    return key.bind fun key => entry (some key.id) (.encryptedKey key)
  else return none

/-- Processes one more element of a header. -/
def step (pass : HeaderPass) (document : Xml.Document) (tokens : TokenIndex) (e : Xml.Element) :
    Asking TokenIndex := do
  match ← pass.process (pass.context document tokens) e with
  | some (id, token) => tokens.insert id token
  | none => return tokens

/-- The index of the tokens of a header. -/
def indexTokens (pass : HeaderPass) (document : Xml.Document) (header : Xml.Element) :
    Asking TokenIndex :=
  header.elements.foldlM (pass.step document) .empty

end HeaderPass
end SecurityTokens
