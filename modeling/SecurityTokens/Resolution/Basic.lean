/-
# Resolving references

A reference is resolved to a credential.  A token that was processed before is
found by the identifier the reference looks up; only if there is none does the
reference lead into the document, to the source of certificates or to the
callback.

| the token is | material is taken from |
| --- | --- |
| processed before | its result |
| a binary token of the document | the certificates it holds |
| an assertion of the document | the processor |
| an encrypted key of the document | the processor |
| any other element, or outside the document | the callback |

In strict mode the structure of the reference is checked first, and its fit to
the token as soon as the token's kind is known.
-/

import SecurityTokens.Credential
import SecurityTokens.Profile
import SecurityTokens.Resolution.Context
import SecurityTokens.Resolution.Lookup

namespace SecurityTokens

/-- A secret that the callback gives under an identifier. -/
def Context.secretCredential (ctx : Context) (id : String) (typeHint : Option String) :
    Asking Credential := do
  let answer ← ctx.request ⟨id, typeHint, .secretKey⟩
  let secret ← Asking.require (.secret id) answer
  return .ofSecret id secret

/-- The password of a user name token: its own, or the one the callback gives. -/
def Context.passwordOf (ctx : Context) (t : UsernameToken) : Asking Bytes :=
  match t.cleartextPassword? with
  | some password => pure (Bytes.ofText password)
  | none => do
    let answer ← ctx.request ⟨t.username, t.password.map (·.type), .password⟩
    Asking.require (.password t.username) answer

/-- The key a user name token gives with a password. -/
def UsernameToken.keyFor (t : UsernameToken) (sizing : KeySizing) (password : Bytes) :
    Except Error Bytes :=
  if t.isDerivedKey then t.derivedKey password
  else do t.secretKey password (← sizing.secretKeyLength)

/-- The length of the key a derived key token gives: its own if that is positive. -/
def DerivedKeyToken.keyLength (t : DerivedKeyToken) (sizing : KeySizing) : Except Error Nat :=
  match t.length.filter (· > 0) with
  | some length => .ok length
  | none => sizing.algorithmKeyLength

/-- The key of a derived key token with its parameters. -/
def BasedDerivedKey.credential (based : BasedDerivedKey) (sizing : KeySizing) :
    Except Error Credential := do
  let length ← based.token.keyLength sizing
  let secret ← based.token.deriveKey length based.baseSecret
  let principal ← DerivedKeyPrincipal.ofToken based.token length based.baseSecret
  return { secretKey := some secret, principal := ⟨principal.id, some (.derivedKey principal)⟩ }

namespace Resolution

/-- The material of a token that was processed before. -/
def ofProcessed (ctx : Context) (r : TokenReference) : ProcessedToken → Asking Credential
  | .username token => do
    ctx.enforce (Profile.checkUsernameToken r)
    let password ← ctx.passwordOf token
    let secret ← token.keyFor ctx.sizing password
    return { secretKey := some secret
             principal := ⟨token.username, some (.username (.ofToken token))⟩ }
  | .binary token => do
    ctx.enforce (Profile.checkBinaryToken r (some token.valueType))
    return .ofCertificates token.certificates token.validated
  | .encryptedKey key => do
    ctx.enforce (Profile.checkEncryptedKey r)
    return .ofSecret key.id key.secret
  | .securityContext context => return .ofSecret context.identifier context.secret
  | .derivedKey based => .ofExcept (based.credential ctx.sizing)
  | .assertion a => do
    ctx.enforce (Profile.checkAssertion r a.version)
    return .ofAssertion a

/-- The certificates of a binary token of the document. -/
def ofBinaryToken (ctx : Context) (r : TokenReference) (e : Xml.Element) : Asking Credential := do
  let source ← ctx.requireSource
  let token ← BinaryToken.ofElement e
  let _ ← token.encoding
  ctx.enforce (Profile.checkBinaryToken r (some token.valueType))
  let certificates ← token.certificates source
  return .ofCertificates certificates false

/-- The subject of an assertion of the document. -/
def ofAssertionElement (ctx : Context) (r : TokenReference) (e : Xml.Element) :
    Asking Credential := do
  let processor ← ctx.requireProcessor
  let a ← processor.assertion e
  ctx.enforce (Profile.checkAssertion r a.version)
  return .ofAssertion a

/-- The secret of an encrypted key of the document, found under `id`. -/
def ofEncryptedKeyElement (ctx : Context) (r : TokenReference) (id : String) (e : Xml.Element) :
    Asking Credential := do
  ctx.enforce (Profile.checkEncryptedKey r)
  let processor ← ctx.requireProcessor
  let key ← processor.encryptedKey e
  return .ofSecret (e.id?.getD id) key.secret

/-- The material of an element of the document, found under `id`. -/
def ofElement (ctx : Context) (r : TokenReference) (id : String) (valueType : Option String)
    (e : Xml.Element) : Asking Credential :=
  if e.isNamed Namespace.security "BinarySecurityToken" then ofBinaryToken ctx r e
  else if (AssertionVersion.ofElement? e).isSome then ofAssertionElement ctx r e
  else if e.isNamed Namespace.encryption "EncryptedKey" then ofEncryptedKeyElement ctx r id e
  else ctx.secretCredential id valueType

/-- What a URI leads to: an element of the document if it is a number sign with
an identifier, and otherwise a secret outside. -/
def ofDirect (ctx : Context) (r : TokenReference) (uri : String) (valueType : Option String) :
    Asking Credential :=
  match fragment? uri with
  | none => ctx.secretCredential uri valueType
  | some id => do
    let found ← ctx.document.elementById id
    let place ← Asking.require (.element id) found
    ofElement ctx r id valueType place.element

/-- The certificate with an issuer and serial number. -/
def ofIssuerSerial (ctx : Context) (issuer serial : String) : Asking Credential := do
  let source ← ctx.requireSource
  let found ← source.byIssuerSerial issuer serial
  let certificate ← Asking.require (.issuedCertificate issuer serial) found
  return .ofCertificates [certificate] false

/-- What a key identifier names. -/
def ofKeyIdentifier (ctx : Context) (r : TokenReference) (value : String) :
    IdentifierTarget → Asking Credential
  | .encryptedKey => do
    ctx.enforce (Profile.checkEncryptedKey r)
    ctx.secretCredential value (some ValueType.encryptedKeySha1)
  | .assertion => do
    let found ← ctx.document.elementById value
    let place ← Asking.require (.assertion value) found
    ofAssertionElement ctx r place.element
  | .certificate identifier => do
    ctx.enforce (Profile.checkBinaryToken r none)
    let source ← ctx.requireSource
    let bytes ← decodeBase64Text "KeyIdentifier" value
    let found ← source.byIdentifier identifier bytes
    let certificate ← Asking.require (.certificate identifier value) found
    return .ofCertificates [certificate] false

/-- What a reference asks for, when it was not processed before. -/
def ofLookup (ctx : Context) (r : TokenReference) : Lookup → Asking Credential
  | .direct uri valueType => ofDirect ctx r uri valueType
  | .issuerSerial issuer serial => ofIssuerSerial ctx issuer serial
  | .keyIdentifier target value => ofKeyIdentifier ctx r value target

/-- The result of processing the token a reference looks up, if it was processed
before. -/
def processed? (ctx : Context) (r : TokenReference) : Option ProcessedToken :=
  r.lookupId?.bind ctx.tokens.get?

/-- Names a credential and refuses it if it is without key material. -/
def complete (r : TokenReference) (c : Credential) : Except Error Credential :=
  if c.withSubjectName.isEmpty then
    .error (.notFound (.keyMaterial (r.lookupId?.getD "<X509IssuerSerial>")))
  else .ok c.withSubjectName

end Resolution

open Resolution in
/-- The credential a reference leads to. -/
def resolve (ctx : Context) (r : TokenReference) : Asking Credential := do
  ctx.enforce (Profile.checkStructure r)
  let lookup ← r.lookup
  let credential ← match processed? ctx r with
    | some token => ofProcessed ctx r token
    | none => ofLookup ctx r lookup
  complete r credential

end SecurityTokens
