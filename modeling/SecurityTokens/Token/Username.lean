/-
# User name tokens

A `wsse:UsernameToken` names a user.  A key comes from the user's password in
one of two ways: from salt and iteration count, or from nonce and creation time.

| part | read from |
| --- | --- |
| user name | `wsse:Username`, which may not be empty |
| password and its type | `wsse:Password`, a missing type standing for clear text |
| nonce, salt | base64 text of `wsse:Nonce`, `wsse11:Salt` |
| iterations | `wsse11:Iteration`, within the limits of key derivation |
| creation time | `wsu:Created` |
-/

import SecurityTokens.KeyDerivation
import SecurityTokens.Token.Field

namespace SecurityTokens

/-- A password with the type it is declared to have.  A missing type is filled in
when the `wsse:Password` is read, and nothing else states one, so a token has both
or neither. -/
structure Password where
  text : String
  type : String
deriving DecidableEq, Repr

/-- A user name token. -/
structure UsernameToken where
  id : Option String
  username : String
  password : Option Password
  nonce : Option Bytes
  created : Option String
  salt : Option Bytes
  iterations : Option Nat
deriving DecidableEq, Repr

namespace Password

/-- The password a `wsse:Password` holds. -/
def ofElement (e : Xml.Element) : Password := ⟨e.text, (e.attribute? "Type").getD PasswordType.text⟩

/-- The password, unless what the token holds is a digest of it. -/
def cleartext? (p : Password) : Option String :=
  if p.type = PasswordType.digest then none else some p.text

end Password

namespace UsernameToken

/-- The token a `wsse:UsernameToken` stands for. -/
def ofElement (e : Xml.Element) : Except Error UsernameToken := do
  if !e.isNamed Namespace.security "UsernameToken" then
    throw (.xmlStructure (.expected "wsse:UsernameToken"))
  let username := (e.child? Namespace.security "Username").elim "" Xml.Element.text
  if username = "" then throw (.xmlStructure (.without "UsernameToken" "Username"))
  let nonce ← readOptional (fun n => decodeBase64Text "UsernameToken Nonce" n.text)
    (e.child? Namespace.security "Nonce")
  let salt ← readOptional (fun n => decodeBase64Text "UsernameToken Salt" n.text)
    (e.child? Namespace.security11 "Salt")
  let iterations ← readOptional (readNumber "UsernameToken Iteration")
    (e.child? Namespace.security11 "Iteration")
  match iterations with
  | some n => KeyDerivation.checkIterations n
  | none => pure ()
  return {
    id := e.id?
    username
    password := (e.child? Namespace.security "Password").map Password.ofElement
    nonce
    created := (e.child? Namespace.utility "Created").map Xml.Element.text
    salt
    iterations }

/-- Whether the key comes from salt and iteration count. -/
def isDerivedKey (t : UsernameToken) : Bool := t.salt.isSome && t.iterations.isSome

/-- The password, if the token holds it in the clear. -/
def cleartextPassword? (t : UsernameToken) : Option String := t.password.bind Password.cleartext?

/-- The key from a password with the token's salt and iteration count. -/
def derivedKey (t : UsernameToken) (password : Bytes) : Except Error Bytes :=
  match t.salt, t.iterations with
  | some salt, some iterations => KeyDerivation.passwordKey password salt iterations
  | _, _ => .error (.derivation .noSaltAndIteration)

/-- The secret of some length from a password with the token's nonce and
creation time. -/
def secretKey (t : UsernameToken) (password : Bytes) (length : Nat) : Except Error Bytes :=
  match t.nonce, t.created with
  | some nonce, some created =>
    KeyDerivation.passwordSecret password nonce (Bytes.ofText created) length
  | none, _ => .error (.derivation .noNonce)
  | some _, none => .error (.derivation .noCreated)

/-- The description of a token, without password and nonce. -/
def describe (t : UsernameToken) : String :=
  Text.describeRecord "UsernameToken"
    [("id", Text.quotedOption t.id), ("username", Text.quoted t.username),
     ("password", Text.quotedOption (t.password.map fun _ => "<redacted>")),
     ("password_type", Text.quotedOption (t.password.map (·.type))),
     ("created", Text.quotedOption t.created), ("salt", Text.describeBool t.salt.isSome),
     ("iterations", Text.describeOption (t.iterations.map toString))]

end UsernameToken
end SecurityTokens
