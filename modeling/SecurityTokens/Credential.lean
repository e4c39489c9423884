/-
# Credentials

A credential is what a reference leads to: key material and an identity.  The
material is of one or several kinds:

| material | comes from |
| --- | --- |
| certificates | binary tokens, key identifiers, issuer and serial, assertions |
| public key | assertions |
| secret key | all other tokens, and assertions that come with a secret |

The identity is a name, with the token it was taken from where that tells more.
A credential is trusted when trust in its material has been established before.
-/

import SecurityTokens.Token.Processed

namespace SecurityTokens

/-- What of a user name token goes with the identity of its user. -/
structure UsernamePrincipal where
  passwordType : Option String
  nonce : Option Bytes
  created : Option String
deriving DecidableEq

/-- The parameters of a derived key with the secret it derives from. -/
structure DerivedKeyPrincipal where
  id : String
  nonce : Bytes
  label : String
  offset : Nat
  length : Nat
  baseSecret : Bytes
deriving DecidableEq

/-- The token an identity was taken from. -/
inductive PrincipalToken where
  | username (principal : UsernamePrincipal)
  | derivedKey (principal : DerivedKeyPrincipal)
  | assertion (assertion : Assertion)
deriving DecidableEq

/-- An identity. -/
structure Principal where
  name : String
  token : Option PrincipalToken
deriving DecidableEq

/-- What a reference leads to. -/
structure Credential where
  certificates : List Certificate := []
  publicKey : Option PublicKey := none
  secretKey : Option Bytes := none
  principal : Principal := ⟨"", none⟩
  trusted : Bool := false
deriving DecidableEq

/-- What of a user name token goes with the identity of its user. -/
def UsernamePrincipal.ofToken (t : UsernameToken) : UsernamePrincipal :=
  ⟨t.password.map (·.type), t.nonce, t.created⟩

/-- The parameters of the key of some length that a token derives from a secret. -/
def DerivedKeyPrincipal.ofToken (t : DerivedKeyToken) (length : Nat) (baseSecret : Bytes) :
    Except Error DerivedKeyPrincipal := do
  return { id := t.id.getD "", nonce := t.nonce, label := t.effectiveLabel,
           offset := ← t.effectiveOffset length, length, baseSecret }

/-- An identity that is a name alone. -/
def Principal.named (name : String) : Principal := ⟨name, none⟩

/-- Whether nothing is known of the identity. -/
def Principal.isUnknown (p : Principal) : Bool := p.name == "" && p.token.isNone

namespace UsernamePrincipal

/-- The description of what goes with the identity. -/
def describe (p : UsernamePrincipal) : String :=
  Text.describeRecord "UsernameTokenPrincipal"
    [("password_type", Text.quotedOption p.passwordType),
     ("nonce", Text.describeOption (p.nonce.map Text.describeBytes)),
     ("created", Text.quotedOption p.created)]

end UsernamePrincipal

/-- The description of the parameters, without nonce and secret. -/
def DerivedKeyPrincipal.describe (p : DerivedKeyPrincipal) : String :=
  Text.describePartly "DerivedKeyPrincipal"
    [("id", Text.quoted p.id), ("label", Text.quoted p.label), ("offset", toString p.offset),
     ("length", toString p.length)]

/-- The description of a token. -/
def PrincipalToken.describe : PrincipalToken → String
  | username p => Text.describeWrapped "UsernameToken" p.describe
  | derivedKey p => Text.describeWrapped "DerivedKey" p.describe
  | assertion a => Text.describeWrapped "Saml" a.describe

/-- The description of an identity. -/
def Principal.describe (p : Principal) : String :=
  Text.describeRecord "Principal"
    [("name", Text.quoted p.name),
     ("token", Text.describeOption (p.token.map PrincipalToken.describe))]

namespace Credential

/-- A secret key with a name. -/
def ofSecret (name : String) (secret : Bytes) : Credential :=
  { secretKey := some secret, principal := .named name }

/-- Certificates without a name of their own. -/
def ofCertificates (certificates : List Certificate) (trusted : Bool) : Credential :=
  { certificates, trusted }

/-- The subject of an assertion: its first certificate, its public key and its
secret. -/
def ofAssertion (a : Assertion) : Credential where
  certificates := a.keyInfo.certificates.take 1
  publicKey := a.keyInfo.publicKey
  secretKey := a.secret
  principal := ⟨a.id, some (.assertion a)⟩
  trusted := a.isTrusted

/-- Whether there is no key material. -/
def isEmpty (c : Credential) : Bool :=
  c.certificates.isEmpty && c.publicKey.isNone && c.secretKey.isNone

/-- The certificate that comes first. -/
def certificate? (c : Credential) : Option Certificate := c.certificates.head?

/-- The credential with the subject of its first certificate as its identity, if
nothing is known of it. -/
def withSubjectName (c : Credential) : Credential :=
  match c.principal.isUnknown, c.certificate? with
  | true, some certificate => { c with principal := .named certificate.subject }
  | _, _ => c

/-- The description of a credential, which tells how long its secret is. -/
def describe (c : Credential) : String :=
  Text.describeRecord "Credential"
    [("certificates", Text.describeList (c.certificates.map Certificate.describe)),
     ("public_key", Text.describeOption (c.publicKey.map PublicKey.describe)),
     ("secret_key", Text.quotedOption (c.secretKey.map Text.describeSecret)),
     ("principal", c.principal.describe), ("trusted", Text.describeBool c.trusted)]

end Credential
end SecurityTokens
