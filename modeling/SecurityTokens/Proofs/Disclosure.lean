/-
# What descriptions tell of secrets

Two values are the same but for their secrets if they are the same once every secret is
masked, that is, all its bytes are zero (`Credential.masked`, `ProcessedToken.masked`).
Secrets are held in several places, and of each a description shows no more than a mask
leaves:

| secret | shown |
| --- | --- |
| secret key of a credential, of an encrypted key, of a security context | its length |
| base secret of a derived key token | its length |
| base secret in an identity | not at all |
| password | that there is one |
| secret of an assertion, recorded or in an identity | that there is one |

So a value and its mask have one description, and so have two values with one mask
(`describe_eq_of_masked`).
-/

import SecurityTokens.Credential

namespace SecurityTokens

/-! ## Masks -/

/-- Bytes of which nothing but their number is left. -/
def Bytes.masked (bs : Bytes) : Bytes := List.replicate bs.length 0

/-- An assertion without its secret but for the length. -/
def Assertion.masked (a : Assertion) : Assertion := { a with secret := a.secret.map Bytes.masked }

/-- A token without its password. -/
def UsernameToken.masked (t : UsernameToken) : UsernameToken :=
  { t with password := t.password.map fun p => { p with text := "" } }

/-- A token of an identity without the secret it holds. -/
def PrincipalToken.masked : PrincipalToken → PrincipalToken
  | username p => username p
  | derivedKey p => derivedKey { p with baseSecret := p.baseSecret.masked }
  | assertion a => assertion a.masked

/-- An identity without the secret of its token. -/
def Principal.masked (p : Principal) : Principal :=
  { p with token := p.token.map PrincipalToken.masked }

/-- A credential without its secrets but for their lengths. -/
def Credential.masked (c : Credential) : Credential :=
  { c with secretKey := c.secretKey.map Bytes.masked, principal := c.principal.masked }

/-- A result without its secrets but for their lengths, and without a password. -/
def ProcessedToken.masked : ProcessedToken → ProcessedToken
  | username token => username token.masked
  | binary token => binary token
  | encryptedKey key => encryptedKey { key with secret := key.secret.masked }
  | securityContext context => securityContext { context with secret := context.secret.masked }
  | derivedKey based => derivedKey { based with baseSecret := based.baseSecret.masked }
  | assertion a => assertion a.masked

/-! ## Masks are described as what they cover -/

theorem Text.describeSecret_masked (secret : Bytes) :
    describeSecret secret.masked = describeSecret secret :=
  describeSecret_congr List.length_replicate

/-- Of the secret of an assertion only its presence is shown. -/
theorem Assertion.describe_masked (a : Assertion) : a.masked.describe = a.describe := by
  rw [describe, describe, masked, Option.map_map, Function.comp_def]

/-- Of a password only its presence and its type are shown. -/
theorem UsernameToken.describe_masked (t : UsernameToken) : t.masked.describe = t.describe := by
  simp only [describe, masked, Option.map_map, Function.comp_def]

theorem PrincipalToken.describe_masked (t : PrincipalToken) :
    t.masked.describe = t.describe := by
  cases t with
  | username p => rfl
  | derivedKey p => rfl
  | assertion a => rw [masked, describe, describe, a.describe_masked]

theorem Principal.describe_masked (p : Principal) : p.masked.describe = p.describe := by
  simp only [describe, masked, Option.map_map, Function.comp_def, PrincipalToken.describe_masked]

/-- A credential shows its identity, and how long its secret key is. -/
theorem Credential.describe_masked (c : Credential) : c.masked.describe = c.describe := by
  simp only [describe, masked, Option.map_map, Function.comp_def, Text.describeSecret_masked,
    Principal.describe_masked]

theorem ProcessedToken.describe_masked (t : ProcessedToken) : t.masked.describe = t.describe := by
  cases t with
  | username token => rw [masked, describe, describe, token.describe_masked]
  | binary token => rfl
  | encryptedKey key => rw [masked, describe, describe, Text.describeSecret_masked]
  | securityContext context => rw [masked, describe, describe, Text.describeSecret_masked]
  | derivedKey based => rw [masked, describe, describe, Text.describeSecret_masked]
  | assertion a => rw [masked, describe, describe, a.describe_masked]

/-- **Descriptions hide every secret.**  Credentials that differ in nothing but the bytes of
the secrets they hold have one description, and so have results. -/
theorem describe_eq_of_masked (c c' : Credential) (t t' : ProcessedToken) :
    (c.masked = c'.masked → c.describe = c'.describe) ∧
      (t.masked = t'.masked → t.describe = t'.describe) := by
  constructor
  · intro same
    rw [← c.describe_masked, same, c'.describe_masked]
  · intro same
    rw [← t.describe_masked, same, t'.describe_masked]

/-- An assertion that comes with a secret, and with nothing else. -/
def provenAssertion (secret : Bytes) : Assertion where
  id := "_a1"
  version := .v20
  issuer := none
  subjectName := none
  methods := []
  hasSignature := false
  signatureVerified := false
  keyInfo := .empty
  secret := some secret

/-- An assertion that was recorded has one description with either of two secrets, and so has
the credential that it gives. -/
theorem describe_eq_of_assertionSecret :
    (Credential.ofAssertion (provenAssertion [1, 2])).describe
        = (Credential.ofAssertion (provenAssertion [3, 4])).describe ∧
      (ProcessedToken.assertion (provenAssertion [1, 2])).describe
        = (ProcessedToken.assertion (provenAssertion [3, 4])).describe := by
  have hidden := describe_eq_of_masked (.ofAssertion (provenAssertion [1, 2]))
    (.ofAssertion (provenAssertion [3, 4])) (.assertion (provenAssertion [1, 2]))
    (.assertion (provenAssertion [3, 4]))
  exact ⟨hidden.1 rfl, hidden.2 rfl⟩

end SecurityTokens
