/-
# Tokens that have been processed

Processing a token of a security header yields what references to it need.  The
results of one pass are indexed by the identifiers of their tokens; an identifier
is entered once.

| result | holds |
| --- | --- |
| user name token | the token, whose key is derived when a reference asks |
| binary token | certificates, and whether they have been validated |
| encrypted key | its secret |
| security context | its secret |
| derived key token | the token and the secret it derives from |
| assertion | the assertion |
-/

import SecurityTokens.Assertion.Basic
import SecurityTokens.Token.Binary
import SecurityTokens.Token.DerivedKey

namespace SecurityTokens

/-- The certificates of a binary token. -/
structure ProcessedBinaryToken where
  id : String
  valueType : String
  certificates : List Certificate
  validated : Bool
deriving DecidableEq

/-- The secret of an encrypted key. -/
structure DecryptedKey where
  id : String
  secret : Bytes
deriving DecidableEq

/-- The secret of a security context. -/
structure EstablishedContext where
  id : String
  identifier : String
  secret : Bytes
deriving DecidableEq

/-- A derived key token with the secret it derives from. -/
structure BasedDerivedKey where
  token : DerivedKeyToken
  baseSecret : Bytes
deriving DecidableEq

/-- The result of processing a token. -/
inductive ProcessedToken where
  | username (token : UsernameToken)
  | binary (token : ProcessedBinaryToken)
  | encryptedKey (key : DecryptedKey)
  | securityContext (context : EstablishedContext)
  | derivedKey (token : BasedDerivedKey)
  | assertion (assertion : Assertion)
deriving DecidableEq

/-- The result of processing a binary token, its certificates being read by a
source. -/
def BinaryToken.process (t : BinaryToken) (source : CertificateSource) (validated : Bool) :
    Except Error ProcessedBinaryToken := do
  return { id := t.id.getD "", valueType := t.valueType, certificates := ← t.certificates source,
           validated }

namespace ProcessedToken

/-- The name of the kind of token. -/
def kind : ProcessedToken → String
  | username _ => "UsernameToken"
  | binary _ => "BinarySecurityToken"
  | encryptedKey _ => "EncryptedKey"
  | securityContext _ => "SecurityContextToken"
  | derivedKey _ => "DerivedKeyToken"
  | assertion _ => "SamlAssertion"

/-- The description of a result.  Secrets show their length alone. -/
def describe : ProcessedToken → String
  | username token => Text.describeWrapped "UsernameToken" token.describe
  | binary token =>
    Text.describeWrapped "BinaryToken" <| Text.describeRecord "BinaryTokenResult"
      [("id", Text.quoted token.id), ("value_type", Text.quoted token.valueType),
       ("certificates", Text.describeList (token.certificates.map Certificate.describe)),
       ("validated", Text.describeBool token.validated)]
  | encryptedKey key =>
    Text.describeWrapped "EncryptedKey" <| Text.describeRecord "EncryptedKeyResult"
      [("id", Text.quoted key.id), ("secret", Text.describeSecret key.secret)]
  | securityContext context =>
    Text.describeWrapped "SecurityContextToken" <| Text.describeRecord "SecurityContextResult"
      [("id", Text.quoted context.id), ("identifier", Text.quoted context.identifier),
       ("secret", Text.describeSecret context.secret)]
  | derivedKey based =>
    Text.describeWrapped "DerivedKeyToken" <| Text.describeRecord "DerivedKeyTokenResult"
      [("token", based.token.describe), ("base_secret", Text.describeSecret based.baseSecret)]
  | assertion a => Text.describeWrapped "SamlAssertion" a.describe

end ProcessedToken

/-- Results by identifier, the later ones at the end. -/
structure TokenIndex where
  entries : List (String × ProcessedToken)

namespace TokenIndex

/-- An index without results. -/
def empty : TokenIndex := ⟨[]⟩

/-- The result entered under an identifier. -/
def get? (index : TokenIndex) (id : String) : Option ProcessedToken := index.entries.lookup id

/-- Whether an identifier has been entered. -/
def contains (index : TokenIndex) (id : String) : Bool := (index.get? id).isSome

/-- The number of results. -/
def size (index : TokenIndex) : Nat := index.entries.length

/-- Enters a result under an identifier that has not been entered. -/
def insert (index : TokenIndex) (id : String) (token : ProcessedToken) :
    Except Error TokenIndex :=
  if index.contains id then .error (.xmlStructure (.processedTwice id))
  else .ok ⟨index.entries ++ [(id, token)]⟩

@[simp] theorem get?_empty (id : String) : empty.get? id = none := rfl

/-- After entering a result, its identifier leads to it and every other one where
it led before. -/
theorem get?_insert {index index' : TokenIndex} {key : String} {token : ProcessedToken}
    (h : index.insert key token = .ok index') (id : String) :
    index'.get? id = if id = key then some token else index.get? id := by
  unfold insert at h
  split at h
  next => cases h
  next fresh =>
    obtain rfl := Except.ok.inj h
    rw [get?, get?, List.lookup_append, List.lookup_cons, List.lookup_nil]
    by_cases same : id = key
    · subst same
      have missing : index.entries.lookup id = none := by
        rwa [contains, get?, Option.not_isSome_iff_eq_none] at fresh
      rw [if_pos rfl, missing, beq_self_eq_true]
      rfl
    · rw [if_neg same, beq_eq_false_iff_ne.2 same, Option.or_none]

end TokenIndex
end SecurityTokens
