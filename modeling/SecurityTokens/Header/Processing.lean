/-
# Processing single tokens

Two kinds of tokens need more than their own element to be processed.

| token | needs |
| --- | --- |
| derived key token | the secret of the token it refers to |
| security context token | the secret of its context, from the callback |

Assertions and encrypted keys are left to a processor.  The parsing processor
reads assertions without verifying their signature, and takes the secrets of
encrypted keys from a callback, under their identifiers.
-/

import SecurityTokens.Resolution.Basic

namespace SecurityTokens

/-- The derived key token of an element, with the secret its reference leads to. -/
def BasedDerivedKey.ofElement (ctx : Context) (e : Xml.Element) : Asking BasedDerivedKey := do
  let token ← DerivedKeyToken.ofElement e
  match token.reference with
  | none => .fail (.malformedReference .absentFromDerivedKeyToken)
  | some reference => do
    let base ← resolve ctx reference
    let baseSecret ← Asking.require (.baseSecret (token.id.getD "")) base.secretKey
    return { token, baseSecret }

/-- The identifier of a `wsc:SecurityContextToken`, with the vocabulary that the
element belongs to. -/
def contextIdentifier (e : Xml.Element) : Except Error (String × String) := do
  let some vocabulary := conversationOf? e "SecurityContextToken"
    | throw (.xmlStructure (.expected "wsc:SecurityContextToken"))
  let identifier := (e.child? vocabulary "Identifier").elim "" Xml.Element.text
  if identifier = "" then throw (.xmlStructure (.without "SecurityContextToken" "Identifier"))
  return (vocabulary, identifier)

/-- The security context of an element, with the secret the callback gives. -/
def EstablishedContext.ofElement (ctx : Context) (e : Xml.Element) :
    Asking EstablishedContext := do
  let (vocabulary, identifier) ← contextIdentifier e
  let answer ← ctx.request ⟨identifier, some vocabulary, .secretKey⟩
  let secret ← Asking.require (.contextSecret identifier) answer
  return { id := e.id?.getD identifier, identifier, secret }

namespace TokenProcessor

/-- The secret of an encrypted key, asked for under the identifier of the element. -/
def askForKey (callback : SecretCallback) (e : Xml.Element) : Asking DecryptedKey :=
  match e.id? with
  | none => .fail (.xmlStructure (.without "EncryptedKey" "Id"))
  | some id => do
    let answer ← Asking.ask callback ⟨id, some TokenType.encryptedKey, .secretKey⟩
    let secret ← Asking.require (.encryptedKey id) answer
    return { id, secret }

/-- The processor that reads tokens and verifies nothing. -/
def parsing (callback : SecretCallback) : TokenProcessor where
  assertion e := .ofExcept (Assertion.ofElement e)
  encryptedKey := askForKey callback

end TokenProcessor
end SecurityTokens
