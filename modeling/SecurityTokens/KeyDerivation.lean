/-
# Keys from secrets and passwords

`P_SHA1` expands a secret to a stream of bytes, block by block:

    A(0) = seed,  A(i) = HMAC(secret, A(i - 1)),
    P_SHA1 = HMAC(secret, A(1) seed) HMAC(secret, A(2) seed) ...

A derived key is a window of the stream.  The key of a password is an iterated
digest of password and salt, or a window of the stream the password gives.
Every window and every number of iterations is bounded, since both come from
messages that are not trusted yet.
-/

import SecurityTokens.Error
import SecurityTokens.Hmac
import SecurityTokens.Text.Description
import SecurityTokens.Text.Utf8

namespace SecurityTokens
namespace KeyDerivation

/-- The longest key that is derived, in bytes. -/
def maxLength : Nat := 1024

/-- The last position of the stream that is reached. -/
def maxPosition : Nat := 65536

/-- The greatest number of iterations. -/
def maxIterations : Nat := 100000

/-- Functions that expand a secret. -/
inductive Algorithm where
  | pSha1
deriving DecidableEq, Repr

namespace Algorithm

/-- The algorithm a URI names; each edition of the conversation vocabulary has a
name of its own for `P_SHA1`. -/
def ofUri (uri : String) : Except Error Algorithm :=
  if uri = SecurityTokens.Algorithm.pSha1Of0502 ∨ uri = SecurityTokens.Algorithm.pSha1Of0512 then
    .ok .pSha1
  else .error (.derivation (.unsupportedAlgorithm uri))

/-- The older of the algorithm's two names. -/
def uri : Algorithm → String
  | .pSha1 => SecurityTokens.Algorithm.pSha1Of0502

/-- The form in which descriptions show the algorithm. -/
def label : Algorithm → String
  | .pSha1 => "PSha1"

end Algorithm

/-- The label a key is derived under when a token has none. -/
def conversationLabel : String := "WS-SecureConversation"

/-- The default label, which is written twice. -/
def defaultLabel : String := conversationLabel ++ conversationLabel

/-- `A(i)`. -/
def chain (secret seed : Bytes) : (i : Nat) → Bytes
  | 0 => seed
  | i + 1 => Hmac.sha1 secret (chain secret seed i)

/-- Block `i` of the stream, counted from zero. -/
def block (secret seed : Bytes) (i : Nat) : Bytes :=
  Hmac.sha1 secret (chain secret seed (i + 1) ++ seed)

/-- The next `count` blocks of the stream after the link `a` of the chain. -/
def blocksAfter (secret seed : Bytes) : (count : Nat) → (a : Bytes) → Bytes
  | 0, _ => []
  | count + 1, a =>
    let next := Hmac.sha1 secret a
    Hmac.sha1 secret (next ++ seed) ++ blocksAfter secret seed count next

/-- Refuses a window of the stream that is too long or lies too far out. -/
def checkWindow (offset length : Nat) : Except Error Unit :=
  if length > maxLength then .error (.derivation (.lengthLimit length maxLength))
  else if offset + length > maxPosition then
    .error (.derivation (.windowLimit offset length maxPosition))
  else .ok ()

/-- Bytes `offset` up to `offset + length` of the stream of a secret and seed. -/
def pSha1 (secret seed : Bytes) (offset length : Nat) : Except Error Bytes := do
  if secret.isEmpty then throw (.derivation .emptySecret)
  if length = 0 then throw (.derivation .zeroLength)
  checkWindow offset length
  let stream := blocksAfter secret seed ((offset + length + 19) / 20) seed
  return (stream.drop offset).take length

/-- What one key is derived from. -/
structure Spec where
  secret : Bytes
  label : Bytes
  nonce : Bytes
  offset : Nat
  length : Nat
  algorithm : Algorithm

/-- A specification without the secret and the nonce, of which only the lengths
are shown. -/
def Spec.describe (spec : Spec) : String :=
  Text.describeRecord "DerivationSpec"
    [("secret", Text.describeSecret spec.secret),
     ("label", Text.quoted (Text.lossy spec.label)),
     ("nonce_len", toString spec.nonce.length),
     ("offset", toString spec.offset),
     ("length", toString spec.length),
     ("algorithm", spec.algorithm.label)]

/-- The key of a specification; its seed is label and nonce. -/
def derive (spec : Spec) : Except Error Bytes :=
  match spec.algorithm with
  | .pSha1 => pSha1 spec.secret (spec.label ++ spec.nonce) spec.offset spec.length

/-- Refuses a number of iterations that is zero or too great. -/
def checkIterations (iterations : Nat) : Except Error Unit :=
  if iterations = 0 then .error (.derivation .zeroIterations)
  else if iterations > maxIterations then
    .error (.derivation (.iterationLimit iterations maxIterations))
  else .ok ()

/-- Applies the digest `count` times. -/
def iterateDigest : (count : Nat) → Bytes → Bytes
  | 0, bs => bs
  | count + 1, bs => iterateDigest count (Sha1.digest bs)

/-- The key of a password: the digest of password and salt, digested again until
it has been digested `iterations` times. -/
def passwordKey (password salt : Bytes) (iterations : Nat) : Except Error Bytes := do
  if password.isEmpty then throw (.derivation .emptyPassword)
  checkIterations iterations
  return iterateDigest iterations (password ++ salt)

/-- The secret of a password for peers that expand it with nonce and creation
time. -/
def passwordSecret (password nonce created : Bytes) (length : Nat) : Except Error Bytes :=
  pSha1 password (Bytes.ofText conversationLabel ++ nonce ++ created) 0 length

/-- Exactly the windows within the two limits pass. -/
theorem checkWindow_eq_ok {offset length : Nat} :
    checkWindow offset length = .ok () ↔ length ≤ maxLength ∧ offset + length ≤ maxPosition := by
  unfold checkWindow
  split
  · simp; omega
  · split
    · simp; omega
    · simp; omega

/-- Exactly the numbers from one to the limit pass. -/
theorem checkIterations_eq_ok {iterations : Nat} :
    checkIterations iterations = .ok () ↔ 0 < iterations ∧ iterations ≤ maxIterations := by
  unfold checkIterations
  split
  · simp; omega
  · split
    · simp; omega
    · simp; omega

@[simp] theorem length_blocksAfter (secret seed : Bytes) (count : Nat) (a : Bytes) :
    (blocksAfter secret seed count a).length = 20 * count := by
  induction count generalizing a with
  | zero => rfl
  | succ count ih => simp [blocksAfter, ih]; omega

end KeyDerivation
end SecurityTokens
