/-
# Asking for secrets

Secrets that a message does not carry are asked for outside.  Whoever answers
is a function of the request: it gives a secret, knows none, or fails.  An empty
secret counts as none.

A computation that may ask is its result together with the requests it has made,
in order.  It stops at its first error, so the requests are those made before.
-/

import SecurityTokens.Error

namespace SecurityTokens

/-- What a secret is asked for. -/
inductive SecretUsage where
  | secretKey
  | password
deriving DecidableEq, Repr

/-- The name of a usage. -/
def SecretUsage.label : SecretUsage → String
  | secretKey => "SecretKey"
  | password => "Password"

/-- A request for a secret.  The hint is the value type of the reference or the
type of the password, if it is known. -/
structure SecretRequest where
  id : String
  typeHint : Option String
  usage : SecretUsage
deriving DecidableEq, Repr

/-- Whoever answers requests, with the reason when it fails. -/
abbrev SecretCallback := SecretRequest → Except String (Option Bytes)

/-- A computation that may ask for secrets. -/
structure Asking (α : Type) where
  requests : List SecretRequest
  result : Except Error α

namespace Asking

variable {α β : Type}

/-- A computation that asks for nothing. -/
def ofExcept (result : Except Error α) : Asking α := ⟨[], result⟩

/-- Goes on with the result, if there is one. -/
def andThen (x : Asking α) (next : α → Asking β) : Asking β :=
  match x.result with
  | .ok a => ⟨x.requests ++ (next a).requests, (next a).result⟩
  | .error e => ⟨x.requests, .error e⟩

instance : Monad Asking where
  pure a := ofExcept (.ok a)
  bind := andThen

instance : MonadLift (Except Error) Asking := ⟨ofExcept⟩

/-- Stops with an error. -/
def fail (e : Error) : Asking α := ofExcept (.error e)

/-- Requires something to be there. -/
def require (missing : Missing) : Option α → Asking α
  | some a => pure a
  | none => fail (.notFound missing)

/-- Asks for a secret; an empty one counts as none. -/
def ask (callback : SecretCallback) (request : SecretRequest) : Asking (Option Bytes) :=
  ⟨[request],
    match callback request with
    | .ok answer => .ok (answer.filter (· ≠ []))
    | .error reason => .error (.callbackFailed request.id reason)⟩

@[simp] theorem result_ofExcept (r : Except Error α) : (ofExcept r).result = r := rfl

@[simp] theorem requests_ofExcept (r : Except Error α) : (ofExcept r).requests = [] := rfl

@[simp] theorem result_pure (a : α) : (pure a : Asking α).result = .ok a := rfl

@[simp] theorem result_fail (e : Error) : (fail e : Asking α).result = .error e := rfl

@[simp] theorem liftM_eq_ofExcept (r : Except Error α) : (liftM r : Asking α) = ofExcept r := rfl

/-- The results of computations are computed like results. -/
@[simp] theorem result_bind (x : Asking α) (next : α → Asking β) :
    (x >>= next).result = x.result >>= fun a => (next a).result := by
  show (andThen x next).result = _
  unfold andThen
  cases x.result <;> rfl

instance : LawfulMonad Asking := LawfulMonad.mk' Asking
  (by
    intro α x
    show andThen x (fun a => ofExcept (.ok a)) = x
    unfold andThen
    cases x with | mk requests result => cases result <;> simp [ofExcept])
  (by intro α β a next; rfl)
  (by
    intro α β γ x f g
    show andThen (andThen x f) g = andThen x (fun a => andThen (f a) g)
    cases x with
    | mk requests result =>
      cases result with
      | error e => rfl
      | ok a =>
        simp only [andThen]
        cases (f a).result <;> simp)

end Asking
end SecurityTokens
