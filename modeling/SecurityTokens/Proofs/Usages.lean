/-
# Passwords and keys never cross

A callback is asked for secrets under identifiers that come with the message, and these
may be names of users as well.  What keeps the two apart is the usage of a request:

| the reference looks up | the usage of every request |
| --- | --- |
| a user name token that was processed before | password |
| anything else | secret key |

So a resolution asks for one usage alone, and callbacks that answer alike what is asked
for that usage make it one computation.  This is shown of two runs at once, each step
being the same in both (`Asking.AlikeFor`), and carries over from step to step.  A table
keeps its passwords and its secrets apart in the same way, so entries of the one sort do
not change what is resolved with the other (`usages_never_cross`).
-/

import SecurityTokens.Header.Processing
import SecurityTokens.Proofs.Settled
import SecurityTokens.Secret.Table

namespace SecurityTokens

/-- Two callbacks answer alike what is asked for one usage. -/
def SecretUsage.AnswersAlike (usage : SecretUsage) (callback callback' : SecretCallback) : Prop :=
  ∀ request, request.usage = usage → callback request = callback' request

namespace Asking

variable {α β : Type} {usage : SecretUsage} {callback callback' : SecretCallback}

/-- Two runs are one computation, and it asks for one usage alone. -/
structure AlikeFor (usage : SecretUsage) (x y : Asking α) : Prop where
  same : x = y
  asks : x.AsksOnly (·.usage = usage)

theorem alikeFor_ofExcept (x : Except Error α) : AlikeFor usage (ofExcept x) (ofExcept x) :=
  ⟨rfl, asksOnly_ofExcept x⟩

theorem alikeFor_require (missing : Missing) (x : Option α) :
    AlikeFor usage (require missing x) (require missing x) :=
  ⟨rfl, asksOnly_require missing x⟩

/-- What holds of two steps holds of the one after the other. -/
theorem AlikeFor.bind {x y : Asking α} {f g : α → Asking β} (first : AlikeFor usage x y)
    (next : ∀ a, x.result = .ok a → AlikeFor usage (f a) (g a)) :
    AlikeFor usage (x >>= f) (y >>= g) := by
  obtain ⟨rfl, asks⟩ := first
  cases h : x.result with
  | error e =>
    rw [bind_of_error h, bind_of_error h]
    exact ⟨rfl, asks⟩
  | ok a =>
    obtain ⟨same, after⟩ := next a h
    rw [bind_of_ok h, bind_of_ok h, ← same]
    refine ⟨rfl, fun request asked => ?_⟩
    rcases List.mem_append.1 asked with before | later
    · exact asks request before
    · exact after request later

/-- Asking is the same if the request is for the usage that is answered alike. -/
theorem alikeFor_ask (alike : usage.AnswersAlike callback callback') {request : SecretRequest}
    (used : request.usage = usage) :
    AlikeFor usage (ask callback request) (ask callback' request) := by
  constructor
  · rw [ask, ask, alike request used]
  · intro asked member
    rw [List.mem_singleton.1 member, used]

end Asking

open Asking

section SecretKeys

variable {callback callback' : SecretCallback}
  (alike : SecretUsage.secretKey.AnswersAlike callback callback')

include alike

/-- The parsing processor asks for secret keys alone. -/
theorem TokenProcessor.askForKey_alikeFor (e : Xml.Element) :
    AlikeFor .secretKey (askForKey callback e) (askForKey callback' e) := by
  unfold askForKey
  cases e.id? with
  | none => exact alikeFor_ofExcept _
  | some id =>
    exact (alikeFor_ask alike rfl).bind fun answer _ =>
      (alikeFor_require _ answer).bind fun _ _ => alikeFor_ofExcept _

theorem TokenProcessor.parsing_congr : parsing callback = parsing callback' := by
  have key : askForKey callback = askForKey callback' :=
    funext fun e => (askForKey_alikeFor alike e).same
  simp only [parsing, key]

end SecretKeys

namespace Context

/-- The context with a callback that also answers its processor, if it has one. -/
def withCallback (ctx : Context) (callback : SecretCallback) : Context :=
  { ctx with
    callback := some callback
    processor := ctx.processor.map fun _ => .parsing callback }

/-- What a reference is going to ask for: the password of a user name token that was
processed before, and otherwise a secret key. -/
def usageFor (ctx : Context) (r : TokenReference) : SecretUsage :=
  match Resolution.processed? ctx r with
  | some (.username _) => .password
  | _ => .secretKey

variable {usage : SecretUsage} {callback callback' : SecretCallback}

theorem requireSource_alikeFor (ctx : Context) :
    AlikeFor usage (ctx.withCallback callback).requireSource
      (ctx.withCallback callback').requireSource := by
  unfold requireSource withCallback
  cases ctx.source with
  | none => exact alikeFor_ofExcept _
  | some source => exact alikeFor_ofExcept _

/-- Processors that ask for secret keys are alike where these are answered alike. -/
theorem requireProcessor_alikeFor (ctx : Context)
    (alike : SecretUsage.secretKey.AnswersAlike callback callback') :
    AlikeFor .secretKey (ctx.withCallback callback).requireProcessor
      (ctx.withCallback callback').requireProcessor := by
  unfold requireProcessor withCallback
  cases ctx.processor with
  | none => exact alikeFor_ofExcept _
  | some given =>
    rw [Option.map_some, Option.map_some, TokenProcessor.parsing_congr alike]
    exact alikeFor_ofExcept _

theorem eq_parsing_of_requireProcessor {ctx : Context} {processor : TokenProcessor}
    (required : (ctx.withCallback callback).requireProcessor.result = .ok processor) :
    processor = .parsing callback := by
  obtain ⟨given, -, rfl⟩ := Option.map_eq_some_iff.1 (result_requireProcessor_eq_ok_iff.1 required)
  rfl

theorem secretCredential_alikeFor (ctx : Context)
    (alike : SecretUsage.secretKey.AnswersAlike callback callback') (id : String)
    (hint : Option String) :
    AlikeFor .secretKey ((ctx.withCallback callback).secretCredential id hint)
      ((ctx.withCallback callback').secretCredential id hint) :=
  (alikeFor_ask alike rfl).bind fun answer _ =>
    (alikeFor_require _ answer).bind fun _ _ => alikeFor_ofExcept _

end Context

namespace Resolution

variable {callback callback' : SecretCallback} {r : TokenReference}

/-- A recorded token asks for nothing, unless it is a user name token whose password has
to be asked for. -/
theorem usage_eq_of_passwordRequest? {ctx : Context} {token : ProcessedToken}
    {request : SecretRequest} (known : processed? ctx r = some token)
    (needed : token.passwordRequest? = some request) : request.usage = ctx.usageFor r := by
  cases token with
  | username token =>
    have password : ctx.usageFor r = .password := by simp only [Context.usageFor, known]
    simp only [ProcessedToken.passwordRequest?] at needed
    split at needed
    next => cases needed
    next =>
      obtain rfl := Option.some.inj needed
      exact password.symm
  | binary | encryptedKey | securityContext | derivedKey | assertion => cases needed

theorem resolve_alikeFor_of_processed {ctx : Context} {token : ProcessedToken}
    (known : processed? ctx r = some token)
    (alike : (ctx.usageFor r).AnswersAlike callback callback') :
    AlikeFor (ctx.usageFor r) (resolve (ctx.withCallback callback) r)
      (resolve (ctx.withCallback callback') r) := by
  -- What was processed before does not depend on who answers now.
  have here : processed? (ctx.withCallback callback) r = some token := known
  have there : processed? (ctx.withCallback callback') r = some token := known
  constructor
  · refine resolve_congr there here rfl rfl fun request needed => ?_
    exact (alikeFor_ask alike (usage_eq_of_passwordRequest? known needed)).same
  · intro request asked
    exact usage_eq_of_passwordRequest? known (asksOnly_resolve here request asked)

section Unprocessed

variable (ctx : Context) (alike : SecretUsage.secretKey.AnswersAlike callback callback')

include alike

theorem ofAssertionElement_alikeFor (e : Xml.Element) :
    AlikeFor .secretKey (ofAssertionElement (ctx.withCallback callback) r e)
      (ofAssertionElement (ctx.withCallback callback') r e) := by
  refine (ctx.requireProcessor_alikeFor alike).bind fun processor required => ?_
  -- Parsing an assertion asks for nothing.
  obtain rfl := Context.eq_parsing_of_requireProcessor required
  exact (alikeFor_ofExcept _).bind fun a _ =>
    (alikeFor_ofExcept _).bind fun _ _ => alikeFor_ofExcept _

theorem ofEncryptedKeyElement_alikeFor (id : String) (e : Xml.Element) :
    AlikeFor .secretKey (ofEncryptedKeyElement (ctx.withCallback callback) r id e)
      (ofEncryptedKeyElement (ctx.withCallback callback') r id e) := by
  refine (alikeFor_ofExcept _).bind fun _ _ =>
    (ctx.requireProcessor_alikeFor alike).bind fun processor required => ?_
  obtain rfl := Context.eq_parsing_of_requireProcessor required
  have asks := (TokenProcessor.askForKey_alikeFor alike e).asks
  exact AlikeFor.bind ⟨rfl, asks⟩ fun key _ => alikeFor_ofExcept _

theorem ofElement_alikeFor (id : String) (valueType : Option String) (e : Xml.Element) :
    AlikeFor .secretKey (ofElement (ctx.withCallback callback) r id valueType e)
      (ofElement (ctx.withCallback callback') r id valueType e) := by
  unfold ofElement
  split
  · -- A binary token is read with the source alone, which does not ask.
    exact ctx.requireSource_alikeFor.bind fun source _ =>
      (alikeFor_ofExcept _).bind fun token _ => (alikeFor_ofExcept _).bind fun _ _ =>
        (alikeFor_ofExcept _).bind fun _ _ => (alikeFor_ofExcept _).bind fun certificates _ =>
          alikeFor_ofExcept _
  split
  · exact ofAssertionElement_alikeFor ctx alike e
  split
  · exact ofEncryptedKeyElement_alikeFor ctx alike id e
  · exact ctx.secretCredential_alikeFor alike id valueType

theorem ofDirect_alikeFor (uri : String) (valueType : Option String) :
    AlikeFor .secretKey (ofDirect (ctx.withCallback callback) r uri valueType)
      (ofDirect (ctx.withCallback callback') r uri valueType) := by
  unfold ofDirect
  cases fragment? uri with
  | none => exact ctx.secretCredential_alikeFor alike uri valueType
  | some id =>
    exact (alikeFor_ofExcept _).bind fun found _ => (alikeFor_require _ found).bind fun place _ =>
      ofElement_alikeFor ctx alike id valueType place.element

theorem ofKeyIdentifier_alikeFor (value : String) (target : IdentifierTarget) :
    AlikeFor .secretKey (ofKeyIdentifier (ctx.withCallback callback) r value target)
      (ofKeyIdentifier (ctx.withCallback callback') r value target) := by
  cases target with
  | encryptedKey =>
    exact (alikeFor_ofExcept _).bind fun _ _ => ctx.secretCredential_alikeFor alike value _
  | assertion =>
    exact (alikeFor_ofExcept _).bind fun found _ => (alikeFor_require _ found).bind fun place _ =>
      ofAssertionElement_alikeFor ctx alike place.element
  | certificate identifier =>
    exact (alikeFor_ofExcept _).bind fun _ _ => ctx.requireSource_alikeFor.bind fun source _ =>
      (alikeFor_ofExcept _).bind fun bytes _ => (alikeFor_ofExcept _).bind fun found _ =>
        (alikeFor_require _ found).bind fun certificate _ => alikeFor_ofExcept _

/-- What was not processed before asks for secret keys alone. -/
theorem ofLookup_alikeFor (lookup : Lookup) :
    AlikeFor .secretKey (ofLookup (ctx.withCallback callback) r lookup)
      (ofLookup (ctx.withCallback callback') r lookup) := by
  cases lookup with
  | direct uri valueType => exact ofDirect_alikeFor ctx alike uri valueType
  | issuerSerial issuer serial =>
    exact ctx.requireSource_alikeFor.bind fun source _ => (alikeFor_ofExcept _).bind fun found _ =>
      (alikeFor_require _ found).bind fun certificate _ => alikeFor_ofExcept _
  | keyIdentifier target value => exact ofKeyIdentifier_alikeFor ctx alike value target

end Unprocessed

/-- A resolution asks for one usage alone, and is the same computation with every callback
that answers alike what is asked for it. -/
theorem resolve_alikeFor (ctx : Context)
    (alike : (ctx.usageFor r).AnswersAlike callback callback') :
    AlikeFor (ctx.usageFor r) (resolve (ctx.withCallback callback) r)
      (resolve (ctx.withCallback callback') r) := by
  cases known : processed? ctx r with
  | some token => exact resolve_alikeFor_of_processed known alike
  | none =>
    have key : ctx.usageFor r = .secretKey := by simp only [Context.usageFor, known]
    have here : processed? (ctx.withCallback callback) r = none := known
    have there : processed? (ctx.withCallback callback') r = none := known
    rw [key] at alike ⊢
    rw [resolve_eq, resolve_eq]
    refine (alikeFor_ofExcept _).bind fun _ _ => (alikeFor_ofExcept _).bind fun lookup _ => ?_
    simp only [material, here, there]
    exact (ofLookup_alikeFor ctx alike lookup).bind fun c _ => alikeFor_ofExcept _

end Resolution

namespace SecretTable

variable {t t' : SecretTable}

/-- What is asked for a usage is answered from the entries of its sort. -/
theorem answersAlike_password (same : t.passwords = t'.passwords) :
    SecretUsage.password.AnswersAlike t.callback t'.callback := by
  rintro ⟨id, hint, usage⟩ rfl
  simp only [callback, answer?, same]

theorem answersAlike_secretKey (same : t.secrets = t'.secrets) :
    SecretUsage.secretKey.AnswersAlike t.callback t'.callback := by
  rintro ⟨id, hint, usage⟩ rfl
  simp only [callback, answer?, same]

end SecretTable

open Resolution in
/-- **Passwords and keys never cross.**  With a table as the callback, and as that of the
processor if there is one, a reference that looks up a recorded user name token asks for
passwords alone and is resolved alike whatever the secrets of the table; every other
reference asks for secret keys alone and is resolved alike whatever the passwords. -/
theorem usages_never_cross (ctx : Context) (r : TokenReference) (t t' : SecretTable) :
    ((∃ token, processed? ctx r = some (.username token)) →
      (∀ request ∈ (resolve (ctx.withCallback t.callback) r).requests, request.usage = .password) ∧
      (t.passwords = t'.passwords →
        resolve (ctx.withCallback t.callback) r = resolve (ctx.withCallback t'.callback) r)) ∧
    ((¬∃ token, processed? ctx r = some (.username token)) →
      (∀ request ∈ (resolve (ctx.withCallback t.callback) r).requests, request.usage = .secretKey) ∧
      (t.secrets = t'.secrets →
        resolve (ctx.withCallback t.callback) r = resolve (ctx.withCallback t'.callback) r)) := by
  have unchanged : (ctx.usageFor r).AnswersAlike t.callback t.callback := fun _ _ => rfl
  have asks := (resolve_alikeFor ctx unchanged).asks
  constructor
  · rintro ⟨token, known⟩
    have usage : ctx.usageFor r = .password := by simp only [Context.usageFor, known]
    rw [usage] at asks
    refine ⟨asks, fun same => ?_⟩
    have alike := SecretTable.answersAlike_password same
    rw [← usage] at alike
    exact (resolve_alikeFor ctx alike).same
  · intro other
    have usage : ctx.usageFor r = .secretKey := by
      unfold Context.usageFor
      split
      next token known => exact absurd ⟨token, known⟩ other
      next => rfl
    rw [usage] at asks
    refine ⟨asks, fun same => ?_⟩
    have alike := SecretTable.answersAlike_secretKey same
    rw [← usage] at alike
    exact (resolve_alikeFor ctx alike).same

end SecurityTokens
