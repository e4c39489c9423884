/-
# A recorded token settles its references

A reference that looks up the identifier of a token that was processed before is
resolved from the record of that token.  The way there leads past the document, the
source of certificates and the processor, so nothing that comes with the message, and
nothing that is configured for it, can take the place of what was recorded
(`resolve_eq_of_same_record`).

| the recorded token | consults besides the record |
| --- | --- |
| user name token whose password is not in clear text | the callback, for that password |
| any other | nothing |

Two resolutions that agree in what is consulted are one computation.  This is shown
for each step (`ofProcessed_congr`) and carries over to the whole (`resolve_congr`);
the other entries of the record need not agree either.
-/

import SecurityTokens.Proofs.ReadAgain
import SecurityTokens.Proofs.Strictness

namespace SecurityTokens

/-- What has to be asked for before a token gives its key: the password of a user name
token that does not hold it in clear text. -/
def ProcessedToken.passwordRequest? : ProcessedToken → Option SecretRequest
  | username token =>
    match token.cleartextPassword? with
    | some _ => none
    | none => some ⟨token.username, token.password.map (·.type), .password⟩
  | _ => none

namespace Asking

variable {α β : Type} {P : SecretRequest → Prop}

/-- All that is asked for is of some kind. -/
def AsksOnly (P : SecretRequest → Prop) (x : Asking α) : Prop := ∀ request ∈ x.requests, P request

theorem asksOnly_ofExcept (x : Except Error α) : (ofExcept x).AsksOnly P := by
  intro request asked
  cases asked

theorem asksOnly_require (missing : Missing) (x : Option α) : (require missing x).AsksOnly P := by
  cases x with
  | none => exact asksOnly_ofExcept _
  | some a => exact asksOnly_ofExcept _

/-- What holds of two steps holds of the one after the other. -/
theorem AsksOnly.bind {x : Asking α} {next : α → Asking β} (first : x.AsksOnly P)
    (rest : ∀ a, (next a).AsksOnly P) : (x >>= next).AsksOnly P := by
  intro request asked
  cases h : x.result with
  | ok a =>
    rw [bind_of_ok h] at asked
    rcases List.mem_append.1 asked with before | after
    · exact first request before
    · exact rest a request after
  | error e =>
    rw [bind_of_error h] at asked
    exact first request asked

end Asking

namespace Context

variable {ctx ctx' : Context} {t : UsernameToken}

/-- At most the one request is made. -/
theorem asksOnly_request (ctx : Context) (request : SecretRequest) :
    (ctx.request request).AsksOnly (· = request) := by
  unfold Context.request
  cases ctx.callback with
  | none => exact Asking.asksOnly_ofExcept _
  | some callback =>
    intro asked member
    exact List.mem_singleton.1 member

/-- A check is enforced alike in two contexts of one mode. -/
theorem enforce_congr (mode : ctx'.compliance = ctx.compliance) (check : Except Error Unit) :
    ctx'.enforce check = ctx.enforce check := by
  rw [enforce, enforce, mode]

/-- Two contexts get the same password if they get the same answer to the request for it. -/
theorem passwordOf_congr
    (answers : ∀ request, (ProcessedToken.username t).passwordRequest? = some request →
      ctx'.request request = ctx.request request) :
    ctx'.passwordOf t = ctx.passwordOf t := by
  unfold passwordOf
  cases clear : t.cleartextPassword? with
  | some password => rfl
  | none =>
    have same := answers ⟨t.username, t.password.map (·.type), .password⟩
      (by simp only [ProcessedToken.passwordRequest?, clear])
    simp only [same]

theorem asksOnly_passwordOf (ctx : Context) (t : UsernameToken) :
    (ctx.passwordOf t).AsksOnly fun request =>
      (ProcessedToken.username t).passwordRequest? = some request := by
  unfold passwordOf
  cases clear : t.cleartextPassword? with
  | some password => exact Asking.asksOnly_ofExcept _
  | none =>
    refine Asking.AsksOnly.bind ?_ fun answer => Asking.asksOnly_require _ _
    intro request asked
    rw [ctx.asksOnly_request _ request asked]
    simp only [ProcessedToken.passwordRequest?, clear]

end Context

namespace Resolution

open Asking

variable {ctx ctx' : Context} {r : TokenReference} {token : ProcessedToken}

/-- The material of a recorded token depends on the mode, on what tells the length of
keys and on the answer to the request for its password. -/
theorem ofProcessed_congr (mode : ctx'.compliance = ctx.compliance)
    (sizing : ctx'.sizing = ctx.sizing)
    (answers : ∀ request, token.passwordRequest? = some request →
      ctx'.request request = ctx.request request) :
    ofProcessed ctx' r token = ofProcessed ctx r token := by
  have check := Context.enforce_congr mode
  cases token with
  | username token =>
    have password := Context.passwordOf_congr answers
    simp only [ofProcessed, check, password, sizing]
  | binary token => simp only [ofProcessed, check]
  | encryptedKey key => simp only [ofProcessed, check]
  | securityContext context => rfl
  | derivedKey based => simp only [ofProcessed, sizing]
  | assertion a => simp only [ofProcessed, check]

theorem asksOnly_ofProcessed (ctx : Context) (r : TokenReference) (token : ProcessedToken) :
    (ofProcessed ctx r token).AsksOnly fun request => token.passwordRequest? = some request := by
  have check (outcome : Except Error Unit) {P : SecretRequest → Prop} :
      (ctx.enforce outcome).AsksOnly P := asksOnly_ofExcept _
  cases token with
  | username token =>
    refine (check _).bind fun _ => (ctx.asksOnly_passwordOf token).bind fun password => ?_
    exact (asksOnly_ofExcept _).bind fun secret => asksOnly_ofExcept _
  | binary token => exact (check _).bind fun _ => asksOnly_ofExcept _
  | encryptedKey key => exact (check _).bind fun _ => asksOnly_ofExcept _
  | securityContext context => exact asksOnly_ofExcept _
  | derivedKey based => exact asksOnly_ofExcept _
  | assertion a => exact (check _).bind fun _ => asksOnly_ofExcept _

/-- References to a recorded token are resolved alike where its material is the same. -/
theorem resolve_congr (known : processed? ctx r = some token)
    (known' : processed? ctx' r = some token) (mode : ctx'.compliance = ctx.compliance)
    (sizing : ctx'.sizing = ctx.sizing)
    (answers : ∀ request, token.passwordRequest? = some request →
      ctx'.request request = ctx.request request) :
    resolve ctx' r = resolve ctx r := by
  have same : ofProcessed ctx' r token = ofProcessed ctx r token :=
    ofProcessed_congr mode sizing answers
  rw [resolve_eq, resolve_eq, Context.enforce_congr mode]
  simp only [material, known, known', same]

theorem asksOnly_resolve (known : processed? ctx r = some token) :
    (resolve ctx r).AsksOnly fun request => token.passwordRequest? = some request := by
  rw [resolve_eq]
  refine (asksOnly_ofExcept _).bind fun _ => (asksOnly_ofExcept _).bind fun lookup => ?_
  simp only [material, known]
  exact (asksOnly_ofProcessed ctx r token).bind fun c => asksOnly_ofExcept _

theorem processed?_of_lookupId? {id : String} (looksUp : r.lookupId? = some id) :
    processed? ctx r = ctx.tokens.get? id := by
  rw [processed?, looksUp, Option.bind_some]

/-- **What was recorded cannot be overridden.**  A reference to a recorded token is
resolved with the same requests to the same credential or error in every context of the
same mode, sizing and callback that holds the record, whatever its document, its source
of certificates and its processor.  If the token needs no password from outside, the
callbacks may differ as well and are not asked; and a password is all they are ever
asked for. -/
theorem resolve_eq_of_same_record {ctx ctx' : Context} {r : TokenReference} {id : String}
    {token : ProcessedToken} (looksUp : r.lookupId? = some id)
    (known : ctx.tokens.get? id = some token) (known' : ctx'.tokens.get? id = some token)
    (mode : ctx'.compliance = ctx.compliance) (sizing : ctx'.sizing = ctx.sizing) :
    (ctx'.callback = ctx.callback → resolve ctx' r = resolve ctx r) ∧
      (token.passwordRequest? = none →
        resolve ctx' r = resolve ctx r ∧ (resolve ctx r).requests = []) ∧
      ∀ request ∈ (resolve ctx r).requests, token.passwordRequest? = some request := by
  have indexed : processed? ctx r = some token := (processed?_of_lookupId? looksUp).trans known
  have indexed' : processed? ctx' r = some token := (processed?_of_lookupId? looksUp).trans known'
  have asks := asksOnly_resolve indexed
  refine ⟨fun callback => ?_, fun needsNone => ⟨?_, ?_⟩, asks⟩
  · refine resolve_congr indexed indexed' mode sizing fun request _ => ?_
    rw [Context.request, Context.request, callback]
  · refine resolve_congr indexed indexed' mode sizing fun request needed => ?_
    cases needsNone.symm.trans needed
  · refine List.eq_nil_iff_forall_not_mem.2 fun request asked => ?_
    cases needsNone.symm.trans (asks request asked)

/-- A context with the record of three tokens, whose document has another element under
the identifier of the key and whose callback knows another secret. -/
def forgedContext : Context where
  document := .ofRoot ⟨⟨some Namespace.security, "Opaque"⟩, [⟨⟨none, "Id"⟩, "EK-1"⟩], []⟩ []
  tokens := .ofOutcomes HeaderPass.outcomesOfThree
  source := none
  callback := some fun _ => .ok (some [9])
  processor := none
  compliance := .strict
  sizing := ⟨none, none⟩

/-- The key is the one that was recorded, as it is where the document is the recorded one. -/
theorem resolve_forgedContext :
    (resolve forgedContext HeaderPass.localKeyReference).result = .ok (.ofSecret "EK-1" [7]) ∧
      HeaderPass.localKeyReference.lookupId? = some "EK-1" ∧
      resolve forgedContext HeaderPass.localKeyReference
        = resolve (HeaderPass.parsingPass.context (.ofRoot HeaderPass.headerOfThree [])
            (.ofOutcomes HeaderPass.outcomesOfThree)) HeaderPass.localKeyReference := by
  have looksUp : HeaderPass.localKeyReference.lookupId? = some "EK-1" := by decide
  have known : (TokenIndex.ofOutcomes HeaderPass.outcomesOfThree).get? "EK-1"
      = some (.encryptedKey ⟨"EK-1", [7]⟩) := rfl
  refine ⟨rfl, looksUp, ?_⟩
  exact ((resolve_eq_of_same_record looksUp known known rfl rfl).2.1 rfl).1

end Resolution
end SecurityTokens
