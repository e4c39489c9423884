/-
# What strict mode changes

The mode is consulted at every check of the profile and nowhere else.  A check
that passes leaves both modes at the same point; one that does not pass ends
strict mode there and then, with a breach.  So one resolution in two modes is one
computation of which strict mode may leave out the end, `Asking.RefusesMore`, and
this carries over from each step to the whole.

| | strict mode | permissive mode |
| --- | --- | --- |
| a check passes | goes on | goes on in the same way |
| a check does not pass | ends with a breach | goes on |
-/

import SecurityTokens.Proofs.Origin

namespace SecurityTokens
namespace Profile

/-- A check that refuses nothing but breaches of the profile. -/
def OnlyBreaches (check : Except Error Unit) : Prop :=
  ∀ e, check = .error e → ∃ v, e = .violation v

theorem onlyBreaches_ok : OnlyBreaches (.ok ()) := by
  intro e h
  cases h

theorem onlyBreaches_rule (broken : Bool) (v : Violation) : OnlyBreaches (rule broken v) :=
  fun _ h => ⟨v, isViolation_of_rule h⟩

theorem onlyBreaches_breach (v : Violation) : OnlyBreaches (breach v) := onlyBreaches_rule true v

/-- Two checks one after the other refuse what each of them refuses. -/
theorem OnlyBreaches.seq {first second : Except Error Unit} (h₁ : OnlyBreaches first)
    (h₂ : OnlyBreaches second) : OnlyBreaches (first >>= fun _ => second) := by
  intro e h
  cases first with
  | error e' =>
    obtain rfl : e' = e := Except.error.inj h
    exact h₁ e' rfl
  | ok _ => exact h₂ e h

variable (r : TokenReference)

theorem onlyBreaches_checkStructure : OnlyBreaches (checkStructure r) := by
  unfold checkStructure
  refine (onlyBreaches_rule _ _).seq ?_
  cases r.kind with
  | direct _ _ => exact onlyBreaches_ok
  | keyIdentifier _ _ _ => exact (onlyBreaches_rule _ _).seq (onlyBreaches_rule _ _)
  | issuerSerial _ _ => exact onlyBreaches_ok

theorem onlyBreaches_checkBinaryToken (tokenType : Option String) :
    OnlyBreaches (checkBinaryToken r tokenType) := by
  unfold checkBinaryToken
  cases r.kind with
  | direct _ _ =>
    cases tokenType with
    | none => exact onlyBreaches_rule _ _
    | some _ => exact (onlyBreaches_rule _ _).seq (onlyBreaches_rule _ _)
  | keyIdentifier _ _ _ => exact (onlyBreaches_rule _ _).seq (onlyBreaches_rule _ _)
  | issuerSerial _ _ => exact onlyBreaches_rule _ _

theorem onlyBreaches_checkEncryptedKey : OnlyBreaches (checkEncryptedKey r) := by
  unfold checkEncryptedKey
  cases r.keyIdentifierType? with
  | none => exact onlyBreaches_rule _ _
  | some _ => exact (onlyBreaches_rule _ _).seq (onlyBreaches_rule _ _)

theorem onlyBreaches_checkAssertion (version : AssertionVersion) :
    OnlyBreaches (checkAssertion r version) := by
  unfold checkAssertion
  cases r.keyIdentifierType? with
  | none => exact onlyBreaches_rule _ _
  | some _ => exact (onlyBreaches_rule _ _).seq (onlyBreaches_rule _ _)

theorem onlyBreaches_checkUsernameToken : OnlyBreaches (checkUsernameToken r) := by
  unfold checkUsernameToken
  cases r.kind with
  | direct _ _ => exact onlyBreaches_rule _ _
  | keyIdentifier _ _ _ => exact onlyBreaches_breach _
  | issuerSerial _ _ => exact onlyBreaches_breach _

end Profile

namespace Asking

variable {α β : Type}

/-- After a result, the requests of the next computation follow. -/
theorem bind_of_ok {x : Asking α} {a : α} (h : x.result = .ok a) (next : α → Asking β) :
    x >>= next = ⟨x.requests ++ (next a).requests, (next a).result⟩ := by
  show andThen x next = _
  simp only [andThen, h]

/-- After an error, nothing is asked for. -/
theorem bind_of_error {x : Asking α} {e : Error} (h : x.result = .error e) (next : α → Asking β) :
    x >>= next = ⟨x.requests, .error e⟩ := by
  show andThen x next = _
  simp only [andThen, h]

theorem requests_prefix_bind (x : Asking α) (next : α → Asking β) :
    x.requests <+: (x >>= next).requests := by
  cases h : x.result with
  | ok a => exact bind_of_ok h next ▸ List.prefix_append _ _
  | error e => exact bind_of_error h next ▸ List.prefix_rfl

/-- `x` goes as `y` does, or ends with a breach of the profile after asking for
what `y` asks for first. -/
def RefusesMore (x y : Asking α) : Prop :=
  x = y ∨ (∃ v, x.result = .error (.violation v)) ∧ x.requests <+: y.requests

theorem RefusesMore.rfl {x : Asking α} : RefusesMore x x := .inl (Eq.refl x)

/-- What holds of two steps holds of the one after the other. -/
theorem RefusesMore.bind {x y : Asking α} {f g : α → Asking β} (h : RefusesMore x y)
    (next : ∀ a, RefusesMore (f a) (g a)) : RefusesMore (x >>= f) (y >>= g) := by
  rcases h with h | ⟨⟨v, broken⟩, asked⟩
  · subst h
    cases hx : x.result with
    | error e => exact .inl (by rw [bind_of_error hx, bind_of_error hx])
    | ok a =>
      rw [bind_of_ok hx, bind_of_ok hx]
      rcases next a with same | ⟨broken, asked⟩
      · exact .inl (by rw [same])
      · exact .inr ⟨broken, (List.prefix_append_right_inj _).2 asked⟩
  · refine .inr ⟨⟨v, ?_⟩, ?_⟩
    · rw [bind_of_error broken]
    · rw [bind_of_error broken]
      exact asked.trans (requests_prefix_bind y g)

end Asking

/-- The context in another mode. -/
def Context.under (ctx : Context) (mode : Compliance) : Context := { ctx with compliance := mode }

theorem Context.enforce_refusesMore (ctx : Context) {check : Except Error Unit}
    (h : Profile.OnlyBreaches check) :
    ((ctx.under .strict).enforce check).RefusesMore ((ctx.under .permissive).enforce check) := by
  cases check with
  | ok _ => exact .rfl
  | error e =>
    obtain ⟨v, rfl⟩ := h e rfl
    exact .inr ⟨⟨v, rfl⟩, List.nil_prefix⟩

namespace Resolution

open Asking Profile

variable (ctx : Context) (r : TokenReference)

theorem ofProcessed_refusesMore (token : ProcessedToken) :
    (ofProcessed (ctx.under .strict) r token).RefusesMore
      (ofProcessed (ctx.under .permissive) r token) := by
  cases token with
  | username token =>
    exact (ctx.enforce_refusesMore (onlyBreaches_checkUsernameToken r)).bind fun _ => .rfl
  | binary token =>
    exact (ctx.enforce_refusesMore (onlyBreaches_checkBinaryToken r _)).bind fun _ => .rfl
  | encryptedKey key =>
    exact (ctx.enforce_refusesMore (onlyBreaches_checkEncryptedKey r)).bind fun _ => .rfl
  | securityContext context => exact .rfl
  | derivedKey based => exact .rfl
  | assertion a =>
    exact (ctx.enforce_refusesMore (onlyBreaches_checkAssertion r _)).bind fun _ => .rfl

theorem ofBinaryToken_refusesMore (e : Xml.Element) :
    (ofBinaryToken (ctx.under .strict) r e).RefusesMore
      (ofBinaryToken (ctx.under .permissive) r e) := by
  -- The token is decoded before its reference is checked, in both modes alike.
  refine RefusesMore.rfl.bind fun source => RefusesMore.rfl.bind fun token =>
    RefusesMore.rfl.bind fun _ => ?_
  exact (ctx.enforce_refusesMore (onlyBreaches_checkBinaryToken r _)).bind fun _ => .rfl

theorem ofAssertionElement_refusesMore (e : Xml.Element) :
    (ofAssertionElement (ctx.under .strict) r e).RefusesMore
      (ofAssertionElement (ctx.under .permissive) r e) := by
  refine RefusesMore.rfl.bind fun processor => RefusesMore.rfl.bind fun a => ?_
  exact (ctx.enforce_refusesMore (onlyBreaches_checkAssertion r _)).bind fun _ => .rfl

theorem ofEncryptedKeyElement_refusesMore (id : String) (e : Xml.Element) :
    (ofEncryptedKeyElement (ctx.under .strict) r id e).RefusesMore
      (ofEncryptedKeyElement (ctx.under .permissive) r id e) :=
  (ctx.enforce_refusesMore (onlyBreaches_checkEncryptedKey r)).bind fun _ => .rfl

theorem ofElement_refusesMore (id : String) (valueType : Option String) (e : Xml.Element) :
    (ofElement (ctx.under .strict) r id valueType e).RefusesMore
      (ofElement (ctx.under .permissive) r id valueType e) := by
  unfold ofElement
  split
  · exact ofBinaryToken_refusesMore ctx r e
  split
  · exact ofAssertionElement_refusesMore ctx r e
  split
  · exact ofEncryptedKeyElement_refusesMore ctx r id e
  · exact .rfl

theorem ofDirect_refusesMore (uri : String) (valueType : Option String) :
    (ofDirect (ctx.under .strict) r uri valueType).RefusesMore
      (ofDirect (ctx.under .permissive) r uri valueType) := by
  unfold ofDirect
  cases fragment? uri with
  | none => exact .rfl
  | some id =>
    exact RefusesMore.rfl.bind fun found => RefusesMore.rfl.bind fun place =>
      ofElement_refusesMore ctx r id valueType place.element

theorem ofKeyIdentifier_refusesMore (value : String) (target : IdentifierTarget) :
    (ofKeyIdentifier (ctx.under .strict) r value target).RefusesMore
      (ofKeyIdentifier (ctx.under .permissive) r value target) := by
  cases target with
  | encryptedKey =>
    exact (ctx.enforce_refusesMore (onlyBreaches_checkEncryptedKey r)).bind fun _ => .rfl
  | assertion =>
    exact RefusesMore.rfl.bind fun found => RefusesMore.rfl.bind fun place =>
      ofAssertionElement_refusesMore ctx r place.element
  | certificate identifier =>
    exact (ctx.enforce_refusesMore (onlyBreaches_checkBinaryToken r none)).bind fun _ => .rfl

theorem material_refusesMore (lookup : Lookup) :
    (material (ctx.under .strict) r lookup).RefusesMore
      (material (ctx.under .permissive) r lookup) := by
  have same (mode : Compliance) : processed? (ctx.under mode) r = processed? ctx r := rfl
  rw [material, material, same, same]
  cases processed? ctx r with
  | some token => exact ofProcessed_refusesMore ctx r token
  | none =>
    cases lookup with
    | direct uri valueType => exact ofDirect_refusesMore ctx r uri valueType
    | issuerSerial issuer serial => exact .rfl
    | keyIdentifier target value => exact ofKeyIdentifier_refusesMore ctx r value target

/-- **Strict mode only ever refuses more.**  Under everything else equal, strict
mode resolves a reference as permissive mode does, with the same requests and the
same credential or error, or it ends with a breach of the profile, having asked
for nothing that permissive mode does not ask for. -/
theorem strict_eq_permissive_or_violation :
    resolve (ctx.under .strict) r = resolve (ctx.under .permissive) r ∨
      (∃ v, (resolve (ctx.under .strict) r).result = .error (.violation v)) ∧
        (resolve (ctx.under .strict) r).requests <+:
          (resolve (ctx.under .permissive) r).requests := by
  rw [resolve_eq, resolve_eq]
  refine (ctx.enforce_refusesMore (onlyBreaches_checkStructure r)).bind fun _ => ?_
  refine RefusesMore.rfl.bind fun lookup => ?_
  exact (material_refusesMore ctx r lookup).bind fun _ => .rfl

end Resolution
end SecurityTokens
