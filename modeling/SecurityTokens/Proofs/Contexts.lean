/-
# Fields in contexts

After its key a certificate may have three more fields, each tagged with a number of its
context:

| number | field |
| ---: | --- |
| 1 | identifier of the issuer |
| 2 | identifier of the subject |
| 3 | extensions |

To look for a number is to cut the values up into strays with lower numbers, the value that is
looked for, and the rest (`Taken`).  Strays are refused or passed over, and what is passed over is
not written again.  So the same condition, that the numbers ascend, tells both what
the refusing reader leaves (`Tail.ofItems?_refused_iff`) and what is written as it was
read (`Tail.toTlvs_eq_iff`).
-/

import SecurityTokens.Proofs.Canonical

namespace SecurityTokens

/-! ## Fields in contexts -/

namespace Der

/-- Values of the context come in the order of their numbers, the first of which is above
some number. -/
def Ascends : UInt8 → List Tlv → Prop
  | _, [] => True
  | above, t :: items => ∃ number ∈ t.contextNumber?, above < number ∧ Ascends number items

instance Ascends.decide : (above : UInt8) → (items : List Tlv) → Decidable (Ascends above items)
  | _, [] => isTrue trivial
  | above, t :: items =>
    have (number : UInt8) : Decidable (Ascends number items) := Ascends.decide number items
    inferInstanceAs (Decidable (∃ number ∈ t.contextNumber?, above < number ∧ Ascends number items))

variable {number above : UInt8} {items strays rest : List Tlv} {found : Option Tlv} {t : Tlv}

theorem Tlv.contextNumber?_eq_some_iff :
    t.contextNumber? = some number ↔ isContextTag t.tag = true ∧ tagNumber t.tag = number := by
  rw [contextNumber?]
  split
  next context => rw [Option.some.injEq, context, eq_self, true_and]
  next other => exact iff_of_false (fun known => nomatch known) fun h => other h.1

theorem takeContext_passedOver_cons : takeContext .passedOver number (t :: items)
    = if t.contextNumber?.any (· < number) then takeContext .passedOver number items
      else if t.contextNumber? = some number then some (some t, items)
      else some (none, t :: items) := by
  simp only [takeContext, reduceCtorEq, false_and, if_false, List.dropWhile_cons]
  by_cases stray : t.contextNumber?.any (· < number) = true
  · rw [if_pos stray, if_pos stray]
  · rw [if_neg stray, if_neg stray]

theorem takeContext_refused_cons : takeContext .refused number (t :: items)
    = if t.contextNumber?.any (· < number) then none
      else takeContext .passedOver number (t :: items) := by
  simp only [takeContext, reduceCtorEq, false_and, if_false, true_and, List.head?_cons,
    Option.any_some]

/-- Where the first value is no stray, both readers take the same. -/
theorem takeContext_of_not_stray {stray : Stray}
    (inPlace : ¬ t.contextNumber?.any (· < number) = true) : takeContext stray number (t :: items)
      = if t.contextNumber? = some number then some (some t, items)
        else some (none, t :: items) := by
  cases stray with
  | passedOver => rw [takeContext_passedOver_cons, if_neg inPlace]
  | refused =>
    rw [takeContext_refused_cons, if_neg inPlace, takeContext_passedOver_cons, if_neg inPlace]

/-- How `takeContext` cuts values up: strays, the value that is looked for, and the rest. -/
structure Taken (number : UInt8) (items strays : List Tlv) (found : Option Tlv)
    (rest : List Tlv) : Prop where
  split : items = strays ++ (found.toList ++ rest)
  below : ∀ t ∈ strays, ∃ k ∈ t.contextNumber?, k < number
  named : ∀ t ∈ found, t.contextNumber? = some number
  ahead : found = none → ∀ t ∈ rest.head?, ∀ k ∈ t.contextNumber?, number < k
  passed : takeContext .passedOver number items = some (found, rest)
  refused : takeContext .refused number items = if strays = [] then some (found, rest) else none

theorem exists_taken (number : UInt8) (items : List Tlv) :
    ∃ strays found rest, Taken number items strays found rest := by
  induction items with
  | nil =>
    exact ⟨[], none, [], rfl, fun _ mem => (List.not_mem_nil mem).elim,
      fun _ held => (nomatch held), fun _ _ held => (nomatch held), rfl, rfl⟩
  | cons t items ih =>
    by_cases stray : t.contextNumber?.any (· < number) = true
    · obtain ⟨strays, found, rest, h⟩ := ih
      obtain ⟨k, known, lower⟩ := (Option.any_eq_true _ _).1 stray
      refine ⟨t :: strays, found, rest, congrArg (t :: ·) h.split, ?_, h.named, h.ahead, ?_, ?_⟩
      · exact List.forall_mem_cons.2 ⟨⟨k, known, of_decide_eq_true lower⟩, h.below⟩
      · rw [takeContext_passedOver_cons, if_pos stray, h.passed]
      · rw [takeContext_refused_cons, if_pos stray, if_neg (List.cons_ne_nil _ _)]
    · have noStrays : ∀ t ∈ ([] : List Tlv), ∃ k ∈ t.contextNumber?, k < number :=
        fun _ mem => (List.not_mem_nil mem).elim
      by_cases named : t.contextNumber? = some number
      · refine ⟨[], some t, items, rfl, noStrays, fun _ held => Option.some.inj held ▸ named,
          fun absent => (nomatch absent), ?_, ?_⟩
        · rw [takeContext_of_not_stray stray, if_pos named]
        · rw [takeContext_of_not_stray stray, if_pos named, if_pos rfl]
      · refine ⟨[], none, t :: items, rfl, noStrays, fun _ held => (nomatch held), ?_, ?_, ?_⟩
        · intro _ t' first k known
          obtain rfl := Option.some.inj first
          have notLower : ¬ k < number := fun lower =>
            stray ((Option.any_eq_true _ _).2 ⟨k, known, decide_eq_true lower⟩)
          have other : number ≠ k := fun same => named (same ▸ known)
          exact Std.lt_of_le_of_ne (Std.not_lt.1 notLower) other
        · rw [takeContext_of_not_stray stray, if_neg named]
        · rw [takeContext_of_not_stray stray, if_neg named, if_pos rfl]

/-- Taking a value fails only where strays are refused. -/
theorem Taken.take_iff (h : Taken number items strays found rest) {stray : Stray}
    {result : Option Tlv × List Tlv} : takeContext stray number items = some result ↔
      (stray = .refused → strays = []) ∧ result = (found, rest) := by
  cases stray with
  | passedOver =>
    rw [h.passed, Option.some.injEq, eq_comm]
    exact ⟨fun same => ⟨fun other => (nomatch other), same⟩, fun h => h.2⟩
  | refused =>
    rw [h.refused]
    split
    next clean =>
      rw [Option.some.injEq, eq_comm]
      exact ⟨fun same => ⟨fun _ => clean, same⟩, fun h => h.2⟩
    next dirty => exact iff_of_false (fun read => nomatch read) fun h => dirty (h.1 rfl)

/-- What is taken next is in order just if nothing is passed over and the rest is. -/
theorem Taken.ascends_iff (h : Taken number items strays found rest)
    (next : ∀ k, above < k ↔ number ≤ k) :
    Ascends above items ↔ strays = [] ∧ Ascends number rest := by
  obtain rfl := h.split
  cases strays with
  | cons t strays =>
    obtain ⟨k, known, lower⟩ := h.below t List.mem_cons_self
    refine iff_of_false (fun ⟨k', known', higher, _⟩ => ?_) fun h => nomatch h.1
    obtain rfl := Option.some.inj (known.symm.trans known')
    exact Std.not_lt.2 ((next k).1 higher) lower
  | nil =>
    rw [List.nil_append, eq_self, true_and]
    cases found with
    | some t =>
      have named := h.named t rfl
      refine ⟨fun ⟨k, known, _, ascends⟩ => ?_, fun ascends => ?_⟩
      · obtain rfl := Option.some.inj (named.symm.trans known)
        exact ascends
      · exact ⟨number, named, (next number).2 (Std.le_refl number), ascends⟩
    | none =>
      cases rest with
      | nil => exact Iff.rfl
      | cons t rest =>
        have ahead := h.ahead rfl t rfl
        refine exists_congr fun k => and_congr_right fun known => and_congr_left fun _ => ?_
        exact iff_of_true ((next k).2 (Std.le_of_lt (ahead k known))) (ahead k known)

/-- Nothing is below context 0. -/
theorem Taken.strays_eq_nil (h : Taken 0 items strays found rest) : strays = [] := by
  cases strays with
  | nil => rfl
  | cons t strays =>
    obtain ⟨k, -, lower⟩ := h.below t List.mem_cons_self
    exact absurd (UInt8.lt_iff_toNat_lt.1 lower) (Nat.not_lt_zero _)

end Der

namespace X509

open Der (Tlv BitString Stray Taken Ascends)

variable {t : Tlv} {items : List Tlv} {stray : Stray}

/-- A field that may be missing is written as it was read. -/
theorem map_eq_of_optional? {α : Type} {read : Tlv → Option α} {write : α → Tlv}
    {field : Option Tlv} {value : Option α} (known : optional? read field = some value)
    (each : ∀ t a, read t = some a → write a = t) : value.map write = field := by
  cases field with
  | none =>
    cases known
    rfl
  | some t =>
    obtain ⟨a, read, rfl⟩ := Option.map_eq_some_iff.1 known
    rw [Option.map_some, each t a read]

theorem eq_of_contextBits? {number : UInt8} {b : BitString}
    (read : contextBits? number t = some b) :
    ⟨Der.primitiveContextTag number, b.content⟩ = t := by
  obtain ⟨content, held, bits⟩ := Option.bind_eq_some_iff.1 read
  rw [Tlv.contentOf?_eq_some_iff.1 held, Der.BitString.content_of_ofContent? bits]

theorem contextNumber?_of_contextBits? {number : UInt8} {b : BitString}
    (context : Der.isContextTag (Der.primitiveContextTag number) = true ∧
      Der.tagNumber (Der.primitiveContextTag number) = number)
    (read : contextBits? number t = some b) : t.contextNumber? = some number := by
  rw [← eq_of_contextBits? read]
  exact Tlv.contextNumber?_eq_some_iff.2 context

theorem contextNumber?_of_unwrap? {number : UInt8} {t' : Tlv}
    (context : Der.isContextTag (Der.contextTag number) = true ∧
      Der.tagNumber (Der.contextTag number) = number)
    (read : unwrap? number t = some t') : t.contextNumber? = some number := by
  rw [(unwrap?_eq_some_iff.1 read).2.1]
  exact Tlv.contextNumber?_eq_some_iff.2 context

/-! ## What follows the key -/

/-- The value in context 3 that holds extensions. -/
def wrapExtensions (es : List Extension) : Tlv := .wrapped 3 (.sequence (es.map Extension.toTlv))

theorem map_wrapExtensions_eq_iff {field : Option Tlv} {extensions : Option (List Extension)}
    (known : optional? extensions? field = some extensions) :
    (extensions.map wrapExtensions).toList.length = field.toList.length ∧
      (extensions.map wrapExtensions = field ↔ ∀ t ∈ field, ¬ HoldsStatedFalse t) := by
  cases field with
  | none =>
    cases known
    exact ⟨rfl, iff_of_true rfl fun _ held => nomatch held⟩
  | some t =>
    obtain ⟨es, read, rfl⟩ := Option.map_eq_some_iff.1 known
    refine ⟨rfl, ?_⟩
    rw [Option.map_some, Option.some.injEq, wrapExtensions, wrapped_extensions_eq_iff read]
    simp only [Option.mem_some_iff, forall_eq']

/-- What the fields in contexts 1 to 3 are read as. -/
structure Tail where
  issuerUniqueId : Option BitString
  subjectUniqueId : Option BitString
  extensions : Option (List Extension)

namespace Tail

/-- Reads the fields in contexts 1 to 3, which are all there may be. -/
def ofItems? (stray : Stray) (items : List Tlv) : Option Tail := do
  let (issuerUniqueId, items) ← Der.takeContext stray 1 items
  let issuerUniqueId ← optional? (contextBits? 1) issuerUniqueId
  let (subjectUniqueId, items) ← Der.takeContext stray 2 items
  let subjectUniqueId ← optional? (contextBits? 2) subjectUniqueId
  let (extensions, items) ← Der.takeContext stray 3 items
  let extensions ← optional? extensions? extensions
  let [] := items | none
  return { issuerUniqueId, subjectUniqueId, extensions }

/-- The fields in contexts 1 to 3 as values. -/
def toTlvs (tail : Tail) : List Tlv :=
  (tail.issuerUniqueId.map fun b => (⟨Der.primitiveContextTag 1, b.content⟩ : Tlv)).toList
    ++ (tail.subjectUniqueId.map fun b => (⟨Der.primitiveContextTag 2, b.content⟩ : Tlv)).toList
    ++ (tail.extensions.map wrapExtensions).toList

variable {tail : Tail} {s₁ s₂ s₃ r₁ r₂ r₃ : List Tlv} {f₁ f₂ f₃ : Option Tlv}

/-- Each field is looked for in what the one before left, and nothing is left after them. -/
theorem ofItems?_eq_some_iff_exists : ofItems? stray items = some tail ↔
    ∃ f₁ r₁ f₂ r₂ f₃, Der.takeContext stray 1 items = some (f₁, r₁) ∧
      optional? (contextBits? 1) f₁ = some tail.issuerUniqueId ∧
      Der.takeContext stray 2 r₁ = some (f₂, r₂) ∧
      optional? (contextBits? 2) f₂ = some tail.subjectUniqueId ∧
      Der.takeContext stray 3 r₂ = some (f₃, []) ∧
      optional? extensions? f₃ = some tail.extensions := by
  constructor
  · intro read
    obtain ⟨⟨f₁, r₁⟩, taken₁, read⟩ := Option.bind_eq_some_iff.1 read
    obtain ⟨i, first, read⟩ := Option.bind_eq_some_iff.1 read
    obtain ⟨⟨f₂, r₂⟩, taken₂, read⟩ := Option.bind_eq_some_iff.1 read
    obtain ⟨s, second, read⟩ := Option.bind_eq_some_iff.1 read
    obtain ⟨⟨f₃, r₃⟩, taken₃, read⟩ := Option.bind_eq_some_iff.1 read
    obtain ⟨es, third, read⟩ := Option.bind_eq_some_iff.1 read
    split at read
    next =>
      cases read
      exact ⟨f₁, r₁, f₂, r₂, f₃, taken₁, first, taken₂, second, taken₃, third⟩
    next => cases read
  · rintro ⟨f₁, r₁, f₂, r₂, f₃, taken₁, first, taken₂, second, taken₃, third⟩
    simp only [ofItems?, Option.bind_eq_bind, taken₁, first, taken₂, second, taken₃, third,
      Option.bind_some]
    rfl

section

variable (h₁ : Taken 1 items s₁ f₁ r₁) (h₂ : Taken 2 r₁ s₂ f₂ r₂) (h₃ : Taken 3 r₂ s₃ f₃ r₃)
include h₁ h₂ h₃

theorem ascends_iff : Ascends 0 items ↔ s₁ = [] ∧ s₂ = [] ∧ s₃ = [] ∧ Ascends 3 r₃ := by
  have next (m n : UInt8) (h : n.toNat = m.toNat + 1) (k : UInt8) : m < k ↔ n ≤ k := by
    rw [UInt8.lt_iff_toNat_lt, UInt8.le_iff_toNat_le, h]
    exact Iff.rfl
  rw [h₁.ascends_iff (next 0 1 rfl), h₂.ascends_iff (next 1 2 rfl), h₃.ascends_iff (next 2 3 rfl)]

theorem ofItems?_eq_some_iff : ofItems? stray items = some tail ↔
    (stray = .refused → Ascends 0 items) ∧
      optional? (contextBits? 1) f₁ = some tail.issuerUniqueId ∧
      optional? (contextBits? 2) f₂ = some tail.subjectUniqueId ∧
      optional? extensions? f₃ = some tail.extensions ∧ r₃ = [] := by
  rw [ascends_iff h₁ h₂ h₃, ofItems?_eq_some_iff_exists]
  constructor
  · rintro ⟨_, _, _, _, _, taken₁, first, taken₂, second, taken₃, third⟩
    obtain ⟨clean₁, found₁⟩ := h₁.take_iff.1 taken₁
    obtain ⟨rfl, rfl⟩ := Prod.mk.inj found₁
    obtain ⟨clean₂, found₂⟩ := h₂.take_iff.1 taken₂
    obtain ⟨rfl, rfl⟩ := Prod.mk.inj found₂
    obtain ⟨clean₃, found₃⟩ := h₃.take_iff.1 taken₃
    obtain ⟨rfl, rfl⟩ := Prod.mk.inj found₃
    exact ⟨fun refused => ⟨clean₁ refused, clean₂ refused, clean₃ refused, trivial⟩, first,
      second, third, rfl⟩
  · rintro ⟨clean, first, second, third, rfl⟩
    exact ⟨f₁, r₁, f₂, r₂, f₃, h₁.take_iff.2 ⟨fun refused => (clean refused).1, rfl⟩, first,
      h₂.take_iff.2 ⟨fun refused => (clean refused).2.1, rfl⟩, second,
      h₃.take_iff.2 ⟨fun refused => (clean refused).2.2.1, rfl⟩, third⟩

end

/-- Refusing fields out of place leaves what is in order. -/
theorem ofItems?_refused_iff : ofItems? .refused items = some tail ↔
    ofItems? .passedOver items = some tail ∧ Ascends 0 items := by
  obtain ⟨s₁, f₁, r₁, h₁⟩ := Der.exists_taken 1 items
  obtain ⟨s₂, f₂, r₂, h₂⟩ := Der.exists_taken 2 r₁
  obtain ⟨s₃, f₃, r₃, h₃⟩ := Der.exists_taken 3 r₂
  rw [ofItems?_eq_some_iff h₁ h₂ h₃, ofItems?_eq_some_iff h₁ h₂ h₃]
  exact ⟨fun h => ⟨⟨fun other => (nomatch other), h.2⟩, h.1 rfl⟩, fun h => ⟨fun _ => h.2, h.1.2⟩⟩

/-- Only a value in context 3 holds extensions. -/
theorem contextNumber?_of_holdsStatedFalse (h : HoldsStatedFalse t) :
    t.contextNumber? = some 3 := by
  obtain ⟨items, held, -⟩ := h
  obtain ⟨t', unwrapped, -⟩ := Option.bind_eq_some_iff.1 held
  exact contextNumber?_of_unwrap? (by decide) unwrapped

/-- The fields in contexts are written as they were read just if their numbers ascend and no
extension stated that it is not critical. -/
theorem toTlvs_eq_iff (read : ofItems? .passedOver items = some tail) :
    tail.toTlvs = items ↔ Ascends 0 items ∧ ∀ t ∈ items, ¬ HoldsStatedFalse t := by
  obtain ⟨s₁, f₁, r₁, h₁⟩ := Der.exists_taken 1 items
  obtain ⟨s₂, f₂, r₂, h₂⟩ := Der.exists_taken 2 r₁
  obtain ⟨s₃, f₃, r₃, h₃⟩ := Der.exists_taken 3 r₂
  obtain ⟨-, first, second, third, rfl⟩ := (ofItems?_eq_some_iff h₁ h₂ h₃).1 read
  obtain ⟨length, unstated⟩ := map_wrapExtensions_eq_iff third
  have cut : items = s₁ ++ (f₁.toList ++ (s₂ ++ (f₂.toList ++ (s₃ ++ f₃.toList)))) := by
    rw [h₁.split, h₂.split, h₃.split, List.append_nil]
  have written : tail.toTlvs
      = f₁.toList ++ (f₂.toList ++ (tail.extensions.map wrapExtensions).toList) := by
    rw [toTlvs, map_eq_of_optional? first fun _ _ => eq_of_contextBits?,
      map_eq_of_optional? second fun _ _ => eq_of_contextBits?, List.append_assoc]
  rw [ascends_iff h₁ h₂ h₃, written]
  constructor
  · intro same
    -- As many values are written as were found, so there is no room for strays.
    have count := congrArg List.length (same.trans cut)
    simp only [List.length_append, length] at count
    obtain rfl : s₁ = [] := List.eq_nil_of_length_eq_zero (by omega)
    obtain rfl : s₂ = [] := List.eq_nil_of_length_eq_zero (by omega)
    obtain rfl : s₃ = [] := List.eq_nil_of_length_eq_zero (by omega)
    refine ⟨⟨rfl, rfl, rfl, trivial⟩, fun t mem stated => ?_⟩
    have number := contextNumber?_of_holdsStatedFalse stated
    simp only [List.nil_append] at cut
    rw [cut, List.append_right_inj, List.append_right_inj] at same
    have same := congrArg List.head? same
    rw [Option.head?_toList, Option.head?_toList] at same
    rw [cut, List.mem_append, List.mem_append, Option.mem_toList, Option.mem_toList,
      Option.mem_toList] at mem
    rcases mem with held | held | held
    · rw [h₁.named t held] at number
      exact absurd (Option.some.inj number) (by decide)
    · rw [h₂.named t held] at number
      exact absurd (Option.some.inj number) (by decide)
    · exact unstated.1 same t held stated
  · rintro ⟨⟨rfl, rfl, rfl, -⟩, all⟩
    simp only [List.nil_append] at cut
    rw [unstated.2 fun t held => all t ?_, cut]
    rw [cut, List.mem_append, List.mem_append, Option.mem_toList, Option.mem_toList,
      Option.mem_toList]
    exact .inr (.inr held)

end Tail

end X509
end SecurityTokens
