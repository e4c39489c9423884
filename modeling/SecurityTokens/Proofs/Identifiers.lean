/-
# What an identifier leads to

The index of a document is built element by element and, for each element,
attribute by attribute.  What it holds of one identifier depends only on the
elements that have carried it so far (`IdTarget.ofCarriers`):

| carriers so far | entry | after one more carrier |
| --- | --- | --- |
| none | none | that element |
| one | that element | ambiguous |
| several | ambiguous | ambiguous |

An element that carries an identifier in several attributes is entered as often,
and all but the first time change nothing.  As no element is listed twice, the
finished index tells apart whether none, one or several elements of the document
carry the identifier (`Document.elementById_eq`).
-/

import SecurityTokens.Proofs.Places

namespace SecurityTokens
namespace Xml

/-- The element carries `id` in one of its attributes for identifiers. -/
def Element.Carries (extra : List String) (id : String) (e : Element) : Prop :=
  e.attributeIn? Namespace.utility "Id" = some id ∨
    ∃ name ∈ idAttributes ++ extra, e.attribute? name = some id

theorem Element.mem_ids_iff {extra : List String} {id : String} {e : Element} :
    id ∈ e.ids extra ↔ e.Carries extra id := by
  rw [ids, List.mem_append, Option.mem_toList, List.mem_filterMap, Carries]

/-- The places of the elements that carry `id`. -/
def carriers (extra : List String) (id : String) (places : List Place) : List Place :=
  places.filter fun p => decide (id ∈ p.element.ids extra)

theorem mem_carriers_iff {extra : List String} {id : String} {places : List Place} {p : Place} :
    p ∈ carriers extra id places ↔ p ∈ places ∧ p.element.Carries extra id := by
  rw [carriers, List.mem_filter, decide_eq_true_iff, Element.mem_ids_iff]

theorem apart_carriers {places : List Place} (extra : List String) (id : String)
    (apart : Apart places) : Apart (carriers extra id places) :=
  apart.filter _

theorem carriers_concat (extra : List String) (id : String) (before : List Place) (place : Place) :
    carriers extra id (before ++ [place]) = if id ∈ place.element.ids extra then
      carriers extra id before ++ [place] else carriers extra id before := by
  rw [carriers, carriers, List.filter_append, List.filter_cons, List.filter_nil]
  by_cases carries : id ∈ place.element.ids extra
  · rw [decide_eq_true carries, if_pos rfl, if_pos carries]
  · rw [decide_eq_false carries, if_neg Bool.false_ne_true, if_neg carries, List.append_nil]

namespace IdTarget

/-- The entry for an identifier after the element at `place` has carried it, too. -/
def withCarrier (place : Place) : Option IdTarget → IdTarget
  | none => .unique place
  | some (.unique other) => if other.path = place.path then .unique other else .ambiguous
  | some .ambiguous => .ambiguous

/-- The entry for an identifier that elements at the given places carry. -/
def ofCarriers : List Place → Option IdTarget
  | [] => none
  | [place] => some (.unique place)
  | _ :: _ :: _ => some .ambiguous

/-- Carrying an identifier once more changes nothing. -/
theorem withCarrier_withCarrier (place : Place) (entry : Option IdTarget) :
    withCarrier place (some (withCarrier place entry)) = withCarrier place entry := by
  rcases entry with _ | ⟨other⟩ | _
  · exact if_pos rfl
  · by_cases same : other.path = place.path
    · simp only [withCarrier, if_pos same]
    · simp only [withCarrier, if_neg same]
  · rfl

/-- One more carrier, at a place of its own. -/
theorem ofCarriers_concat {before : List Place} {place : Place}
    (apart : ∀ p ∈ before, p.path ≠ place.path) :
    ofCarriers (before ++ [place]) = some (withCarrier place (ofCarriers before)) := by
  match before with
  | [] => rfl
  | [p] => exact congrArg some (if_neg (apart p List.mem_cons_self)).symm
  | _ :: _ :: _ => rfl

end IdTarget

namespace IdIndex

open IdTarget

variable {extra : List String} {index : IdIndex} {place : Place} {id : String}

/-- One identifier further: its entry takes the element into account, and the
others stay. -/
theorem lookup_register (name : String) : (register place index name).lookup id =
    if id = name then some (withCarrier place (index.lookup id)) else index.lookup id := by
  by_cases same : id = name
  · subst same
    rw [if_pos rfl]
    unfold register
    cases found : index.lookup id with
    | none => exact List.lookup_cons_self
    | some target =>
      cases target with
      | unique other =>
        by_cases again : other.path = place.path
        · simp only [if_pos again, found, withCarrier]
        · simp only [if_neg again, List.lookup_cons_self, withCarrier]
      | ambiguous => exact found
  · have other : (id == name) = false := beq_eq_false_iff_ne.2 same
    rw [if_neg same]
    unfold register
    split
    · simp only [List.lookup_cons, other]
    · split
      · rfl
      · simp only [List.lookup_cons, other]
    · rfl

/-- One element further, however many of its attributes carry the identifier. -/
theorem lookup_foldl_register (ids : List String) : (ids.foldl (register place) index).lookup id =
    if id ∈ ids then some (withCarrier place (index.lookup id)) else index.lookup id := by
  induction ids generalizing index with
  | nil => rfl
  | cons name ids ih =>
    rw [List.foldl_cons, ih, lookup_register]
    by_cases first : id = name
    · subst first
      rw [if_pos rfl, if_pos List.mem_cons_self, withCarrier_withCarrier, ite_self]
    · simp only [List.mem_cons, first, false_or, if_false]

theorem lookup_registerAll : (registerAll extra index place).lookup id =
    if id ∈ place.element.ids extra then some (withCarrier place (index.lookup id))
    else index.lookup id :=
  lookup_foldl_register _

/-- All elements further: if the entry is that of the carriers before, it becomes
that of the carriers before and among them. -/
theorem lookup_foldl_registerAll {before places : List Place}
    (distinct : Apart (before ++ places))
    (entered : index.lookup id = ofCarriers (carriers extra id before)) :
    (places.foldl (registerAll extra) index).lookup id
      = ofCarriers (carriers extra id (before ++ places)) := by
  induction places generalizing before index with
  | nil => rw [List.foldl_nil, List.append_nil, entered]
  | cons place rest ih =>
    rw [List.append_cons] at distinct ⊢
    refine ih distinct ?_
    rw [lookup_registerAll, entered, carriers_concat]
    by_cases carries : id ∈ place.element.ids extra
    · rw [if_pos carries, if_pos carries]
      refine (ofCarriers_concat fun p carrier => ?_).symm
      have apart := (List.pairwise_append.1 (List.pairwise_append.1 distinct).1).2.2
      exact apart p (mem_carriers_iff.1 carrier).1 place (List.mem_singleton_self place)
    · rw [if_neg carries, if_neg carries]

/-- The finished index tells for each identifier how many elements carry it. -/
theorem lookup_ofPlaces {places : List Place} (apart : Apart places) :
    (ofPlaces extra places).lookup id = ofCarriers (carriers extra id places) := by
  have distinct : Apart ([] ++ places) := apart
  exact lookup_foldl_registerAll distinct rfl

end IdIndex

namespace Document

/-- An identifier leads where its carriers tell. -/
theorem elementById_eq (root : Element) (extra : List String) (id : String) :
    (ofRoot root extra).elementById id = match carriers extra id (placesOf root) with
      | [] => .ok none
      | [p] => .ok (some p)
      | _ :: _ :: _ => .error (.xmlStructure (.duplicateId id)) := by
  rw [elementById, ofRoot, IdIndex.lookup_ofPlaces (apart_placesOf root)]
  match carriers extra id (placesOf root) with
  | [] => rfl
  | [_] => rfl
  | _ :: _ :: _ => rfl

variable {root : Element} {extra : List String} {id : String} {p : Place}

theorem mem_carriers_placesOf_iff : p ∈ carriers extra id (placesOf root) ↔
    root.at? p.path = some p.element ∧ p.element.Carries extra id := by
  rw [mem_carriers_iff, mem_placesOf_iff]

/-- Nothing is found just if there is no carrier. -/
theorem elementById_eq_none_iff :
    (ofRoot root extra).elementById id = .ok none ↔ carriers extra id (placesOf root) = [] := by
  rw [elementById_eq]
  match carriers extra id (placesOf root) with
  | [] => simp
  | [_] => simp
  | _ :: _ :: _ => simp

/-- A place is found just if it is that of the only carrier. -/
theorem elementById_eq_some_iff :
    (ofRoot root extra).elementById id = .ok (some p) ↔
      carriers extra id (placesOf root) = [p] := by
  rw [elementById_eq]
  match carriers extra id (placesOf root) with
  | [] => simp
  | [_] => simp
  | _ :: _ :: _ => simp

/-- The identifier is refused just if there are several carriers. -/
theorem elementById_eq_error_iff :
    (ofRoot root extra).elementById id = .error (.xmlStructure (.duplicateId id)) ↔
      2 ≤ (carriers extra id (placesOf root)).length := by
  rw [elementById_eq]
  match carriers extra id (placesOf root) with
  | [] => simp
  | [_] => simp
  | _ :: _ :: _ => simp

/-- An element that is found is the only one that carries the identifier. -/
theorem eq_of_elementById {q : Place} (found : (ofRoot root extra).elementById id = .ok (some p))
    (place : root.at? q.path = some q.element) (carries : q.element.Carries extra id) : q = p := by
  have carrier := mem_carriers_placesOf_iff.2 ⟨place, carries⟩
  rw [elementById_eq_some_iff.1 found] at carrier
  exact List.mem_singleton.1 carrier

/-- An identifier leads back to an element that carries it, or is refused. -/
theorem elementById_of_carries (place : root.at? p.path = some p.element)
    (carries : p.element.Carries extra id) :
    (ofRoot root extra).elementById id = .ok (some p) ∨
      (ofRoot root extra).elementById id = .error (.xmlStructure (.duplicateId id)) := by
  have carrier := mem_carriers_placesOf_iff.2 ⟨place, carries⟩
  rw [elementById_eq]
  match carriers extra id (placesOf root), carrier with
  | [q], carrier =>
    rw [List.mem_singleton.1 carrier]
    exact .inl rfl
  | _ :: _ :: _, _ => exact .inr rfl

/-- **The index of identifiers is exact.**  Looking up an identifier finds nothing
if no element of the document carries it, the element if one alone does, in however
many attributes, and is an error if two elements in different places do.  So the
outcome depends on how many elements carry the identifier, and on nothing else. -/
theorem elementById_exact (root : Element) (extra : List String) (id : String) :
    ((ofRoot root extra).elementById id = .ok none ↔
      ∀ p : Place, root.at? p.path = some p.element → ¬ p.element.Carries extra id) ∧
    (∀ p, (ofRoot root extra).elementById id = .ok (some p) ↔
      (root.at? p.path = some p.element ∧ p.element.Carries extra id) ∧
        ∀ q : Place, root.at? q.path = some q.element → q.element.Carries extra id →
          q.path = p.path) ∧
    ((ofRoot root extra).elementById id = .error (.xmlStructure (.duplicateId id)) ↔
      ∃ p q : Place, (root.at? p.path = some p.element ∧ p.element.Carries extra id) ∧
        (root.at? q.path = some q.element ∧ q.element.Carries extra id) ∧ p.path ≠ q.path) ∧
    ∀ root' extra',
      (carriers extra' id (placesOf root')).length = (carriers extra id (placesOf root)).length →
        ((ofRoot root' extra').elementById id).map Option.isSome
          = ((ofRoot root extra).elementById id).map Option.isSome := by
  have apart := apart_carriers extra id (apart_placesOf root)
  refine ⟨?_, fun p => ?_, ?_, fun root' extra' same => ?_⟩
  · rw [elementById_eq_none_iff, List.eq_nil_iff_forall_not_mem]
    simp only [mem_carriers_placesOf_iff, not_and]
  · rw [elementById_eq_some_iff, apart.eq_singleton_iff]
    simp only [mem_carriers_placesOf_iff, and_imp]
  · rw [elementById_eq_error_iff, apart.two_le_length_iff]
    simp only [mem_carriers_placesOf_iff]
    constructor
    · rintro ⟨p, carriesP, q, carriesQ, differ⟩
      exact ⟨p, q, carriesP, carriesQ, differ⟩
    · rintro ⟨p, q, carriesP, carriesQ, differ⟩
      exact ⟨p, carriesP, q, carriesQ, differ⟩
  · rw [elementById_eq, elementById_eq]
    match carriers extra' id (placesOf root'), carriers extra id (placesOf root), same with
    | [], [], _ => rfl
    | [_], [_], _ => rfl
    | _ :: _ :: _, _ :: _ :: _, _ => rfl

end Document
end Xml
end SecurityTokens
