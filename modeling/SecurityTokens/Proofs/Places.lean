/-
# Places and the ways to them

The places of a document are exactly the ways that lead from its outermost
element to an element: a way, at each level the number of an element among the
elements there, leads to one element at most (`Element.at?`), and every element
that a way leads to is listed once, under that way.  They are listed in document
order, which is the order of the ways as lists of numbers:

| before | after |
| --- | --- |
| an element | what is inside it |
| what is inside an element | what is inside the elements after it |

Both are shown by induction over the elements inside, `Element.induction_elements`.
-/

import SecurityTokens.Xml.Document

namespace SecurityTokens
namespace Xml

mutual

theorem Node.of_elements {P : Element → Prop} (step : ∀ e, (∀ c ∈ e.elements, P c) → P e) :
    ∀ (node : Node) (e : Element), node.element? = some e → P e
  | .element name attributes children, e, h => by
    obtain rfl := Option.some.inj h
    exact step _ (nodes_of_elements step children)
  | .text _, _, h => by cases h
  | .comment _, _, h => by cases h
  | .instruction _ _, _, h => by cases h

theorem nodes_of_elements {P : Element → Prop} (step : ∀ e, (∀ c ∈ e.elements, P c) → P e) :
    ∀ (nodes : List Node), ∀ c ∈ nodes.filterMap Node.element?, P c
  | [], c, h => by cases h
  | node :: rest, c, h => by
    cases found : node.element? with
    | none =>
      rw [List.filterMap_cons_none found] at h
      exact nodes_of_elements step rest c h
    | some e =>
      rw [List.filterMap_cons_some found] at h
      rcases List.mem_cons.1 h with rfl | h
      · exact Node.of_elements step node c found
      · exact nodes_of_elements step rest c h

end

/-- What holds of an element if it holds of the elements directly inside holds of
every element. -/
theorem Element.induction_elements {P : Element → Prop}
    (step : ∀ e, (∀ c ∈ e.elements, P c) → P e) (e : Element) : P e :=
  Node.of_elements step e.toNode e rfl

/-- The element that a way from an element leads to, if there is one. -/
def Element.at? : List Nat → Element → Option Element
  | [], e => some e
  | i :: way, e => e.elements[i]?.bind (at? way)

/-- One element further inside. -/
theorem Element.at?_concat {e c d : Element} {way : List Nat} {i : Nat}
    (reached : e.at? way = some c) (child : c.elements[i]? = some d) :
    e.at? (way ++ [i]) = some d := by
  induction way generalizing e with
  | nil =>
    obtain rfl := Option.some.inj reached
    exact Option.bind_eq_some_iff.2 ⟨d, child, rfl⟩
  | cons k way ih =>
    obtain ⟨next, first, rest⟩ := Option.bind_eq_some_iff.1 reached
    exact Option.bind_eq_some_iff.2 ⟨next, first, ih rest⟩

/-- The places inside an element are those of the elements inside it, in order. -/
theorem placesFrom_eq (path : List Nat) (nodes : List Node) (index : Nat) :
    placesFrom path index nodes = ((nodes.filterMap Node.element?).zipIdx index).flatMap
      fun c => c.1.toNode.placesAt (path ++ [c.2]) := by
  induction nodes generalizing index with
  | nil => rfl
  | cons node rest ih =>
    rw [placesFrom, ih]
    cases node with
    | element name attributes children => rfl
    | text content => rfl
    | comment content => rfl
    | instruction target content => rfl

theorem placesAt_toNode (path : List Nat) (e : Element) :
    e.toNode.placesAt path
      = ⟨path, e⟩ :: e.elements.zipIdx.flatMap fun c => c.1.toNode.placesAt (path ++ [c.2]) := by
  rw [Element.toNode, Node.placesAt, placesFrom_eq]
  rfl

/-- The places at and below an element are the ways that lead from it to elements. -/
theorem mem_placesAt_iff {e : Element} {path : List Nat} {p : Place} :
    p ∈ e.toNode.placesAt path ↔ ∃ way, p.path = path ++ way ∧ e.at? way = some p.element := by
  induction e using Element.induction_elements generalizing path with
  | step e ih =>
    rw [placesAt_toNode, List.mem_cons, List.mem_flatMap]
    constructor
    · rintro (rfl | ⟨⟨c, i⟩, child, inside⟩)
      · exact ⟨[], (List.append_nil path).symm, rfl⟩
      · have child := List.mem_zipIdx_iff_getElem?.1 child
        obtain ⟨way, reached, found⟩ := (ih c (List.mem_of_getElem? child)).1 inside
        refine ⟨i :: way, ?_, ?_⟩
        · rw [reached, List.append_assoc, List.singleton_append]
        · rw [Element.at?, child]
          exact found
    · rintro ⟨way, reached, found⟩
      cases way with
      | nil =>
        obtain ⟨path', e'⟩ := p
        obtain rfl : e = e' := Option.some.inj found
        obtain rfl : path' = path := reached.trans (List.append_nil path)
        exact .inl rfl
      | cons i way =>
        obtain ⟨c, child, found⟩ := Option.bind_eq_some_iff.1 found
        refine .inr ⟨(c, i), List.mem_zipIdx_iff_getElem?.2 child, ?_⟩
        refine (ih c (List.mem_of_getElem? child)).2 ⟨way, ?_, found⟩
        rw [reached, List.append_assoc, List.singleton_append]

/-- What is inside comes after, and so does what is inside later elements. -/
theorem pairwise_placesAt (e : Element) (path : List Nat) :
    (e.toNode.placesAt path).Pairwise fun p q => p.path < q.path := by
  induction e using Element.induction_elements generalizing path with
  | step e ih =>
    rw [placesAt_toNode, List.pairwise_cons, List.pairwise_flatMap]
    refine ⟨fun q inside => ?_, fun c child => ?_, ?_⟩
    · obtain ⟨⟨c, i⟩, -, inside⟩ := List.mem_flatMap.1 inside
      obtain ⟨way, reached, -⟩ := mem_placesAt_iff.1 inside
      rw [reached, List.append_assoc]
      have longer : path ++ [] < path ++ ([i] ++ way) := List.append_left_lt (by simp)
      rwa [List.append_nil] at longer
    · exact ih c.1 (List.mem_of_getElem? (List.mem_zipIdx_iff_getElem?.1 child)) _
    · have numbered : e.elements.zipIdx.Pairwise fun c d => c.2 < d.2 := by
        rw [← List.pairwise_map, List.zipIdx_map_snd]
        exact List.pairwise_lt_range'
      refine numbered.imp fun before p inside q inside' => ?_
      obtain ⟨way, reached, -⟩ := mem_placesAt_iff.1 inside
      obtain ⟨way', reached', -⟩ := mem_placesAt_iff.1 inside'
      rw [reached, reached', List.append_assoc, List.append_assoc]
      exact List.append_left_lt (List.cons_lt_cons_iff.2 (.inl before))

/-- The places directly inside are the elements directly inside, by their numbers. -/
theorem Place.mem_children_iff {p c : Place} : c ∈ p.children ↔
    ∃ i, p.element.elements[i]? = some c.element ∧ c.path = p.path ++ [i] := by
  rw [children, List.mem_iff_getElem?]
  refine exists_congr fun i => ?_
  obtain ⟨path, e⟩ := c
  rw [List.getElem?_mapIdx, Option.map_eq_some_iff]
  constructor
  · rintro ⟨e', there, same⟩
    obtain ⟨rfl, rfl⟩ := Place.mk.inj same
    exact ⟨there, rfl⟩
  · rintro ⟨there, rfl⟩
    exact ⟨e, there, rfl⟩

/-- They come in document order, too. -/
theorem Place.pairwise_children (p : Place) : p.children.Pairwise fun c d => c.path < d.path := by
  rw [children, List.pairwise_iff_getElem]
  intro i j _ _ before
  simp only [List.getElem_mapIdx]
  exact List.append_left_lt (List.cons_lt_cons_iff.2 (.inl before))

/-- A way that comes before another one, and does not lead past it, comes before it
however both go on. -/
theorem append_lt_append_of_lt {a b : List Nat} (before : a < b) (apart : ¬ a <+: b)
    (s t : List Nat) : a ++ s < b ++ t := by
  induction a generalizing b with
  | nil => exact absurd List.nil_prefix apart
  | cons x a ih =>
    cases b with
    | nil => cases before
    | cons y b =>
      rw [List.cons_append, List.cons_append, List.cons_lt_cons_iff]
      rcases List.cons_lt_cons_iff.1 before with less | ⟨rfl, tail⟩
      · exact .inl less
      · refine .inr ⟨rfl, ih tail fun begins => apart ?_⟩
        exact List.cons_prefix_cons.2 ⟨rfl, begins⟩

/-- No two of the places have one way. -/
def Apart (ps : List Place) : Prop := ps.Pairwise fun p q => p.path ≠ q.path

/-- Of places that are apart there is one only, if all have its way. -/
theorem Apart.eq_singleton_iff {ps : List Place} {p : Place} (apart : Apart ps) :
    ps = [p] ↔ p ∈ ps ∧ ∀ q ∈ ps, q.path = p.path := by
  constructor
  · rintro rfl
    refine ⟨List.mem_singleton_self p, fun q mem => ?_⟩
    rw [List.mem_singleton.1 mem]
  · rintro ⟨mem, same⟩
    match ps with
    | [] => cases mem
    | [q] => rw [List.mem_singleton.1 mem]
    | q :: q' :: rest =>
      have differ := (List.pairwise_cons.1 apart).1 q' List.mem_cons_self
      have first := same q List.mem_cons_self
      have second := same q' (List.mem_cons_of_mem q List.mem_cons_self)
      exact absurd (first.trans second.symm) differ

/-- Of places that are apart there are several, if two have different ways. -/
theorem Apart.two_le_length_iff {ps : List Place} (apart : Apart ps) :
    2 ≤ ps.length ↔ ∃ p ∈ ps, ∃ q ∈ ps, p.path ≠ q.path := by
  constructor
  · intro several
    match ps with
    | [] => cases several
    | [_] => exact absurd several (Nat.not_succ_le_self 1)
    | p :: q :: rest =>
      refine ⟨p, List.mem_cons_self, q, List.mem_cons_of_mem p List.mem_cons_self, ?_⟩
      exact (List.pairwise_cons.1 apart).1 q List.mem_cons_self
  · rintro ⟨p, memP, q, memQ, differ⟩
    match ps with
    | [] => cases memP
    | [s] =>
      rw [List.mem_singleton.1 memP, List.mem_singleton.1 memQ] at differ
      exact absurd rfl differ
    | _ :: _ :: rest => exact Nat.le_add_left 2 rest.length

namespace Document

variable {root : Element} {p : Place}

/-- A document has a place for every way to an element, and no other places. -/
theorem mem_placesOf_iff : p ∈ placesOf root ↔ root.at? p.path = some p.element := by
  rw [placesOf, mem_placesAt_iff]
  simp only [List.nil_append, exists_eq_left']

/-- The places of a document come in document order. -/
theorem pairwise_placesOf (root : Element) :
    (placesOf root).Pairwise fun p q => p.path < q.path :=
  pairwise_placesAt root []

/-- What holds along the places of a document holds of every place and each that comes
after it. -/
theorem pairwise_placesOf_iff {R : Place → Place → Prop} : (placesOf root).Pairwise R ↔
    ∀ p ∈ placesOf root, ∀ q ∈ placesOf root, p.path < q.path → R p q := by
  have ordered := pairwise_placesOf root
  constructor
  · intro related p memP q memQ before
    obtain ⟨i, inP, rfl⟩ := List.mem_iff_getElem.1 memP
    obtain ⟨j, inQ, rfl⟩ := List.mem_iff_getElem.1 memQ
    rw [List.pairwise_iff_getElem] at ordered related
    rcases Nat.lt_trichotomy i j with less | rfl | more
    · exact related i j inP inQ less
    · exact absurd before (List.lt_irrefl _)
    · exact absurd (ordered j i inQ inP more) (List.lt_asymm before)
  · intro related
    refine ordered.imp_of_mem fun memP memQ before => ?_
    exact related _ memP _ memQ before

/-- No two places of a document have one way. -/
theorem apart_placesOf (root : Element) : Apart (placesOf root) := by
  refine (pairwise_placesOf root).imp fun before same => ?_
  exact List.lt_irrefl _ (same ▸ before)

end Document
end Xml
end SecurityTokens
