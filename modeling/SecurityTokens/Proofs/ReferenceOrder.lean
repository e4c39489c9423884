/-
# The order of references in keys

References in keys are listed when the site that they belong to is visited, and sites
are visited in document order.  So the list is ordered by sites first.  A site may lie
inside another, and then what is visited first need not stand first:

| the inner site stands | in the list its references come | in the document they stand |
| --- | --- | --- |
| after all references of the outer one | after those | after those |
| before one of these | after those | before that one |

In an `xenc:EncryptedData` whose key comes with an `xenc:EncryptedKey` of its own, the
reference of the latter may stand first.  The list is in document order exactly if no
site stands before a reference of a site around it (`keyReferences_inDocumentOrder_iff`).
-/

import SecurityTokens.Header.References
import SecurityTokens.Proofs.Places
import SecurityTokens.Proofs.Success

namespace SecurityTokens

open Xml (Place Document)

/-- A `ds:KeyInfo` is no site. -/
theorem ReferenceSite.ofElement?_of_keyInfo {e : Xml.Element}
    (named : e.isNamed Namespace.signature "KeyInfo" = true) : ofElement? e = none := by
  have localName := (Xml.Element.isNamed_iff.1 named).1
  refine List.find?_eq_none.2 fun site _ => ?_
  rw [Xml.Element.isNamed_eq_false]
  · exact Bool.false_ne_true
  · rw [localName]
    cases site <;> decide

namespace Xml.Place

variable {p r : Place}

theorem isNamed_of_child? {c : Place} {namespaceUri localName : String}
    (found : p.child? namespaceUri localName = some c) :
    c.element.isNamed namespaceUri localName = true := by
  unfold child? at found
  exact (List.find?_eq_some_iff_append.1 found).1

theorem mem_keyReferences_iff : r ∈ p.keyReferences ↔
    ∃ keyInfo, p.child? Namespace.signature "KeyInfo" = some keyInfo ∧ r ∈ keyInfo.children ∧
      r.element.isNamed Namespace.security "SecurityTokenReference" = true := by
  unfold keyReferences
  cases p.child? Namespace.signature "KeyInfo" with
  | none => simp
  | some keyInfo => simp [childrenNamed]

/-- A reference of a place is an element of a `ds:KeyInfo` directly inside. -/
theorem exists_way_of_mem_keyReferences (mem : r ∈ p.keyReferences) :
    ∃ k j keyInfo, r.path = p.path ++ [k, j] ∧ p.element.elements[k]? = some keyInfo ∧
      keyInfo.isNamed Namespace.signature "KeyInfo" = true := by
  obtain ⟨keyInfo, found, inside, -⟩ := mem_keyReferences_iff.1 mem
  obtain ⟨k, child, way⟩ := mem_children_iff.1 (List.mem_of_find?_eq_some found)
  obtain ⟨j, -, way'⟩ := mem_children_iff.1 inside
  refine ⟨k, j, keyInfo.element, ?_, child, isNamed_of_child? found⟩
  rw [way', way, List.append_assoc, List.singleton_append]

/-- The references of one place come in document order. -/
theorem pairwise_keyReferences (p : Place) :
    p.keyReferences.Pairwise fun r s => r.path < s.path := by
  unfold keyReferences
  cases p.child? Namespace.signature "KeyInfo" with
  | none => exact .nil
  | some keyInfo => exact keyInfo.pairwise_children.filter _

/-- The way to the place two levels up, which for a reference in a key is its site. -/
def siteWay (r : Place) : List Nat := r.path.dropLast.dropLast

theorem siteWay_of_mem_keyReferences (mem : r ∈ p.keyReferences) : r.siteWay = p.path := by
  obtain ⟨k, j, -, way, -, -⟩ := exists_way_of_mem_keyReferences mem
  rw [siteWay, way, List.append_cons, List.dropLast_concat, List.dropLast_concat]

end Xml.Place

namespace Xml.Document

variable {d : Document} {outer inner p r s : Place}

/-- The place is a site of the document. -/
structure IsSite (d : Document) (p : Place) : Prop where
  place : p ∈ d.places
  known : (ReferenceSite.ofElement? p.element).isSome = true

/-- What is listed at a place are its references, if it is a site. -/
theorem mem_referencesAt_iff {a : ReferenceSite × Place} :
    a ∈ ReferenceSite.referencesAt p ↔
      ReferenceSite.ofElement? p.element = some a.1 ∧ a.2 ∈ p.keyReferences := by
  unfold ReferenceSite.referencesAt
  cases ReferenceSite.ofElement? p.element with
  | none => simp
  | some known =>
    rw [List.mem_map, Option.some.injEq]
    constructor
    · rintro ⟨r, mem, rfl⟩
      exact ⟨rfl, mem⟩
    · rintro ⟨rfl, mem⟩
      exact ⟨a.2, mem, rfl⟩

/-- The references come in document order. -/
def InDocumentOrder (found : List (ReferenceSite × Place)) : Prop :=
  found.Pairwise fun a b => a.2.path < b.2.path

/-- The site `inner` has references and lies inside the site `outer`, before the reference
`r` of the latter. -/
structure Overtakes (d : Document) (outer inner r : Place) : Prop where
  around : d.IsSite outer
  reference : r ∈ outer.keyReferences
  site : d.IsSite inner
  filled : inner.keyReferences ≠ []
  inside : ∃ i way, inner.path = outer.path ++ i :: way
  before : inner.path < r.path

/-- What lies after the beginning of a site and before a reference of it lies inside it. -/
theorem inside_of_before (later : outer.path < inner.path) (reference : r ∈ outer.keyReferences)
    (before : inner.path < r.path) : ∃ i way, inner.path = outer.path ++ i :: way := by
  obtain ⟨k, j, -, reached, -, -⟩ := Place.exists_way_of_mem_keyReferences reference
  by_cases inside : outer.path <+: inner.path
  · obtain ⟨way, inside⟩ := inside
    cases way with
    | nil =>
      rw [← inside, List.append_nil] at later
      exact absurd later (List.lt_irrefl _)
    | cons i way => exact ⟨i, way, inside.symm⟩
  · have after := append_lt_append_of_lt later inside [k, j] []
    rw [List.append_nil, ← reached] at after
    exact absurd before (List.lt_asymm after)

/-- The references of a site that stands before a reference of a site around it stand
before that reference as well. -/
theorem path_lt_of_before (around : d.IsSite outer) (site : d.IsSite inner)
    (reference : r ∈ outer.keyReferences) (own : s ∈ inner.keyReferences)
    (inside : ∃ i way, inner.path = outer.path ++ i :: way) (before : inner.path < r.path) :
    s.path < r.path := by
  obtain ⟨k, j, keyInfo, reached, child, named⟩ := Place.exists_way_of_mem_keyReferences reference
  obtain ⟨k', j', -, reached', -, -⟩ := Place.exists_way_of_mem_keyReferences own
  obtain ⟨i, way, inside⟩ := inside
  -- The only elements around the reference inside its site are its `ds:KeyInfo` and itself.
  have apart : ¬ inner.path <+: r.path := by
    intro begins
    rw [inside, reached, List.prefix_append_right_inj, List.cons_prefix_cons] at begins
    obtain ⟨rfl, inKeyInfo⟩ := begins
    cases way with
    | nil =>
      have there := mem_placesOf_iff.1 site.place
      have keyInfoThere := Element.at?_concat (mem_placesOf_iff.1 around.place) child
      rw [inside, keyInfoThere] at there
      have known := site.known
      rw [← Option.some.inj there, ReferenceSite.ofElement?_of_keyInfo named] at known
      cases known
    | cons m way =>
      obtain ⟨rfl, inReference⟩ := List.cons_prefix_cons.1 inKeyInfo
      obtain rfl := List.prefix_nil.1 inReference
      rw [inside, reached] at before
      exact List.lt_irrefl _ before
  have first := append_lt_append_of_lt before apart [k', j'] []
  rwa [List.append_nil, ← reached'] at first

/-- Of two sites, the references of the one that begins first come first just if the other
one does not begin before any of them. -/
theorem path_lt_iff (around : d.IsSite outer) (site : d.IsSite inner)
    (later : outer.path < inner.path) (reference : r ∈ outer.keyReferences)
    (own : s ∈ inner.keyReferences) : r.path < s.path ↔ ¬ inner.path < r.path := by
  constructor
  · intro ordered before
    have inside := inside_of_before later reference before
    exact List.lt_asymm ordered (path_lt_of_before around site reference own inside before)
  · intro notBefore
    obtain ⟨k, j, -, reached, -, -⟩ := Place.exists_way_of_mem_keyReferences own
    have longer : inner.path ++ [] < inner.path ++ [k, j] := List.append_left_lt (by simp)
    rw [List.append_nil, ← reached] at longer
    exact List.lt_of_le_of_lt (List.not_lt.1 notBefore) longer

/-- The references that are listed at a place are related as its references are. -/
theorem pairwise_referencesAt {R : Place → Place → Prop} (related : p.keyReferences.Pairwise R) :
    (ReferenceSite.referencesAt p).Pairwise fun a b => R a.2 b.2 := by
  unfold ReferenceSite.referencesAt
  cases ReferenceSite.ofElement? p.element with
  | none => exact .nil
  | some site => exact List.pairwise_map.2 related

/-- A relation that holds along the references of every place holds along all of them just
if it holds of the references of any two sites, in the order of the sites. -/
theorem pairwise_keyReferences_iff {R : Place → Place → Prop}
    (related : ∀ p : Place, p.keyReferences.Pairwise R) :
    (d.keyReferences.Pairwise fun a b => R a.2 b.2) ↔
      ∀ p q, d.IsSite p → d.IsSite q → p.path < q.path →
        ∀ r ∈ p.keyReferences, ∀ s ∈ q.keyReferences, R r s := by
  rw [keyReferences, List.pairwise_flatMap, places, pairwise_placesOf_iff]
  constructor
  · rintro ⟨-, ordered⟩ p q siteP siteQ before r memR s memS
    obtain ⟨a, knownP⟩ := Option.isSome_iff_exists.1 siteP.known
    obtain ⟨b, knownQ⟩ := Option.isSome_iff_exists.1 siteQ.known
    have listedR : (a, r) ∈ ReferenceSite.referencesAt p := mem_referencesAt_iff.2 ⟨knownP, memR⟩
    have listedS : (b, s) ∈ ReferenceSite.referencesAt q := mem_referencesAt_iff.2 ⟨knownQ, memS⟩
    exact ordered p siteP.place q siteQ.place before _ listedR _ listedS
  · intro ordered
    refine ⟨fun p _ => pairwise_referencesAt (related p), fun p placeP q placeQ before => ?_⟩
    intro a listedA b listedB
    obtain ⟨knownP, memA⟩ := mem_referencesAt_iff.1 listedA
    obtain ⟨knownQ, memB⟩ := mem_referencesAt_iff.1 listedB
    have siteP : d.IsSite p := ⟨placeP, Option.isSome_of_eq_some knownP⟩
    have siteQ : d.IsSite q := ⟨placeQ, Option.isSome_of_eq_some knownQ⟩
    exact ordered p q siteP siteQ before a.2 memA b.2 memB

/-- The references are ordered by their sites, and those of one site among themselves. -/
theorem pairwise_siteWay (d : Document) : d.keyReferences.Pairwise fun a b =>
    a.2.siteWay < b.2.siteWay ∨ a.2.siteWay = b.2.siteWay ∧ a.2.path < b.2.path := by
  refine (pairwise_keyReferences_iff (R := fun r s => r.siteWay < s.siteWay ∨
    r.siteWay = s.siteWay ∧ r.path < s.path) fun p => ?_).2 ?_
  · refine p.pairwise_keyReferences.imp_of_mem fun memR memS before => .inr ⟨?_, before⟩
    rw [Place.siteWay_of_mem_keyReferences memR, Place.siteWay_of_mem_keyReferences memS]
  · intro p q _ _ before r memR s memS
    rw [Place.siteWay_of_mem_keyReferences memR, Place.siteWay_of_mem_keyReferences memS]
    exact .inl before

/-- **When the references in keys come in document order.**  They are ordered by the places
of their sites, and those of one site by their own.  This is document order if and only if
no site that has references stands inside another one before a reference of the latter. -/
theorem keyReferences_inDocumentOrder_iff (d : Document) :
    (d.keyReferences.Pairwise fun a b =>
      a.2.siteWay < b.2.siteWay ∨ a.2.siteWay = b.2.siteWay ∧ a.2.path < b.2.path) ∧
    (InDocumentOrder d.keyReferences ↔ ∀ outer inner r, ¬ d.Overtakes outer inner r) := by
  refine ⟨d.pairwise_siteWay, ?_⟩
  rw [InDocumentOrder, pairwise_keyReferences_iff Place.pairwise_keyReferences]
  constructor
  · intro ordered outer inner r overtakes
    obtain ⟨s, own⟩ := List.exists_mem_of_ne_nil _ overtakes.filled
    obtain ⟨i, way, inside⟩ := overtakes.inside
    have later : outer.path < inner.path := by
      have longer : outer.path ++ [] < outer.path ++ i :: way := List.append_left_lt (by simp)
      rwa [List.append_nil, ← inside] at longer
    have first := ordered outer inner overtakes.around overtakes.site later r overtakes.reference
      s own
    exact (path_lt_iff overtakes.around overtakes.site later overtakes.reference own).1 first
      overtakes.before
  · intro overtakesNone outer inner around site later r reference s own
    refine (path_lt_iff around site later reference own).2 fun before => ?_
    exact overtakesNone outer inner r
      { around, reference, site, before
        filled := List.ne_nil_of_mem own
        inside := inside_of_before later reference before }

/-- A reference to an element of the document. -/
def referenceTo (uri : String) : Xml.Node :=
  .element ⟨some Namespace.security, "SecurityTokenReference"⟩ []
    [.element ⟨some Namespace.security, "Reference"⟩ [⟨⟨none, "URI"⟩, uri⟩] []]

/-- Encrypted data whose key comes with an encrypted key, which has a reference of its own
and stands before the reference of the data. -/
def dataWithKey : Xml.Element :=
  ⟨⟨some Namespace.encryption, "EncryptedData"⟩, [],
    [.element ⟨some Namespace.signature, "KeyInfo"⟩ []
      [.element ⟨some Namespace.encryption, "EncryptedKey"⟩ []
          [.element ⟨some Namespace.signature, "KeyInfo"⟩ [] [referenceTo "#A"]],
        referenceTo "#B"]]⟩

/-- The reference of the data is listed first, although it stands last. -/
theorem not_inDocumentOrder_dataWithKey :
    (ofRoot dataWithKey []).keyReferences.map (fun a => (a.1, a.2.path))
        = [(.encryptedData, [0, 1]), (.encryptedKey, [0, 0, 0, 0])] ∧
      ¬ InDocumentOrder (ofRoot dataWithKey []).keyReferences := by
  have listed : (ofRoot dataWithKey []).keyReferences.map (fun a => (a.1, a.2.path))
      = [(.encryptedData, [0, 1]), (.encryptedKey, [0, 0, 0, 0])] := by
    decide +kernel
  refine ⟨listed, fun ordered => ?_⟩
  have paths : ((ofRoot dataWithKey []).keyReferences.map fun a => (a.1, a.2.path)).Pairwise
      fun a b => a.2 < b.2 := List.pairwise_map.2 ordered
  rw [listed] at paths
  exact absurd paths (by decide)

end Xml.Document
end SecurityTokens
