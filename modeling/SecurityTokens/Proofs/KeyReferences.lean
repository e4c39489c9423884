/-
# Which references in keys are found

A reference in a key stands two levels below the element whose key it gives:

| way | element |
| --- | --- |
| `way` | a signature, encrypted data or an encrypted key |
| `way ++ [k]` | the first `ds:KeyInfo` directly inside |
| `way ++ [k, j]` | a `wsse:SecurityTokenReference` |

Sites may be nested, and then an inner one stands in the `ds:KeyInfo` of an outer one
or anywhere else below it.  Since an element has one way only, it is a reference in the
key of one site at most: the walk over all sites finds it once, and under that site's
kind (`keyReferences_exact`).  A reference directly inside a `wsc:DerivedKeyToken`, or
in the `ds:KeyInfo` of any other element, is none of these.
-/

import SecurityTokens.Proofs.ReferenceOrder

namespace SecurityTokens

open Xml (Place Document)

namespace ReferenceSite

/-- An element is a site of the kind whose name it has. -/
theorem ofElement?_eq_some_iff {e : Xml.Element} {site : ReferenceSite} :
    ofElement? e = some site ↔ e.isNamed site.namespaceUri site.label = true := by
  constructor
  · intro known
    unfold ofElement? at known
    exact (List.find?_eq_some_iff_append.1 known).1
  · intro named
    have mem : site ∈ [signature, encryptedData, encryptedKey] := by cases site <;> decide
    -- the names of the sites tell them apart
    have unique : ∀ other ∈ [signature, encryptedData, encryptedKey],
        e.isNamed other.namespaceUri other.label = true → other = site := by
      intro other _ named'
      have label : other.label = site.label := by
        rw [← (Xml.Element.isNamed_iff.1 named').1, (Xml.Element.isNamed_iff.1 named).1]
      revert label
      cases other <;> cases site <;> decide
    exact find?_eq_some_of_unique mem named unique

end ReferenceSite

namespace Xml.Place

variable {p c r : Place} {namespaceUri localName : String}

/-- The first element of a name directly inside, by its number. -/
theorem child?_eq_some_iff : p.child? namespaceUri localName = some c ↔
    ∃ k, c.path = p.path ++ [k] ∧ p.element.elements[k]? = some c.element ∧
      c.element.isNamed namespaceUri localName = true ∧
      ∀ i < k, ∀ e, p.element.elements[i]? = some e → e.isNamed namespaceUri localName = false := by
  have numbered (i : Nat) :
      p.children[i]? = p.element.elements[i]?.map fun e => ⟨p.path ++ [i], e⟩ :=
    List.getElem?_mapIdx
  rw [child?, List.find?_eq_some_iff_getElem]
  constructor
  · rintro ⟨named, k, inside, rfl, first⟩
    have there := numbered k
    rw [List.getElem?_eq_getElem inside, eq_comm, Option.map_eq_some_iff] at there
    obtain ⟨e, at_k, same⟩ := there
    refine ⟨k, ?_, ?_, named, ?_⟩
    · rw [← same]
    · rw [at_k, ← same]
    · intro i before e at_i
      have unnamed := first i before
      have earlier : p.children[i]? = some ⟨p.path ++ [i], e⟩ := by rw [numbered, at_i]; rfl
      rw [(List.getElem?_eq_some_iff.1 earlier).2] at unnamed
      exact Bool.not_eq_true' _ ▸ unnamed
  · rintro ⟨k, way, at_k, named, first⟩
    obtain ⟨path, e⟩ := c
    obtain rfl : path = p.path ++ [k] := way
    have there : p.children[k]? = some ⟨p.path ++ [k], e⟩ := by rw [numbered, at_k]; rfl
    obtain ⟨inside, found⟩ := List.getElem?_eq_some_iff.1 there
    refine ⟨named, k, inside, found, ?_⟩
    intro i before
    have inside' : i < p.children.length := Nat.lt_trans before inside
    have earlier := numbered i
    rw [List.getElem?_eq_getElem inside', eq_comm, Option.map_eq_some_iff] at earlier
    obtain ⟨e', at_i, same⟩ := earlier
    rw [← same, first i before e' at_i]
    rfl

end Xml.Place

/-- The element `e` is number `j` in the first `ds:KeyInfo` of `owner`, which is number
`k` there, and it is a reference in the key of a site of this kind. -/
structure ReferenceIn (site : ReferenceSite) (owner : Xml.Element) (k j : Nat)
    (e : Xml.Element) : Prop where
  known : owner.isNamed site.namespaceUri site.label = true
  inside : ∃ keyInfo, owner.elements[k]? = some keyInfo ∧
    keyInfo.isNamed Namespace.signature "KeyInfo" = true ∧ keyInfo.elements[j]? = some e
  first : ∀ i < k, ∀ earlier, owner.elements[i]? = some earlier →
    earlier.isNamed Namespace.signature "KeyInfo" = false
  named : e.isNamed Namespace.security "SecurityTokenReference" = true

namespace Xml.Document

variable {d : Document} {site : ReferenceSite} {p r : Place}

/-- What is listed at a place are the references in its key. -/
theorem mem_referencesAt_iff_exists : (site, r) ∈ ReferenceSite.referencesAt p ↔
    ∃ k j, r.path = p.path ++ [k, j] ∧ ReferenceIn site p.element k j r.element := by
  rw [mem_referencesAt_iff, ReferenceSite.ofElement?_eq_some_iff, Place.mem_keyReferences_iff]
  constructor
  · rintro ⟨known, keyInfo, found, child, named⟩
    obtain ⟨k, way, at_k, isKeyInfo, first⟩ := Place.child?_eq_some_iff.1 found
    obtain ⟨j, at_j, way'⟩ := Place.mem_children_iff.1 child
    refine ⟨k, j, ?_, { known, first, named, inside := ⟨keyInfo.element, at_k, isKeyInfo, at_j⟩ }⟩
    rw [way', way, List.append_assoc, List.singleton_append]
  · rintro ⟨k, j, way, ⟨known, ⟨keyInfo, at_k, isKeyInfo, at_j⟩, first, named⟩⟩
    refine ⟨known, ⟨p.path ++ [k], keyInfo⟩, ?_, ?_, named⟩
    · exact Place.child?_eq_some_iff.2 ⟨k, rfl, at_k, isKeyInfo, first⟩
    · refine Place.mem_children_iff.2 ⟨j, at_j, ?_⟩
      rw [way, List.append_assoc, List.singleton_append]

/-- The ways to the references are all different. -/
theorem nodup_paths_keyReferences (d : Document) : (d.keyReferences.map (·.2.path)).Nodup := by
  rw [List.nodup_iff_pairwise_ne, List.pairwise_map]
  refine d.pairwise_siteWay.imp ?_
  intro a b ordered same
  have sites : a.2.siteWay = b.2.siteWay := by rw [Place.siteWay, Place.siteWay, same]
  rcases ordered with less | ⟨-, less⟩
  · rw [sites] at less
    exact List.lt_irrefl _ less
  · rw [same] at less
    exact List.lt_irrefl _ less

/-- A reference that is found reads under its site. -/
theorem readUnderSite_eq_ok_iff {found : ReferenceSite × Place}
    {read : ReferenceSite × TokenReference} :
    (do return (found.1, ← TokenReference.ofElement found.2.element)) = Except.ok read ↔
      read.1 = found.1 ∧ TokenReference.ofElement found.2.element = .ok read.2 := by
  rw [Except.bind_eq_ok_iff]
  constructor
  · rintro ⟨r, parsed, same⟩
    obtain rfl := Except.ok.inj same
    exact ⟨rfl, parsed⟩
  · rintro ⟨same, parsed⟩
    refine ⟨read.2, parsed, ?_⟩
    rw [← same]
    rfl

/-- The references as they read, in their order and with their sites. -/
theorem parseKeyReferences_eq_ok_iff {read : List (ReferenceSite × TokenReference)} :
    d.parseKeyReferences = .ok read ↔ List.Forall₂ (fun found read =>
      read.1 = found.1 ∧ TokenReference.ofElement found.2.element = .ok read.2)
      d.keyReferences read := by
  rw [parseKeyReferences, Except.mapM_eq_ok_iff]
  constructor
  · intro each
    exact each.imp fun _ _ => readUnderSite_eq_ok_iff.1
  · intro each
    exact each.imp fun _ _ => readUnderSite_eq_ok_iff.2

/-- They can be read if each of them can. -/
theorem exists_parseKeyReferences_iff : (∃ read, d.parseKeyReferences = .ok read) ↔
    ∀ found ∈ d.keyReferences, ∃ r, TokenReference.ofElement found.2.element = .ok r := by
  rw [parseKeyReferences, Except.exists_mapM_eq_ok_iff]
  refine forall₂_congr fun found _ => ?_
  constructor
  · rintro ⟨read, parsed⟩
    exact ⟨read.2, (readUnderSite_eq_ok_iff.1 parsed).2⟩
  · rintro ⟨r, parsed⟩
    exact ⟨(found.1, r), readUnderSite_eq_ok_iff.2 ⟨rfl, parsed⟩⟩

/-- **Which references in keys are found.**  An element is found, under a kind of site, if
and only if it is a `wsse:SecurityTokenReference` in the first `ds:KeyInfo` of an element of
that kind, wherever this stands; and it is found once.  The references can be read if and
only if each of them can, and reading keeps their order and their sites. -/
theorem keyReferences_exact (d : Document) :
    (∀ site r, (site, r) ∈ d.keyReferences ↔ ∃ way owner k j,
      d.root.at? way = some owner ∧ r.path = way ++ [k, j] ∧
        ReferenceIn site owner k j r.element) ∧
    (d.keyReferences.map (·.2.path)).Nodup ∧
    (∀ read, d.parseKeyReferences = .ok read ↔ List.Forall₂ (fun found read =>
      read.1 = found.1 ∧ TokenReference.ofElement found.2.element = .ok read.2)
      d.keyReferences read) ∧
    ((∃ read, d.parseKeyReferences = .ok read) ↔
      ∀ found ∈ d.keyReferences, ∃ r, TokenReference.ofElement found.2.element = .ok r) := by
  refine ⟨fun site r => ?_, d.nodup_paths_keyReferences,
    fun _ => parseKeyReferences_eq_ok_iff, exists_parseKeyReferences_iff⟩
  rw [keyReferences, List.mem_flatMap]
  constructor
  · rintro ⟨p, place, listed⟩
    obtain ⟨k, j, way, reference⟩ := mem_referencesAt_iff_exists.1 listed
    exact ⟨p.path, p.element, k, j, mem_placesOf_iff.1 place, way, reference⟩
  · rintro ⟨way, owner, k, j, reached, path, reference⟩
    have place : ⟨way, owner⟩ ∈ d.places := mem_placesOf_iff.2 reached
    exact ⟨_, place, mem_referencesAt_iff_exists.2 ⟨k, j, path, reference⟩⟩

/-- The reference of a derived key to its base is not one in a key. -/
example : (ofRoot ⟨⟨some Namespace.conversation0512, "DerivedKeyToken"⟩, [],
    [.element ⟨some Namespace.security, "SecurityTokenReference"⟩ [] []]⟩ []).keyReferences
      = [] := by
  rfl

end Xml.Document
end SecurityTokens
