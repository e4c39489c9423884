/-
# Documents and identifiers

A place is an element together with the way to it from the outermost element:
at each level, the position among the elements there.  The places of a document
come in document order.

An element carries an identifier in `wsu:Id`, or in an attribute without a
namespace that is called `Id`, `ID` or `AssertionID` or is registered in
addition.  The index of identifiers is built once.  An identifier on several
elements leads to none of them: looking it up is an error.

| looked up | when |
| --- | --- |
| nothing | no element carries the identifier |
| an element | it alone carries the identifier, in one attribute or several |
| an error | two elements carry it |
-/

import SecurityTokens.Error
import SecurityTokens.Xml.Tree

namespace SecurityTokens
namespace Xml

/-- An element and the way to it. -/
structure Place where
  path : List Nat
  element : Element

/-- The number of the element after a node, which is or would be number `index`. -/
def Node.nextIndex (index : Nat) : Node → Nat
  | .element _ _ _ => index + 1
  | _ => index

mutual

/-- The places at and below a node that is reached by `path`. -/
def Node.placesAt (path : List Nat) : Node → List Place
  | .element name attributes children =>
    ⟨path, ⟨name, attributes, children⟩⟩ :: placesFrom path 0 children
  | .text _ => []
  | .comment _ => []
  | .instruction _ _ => []

/-- The places at and below children of the element at `path`, of which the
first element is number `index`. -/
def placesFrom (path : List Nat) (index : Nat) : List Node → List Place
  | [] => []
  | node :: rest =>
    node.placesAt (path ++ [index]) ++ placesFrom path (node.nextIndex index) rest

end

/-- The places of the elements directly inside. -/
def Place.children (p : Place) : List Place :=
  p.element.elements.mapIdx fun i e => ⟨p.path ++ [i], e⟩

/-- The first element directly inside that has a name. -/
def Place.child? (p : Place) (namespaceUri localName : String) : Option Place :=
  p.children.find? (·.element.isNamed namespaceUri localName)

/-- The elements directly inside that have a name. -/
def Place.childrenNamed (p : Place) (namespaceUri localName : String) : List Place :=
  p.children.filter (·.element.isNamed namespaceUri localName)

/-- The attributes without a namespace that hold identifiers in every document. -/
def idAttributes : List String := ["Id", "ID", "AssertionID"]

/-- The identifiers an element carries, in all its attributes for them. -/
def Element.ids (extra : List String) (e : Element) : List String :=
  (e.attributeIn? Namespace.utility "Id").toList ++ (idAttributes ++ extra).filterMap e.attribute?

/-- Where an identifier leads. -/
inductive IdTarget where
  | unique (place : Place)
  | ambiguous

/-- The identifiers of a document with their targets; of two entries for one
identifier the first counts. -/
abbrev IdIndex := List (String × IdTarget)

namespace IdIndex

/-- The element at `place` carries `id`. -/
def register (place : Place) (index : IdIndex) (id : String) : IdIndex :=
  match index.lookup id with
  | none => (id, .unique place) :: index
  | some (.unique other) =>
    if other.path = place.path then index else (id, .ambiguous) :: index
  | some .ambiguous => index

/-- The element at `place` carries all its identifiers. -/
def registerAll (extra : List String) (index : IdIndex) (place : Place) : IdIndex :=
  (place.element.ids extra).foldl (register place) index

/-- The index of elements given with their places. -/
def ofPlaces (extra : List String) (places : List Place) : IdIndex :=
  places.foldl (registerAll extra) []

end IdIndex

/-- A document and its identifiers. -/
structure Document where
  root : Element
  ids : IdIndex

namespace Document

/-- The places of a document whose outermost element is `root`. -/
def placesOf (root : Element) : List Place := root.toNode.placesAt []

/-- A document, indexed under the identifier attributes and those in `extra`. -/
def ofRoot (root : Element) (extra : List String) : Document :=
  ⟨root, IdIndex.ofPlaces extra (placesOf root)⟩

/-- Every element with its place, in document order. -/
def places (d : Document) : List Place := placesOf d.root

/-- The document of a text. -/
def parse (s : String) (extra : List String) : Except Error Document :=
  match (parse? s).bind Node.element? with
  | some root => .ok (ofRoot root extra)
  | none => .error .xmlSyntax

/-- The element that carries an identifier. -/
def elementById (d : Document) (id : String) : Except Error (Option Place) :=
  match d.ids.lookup id with
  | none => .ok none
  | some (.unique place) => .ok (some place)
  | some .ambiguous => .error (.xmlStructure (.duplicateId id))

/-- The first element that has a name. -/
def find? (d : Document) (namespaceUri localName : String) : Option Place :=
  d.places.find? (·.element.isNamed namespaceUri localName)

/-- The elements that have a name, in document order. -/
def findAll (d : Document) (namespaceUri localName : String) : List Place :=
  d.places.filter (·.element.isNamed namespaceUri localName)

end Document
end Xml
end SecurityTokens
