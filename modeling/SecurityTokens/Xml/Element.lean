/-
# Elements

A well-formed document is a tree.  Its nodes are elements, runs of text,
comments and instructions, in document order; every run of text is one node.
Names are expanded: a prefix is replaced by the namespace it stands for.

An element's text is the text it begins with.  A comment, an instruction or an
element inside it ends that text.
-/

import SecurityTokens.Text.Blank
import SecurityTokens.Uri

namespace SecurityTokens
namespace Xml

/-- A name with the namespace it belongs to, if any. -/
structure ExpandedName where
  namespaceUri : Option String
  localName : String
deriving DecidableEq, Repr

/-- An attribute of an element. -/
structure Attribute where
  name : ExpandedName
  value : String
deriving DecidableEq, Repr

/-- A node of the tree. -/
inductive Node where
  | element (name : ExpandedName) (attributes : List Attribute) (children : List Node)
  | text (content : String)
  | comment (content : String)
  | instruction (target content : String)

/-- An element of the tree. -/
structure Element where
  name : ExpandedName
  attributes : List Attribute
  children : List Node

/-- The node as an element, if it is one. -/
def Node.element? : Node → Option Element
  | .element name attributes children => some ⟨name, attributes, children⟩
  | _ => none

namespace Element

/-- The element as a node. -/
def toNode (e : Element) : Node := .element e.name e.attributes e.children

/-- The name without its namespace. -/
def localName (e : Element) : String := e.name.localName

/-- The namespace, the empty text standing for none. -/
def namespaceUri (e : Element) : String := e.name.namespaceUri.getD ""

/-- Whether the element has a local name in a namespace. -/
def isNamed (e : Element) (namespaceUri localName : String) : Bool :=
  e.localName == localName && e.namespaceUri == namespaceUri

/-- The elements directly inside, in document order. -/
def elements (e : Element) : List Element := e.children.filterMap Node.element?

/-- The first element directly inside that has a name. -/
def child? (e : Element) (namespaceUri localName : String) : Option Element :=
  e.elements.find? (·.isNamed namespaceUri localName)

/-- The elements directly inside that have a name, in document order. -/
def childrenNamed (e : Element) (namespaceUri localName : String) : List Element :=
  e.elements.filter (·.isNamed namespaceUri localName)

/-- The value of an attribute in a namespace. -/
def attributeIn? (e : Element) (namespaceUri localName : String) : Option String :=
  (e.attributes.find? (·.name == ⟨some namespaceUri, localName⟩)).map (·.value)

/-- The value of an attribute in no namespace. -/
def attribute? (e : Element) (localName : String) : Option String :=
  (e.attributes.find? (·.name == ⟨none, localName⟩)).map (·.value)

/-- The text the element begins with. -/
def leadingText (e : Element) : String :=
  match e.children with
  | .text content :: _ => content
  | _ => ""

/-- The text the element begins with, without blanks at its ends. -/
def text (e : Element) : String := Text.trim e.leadingText

/-- The identifier of the element: `wsu:Id`, or else `Id`. -/
def id? (e : Element) : Option String :=
  (e.attributeIn? Namespace.utility "Id").or (e.attribute? "Id")

@[simp] theorem element?_toNode (e : Element) : e.toNode.element? = some e := rfl

end Element
end Xml
end SecurityTokens
