/-
# From markup to a tree

Tokens are read from left to right.  The elements that are open are kept with
what they hold so far, innermost first, each with the prefixes in scope.  The
document is well formed when every end tag closes the innermost open element,
when there is one outermost element with only white space, comments and
instructions around it, when every prefix in use is in scope, and when no
element has two attributes of one expanded name.

Declarations of prefixes are attributes whose qualifier or local name is
`xmlns`.  The prefixes `xml` and `xmlns` are bound for good: neither their names
nor their namespaces can be given away.
-/

import SecurityTokens.Xml.Element
import SecurityTokens.Xml.Token

namespace SecurityTokens
namespace Xml

/-- The namespace of the prefix `xml`. -/
def xmlNamespace : String := "http://www.w3.org/XML/1998/namespace"

/-- The namespace of the prefix `xmlns`. -/
def xmlnsNamespace : String := "http://www.w3.org/2000/xmlns/"

/-- Prefixes with the namespaces they stand for; the empty prefix is that of
names without one.  Of two entries for one prefix the first counts. -/
abbrev Scope := List (String × String)

/-- What an attribute does to the prefixes in scope. -/
inductive Binding where
  | attribute
  | redundant
  | binds (qualifier uri : String)
  | refused
deriving DecidableEq, Repr

/-- Whether an attribute declares a prefix. -/
def RawAttribute.binding (a : RawAttribute) : Binding :=
  if a.name.qualifier = "xmlns" then
    if a.value = xmlnsNamespace then .refused
    else if a.name.localName = "xml" then
      if a.value = xmlNamespace then .redundant else .refused
    else if a.value = xmlNamespace then .refused
    else .binds a.name.localName a.value
  else if a.name.localName = "xmlns" then
    if a.value = xmlNamespace ∨ a.value = xmlnsNamespace then .refused
    else .binds "" a.value
  else .attribute

/-- The prefixes an element declares itself, in order; a prefix other than the
empty one is declared once at most. -/
def declaredBy : List RawAttribute → Scope → Option Scope
  | [], declared => some declared
  | a :: as, declared =>
    match a.binding with
    | .attribute => declaredBy as declared
    | .redundant => declaredBy as declared
    | .refused => none
    | .binds qualifier uri =>
      if qualifier ≠ "" ∧ (declared.lookup qualifier).isSome then none
      else declaredBy as (declared ++ [(qualifier, uri)])

/-- The prefixes in scope inside an element. -/
def Scope.extend (outer : Scope) (attributes : List RawAttribute) : Option Scope :=
  (declaredBy attributes []).map (· ++ outer)

/-- The expanded name of an element: the empty prefix may be unbound, any other
may not. -/
def Scope.elementName? (scope : Scope) (name : QualifiedName) : Option ExpandedName :=
  match scope.lookup name.qualifier with
  | some uri => some ⟨some uri, name.localName⟩
  | none => if name.qualifier = "" then some ⟨none, name.localName⟩ else none

/-- The expanded name of an attribute: without a prefix it is in no namespace. -/
def Scope.attributeName? (scope : Scope) (name : QualifiedName) : Option ExpandedName :=
  if name.qualifier = "" then some ⟨none, name.localName⟩
  else if name.qualifier = "xml" then some ⟨some xmlNamespace, name.localName⟩
  else (scope.lookup name.qualifier).map fun uri => ⟨some uri, name.localName⟩

/-- The attributes of an element that declare no prefix, under their expanded
names, all of which differ. -/
def Scope.attributes? (scope : Scope) : List RawAttribute → Option (List Attribute)
  | [] => some []
  | a :: as =>
    if a.binding = .attribute then do
      let name ← scope.attributeName? a.name
      let rest ← scope.attributes? as
      if rest.any (·.name == name) then none else some (⟨name, a.value⟩ :: rest)
    else scope.attributes? as

/-- An element whose end tag has not come yet; its children so far, last one
first. -/
structure OpenElement where
  written : QualifiedName
  name : ExpandedName
  attributes : List Attribute
  scope : Scope
  children : List Node

/-- The element once its end tag has come. -/
def OpenElement.close (e : OpenElement) : Node := .element e.name e.attributes e.children.reverse

/-- One more child; text joins the text right before it. -/
def OpenElement.add (e : OpenElement) (node : Node) : OpenElement :=
  match node, e.children with
  | .text more, .text content :: before => { e with children := .text (content ++ more) :: before }
  | node, before => { e with children := node :: before }

/-- How far the reading of a document has come. -/
inductive Progress where
  | before
  | inside (innermost : OpenElement) (outer : List OpenElement)
  | after (root : Node)

namespace Progress

/-- The prefixes in scope. -/
def scope : Progress → Scope
  | inside e _ => e.scope
  | _ => []

/-- A node has been read; outside the outermost element only comments and
instructions may stand, and the first element is the outermost one. -/
def add (p : Progress) (node : Node) : Option Progress :=
  match p, node with
  | inside e outer, node => some (inside (e.add node) outer)
  | before, .element n as cs => some (after (.element n as cs))
  | _, .element _ _ _ => none
  | _, .text _ => none
  | p, _ => some p

/-- An element begins. -/
def enter (p : Progress) (e : OpenElement) : Option Progress :=
  match p with
  | before => some (inside e [])
  | inside outer rest => some (inside e (outer :: rest))
  | after _ => none

/-- The innermost element ends, under the name it began with. -/
def leave (p : Progress) (name : QualifiedName) : Option Progress :=
  match p with
  | inside e outer =>
    if e.written = name then
      match outer with
      | parent :: rest => some (inside (parent.add e.close) rest)
      | [] => some (after e.close)
    else none
  | _ => none

/-- Whether a text is white space, all of it typed. -/
def isSpacing (pieces : List Piece) : Bool :=
  pieces.all fun
    | .typed c => isSpace c
    | .referenced _ => false

/-- One token further. -/
def step (p : Progress) : Token → Option Progress
  | .startTag written attributes empty =>
    if written.qualifier = "xmlns" then none
    else do
      let scope ← p.scope.extend attributes
      let attributes ← scope.attributes? attributes
      let name ← scope.elementName? written
      let e : OpenElement := ⟨written, name, attributes, scope, []⟩
      if empty then p.add e.close else p.enter e
  | .endTag name => p.leave name
  | .text pieces =>
    match p with
    | inside _ _ => p.add (.text (String.ofList (textOf pieces)))
    | _ => if isSpacing pieces then some p else none
  | .data content => p.add (.text content)
  | .comment content => p.add (.comment content)
  | .instruction target content => p.add (.instruction target content)

end Progress

/-- The tree of a sequence of tokens. -/
def treeOf? (tokens : List Token) : Option Node :=
  match tokens.foldlM Progress.step Progress.before with
  | some (.after root) => some root
  | _ => none

/-- A pseudo-attribute of the declaration and the text after it; white space or
the end of the declaration follows. -/
def declarationPart? (cs : List Char) : Option (List Char) :=
  match assignment? cs with
  | some (_, _, rest) =>
    if rest.head?.all isSpace || (afterLead? ['?', '>'] rest).isSome then some (dropSpaces rest)
    else none
  | none => none

/-- The text without the declaration it may begin with, which gives a version
and may give an encoding. -/
def afterDeclaration? (cs : List Char) : Option (List Char) :=
  match afterLead? "<?xml ".toList cs with
  | none => some cs
  | some rest => do
    let rest := dropSpaces rest
    if (afterLead? "version".toList rest).isNone then none
    let rest ← declarationPart? rest
    let rest ←
      if (afterLead? "encoding".toList rest).isSome then declarationPart? rest else some rest
    let rest ←
      if (afterLead? "standalone".toList rest).isSome then
        (assignment? rest).map fun (_, _, rest) => dropSpaces rest
      else some rest
    afterLead? ['?', '>'] rest

/-- The tree of a document's text.  A byte order mark in front is skipped. -/
def parse? (s : String) : Option Node := do
  let cs := match s.toList with
    | c :: cs => if c.toNat = 0xFEFF then cs else c :: cs
    | [] => []
  let tokens ← Token.scan (← afterDeclaration? cs)
  treeOf? tokens

end Xml
end SecurityTokens
