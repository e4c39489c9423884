/-
# Comments

`Node.withoutComments` takes the comments out of a tree.  The runs of text that
a comment has kept apart become one, so the result is the tree of the document
without its comments (`treeOf?_filter`).

Taking comments out changes no name, no attribute and no order of elements.  It
may make the text that an element begins with longer, by the text that a comment
has cut off (`leadingText_withoutComments`):

| content | text it begins with | cut off |
| --- | --- | --- |
| `admin` | `admin` | |
| `admin<!-- -->.evil` | `admin` | `.evil` |
| `<!-- -->admin` | | `admin` |
| `admin<!-- --><b/>.evil` | `admin` | |

The text without blanks at its ends is kept just if all that is cut off are
blanks (`text_withoutComments_iff`).
-/

import Mathlib.Data.List.DropRight
import SecurityTokens.Xml.Tree

namespace SecurityTokens

namespace Text

/-- Leading blanks are no other characters. -/
theorem filter_dropWhile_isBlank (cs : List Char) :
    (cs.dropWhile isBlank).filter (!isBlank ·) = cs.filter (!isBlank ·) := by
  induction cs with
  | nil => rfl
  | cons c cs ih =>
    by_cases h : isBlank c = true
    · rw [List.dropWhile_cons_of_pos h, ih, List.filter_cons_of_neg (by simp [h])]
    · rw [List.dropWhile_cons_of_neg h]

/-- Trimming takes away nothing but blanks. -/
theorem filter_trimChars (cs : List Char) :
    (trimChars cs).filter (!isBlank ·) = cs.filter (!isBlank ·) := by
  rw [trimChars, List.filter_reverse, filter_dropWhile_isBlank, List.filter_reverse,
    List.reverse_reverse, filter_dropWhile_isBlank]

/-- Blanks at the end are trimmed. -/
theorem trimChars_append_of_blank {cs more : List Char} (h : ∀ c ∈ more, isBlank c = true) :
    trimChars (cs ++ more) = trimChars cs := by
  have tail : ∀ {rest : List Char}, (more.reverse ++ rest).dropWhile isBlank
      = rest.dropWhile isBlank := fun {rest} =>
    List.dropWhile_append_of_pos fun c hc => h c (List.mem_reverse.1 hc)
  by_cases blank : ∀ c ∈ cs, isBlank c = true
  · have all : ∀ c ∈ cs ++ more, isBlank c = true := fun c hc =>
      (List.mem_append.1 hc).elim (blank c) (h c)
    rw [trimChars, trimChars, List.dropWhile_eq_nil_iff.2 all, List.dropWhile_eq_nil_iff.2 blank]
  · have kept : (cs.dropWhile isBlank).isEmpty = false := by
      rw [Bool.eq_false_iff, ne_eq, List.isEmpty_iff, List.dropWhile_eq_nil_iff]
      exact blank
    rw [trimChars, List.dropWhile_append, kept, if_neg Bool.false_ne_true, List.reverse_append,
      tail, ← trimChars]

/-- More text at the end is trimmed just if it is blank. -/
theorem trim_append_eq_iff {s more : String} :
    trim (s ++ more) = trim s ↔ ∀ c ∈ more.toList, isBlank c = true := by
  unfold trim
  rw [String.ofList_inj, String.toList_append]
  constructor
  · intro h c hc
    have kept := congrArg (List.filter (!isBlank ·)) h
    rw [filter_trimChars, filter_trimChars, List.filter_append, List.append_right_eq_self,
      List.filter_eq_nil_iff] at kept
    simpa using kept c hc
  · exact trimChars_append_of_blank

theorem trimChars_eq_rdropWhile (cs : List Char) :
    trimChars cs = (cs.dropWhile isBlank).rdropWhile isBlank := rfl

/-- A trimmed text begins with no blank. -/
theorem dropWhile_trimChars (cs : List Char) : (trimChars cs).dropWhile isBlank = trimChars cs := by
  obtain ⟨tail, split⟩ := List.rdropWhile_prefix isBlank (cs.dropWhile isBlank)
  rw [← trimChars_eq_rdropWhile] at split
  cases h : trimChars cs with
  | nil => rfl
  | cons c rest =>
    have head : (cs.dropWhile isBlank).head? = some c := by rw [← split, h]; rfl
    have first := List.head?_dropWhile_not isBlank cs
    rw [head] at first
    exact List.dropWhile_cons_of_neg (by simpa using first)

/-- Trimming a trimmed text does nothing. -/
theorem trim_trim (s : String) : trim (trim s) = trim s := by
  unfold trim
  rw [String.toList_ofList, String.ofList_inj, trimChars_eq_rdropWhile, dropWhile_trimChars,
    trimChars_eq_rdropWhile, List.rdropWhile_idempotent]

end Text

namespace Xml

/-- The node in front of others; a comment is left out, and text joins the text
that it comes to stand before. -/
def Node.prepend : Node → List Node → List Node
  | .comment _, nodes => nodes
  | .text content, .text more :: nodes => .text (content ++ more) :: nodes
  | node, nodes => node :: nodes

mutual

/-- The node without the comments inside it. -/
def Node.withoutComments : Node → Node
  | .element name attributes children => .element name attributes (dropComments children)
  | .text content => .text content
  | .comment content => .comment content
  | .instruction target content => .instruction target content

/-- Nodes without the comments among them and inside them. -/
def dropComments : List Node → List Node
  | [] => []
  | node :: rest => node.withoutComments.prepend (dropComments rest)

end

/-- The text that nodes begin with. -/
def leading : List Node → String
  | .text content :: _ => content
  | _ => ""

namespace Element

/-- The element without the comments inside it. -/
def withoutComments (e : Element) : Element := ⟨e.name, e.attributes, dropComments e.children⟩

/-- The text between the first comment, which ends the text that the element
begins with, and the next node that is neither text nor a comment. -/
def cutOff (e : Element) : String :=
  match e.children with
  | .text _ :: rest => leading (dropComments rest)
  | children => leading (dropComments children)

end Element

theorem Element.leadingText_eq (e : Element) : e.leadingText = leading e.children := rfl

theorem leading_prepend_text (content : String) (nodes : List Node) :
    leading ((Node.text content).prepend nodes) = content ++ leading nodes := by
  unfold Node.prepend
  split <;> simp_all [leading]

/-- Without comments an element begins with the text that they have cut off, too. -/
theorem Element.leadingText_withoutComments (e : Element) :
    e.withoutComments.leadingText = e.leadingText ++ e.cutOff := by
  obtain ⟨name, attributes, children⟩ := e
  simp only [leadingText_eq, withoutComments, cutOff]
  cases children with
  | nil => rfl
  | cons node rest =>
    cases node with
    | element => rfl
    | text content => exact leading_prepend_text content _
    | comment => exact (String.empty_append).symm
    | instruction => rfl

example : Element.cutOff ⟨⟨none, "NameID"⟩, [], [.text "admin", .comment "", .text ".evil"]⟩
    = ".evil" := rfl

/-- The text of an element is kept just if comments cut off nothing but blanks. -/
theorem Element.text_withoutComments_iff {e : Element} :
    e.text = e.withoutComments.text ↔ ∀ c ∈ e.cutOff.toList, Text.isBlank c = true := by
  rw [text, text, leadingText_withoutComments, eq_comm, Text.trim_append_eq_iff]

theorem Node.element?_withoutComments (node : Node) :
    node.withoutComments.element? = node.element?.map Element.withoutComments := by
  cases node <;> rfl

theorem filterMap_element?_prepend (node : Node) (nodes : List Node) :
    (node.prepend nodes).filterMap Node.element?
      = node.element?.toList ++ nodes.filterMap Node.element? := by
  unfold Node.prepend
  split
  · rfl
  · rfl
  · cases h : Node.element? _ with
    | none => exact List.filterMap_cons_none h
    | some e => exact List.filterMap_cons_some h

/-- Taking comments out keeps the elements and their order. -/
theorem filterMap_element?_dropComments (nodes : List Node) :
    (dropComments nodes).filterMap Node.element?
      = (nodes.filterMap Node.element?).map Element.withoutComments := by
  induction nodes with
  | nil => rfl
  | cons node rest ih =>
    rw [dropComments, filterMap_element?_prepend, ih, Node.element?_withoutComments]
    cases h : node.element? with
    | none => rw [List.filterMap_cons_none h]; rfl
    | some e => rw [List.filterMap_cons_some h]; rfl

/-- Of nodes after others it counts what they are without comments. -/
theorem dropComments_append (before : List Node) {after after' : List Node}
    (same : dropComments after = dropComments after') :
    dropComments (before ++ after) = dropComments (before ++ after') := by
  induction before with
  | nil => exact same
  | cons node rest ih => rw [List.cons_append, List.cons_append, dropComments, dropComments, ih]

/-- **A comment inside a text goes without a trace.** -/
theorem dropComments_insert (before after : List Node) (head tail content : String) :
    dropComments (before ++ .text head :: .comment content :: .text tail :: after)
      = dropComments (before ++ .text (head ++ tail) :: after) := by
  refine dropComments_append before ?_
  show (Node.text head).prepend ((Node.text tail).prepend (dropComments after))
    = (Node.text (head ++ tail)).prepend (dropComments after)
  cases dropComments after with
  | nil => rfl
  | cons node rest =>
    cases node with
    | text more =>
      show [Node.text (head ++ (tail ++ more))] ++ rest = [Node.text (head ++ tail ++ more)] ++ rest
      rw [String.append_assoc]
    | _ => rfl

namespace Element

/-- A change of elements that keeps names, attributes and the order of elements. -/
structure Keeps (change : Element → Element) : Prop where
  name (e : Element) : (change e).name = e.name
  attributes (e : Element) : (change e).attributes = e.attributes
  elements (e : Element) : (change e).elements = e.elements.map change

theorem keeps_withoutComments : Keeps withoutComments where
  name _ := rfl
  attributes _ := rfl
  elements e := filterMap_element?_dropComments e.children

namespace Keeps

variable {change : Element → Element} (keeps : Keeps change) (e : Element) (uri name : String)
include keeps

theorem isNamed : (change e).isNamed uri name = e.isNamed uri name := by
  simp only [Element.isNamed, Element.localName, namespaceUri, keeps.name]

theorem child? : (change e).child? uri name = (e.child? uri name).map change := by
  simp only [Element.child?, keeps.elements, List.find?_map, Function.comp_def, keeps.isNamed]

theorem childrenNamed :
    (change e).childrenNamed uri name = (e.childrenNamed uri name).map change := by
  simp only [Element.childrenNamed, keeps.elements, List.filter_map, Function.comp_def,
    keeps.isNamed]

end Keeps
end Element

/-- The node after others; text joins the text that they end in. -/
def follow : List Node → Node → List Node
  | [], node => [node]
  | [.text content], .text more => [.text (content ++ more)]
  | first :: rest, node => first :: follow rest node

/-- Whether a node is a comment. -/
def Node.isComment : Node → Bool
  | .comment _ => true
  | _ => false

theorem follow_cons_cons (first second node : Node) (rest : List Node) :
    follow (first :: second :: rest) node = first :: follow (second :: rest) node := by
  cases first <;> rfl

theorem follow_append_singleton (nodes : List Node) (last node : Node) :
    follow (nodes ++ [last]) node = nodes ++ follow [last] node := by
  induction nodes with
  | nil => rfl
  | cons first rest ih =>
    rw [List.cons_append, List.cons_append, ← ih]
    cases rest <;> exact follow_cons_cons ..

/-- What is put in front of nodes and what follows them do not meet. -/
theorem prepend_follow (first node : Node) (nodes : List Node) :
    first.prepend (follow nodes node) = follow (first.prepend nodes) node := by
  cases first with
  | comment => rfl
  | element => cases nodes <;> rfl
  | instruction => cases nodes <;> rfl
  | text content =>
    match nodes with
    | [] => cases node <;> rfl
    | .text middle :: rest =>
      cases rest with
      | nil =>
        cases node with
        | text more =>
          show [Node.text (content ++ (middle ++ more))] = [Node.text (content ++ middle ++ more)]
          rw [String.append_assoc]
        | _ => rfl
      | cons => rfl
    | .element .. :: _ => rfl
    | .comment _ :: _ => rfl
    | .instruction .. :: _ => rfl

/-- Comments can be left out as soon as they are read. -/
theorem dropComments_follow (nodes : List Node) (node : Node) :
    dropComments (follow nodes node) = if node.isComment then dropComments nodes
      else follow (dropComments nodes) node.withoutComments := by
  induction nodes with
  | nil => cases node <;> rfl
  | cons first rest ih =>
    -- the node follows all but the first, unless it is text that joins the first
    have apart (h : follow (first :: rest) node = first :: follow rest node) :
        dropComments (follow (first :: rest) node) =
          if node.isComment then dropComments (first :: rest)
          else follow (dropComments (first :: rest)) node.withoutComments := by
      rw [h, dropComments, ih, dropComments]
      split
      · rfl
      · exact prepend_follow ..
    cases rest with
    | cons second rest => exact apart (follow_cons_cons ..)
    | nil =>
      cases first with
      | text content =>
        cases node with
        | text more => rfl
        | _ => exact apart rfl
      | _ => exact apart rfl

/-- A node is added to an open element where it follows the others. -/
theorem OpenElement.children_add (e : OpenElement) (node : Node) :
    (e.add node).children.reverse = follow e.children.reverse node := by
  obtain ⟨written, name, attributes, scope, children⟩ := e
  cases children with
  | nil => cases node <;> rfl
  | cons last before =>
    rw [List.reverse_cons, follow_append_singleton]
    cases last with
    | text content =>
      cases node with
      | text more => exact List.reverse_cons
      | _ => simp [OpenElement.add, follow]
    | _ => simp [OpenElement.add, follow]

/-- The open element without the comments it holds so far. -/
def OpenElement.withoutComments (e : OpenElement) : OpenElement :=
  { e with children := (dropComments e.children.reverse).reverse }

/-- How far the reading would have come without comments. -/
def Progress.withoutComments : Progress → Progress
  | before => before
  | inside innermost outer =>
    inside innermost.withoutComments (outer.map OpenElement.withoutComments)
  | after root => after root.withoutComments

/-- Whether a token is a comment. -/
def Token.isComment : Token → Bool
  | .comment _ => true
  | _ => false

namespace OpenElement

theorem close_withoutComments (e : OpenElement) :
    e.close.withoutComments = e.withoutComments.close := by
  simp [close, withoutComments, Node.withoutComments]

theorem add_eq (e : OpenElement) (node : Node) :
    e.add node = { e with children := (follow e.children.reverse node).reverse } := by
  rw [← children_add, List.reverse_reverse]
  unfold add
  split <;> rfl

/-- A comment leaves no trace in an open element, any other node does. -/
theorem add_withoutComments (e : OpenElement) (node : Node) :
    (e.add node).withoutComments = if node.isComment then e.withoutComments
      else e.withoutComments.add node.withoutComments := by
  rw [add_eq, add_eq]
  simp only [withoutComments, List.reverse_reverse, dropComments_follow]
  split <;> rfl

end OpenElement

namespace Progress

@[simp] theorem scope_withoutComments (p : Progress) : p.withoutComments.scope = p.scope := by
  cases p <;> rfl

theorem add_withoutComments (p : Progress) (node : Node) (h : node.isComment = false) :
    (p.add node).map withoutComments = p.withoutComments.add node.withoutComments := by
  cases p with
  | inside e outer =>
    simp only [add, withoutComments, Option.map_some, OpenElement.add_withoutComments, h]
    rfl
  | before => cases node <;> rfl
  | after => cases node <;> rfl

theorem enter_withoutComments (p : Progress) {e : OpenElement} (h : e.children = []) :
    (p.enter e).map withoutComments = p.withoutComments.enter e := by
  have same : e.withoutComments = e := by
    obtain ⟨_, _, _, _, _⟩ := e
    obtain rfl := h
    rfl
  cases p with
  | before => simp [enter, withoutComments, same]
  | inside => simp [enter, withoutComments, same]
  | after => rfl

theorem leave_withoutComments (p : Progress) (name : QualifiedName) :
    (p.leave name).map withoutComments = p.withoutComments.leave name := by
  cases p with
  | inside e outer =>
    have written : e.withoutComments.written = e.written := rfl
    simp only [leave, withoutComments, written]
    split
    · cases outer with
      | nil => simp [withoutComments, OpenElement.close_withoutComments]
      | cons parent rest =>
        have closed : e.close.isComment = false := rfl
        simp [withoutComments, OpenElement.add_withoutComments, OpenElement.close_withoutComments,
          closed]
    · rfl
  | before => rfl
  | after => rfl

/-- Reading a token and taking comments out: a comment changes nothing, any other
token is read as it would be without the comments before it. -/
theorem step_withoutComments (p : Progress) (token : Token) :
    (p.step token).map withoutComments =
      if token.isComment then some p.withoutComments else p.withoutComments.step token := by
  cases token with
  | startTag written attributes empty =>
    show (p.step (.startTag written attributes empty)).map withoutComments
      = p.withoutComments.step (.startTag written attributes empty)
    simp only [step, scope_withoutComments]
    split
    · rfl
    · simp only [Option.bind_eq_bind, Option.map_bind, Function.comp_def]
      refine Option.bind_congr fun scope _ => Option.bind_congr fun attributes _ =>
        Option.bind_congr fun name _ => ?_
      show Option.map withoutComments (if empty then _ else _) = _
      split
      · exact add_withoutComments p _ rfl
      · exact enter_withoutComments p rfl
  | endTag name => exact leave_withoutComments p name
  | text pieces =>
    cases p with
    | inside e outer => exact add_withoutComments (inside e outer) (.text _) rfl
    | before => simp only [step]; split <;> rfl
    | after => simp only [step]; split <;> rfl
  | data content => exact add_withoutComments p (.text content) rfl
  | instruction target content => exact add_withoutComments p (.instruction target content) rfl
  | comment content =>
    cases p with
    | inside e outer =>
      show some (inside (e.add (.comment content)) outer).withoutComments = _
      rw [withoutComments, OpenElement.add_withoutComments]
      rfl
    | before => rfl
    | after => rfl

/-- Taking comments out of a document takes them out of its tree. -/
theorem foldlM_step_withoutComments (tokens : List Token) (p : Progress) :
    (tokens.foldlM step p).map withoutComments
      = (tokens.filter (!·.isComment)).foldlM step p.withoutComments := by
  induction tokens generalizing p with
  | nil => rfl
  | cons token rest ih =>
    have further := step_withoutComments p token
    rw [List.foldlM_cons, Option.bind_eq_bind, Option.map_bind]
    cases comment : token.isComment with
    | true =>
      rw [comment, if_pos rfl, Option.map_eq_some_iff] at further
      obtain ⟨q, read, same⟩ := further
      rw [List.filter_cons_of_neg (by simp [comment]), read, Option.bind_some, Function.comp_apply,
        ih, same]
    | false =>
      rw [comment, if_neg Bool.false_ne_true] at further
      rw [List.filter_cons_of_pos (by simp [comment]), List.foldlM_cons, ← further,
        Option.bind_eq_bind, Option.bind_map]
      exact Option.bind_congr fun q _ => ih q

end Progress

/-- **Without its comments a document has its tree without comments.**  In
particular it is well formed just if it is so with them. -/
theorem treeOf?_filter (tokens : List Token) :
    treeOf? (tokens.filter (!·.isComment)) = (treeOf? tokens).map Node.withoutComments := by
  have same := Progress.foldlM_step_withoutComments tokens .before
  unfold treeOf?
  rw [show Progress.before.withoutComments = .before from rfl] at same
  rw [← same]
  cases tokens.foldlM Progress.step .before with
  | none => rfl
  | some p => cases p <;> rfl

end Xml
end SecurityTokens
