/-
# Markup

A document is a sequence of tokens: tags, runs of text, sections of character
data, comments and instructions.  `Token.next?` reads the first token of a text
and `Token.scan` all of them; each token takes at least one character, so the
scan ends.

| token | from | to |
| --- | --- | --- |
| `startTag` | `<` and a name | `>` or `/>` |
| `endTag` | `</` | `>` |
| `comment` | `<!--` | `-->` |
| `data` | `<![CDATA[` | `]]>` |
| `instruction` | `<?` and a name | `?>` |
| `text` | any other character | before the next `<` |

A document type declaration is no token: messages may not have one.
-/

import SecurityTokens.Xml.CharacterData

namespace SecurityTokens
namespace Xml

/-- A name as it is written, its qualifier being empty when there is no colon. -/
structure QualifiedName where
  qualifier : String
  localName : String
deriving DecidableEq, Repr

/-- An attribute as it is written, its value normalised. -/
structure RawAttribute where
  name : QualifiedName
  value : String
deriving DecidableEq, Repr

/-- A token of a document. -/
inductive Token where
  | startTag (name : QualifiedName) (attributes : List RawAttribute) (empty : Bool)
  | endTag (name : QualifiedName)
  | text (pieces : List Piece)
  | data (content : String)
  | comment (content : String)
  | instruction (target content : String)
deriving DecidableEq, Repr

/-- The text without the white space it begins with. -/
def dropSpaces (cs : List Char) : List Char := cs.dropWhile isSpace

/-- The rest of a text that begins with `lead`. -/
def afterLead? : (lead : List Char) → List Char → Option (List Char)
  | [], cs => some cs
  | _ :: _, [] => none
  | l :: lead, c :: cs => if l = c then afterLead? lead cs else none

/-- The text before the first occurrence of `mark`, and the text after it. -/
def splitAtMark? (mark : List Char) : List Char → Option (List Char × List Char)
  | [] => if mark.isEmpty then some ([], []) else none
  | c :: cs =>
    match afterLead? mark (c :: cs) with
    | some rest => some ([], rest)
    | none => (splitAtMark? mark cs).map fun (before, rest) => (c :: before, rest)

/-- Whether a text holds `mark`. -/
def holds (mark cs : List Char) : Bool := (splitAtMark? mark cs).isSome

/-- The two sides of a name's first colon; without one all is local. -/
def splitColon (name : List Char) : List Char × List Char :=
  match name.dropWhile (· != ':') with
  | _ :: localName => (name.takeWhile (· != ':'), localName)
  | [] => ([], name)

/-- A qualified name: at most one colon, and each side of it begins like a
name.  Nothing before the colon means no qualifier. -/
def qualifiedName? (cs : List Char) : Option (QualifiedName × List Char) :=
  let (qualifier, localName) := splitColon (cs.takeWhile isNameFollow)
  if localName.head?.any isNameStart && !localName.contains ':' && qualifier.head?.all isNameStart
  then some (⟨String.ofList qualifier, String.ofList localName⟩, cs.dropWhile isNameFollow)
  else none

/-- A value between quotes of one kind, without a less-than sign. -/
def quotedValue? : List Char → Option (List Char × List Char)
  | q :: cs =>
    if q = '"' ∨ q = '\'' then
      match splitAtMark? [q] cs with
      | some (value, rest) =>
        if value.all fun c => isAllowed c && c != '<' then some (value, rest) else none
      | none => none
    else none
  | [] => none

/-- A name, an equals sign that may have white space around it, and a quoted
value. -/
def assignment? (cs : List Char) : Option (QualifiedName × List Char × List Char) := do
  let (name, rest) ← qualifiedName? cs
  let rest ← afterLead? ['='] (dropSpaces rest)
  let (value, rest) ← quotedValue? (dropSpaces rest)
  return (name, value, rest)

/-- An attribute: an assignment whose references are all known. -/
def attribute? (cs : List Char) : Option (RawAttribute × List Char) :=
  match assignment? cs with
  | some (name, value, rest) =>
    (pieces? value).map fun pieces => (⟨name, String.ofList (valueOf pieces)⟩, rest)
  | none => none

theorem dropSpaces_suffix (cs : List Char) : dropSpaces cs <:+ cs := List.dropWhile_suffix _

theorem afterLead?_suffix {lead cs rest : List Char} (h : afterLead? lead cs = some rest) :
    rest <:+ cs := by
  fun_induction afterLead? lead cs with
  | case1 cs => simp at h; simp [h]
  | case2 => simp at h
  | case3 lead c cs ih => exact (ih h).trans (List.suffix_cons _ _)
  | case4 => simp at h

theorem splitAtMark?_suffix {mark cs before rest : List Char}
    (h : splitAtMark? mark cs = some (before, rest)) : rest <:+ cs := by
  fun_induction splitAtMark? mark cs generalizing before rest with
  | case1 => simp at h; simp [h]
  | case2 => simp at h
  | case3 c cs rest' hl => simp at h; rw [← h.2]; exact afterLead?_suffix hl
  | case4 c cs hl ih =>
    obtain ⟨⟨b, r⟩, hr, he⟩ := Option.map_eq_some_iff.1 h
    simp at he
    rw [← he.2]
    exact (ih hr).trans (List.suffix_cons _ _)

theorem qualifiedName?_suffix {cs rest : List Char} {name : QualifiedName}
    (h : qualifiedName? cs = some (name, rest)) : rest <:+ cs := by
  simp only [qualifiedName?] at h
  split at h
  · simp at h; rw [← h.2]; exact List.dropWhile_suffix _
  · simp at h

theorem quotedValue?_suffix {cs value rest : List Char}
    (h : quotedValue? cs = some (value, rest)) : rest <:+ cs := by
  unfold quotedValue? at h
  split at h
  · split at h
    · split at h
      · split at h
        · simp at h
          rw [← h.2]
          exact (splitAtMark?_suffix (by assumption)).trans (List.suffix_cons _ _)
        · simp at h
      · simp at h
    · simp at h
  · simp at h

/-- An assignment takes at least its equals sign. -/
theorem assignment?_length {cs value rest : List Char} {name : QualifiedName}
    (h : assignment? cs = some (name, value, rest)) : rest.length < cs.length := by
  simp only [assignment?, Option.bind_eq_bind, Option.bind_eq_some_iff, Prod.exists] at h
  obtain ⟨name', r₁, h₁, r₂, h₂, value', r₃, h₃, h₄⟩ := h
  simp at h₄
  obtain ⟨_, _, rfl⟩ := h₄
  have l₁ := (qualifiedName?_suffix h₁).length_le
  have l₁' := (dropSpaces_suffix r₁).length_le
  have l₂ : r₂.length < (dropSpaces r₁).length := by
    revert h₂
    cases dropSpaces r₁ with
    | nil => simp [afterLead?]
    | cons c cs => intro h; simp [afterLead?] at h; simp [h.2]
  have l₂' := (dropSpaces_suffix r₂).length_le
  have l₃ := (quotedValue?_suffix h₃).length_le
  omega

theorem attribute?_length {cs rest : List Char} {a : RawAttribute}
    (h : attribute? cs = some (a, rest)) : rest.length < cs.length := by
  unfold attribute? at h
  split at h
  · obtain ⟨ps, _, he⟩ := Option.map_eq_some_iff.1 h
    simp at he
    rw [← he.2]
    exact assignment?_length (by assumption)
  · simp at h

/-- The attributes of a start tag, whether it closes its element, and the text
after it.  White space stands before every attribute. -/
def tagRest? (cs : List Char) : Option (List RawAttribute × Bool × List Char) :=
  match dropSpaces cs with
  | '>' :: rest => some ([], false, rest)
  | '/' :: '>' :: rest => some ([], true, rest)
  | _ =>
    if cs.head?.any isSpace then
      match h : attribute? (dropSpaces cs) with
      | some (a, rest) =>
        have : rest.length < cs.length :=
          Nat.lt_of_lt_of_le (attribute?_length h) (dropSpaces_suffix cs).length_le
        (tagRest? rest).map fun (as, empty, rest) => (a :: as, empty, rest)
      | none => none
    else none
termination_by cs.length

theorem tagRest?_suffix {cs rest : List Char} {as : List RawAttribute} {empty : Bool}
    (h : tagRest? cs = some (as, empty, rest)) : rest.length ≤ cs.length := by
  fun_induction tagRest? cs generalizing as empty rest with
  | case1 cs rest' hd =>
    have := (dropSpaces_suffix cs).length_le
    simp at h; rw [hd] at this; simp at this; rw [← h.2.2]; omega
  | case2 cs rest' hd =>
    have := (dropSpaces_suffix cs).length_le
    simp at h; rw [hd] at this; simp at this; rw [← h.2.2]; omega
  | case3 cs _ _ _ a rest' ha hlt ih =>
    obtain ⟨⟨as', e', r'⟩, hr, he⟩ := Option.map_eq_some_iff.1 h
    simp at he
    have := ih hr
    rw [← he.2.2]
    omega
  | case4 => simp at h
  | case5 => simp at h

namespace Token

/-- The comment after its opening mark: no two hyphens in a row, and no hyphen
at the end. -/
def comment? (cs : List Char) : Option (Token × List Char) :=
  match splitAtMark? ['-', '-', '>'] cs with
  | some (content, rest) =>
    if content.all isAllowed && !holds ['-', '-'] content && content.getLast? != some '-' then
      some (.comment (String.ofList content), rest)
    else none
  | none => none

/-- The section of character data after its opening mark. -/
def data? (cs : List Char) : Option (Token × List Char) :=
  match splitAtMark? [']', ']', '>'] cs with
  | some (content, rest) =>
    if content.all isAllowed then
      some (.data (String.ofList (textOf (content.map .typed))), rest)
    else none
  | none => none

/-- The instruction after its opening mark: a name, and what stands after the
white space that follows. -/
def instruction? (cs : List Char) : Option (Token × List Char) :=
  let target := cs.takeWhile isNameFollow
  if target.head?.any isNameStart && (afterLead? ['x', 'm', 'l', ' '] cs).isNone then
    match splitAtMark? ['?', '>'] (dropSpaces (cs.dropWhile isNameFollow)) with
    | some (content, rest) =>
      if content.all isAllowed then
        some (.instruction (String.ofList target) (String.ofList content), rest)
      else none
    | none => none
  else none

/-- The end tag after its opening mark. -/
def endTag? (cs : List Char) : Option (Token × List Char) :=
  match qualifiedName? cs with
  | some (name, rest) => (afterLead? ['>'] (dropSpaces rest)).map fun rest => (.endTag name, rest)
  | none => none

/-- The start tag after its opening mark. -/
def startTag? (cs : List Char) : Option (Token × List Char) :=
  match qualifiedName? cs with
  | some (name, rest) =>
    (tagRest? rest).map fun (attributes, empty, rest) =>
      (.startTag name attributes empty, rest)
  | none => none

/-- The run of text before the next less-than sign. -/
def text? (cs : List Char) : Option (Token × List Char) :=
  let content := cs.takeWhile (· != '<')
  let rest := cs.dropWhile (· != '<')
  if content.all isAllowed && !holds [']', ']', '>'] content then
    (pieces? content).map fun pieces => (.text pieces, rest)
  else none

/-- The first token of a text that is not empty, and the text after it. -/
def next? : List Char → Option (Token × List Char)
  | '<' :: '!' :: '-' :: '-' :: cs => comment? cs
  | '<' :: '!' :: '[' :: 'C' :: 'D' :: 'A' :: 'T' :: 'A' :: '[' :: cs => data? cs
  | '<' :: '?' :: cs => instruction? cs
  | '<' :: '/' :: cs => endTag? cs
  | '<' :: cs => startTag? cs
  | cs => text? cs

theorem comment?_length {cs rest : List Char} {t : Token} (h : comment? cs = some (t, rest)) :
    rest.length ≤ cs.length := by
  unfold comment? at h
  split at h
  · split at h
    · simp at h; rw [← h.2]; exact (splitAtMark?_suffix (by assumption)).length_le
    · simp at h
  · simp at h

theorem data?_length {cs rest : List Char} {t : Token} (h : data? cs = some (t, rest)) :
    rest.length ≤ cs.length := by
  unfold data? at h
  split at h
  · split at h
    · simp at h; rw [← h.2]; exact (splitAtMark?_suffix (by assumption)).length_le
    · simp at h
  · simp at h

theorem instruction?_length {cs rest : List Char} {t : Token}
    (h : instruction? cs = some (t, rest)) : rest.length ≤ cs.length := by
  unfold instruction? at h
  simp only at h
  split at h
  · split at h
    · split at h
      · simp at h
        rw [← h.2]
        exact ((splitAtMark?_suffix (by assumption)).trans
          ((dropSpaces_suffix _).trans (List.dropWhile_suffix _))).length_le
      · simp at h
    · simp at h
  · simp at h

theorem endTag?_length {cs rest : List Char} {t : Token} (h : endTag? cs = some (t, rest)) :
    rest.length ≤ cs.length := by
  unfold endTag? at h
  split at h
  · obtain ⟨r, hr, he⟩ := Option.map_eq_some_iff.1 h
    simp at he
    rw [← he.2]
    exact ((afterLead?_suffix hr).trans
      ((dropSpaces_suffix _).trans (qualifiedName?_suffix (by assumption)))).length_le
  · simp at h

theorem startTag?_length {cs rest : List Char} {t : Token} (h : startTag? cs = some (t, rest)) :
    rest.length ≤ cs.length := by
  unfold startTag? at h
  split at h
  · obtain ⟨⟨as, e, r⟩, hr, he⟩ := Option.map_eq_some_iff.1 h
    simp at he
    rw [← he.2]
    exact Nat.le_trans (tagRest?_suffix hr) (qualifiedName?_suffix (by assumption)).length_le
  · simp at h

theorem text?_length {c : Char} {cs rest : List Char} {t : Token} (hc : c ≠ '<')
    (h : text? (c :: cs) = some (t, rest)) : rest.length < (c :: cs).length := by
  unfold text? at h
  simp only at h
  split at h
  · obtain ⟨ps, _, he⟩ := Option.map_eq_some_iff.1 h
    simp at he
    rw [← he.2, List.dropWhile_cons_of_pos (by simpa using hc)]
    exact Nat.lt_succ_of_le (List.dropWhile_suffix (· != '<')).length_le
  · simp at h

/-- A token takes at least one character. -/
theorem next?_length {c : Char} {cs rest : List Char} {t : Token}
    (h : next? (c :: cs) = some (t, rest)) : rest.length < (c :: cs).length := by
  unfold next? at h
  split at h
  next heq =>
    have := comment?_length h
    rw [heq]
    simp only [List.length_cons]
    omega
  next heq =>
    have := data?_length h
    rw [heq]
    simp only [List.length_cons]
    omega
  next heq =>
    have := instruction?_length h
    rw [heq]
    simp only [List.length_cons]
    omega
  next heq =>
    have := endTag?_length h
    rw [heq]
    simp only [List.length_cons]
    omega
  next heq =>
    have := startTag?_length h
    rw [heq]
    simp only [List.length_cons]
    omega
  next h₅ =>
    refine text?_length ?_ h
    rintro rfl
    exact h₅ _ rfl

/-- The tokens of a text. -/
def scan : List Char → Option (List Token)
  | [] => some []
  | c :: cs =>
    match h : next? (c :: cs) with
    | some (t, rest) =>
      have := next?_length h
      (scan rest).map (t :: ·)
    | none => none
termination_by cs => cs.length
decreasing_by assumption

end Token
end Xml
end SecurityTokens
