/-
# Blanks around printed names

A name is taken out of a message with the blanks around it cut off, and what is cut off may
belong to the name: a blank at the end of its last value is printed after a backslash, which
stays behind.

| text | without the blanks around it | last component of both |
| --- | --- | --- |
| `CN=a, O=b ` | `CN=a, O=b` | `o=b` |
| `CN=a, ` | `CN=a,` | `cn=a`, since a blank one does not count |
| `CN=a\ ` | `CN=a\` | `cn=a\` |

The comparison does not see the difference (`comparisonForm_trim`).  Its reason is that blanks
are neither separators nor escapes: they stay in the first and in the last component
(`forall₂_isSpaced_cutComponents`), and a component is trimmed again when it is compared
(`NameComponent.ofChars_of_isSpaced`).
-/

import SecurityTokens.Proofs.CertificateNames
import SecurityTokens.Proofs.IssuerMatch
import SecurityTokens.Proofs.ReferenceForms

namespace SecurityTokens

/-! ## Texts with blanks around them -/

namespace Text

/-- A text with blanks in front of it and behind it. -/
inductive IsSpaced (cs : List Char) : List Char → Prop
  | around {before after : List Char} (front : ∀ c ∈ before, isBlank c = true)
    (behind : ∀ c ∈ after, isBlank c = true) : IsSpaced cs (before ++ cs ++ after)

theorem trim_ofList (cs : List Char) : trim (String.ofList cs) = String.ofList (trimChars cs) := by
  rw [trim, String.toList_ofList]

theorem trimChars_blank_append {more cs : List Char} (blank : ∀ c ∈ more, isBlank c = true) :
    trimChars (more ++ cs) = trimChars cs := by
  rw [trimChars, List.dropWhile_append_of_pos blank, ← trimChars]

namespace IsSpaced

variable {cs ds es : List Char}

theorem refl (cs : List Char) : IsSpaced cs cs := by
  have none : ∀ c ∈ ([] : List Char), isBlank c = true := fun c mem => absurd mem List.not_mem_nil
  have spaced : IsSpaced cs ([] ++ cs ++ []) := .around none none
  rwa [List.nil_append, List.append_nil] at spaced

theorem trimChars_eq (spaced : IsSpaced cs ds) : trimChars ds = trimChars cs := by
  cases spaced with
  | around front behind =>
    rw [trimChars_append_of_blank behind, trimChars_blank_append front]

theorem all_isBlank_eq (spaced : IsSpaced cs ds) : ds.all isBlank = cs.all isBlank := by
  cases spaced with
  | around front behind =>
    rw [List.all_append, List.all_append, List.all_eq_true.2 front, List.all_eq_true.2 behind,
      Bool.true_and, Bool.and_true]

/-- What is in it is a blank or in the text. -/
theorem isBlank_or_mem {c : Char} (spaced : IsSpaced cs ds) (mem : c ∈ ds) :
    isBlank c = true ∨ c ∈ cs := by
  cases spaced with
  | around front behind =>
    rcases List.mem_append.1 mem with first | last
    · rcases List.mem_append.1 first with blank | inside
      · exact .inl (front c blank)
      · exact .inr inside
    · exact .inl (behind c last)

/-- A text is its trimmed form with blanks around it. -/
theorem of_trimChars (cs : List Char) : IsSpaced (trimChars cs) cs := by
  have split : cs.takeWhile isBlank ++ trimChars cs ++ (cs.dropWhile isBlank).rtakeWhile isBlank
      = cs := by
    rw [trimChars_eq_rdropWhile, List.append_assoc, List.rdropWhile_append_rtakeWhile,
      List.takeWhile_append_dropWhile]
  have spaced : IsSpaced (trimChars cs)
      (cs.takeWhile isBlank ++ trimChars cs ++ (cs.dropWhile isBlank).rtakeWhile isBlank) :=
    .around (fun c mem => List.mem_takeWhile_imp mem) fun c mem => List.mem_rtakeWhile_imp mem
  rwa [split] at spaced

end IsSpaced
end Text

namespace X509

open Text (IsSpaced)

/-! ## Components with blanks around them -/

/-- Blanks are neither separators nor escapes. -/
theorem Unbroken.of_blank {cs : List Char} (blank : ∀ c ∈ cs, Text.isBlank c = true) :
    Unbroken cs := by
  refine .of_plain fun c mem => ?_
  have code := blank c mem
  refine ⟨?_, ?_, ?_⟩
  all_goals
    rintro rfl
    exact absurd code (by decide)

/-- A text without an equals sign has no type. -/
theorem NameComponent.ofChars_of_not_mem {cs : List Char} (unparted : '=' ∉ cs) :
    ofChars cs = ⟨"", Text.lower (Text.trim (String.ofList cs))⟩ := by
  have dropped : cs.dropWhile (· ≠ '=') = [] := by
    refine List.dropWhile_eq_nil_iff.2 fun c mem => decide_eq_true ?_
    rintro rfl
    exact unparted mem
  rw [ofChars, dropped]

/-- Blanks around a component do not count. -/
theorem NameComponent.ofChars_of_isSpaced {cs ds : List Char} (spaced : IsSpaced cs ds) :
    ofChars ds = ofChars cs := by
  cases spaced with
  | @around before after front behind =>
    have plain : '=' ∉ before := by
      intro mem
      exact absurd (front _ mem) (by decide)
    by_cases parted : '=' ∈ cs
    · obtain ⟨key, value, rfl, first⟩ := List.eq_append_cons_of_mem parted
      have regrouped : before ++ (key ++ '=' :: value) ++ after
          = (before ++ key) ++ '=' :: (value ++ after) := by
        simp only [List.append_assoc, List.cons_append]
      have key' : Text.trim (String.ofList (before ++ key)) = Text.trim (String.ofList key) := by
        rw [Text.trim_ofList, Text.trim_ofList, Text.trimChars_blank_append front]
      have value' : Text.trim (String.ofList (value ++ after))
          = Text.trim (String.ofList value) := by
        rw [Text.trim_ofList, Text.trim_ofList, Text.trimChars_append_of_blank behind]
      rw [regrouped, ofChars_append_cons (List.not_mem_append plain first),
        ofChars_append_cons first, key', value']
    · have unparted : '=' ∉ before ++ cs ++ after := by
        intro mem
        rcases (IsSpaced.around front behind).isBlank_or_mem mem with blank | inside
        · exact absurd blank (by decide)
        · exact parted inside
      have same : Text.trim (String.ofList (before ++ cs ++ after))
          = Text.trim (String.ofList cs) := by
        rw [Text.trim_ofList, Text.trim_ofList, (IsSpaced.around front behind).trimChars_eq]
      rw [ofChars_of_not_mem unparted, ofChars_of_not_mem parted, same]

/-- Blanks at the end stay in the component that is being read. -/
theorem cutComponents_of_blank {after : List Char} (current : List Char)
    (behind : ∀ c ∈ after, Text.isBlank c = true) :
    cutComponents current after = [current.reverse ++ after] := by
  have cut := cutComponents_append (.of_blank behind) current []
  rw [List.append_nil] at cut
  rw [cut, cutComponents, List.reverse_append, List.reverse_reverse]

/-- Blanks at the ends of a text stay in its first and in its last component. -/
theorem forall₂_isSpaced_cutComponents {before after : List Char} (current cs : List Char)
    (front : ∀ c ∈ before, Text.isBlank c = true) (behind : ∀ c ∈ after, Text.isBlank c = true) :
    List.Forall₂ IsSpaced (cutComponents current cs)
      (cutComponents (current ++ before.reverse) (cs ++ after)) := by
  have last (current : List Char) (before : List Char)
      (front : ∀ c ∈ before, Text.isBlank c = true) :
      List.Forall₂ IsSpaced [current.reverse] [(current ++ before.reverse).reverse ++ after] := by
    rw [List.reverse_append, List.reverse_reverse]
    exact .cons (.around front behind) .nil
  have none : ∀ c ∈ ([] : List Char), Text.isBlank c = true := by
    intro c mem
    exact absurd mem List.not_mem_nil
  fun_induction cutComponents current cs generalizing before with
  | case1 current =>
    rw [List.nil_append, cutComponents_of_blank _ behind]
    exact last current before front
  | case2 current c cs ih => exact ih front
  | case3 current c cs notEscape separator ih =>
    have spaced : IsSpaced current.reverse (before ++ current.reverse ++ []) := .around front none
    rw [List.append_nil] at spaced
    rw [List.cons_append, cutComponents, if_pos separator, List.reverse_append,
      List.reverse_reverse]
    · have rest := ih none
      rw [List.reverse_nil, List.append_nil] at rest
      exact .cons spaced rest
    · rintro d ds rfl -
      exact absurd separator (by decide)
  | case4 current c cs notEscape other ih =>
    by_cases escape : c = '\\'
    · -- A backslash that ends the text: a blank behind it is escaped, and stays all the same.
      subst escape
      cases cs with
      | cons d ds => exact absurd rfl (notEscape d ds rfl)
      | nil =>
        have closed : cutComponents (current ++ before.reverse) ('\\' :: after)
            = [('\\' :: current ++ before.reverse).reverse ++ after] := by
          cases after with
          | nil => rw [List.append_nil]; rfl
          | cons d ds =>
            have others : ∀ c ∈ ds, Text.isBlank c = true :=
              fun c mem => behind c (List.mem_cons_of_mem d mem)
            rw [cutComponents, cutComponents_of_blank _ others, List.reverse_cons,
              List.append_assoc]
            rfl
        rw [List.singleton_append, closed]
        exact last ('\\' :: current) before front
    · rw [List.cons_append, cutComponents, if_neg other]
      · exact ih front
      · rintro d ds rfl -
        exact absurd rfl escape

/-! ## Names with blanks around them -/

/-- Whether the last of some texts is blank depends on no blanks around them. -/
theorem all_isBlank_getLastD_eq {xs ys : List (List Char)} (spaced : List.Forall₂ IsSpaced xs ys) :
    (ys.getLastD []).all Text.isBlank = (xs.getLastD []).all Text.isBlank := by
  induction spaced with
  | nil => rfl
  | cons first rest ih =>
    cases rest with
    | nil => exact first.all_isBlank_eq
    | cons second others => exact ih

/-- The components of a name with blanks around it are those of the name with blanks around
them. -/
theorem forall₂_isSpaced_components {s t : String} (spaced : IsSpaced s.toList t.toList) :
    List.Forall₂ IsSpaced (components s) (components t) := by
  generalize chars : t.toList = ds at spaced
  cases spaced with
  | @around before after front behind =>
    have cut := forall₂_isSpaced_cutComponents [] s.toList front behind
    rw [List.nil_append, ← List.append_nil before.reverse,
      ← cutComponents_append (.of_blank front), ← List.append_assoc, ← chars] at cut
    have last := all_isBlank_getLastD_eq cut
    rw [components, components, last]
    split
    · rw [List.dropLast_eq_take, List.dropLast_eq_take, cut.length_eq]
      exact List.forall₂_take _ cut
    · exact cut

/-- Names that differ in blanks around them are compared as equal. -/
theorem comparisonForm_of_isSpaced {s t : String} (spaced : IsSpaced s.toList t.toList) :
    comparisonForm t = comparisonForm s := by
  rw [comparisonForm, comparisonForm, ← List.forall₂_eq_eq_eq, List.forall₂_map_left_iff,
    List.forall₂_map_right_iff]
  refine (forall₂_isSpaced_components spaced).flip.imp fun _ _ spaced => ?_
  exact NameComponent.ofChars_of_isSpaced spaced

/-- The blanks around a name do not count in a comparison, even if one of them is escaped. -/
theorem comparisonForm_trim (s : String) : comparisonForm (Text.trim s) = comparisonForm s := by
  refine (comparisonForm_of_isSpaced ?_).symm
  rw [Text.trim, String.toList_ofList]
  exact IsSpaced.of_trimChars s.toList

/-- A blank that is escaped is cut off, and its backslash stays. -/
example : Text.trim "CN=a\\ " = "CN=a\\" ∧
    comparisonForm "CN=a\\ " = [⟨"CN", "a\\"⟩] := by
  decide +kernel

/-- A printed name is empty, or something of it is no blank. -/
theorem Name.text_eq_nil_or_visible (n : Name) :
    n.text.toList = [] ∨ ∃ c ∈ n.text.toList, Text.isBlank c = false := by
  rw [text, String.toList_intercalate]
  refine intercalate_induction
    (P := fun cs => cs = [] ∨ ∃ c ∈ cs, Text.isBlank c = false) (.inl rfl) ?_ ?_ ?_
  · rintro cs ds (rfl | ⟨c, mem, visible⟩) second
    · exact second
    · exact .inr ⟨c, List.mem_append_left ds mem, visible⟩
  · exact .inr ⟨',', List.mem_singleton_self _, by decide⟩
  · intro cs mem
    rw [List.map_map] at mem
    obtain ⟨r, -, rfl⟩ := List.mem_map.1 mem
    cases r with
    | nil => exact .inl rfl
    | cons a as =>
      obtain ⟨c, mem, visible⟩ := List.all_eq_false.1 (RelativeName.not_blank_text_cons a as)
      exact .inr ⟨c, mem, Bool.not_eq_true _ ▸ visible⟩

end X509

/-! ## Issuers and serial numbers in messages -/

open Xml (Element)
open Text (IsSpaced)

/-- The text of an element that holds a text with blanks around it. -/
theorem Xml.Element.text_of_isSpaced {e : Element} {s : String}
    (holds : IsSpaced s.toList e.leadingText.toList) : e.text = Text.trim s := by
  rw [text, Text.trim, Text.trim, holds.trimChars_eq]

/-- The serial number of a certificate with zeros in front of it. -/
def Certificate.paddedSerial (c : Certificate) (zeros : Nat) : String :=
  String.ofList (List.replicate zeros '0' ++ c.serialNumber.toList)

/-- A reference that shows the issuer and the serial number of a certificate, with blanks
around both and zeros in front of the number. -/
structure Xml.Element.Shows (e : Element) (c : Certificate) : Prop where
  named : e.isNamed Namespace.security "SecurityTokenReference" = true
  noReference : e.Lacks Namespace.security "Reference"
  noKeyIdentifier : e.Lacks Namespace.security "KeyIdentifier"
  issuerSerial : ∃ data child issuer serial, e.HasFirst Namespace.signature "X509Data" data ∧
    data.HasFirst Namespace.signature "X509IssuerSerial" child ∧
    child.HasFirst Namespace.signature "X509IssuerName" issuer ∧
    child.HasFirst Namespace.signature "X509SerialNumber" serial ∧
    IsSpaced c.issuer.toList issuer.leadingText.toList ∧
    ∃ zeros, IsSpaced (c.paddedSerial zeros).toList serial.leadingText.toList

namespace Certificate

variable {c : Certificate}

/-- A printed issuer that is not empty is not empty without the blanks around it. -/
theorem trim_issuer_ne_empty (filled : c.issuer ≠ "") : Text.trim c.issuer ≠ "" := by
  rcases X509.Name.text_eq_nil_or_visible c.record.issuer with empty | ⟨ch, mem, visible⟩
  · exact absurd (String.toList_eq_nil_iff.1 empty) filled
  · exact Text.trim_ne_empty mem visible

theorem isDigit_of_mem_paddedSerial {zeros : Nat} {ch : Char}
    (mem : ch ∈ (c.paddedSerial zeros).toList) : ch.isDigit = true := by
  rw [paddedSerial, String.toList_ofList] at mem
  rcases List.mem_append.1 mem with zero | digit
  · rw [List.eq_of_mem_replicate zero]
    rfl
  · exact c.isNumeral_serialNumber.digits ch digit

/-- There are no blanks in it to be trimmed. -/
theorem trim_paddedSerial (c : Certificate) (zeros : Nat) :
    Text.trim (c.paddedSerial zeros) = c.paddedSerial zeros := by
  rw [Text.trim, Text.trimChars_of_visible, String.ofList_toList]
  intro ch mem
  exact Text.isBlank_of_isDigit (isDigit_of_mem_paddedSerial mem)

theorem paddedSerial_ne_empty (c : Certificate) (zeros : Nat) : c.paddedSerial zeros ≠ "" := by
  rw [paddedSerial, ne_eq, String.ofList_eq_empty_iff, List.append_eq_nil_iff]
  rintro ⟨-, empty⟩
  exact c.isNumeral_serialNumber.filled empty

/-- It is compared as the serial number. -/
theorem normalSerial_paddedSerial (c : Certificate) (zeros : Nat) :
    X509.normalSerial (c.paddedSerial zeros) = c.serialNumber := by
  rw [normalSerial_eq_iff, trim_paddedSerial]
  refine ⟨fun ch mem => isDigit_of_mem_paddedSerial mem, ?_⟩
  rw [paddedSerial, String.toList_ofList, ← c.isNumeral_serialNumber.value]
  induction zeros with
  | zero => rfl
  | succ zeros ih => exact ih

/-- A reference that shows the issuer and the serial number of a certificate is read, and
matches it. -/
theorem exists_ofElement_of_shows {e : Element} (filled : c.issuer ≠ "") (shows : e.Shows c) :
    ∃ r issuer serial, TokenReference.ofElement e = .ok r ∧
      r.kind = .issuerSerial issuer serial ∧ c.matchesIssuerSerial issuer serial = true := by
  obtain ⟨data, child, issuer, serial, first, inside, issuerNamed, serialNamed, issuerShown, zeros,
    serialShown⟩ := shows.issuerSerial
  have issuerText : issuer.text = Text.trim c.issuer := issuer.text_of_isSpaced issuerShown
  have serialText : serial.text = c.paddedSerial zeros := by
    rw [← c.trim_paddedSerial zeros]
    exact serial.text_of_isSpaced serialShown
  have kind : (ReferenceKind.issuerSerial issuer.text serial.text).Reads e := by
    refine .issuerSerial shows.noReference shows.noKeyIdentifier first inside issuerNamed
      serialNamed ?_ ?_
    · rw [issuerText]
      exact trim_issuer_ne_empty filled
    · rw [serialText]
      exact c.paddedSerial_ne_empty zeros
  refine ⟨⟨_, _, _, _⟩, _, _,
    TokenReference.ofElement_eq_ok_iff.2 ⟨shows.named, rfl, rfl, rfl, kind⟩, rfl, ?_⟩
  rw [matchesIssuerSerial, issuerText, serialText, normalSerial_paddedSerial,
    X509.comparisonForm_trim, beq_self_eq_true, beq_self_eq_true, Bool.and_self]

/-- **A certificate matches its own issuer and serial number out of a message.**  A reference
that shows them, with any blanks around them and any zeros in front of the number, is read,
and what is read matches the certificate, unless nothing is printed for the issuer.  The
reason is that the blanks around a name never count: the text without them is compared as the
text with them, whatever the text is. -/
theorem matches_of_shows :
    (∀ (c : Certificate) (e : Element), c.issuer ≠ "" → e.Shows c →
      ∃ r issuer serial, TokenReference.ofElement e = .ok r ∧
        r.kind = .issuerSerial issuer serial ∧ c.matchesIssuerSerial issuer serial = true) ∧
    ∀ s : String, X509.comparisonForm (Text.trim s) = X509.comparisonForm s := by
  refine ⟨fun c e filled shows => ?_, fun s => ?_⟩
  · exact exists_ofElement_of_shows filled shows
  · exact X509.comparisonForm_trim s

/-- A certificate whose issuer ends in a blank. -/
def blankEnding : Certificate :=
  .ofRecord { Resolution.smallRecord with
    issuer := [[⟨⟨[0x55, 0x04, 0x03]⟩, ⟨0x0C, [0x61, 0x20]⟩⟩]] }

/-- A reference to it, in which the escaped blank is trimmed. -/
def blankEndingReference : Element :=
  ⟨⟨some Namespace.security, "SecurityTokenReference"⟩, [],
    [.text "\n", .element ⟨some Namespace.signature, "X509Data"⟩ []
      [.element ⟨some Namespace.signature, "X509IssuerSerial"⟩ []
        [.element ⟨some Namespace.signature, "X509IssuerName"⟩ [] [.text "\n  CN=a\\ "],
         .element ⟨some Namespace.signature, "X509SerialNumber"⟩ [] [.text " 007\n"]]]]⟩

theorem shows_blankEndingReference : blankEndingReference.Shows blankEnding where
  named := by decide
  noReference := by
    intro d mem
    obtain rfl := List.mem_singleton.1 mem
    decide
  noKeyIdentifier := by
    intro d mem
    obtain rfl := List.mem_singleton.1 mem
    decide
  issuerSerial := by
    have issuer : IsSpaced blankEnding.issuer.toList "\n  CN=a\\ ".toList := by
      have printed : blankEnding.issuer.toList = "CN=a\\ ".toList := by decide +kernel
      have spaced : IsSpaced "CN=a\\ ".toList ("\n  ".toList ++ "CN=a\\ ".toList ++ []) :=
        .around (List.all_eq_true.1 (by decide)) (List.all_eq_true.1 (by decide))
      rw [printed]
      exact spaced
    have serial : IsSpaced (blankEnding.paddedSerial 2).toList " 007\n".toList := by
      have printed : (blankEnding.paddedSerial 2).toList = "007".toList := by decide +kernel
      have spaced : IsSpaced "007".toList (" ".toList ++ "007".toList ++ "\n".toList) :=
        .around (List.all_eq_true.1 (by decide)) (List.all_eq_true.1 (by decide))
      rw [printed]
      exact spaced
    exact ⟨_, _, _, _, Element.child?_eq_some_iff.1 rfl, Element.child?_eq_some_iff.1 rfl,
      Element.child?_eq_some_iff.1 rfl, Element.child?_eq_some_iff.1 rfl, issuer, 2, serial⟩

/-- The reference matches the certificate. -/
theorem matches_of_shows_blankEnding :
    blankEnding.issuer ≠ "" ∧ blankEndingReference.Shows blankEnding ∧
      ∃ r issuer serial, TokenReference.ofElement blankEndingReference = .ok r ∧
        r.kind = .issuerSerial issuer serial ∧
          blankEnding.matchesIssuerSerial issuer serial = true := by
  have filled : blankEnding.issuer ≠ "" := by decide +kernel
  exact ⟨filled, shows_blankEndingReference,
    matches_of_shows.1 blankEnding blankEndingReference filled shows_blankEndingReference⟩

end Certificate

end SecurityTokens
