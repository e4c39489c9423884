/-
# When issuers match

The issuers of two certificates are compared by their printed names, and those hold what
the certificates' authors like.  The comparison still goes relative name by relative name:

| relative names | match when |
| --- | --- |
| without attributes, both | always |
| without attributes, one | never |
| with attributes | their first types are spellings of one type, and what follows is the same without regard to case and to blanks around it |

Neither the number of relative names nor their ends depend on what values hold, since the
components of a printed name are its relative names (`Name.components_text`).  An issuer
and a serial number taken from one certificate match another one exactly if the serial
numbers are equal and the issuers match in this sense (`matchesIssuerSerial_iff_alike`).
-/

import SecurityTokens.Proofs.Comments
import SecurityTokens.Proofs.PrintedNames

namespace SecurityTokens

/-! ## Texts that are not blank -/

namespace Text

theorem lowerChar_ne_nil (c : Char) : lowerChar c ≠ [] := by
  unfold lowerChar
  split
  · exact List.cons_ne_nil _ _
  · split
    · exact List.cons_ne_nil _ _
    · exact List.cons_ne_nil _ _

/-- Only the empty text is empty in lower case. -/
theorem lower_ne_empty {s : String} (filled : s ≠ "") : lower s ≠ "" := by
  intro empty
  have none : lowerChars s.toList = [] := String.ofList_eq_empty_iff.1 empty
  cases chars : s.toList with
  | nil => exact filled (String.toList_eq_nil_iff.1 chars)
  | cons c cs =>
    rw [chars, lowerChars, lowerAfter, List.append_eq_nil_iff] at none
    obtain ⟨first, -⟩ := none
    split at first
    · exact absurd first (List.cons_ne_nil _ _)
    · exact lowerChar_ne_nil c first

/-- Only the empty text is empty in capitals. -/
theorem upperAscii_ne_empty {s : String} (filled : s ≠ "") : upperAscii s ≠ "" := by
  intro empty
  have chars : (upperAscii s).toList = [] := String.toList_eq_nil_iff.2 empty
  rw [upperAscii, String.toList_map, List.map_eq_nil_iff] at chars
  exact filled (String.toList_eq_nil_iff.1 chars)

/-- Of a text with a character that is not blank, something is left without its blanks. -/
theorem trim_ne_empty {s : String} {c : Char} (mem : c ∈ s.toList) (visible : isBlank c = false) :
    trim s ≠ "" := by
  intro empty
  have none : trimChars s.toList = [] := String.ofList_eq_empty_iff.1 empty
  have kept := filter_trimChars s.toList
  rw [none, List.filter_nil, eq_comm, List.filter_eq_nil_iff] at kept
  refine kept c mem ?_
  rw [visible]
  rfl

end Text

namespace X509

/-! ## Spellings of types -/

/-- The types that have several spellings, the one that they are compared under first. -/
def typeRows : List (List String) :=
  [["CN", "2.5.4.3"], ["O", "2.5.4.10"], ["OU", "2.5.4.11"], ["C", "2.5.4.6"], ["L", "2.5.4.7"],
   ["ST", "S", "2.5.4.8"], ["EMAILADDRESS", "E", "1.2.840.113549.1.9.1"]]

/-- Two texts are spellings of one type, without regard to case. -/
def SameType (s t : String) : Prop :=
  Text.upperAscii s = Text.upperAscii t ∨
    ∃ row ∈ typeRows, Text.upperAscii s ∈ row ∧ Text.upperAscii t ∈ row

/-- A type is compared under the first spelling in its row. -/
theorem head?_eq_canonicalType {s : String} {row : List String} (known : row ∈ typeRows)
    (mem : Text.upperAscii s ∈ row) : row.head? = some (canonicalType s) := by
  have rows : ∀ row ∈ typeRows, ∀ t ∈ row,
      row.head? = some ((typeSpellings.lookup t).getD t) := by decide
  exact rows row known _ mem

/-- A type that is in no row is compared under its own spelling in capitals. -/
theorem canonicalType_of_not_mem {s : String}
    (unknown : ¬∃ row ∈ typeRows, Text.upperAscii s ∈ row) :
    canonicalType s = Text.upperAscii s := by
  have covered : ∀ p ∈ typeSpellings, ∃ row ∈ typeRows, p.1 ∈ row := by decide
  have none : typeSpellings.lookup (Text.upperAscii s) = none := by
    refine List.lookup_eq_none_iff.2 fun p mem => ?_
    rw [bne_iff_ne]
    intro same
    rw [same] at unknown
    exact unknown (covered p mem)
  rw [canonicalType, none]
  rfl

/-- No type is compared like the empty text. -/
theorem canonicalType_ne_empty {s : String} (filled : s ≠ "") : canonicalType s ≠ "" := by
  intro empty
  by_cases known : ∃ row ∈ typeRows, Text.upperAscii s ∈ row
  · have nowhere : ∀ row ∈ typeRows, "" ∉ row := by decide
    obtain ⟨row, known, mem⟩ := known
    have head := head?_eq_canonicalType known mem
    rw [empty] at head
    exact nowhere row known (List.mem_of_head? head)
  · rw [canonicalType_of_not_mem known] at empty
    exact Text.upperAscii_ne_empty filled empty

/-- Two types are compared as equal just if they are spellings of one type. -/
theorem canonicalType_eq_iff {s t : String} :
    canonicalType s = canonicalType t ↔ SameType s t := by
  constructor
  · intro same
    by_cases first : ∃ row ∈ typeRows, Text.upperAscii s ∈ row
    · obtain ⟨row, known, mem⟩ := first
      have head := head?_eq_canonicalType known mem
      by_cases second : ∃ row ∈ typeRows, Text.upperAscii t ∈ row
      · have heads : ∀ row ∈ typeRows, ∀ row' ∈ typeRows, row.head? = row'.head? → row = row' := by
          decide
        obtain ⟨row', known', mem'⟩ := second
        have head' := head?_eq_canonicalType known' mem'
        obtain rfl := heads row known row' known' (by rw [head, head', same])
        exact .inr ⟨row, known, mem, mem'⟩
      · rw [same, canonicalType_of_not_mem second] at head
        exact .inr ⟨row, known, mem, List.mem_of_head? head⟩
    · by_cases second : ∃ row ∈ typeRows, Text.upperAscii t ∈ row
      · obtain ⟨row, known, mem⟩ := second
        have head := head?_eq_canonicalType known mem
        rw [← same, canonicalType_of_not_mem first] at head
        exact .inr ⟨row, known, List.mem_of_head? head, mem⟩
      · rw [canonicalType_of_not_mem first, canonicalType_of_not_mem second] at same
        exact .inl same
  · rintro (same | ⟨row, known, first, second⟩)
    · rw [canonicalType, canonicalType, same]
    · have head := head?_eq_canonicalType known first
      rw [head?_eq_canonicalType known second] at head
      exact (Option.some.inj head).symm

/-! ## Relative names that are compared as equal -/

namespace NameComponent

/-- The first equals sign of a text parts its type from its value. -/
theorem ofChars_append_cons {key : List Char} (plain : '=' ∉ key) (value : List Char) :
    ofChars (key ++ '=' :: value) = ⟨canonicalType (Text.trim (String.ofList key)),
      Text.lower (Text.trim (String.ofList value))⟩ := by
  rw [ofChars, Text.dropWhile_append_cons plain]
  dsimp only
  rw [Text.takeWhile_append_cons plain]

/-- A printed type, an equals sign and whatever follows are compared as that type and the
value that follows. -/
theorem ofChars_eq {key value : String} (type : IsKey key) :
    ofChars (key ++ "=" ++ value).toList = ⟨canonicalType key, Text.lower (Text.trim value)⟩ := by
  have printed : (key ++ "=" ++ value).toList = key.toList ++ '=' :: value.toList := by
    rw [String.toList_append, String.toList_append, List.append_assoc]
    rfl
  have plain : '=' ∉ key.toList := by
    intro mem
    exact absurd (type _ mem) (by decide)
  have trimmed : Text.trim key = key := by
    rw [Text.trim, Text.trimChars_of_visible, String.ofList_toList]
    intro c mem
    exact isBlank_of_isKeyCode (type c mem)
  rw [printed, ofChars_append_cons plain, String.ofList_toList, String.ofList_toList, trimmed]

end NameComponent

/-- An attribute is printed with a type, or its value with a number sign. -/
theorem NameAttribute.printedType_ne_empty_or (a : NameAttribute) :
    a.printedType ≠ "" ∨ '#' ∈ a.printedValue.toList := by
  unfold printedType printedValue
  split
  next named _ => exact .inl (Text.upperAscii_ne_empty (isKey_name? named).1)
  next =>
    rw [String.toList_append]
    exact .inr (List.mem_append_left _ (List.mem_singleton_self _))

/-- A relative name with attributes is not compared like one that has none. -/
theorem RelativeName.ofChars_text_cons_ne (a : NameAttribute) (as : List NameAttribute) :
    NameComponent.ofChars (text (a :: as)).toList ≠ ⟨"", ""⟩ := by
  rw [text_cons, NameComponent.ofChars_eq a.isKey_printedType]
  intro same
  obtain ⟨type, value⟩ := NameComponent.mk.inj same
  rcases a.printedType_ne_empty_or with filled | sign
  · exact canonicalType_ne_empty filled type
  · have inside : '#' ∈ ("+".intercalate (a.printedValue :: as.map (·.text))).toList := by
      rw [String.toList_intercalate, List.map_cons]
      cases (as.map (·.text)).map String.toList with
      | nil => rwa [List.intercalate_singleton]
      | cons cs rest =>
        rw [List.intercalate_cons_cons, List.append_assoc]
        exact List.mem_append_left _ sign
    exact Text.lower_ne_empty (Text.trim_ne_empty inside (by decide)) value

/-- Relative names that are printed alike: without attributes both, or as their first types,
which are spellings of one type, and as texts that differ in case and in blanks around them
only. -/
inductive PrintsAlike : RelativeName → RelativeName → Prop
  | empty : PrintsAlike [] []
  | attributes {a b as bs v w}
    (first : RelativeName.text (a :: as) = a.printedType ++ "=" ++ v)
    (second : RelativeName.text (b :: bs) = b.printedType ++ "=" ++ w)
    (types : SameType a.printedType b.printedType)
    (values : Text.lower (Text.trim v) = Text.lower (Text.trim w)) : PrintsAlike (a :: as) (b :: bs)

/-- Just such relative names are compared as equal. -/
theorem RelativeName.ofChars_text_eq_iff {r s : RelativeName} :
    NameComponent.ofChars r.text.toList = NameComponent.ofChars s.text.toList ↔
      PrintsAlike r s := by
  constructor
  · intro same
    cases r with
    | nil =>
      cases s with
      | nil => exact .empty
      | cons b bs => exact absurd same.symm (ofChars_text_cons_ne b bs)
    | cons a as =>
      cases s with
      | nil => exact absurd same (ofChars_text_cons_ne a as)
      | cons b bs =>
        rw [text_cons, text_cons, NameComponent.ofChars_eq a.isKey_printedType,
          NameComponent.ofChars_eq b.isKey_printedType] at same
        obtain ⟨types, values⟩ := NameComponent.mk.inj same
        exact .attributes (text_cons a as) (text_cons b bs) (canonicalType_eq_iff.1 types) values
  · intro alike
    cases alike with
    | empty => rfl
    | @attributes a b _ _ _ _ first second types values =>
      rw [first, second, NameComponent.ofChars_eq a.isKey_printedType,
        NameComponent.ofChars_eq b.isKey_printedType, canonicalType_eq_iff.2 types, values]

/-- Printed names are compared as equal just if the relative names that count are printed
alike, one by one. -/
theorem Name.comparisonForm_text_eq_iff {m n : Name} :
    comparisonForm m.text = comparisonForm n.text ↔
      List.Forall₂ PrintsAlike m.counted n.counted := by
  have form (n : Name) : comparisonForm n.text =
      (n.counted.map fun r => NameComponent.ofChars r.text.toList).reverse := by
    rw [comparisonForm, components_text, List.map_map, List.map_reverse]
    rfl
  rw [form, form, List.reverse_inj, ← List.forall₂_eq_eq_eq, List.forall₂_map_left_iff,
    List.forall₂_map_right_iff]
  exact ⟨.imp fun _ _ => RelativeName.ofChars_text_eq_iff.1,
    .imp fun _ _ => RelativeName.ofChars_text_eq_iff.2⟩

end X509

namespace Certificate

/-- Serial numbers are printed alike just if they have the same value. -/
theorem serialNumber_eq_iff {a b : Certificate} : a.serialNumber = b.serialNumber ↔
    Bytes.toNat a.record.serial = Bytes.toNat b.record.serial := by
  have first := a.isNumeral_serialNumber
  have second := b.isNumeral_serialNumber
  constructor
  · intro same
    rw [← first.value, ← second.value, same]
  · intro same
    rw [isNumeral_iff] at first second
    rw [← String.toList_inj, first, second, same]

/-- **No name passes for another one.**  The components of a certificate's printed issuer
are its relative names as they are printed, whatever its values hold; only one without
attributes in front does not count.  The issuer and the serial number of one certificate
match another one if and only if the serial numbers have the same value and the relative
names are printed alike, one by one. -/
theorem matchesIssuerSerial_iff_alike (a b : Certificate) :
    X509.components b.issuer = b.record.issuer.counted.reverse.map (fun r => r.text.toList) ∧
    (a.matchesIssuerSerial b.issuer b.serialNumber = true ↔
      Bytes.toNat a.record.serial = Bytes.toNat b.record.serial ∧
        List.Forall₂ X509.PrintsAlike a.record.issuer.counted b.record.issuer.counted) := by
  refine ⟨b.record.issuer.components_text, ?_⟩
  rw [matchesIssuerSerial, Bool.and_eq_true, beq_iff_eq, beq_iff_eq, normalSerial_serialNumber,
    eq_comm, serialNumber_eq_iff, eq_comm (a := X509.comparisonForm b.issuer), issuer, issuer,
    X509.Name.comparisonForm_text_eq_iff]

/-- A value that looks like two relative names stays one. -/
example : X509.components (X509.Name.text [[⟨⟨[0x55, 4, 3]⟩, ⟨0x0C, "a\\,O=b ".toUTF8.data.toList⟩⟩]])
    = ["CN=a\\\\\\,O=b\\ ".toList] := by
  decide +kernel

end Certificate
end SecurityTokens
