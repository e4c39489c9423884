/-
# Other spellings of an issuer

The issuer of a certificate is printed with one spelling of each type.  A reference may write
another one, in letters of either case, may part the relative names with semicolons and may put
blanks around every part.

| type | printed | other spellings |
| --- | --- | --- |
| 2.5.4.3 | `CN` | its number |
| 2.5.4.10 | `O` | its number |
| 2.5.4.11 | `OU` | its number |
| 2.5.4.6 | `C` | its number |
| 2.5.4.7 | `L` | its number |
| 2.5.4.8 | `ST` | its number, `S` |
| 1.2.840.113549.1.9.1 | `EMAIL` | its number, `E`, `EMAILADDRESS` |

If the value cannot be read as text, all of them are printed as their numbers.  Each spelling
is compared like the printed one but in the last row: `EMAIL` is not known to the comparison.
So an issuer in other spellings matches just if it keeps this one where it is printed
(`matchesIssuerSerial_iff_keepsEmail`).
-/

import SecurityTokens.Proofs.Spacing

namespace SecurityTokens
namespace X509

open Text (IsSpaced)

/-! ## Spellings of types -/

/-- The types that have several spellings, by their arcs, in the order of their rows. -/
def typeArcs : List (List Nat) :=
  [[2, 5, 4, 3], [2, 5, 4, 10], [2, 5, 4, 11], [2, 5, 4, 6], [2, 5, 4, 7], [2, 5, 4, 8],
   [1, 2, 840, 113549, 1, 9, 1]]

namespace NameAttribute

/-- A text is a spelling of the type of an attribute: the printed one, or one of its row,
without regard to case. -/
def IsSpelled (a : NameAttribute) (type : String) : Prop :=
  Text.upperAscii type = Text.upperAscii a.printedType ∨
    ∃ row, (a.type.arcs, row) ∈ typeArcs.zip typeRows ∧ Text.upperAscii type ∈ row

variable {a : NameAttribute} {type : String}

/-- A type that has several spellings is printed in one of them, or as `EMAIL`. -/
theorem printedType_mem_or {row : List String}
    (known : (a.type.arcs, row) ∈ typeArcs.zip typeRows) :
    a.printedType ∈ row ∨ a.printedType = "EMAIL" := by
  have named : ∀ entry ∈ typeArcs.zip typeRows, (Der.registeredName? entry.1).all fun key =>
      entry.2.contains (Text.upperAscii key) || Text.upperAscii key == "EMAIL" := by
    decide +kernel
  have numbered : ∀ entry ∈ typeArcs.zip typeRows,
      ".".intercalate (entry.1.map toString) ∈ entry.2 := by
    decide +kernel
  unfold printedType
  split
  next key _ registered _ =>
    unfold Der.ObjectId.name? at registered
    split at registered
    next =>
      have found := named _ known
      rw [registered, Option.all_some, Bool.or_eq_true, List.contains_iff_mem, beq_iff_eq] at found
      exact found
    next => cases registered
  next => exact .inl (numbered _ known)

end NameAttribute

/-- A text is of such characters if its capitals are. -/
theorem IsKey.of_upperAscii {s : String} (key : IsKey (Text.upperAscii s)) : IsKey s := by
  intro c mem
  have capital : isKeyCode c.toUpper.toNat = true := by
    refine key c.toUpper ?_
    rw [Text.upperAscii, String.toList_map]
    exact List.mem_map_of_mem mem
  unfold Char.toUpper at capital
  split at capital
  next lower =>
    have range : 97 ≤ c.toNat ∧ c.toNat ≤ 122 := lower
    simp only [isKeyCode, Bool.or_eq_true, Bool.and_eq_true, decide_eq_true_eq]
    omega
  next => exact capital

namespace NameAttribute

variable {a : NameAttribute} {type : String}

/-- Spellings have no separators and no equals sign. -/
theorem IsSpelled.isKey (spelled : a.IsSpelled type) : IsKey type := by
  refine .of_upperAscii ?_
  rcases spelled with same | ⟨row, known, mem⟩
  · rw [same]
    exact isKey_upperAscii a.isKey_printedType
  · have rows : ∀ row ∈ typeRows, ∀ s ∈ row, s.toList.all (isKeyCode ·.toNat) = true := by decide
    exact List.all_eq_true.1 (rows row (List.of_mem_zip known).2 _ mem)

/-- A spelling is compared like the printed type, unless this is `EMAIL` and the spelling is
another one. -/
theorem IsSpelled.sameType_iff (spelled : a.IsSpelled type) : SameType type a.printedType ↔
    (a.printedType = "EMAIL" → Text.upperAscii type = "EMAIL") := by
  have email : Text.upperAscii "EMAIL" = "EMAIL" := by decide +kernel
  rcases spelled with same | ⟨row, known, mem⟩
  · refine ⟨fun _ printed => ?_, fun _ => .inl same⟩
    rw [same, printed, email]
  · have row_mem : row ∈ typeRows := (List.of_mem_zip known).2
    have capitals : ∀ row ∈ typeRows, ∀ s ∈ row, Text.upperAscii s = s := by decide +kernel
    have unknown : ∀ row ∈ typeRows, "EMAIL" ∉ row := by decide
    rcases printedType_mem_or known with printed | printed
    · refine ⟨fun _ isEmail => ?_, fun _ => .inr ⟨row, row_mem, mem, ?_⟩⟩
      · rw [isEmail] at printed
        exact absurd printed (unknown row row_mem)
      · rwa [capitals row row_mem _ printed]
    · rw [printed]
      constructor
      · rintro (same | ⟨row', known', -, mem'⟩) -
        · rw [same, email]
        · rw [email] at mem'
          exact absurd mem' (unknown row' known')
      · intro kept
        exact .inl ((kept rfl).trans email.symm)

end NameAttribute

/-! ## Attributes in other spellings -/

/-- Unbroken text stays so with blanks around it. -/
theorem Unbroken.of_isSpaced {cs ds : List Char} (unbroken : Unbroken cs)
    (spaced : IsSpaced cs ds) : Unbroken ds := by
  cases spaced with
  | around front behind => exact ((of_blank front).append unbroken).append (of_blank behind)

/-- An attribute as it is written in a reference: a spelling of its type and its printed value,
with blanks around both. -/
structure WrittenAttribute where
  original : NameAttribute
  type : String
  key : List Char
  value : List Char
  spelled : original.IsSpelled type
  keySpaced : IsSpaced type.toList key
  valueSpaced : IsSpaced original.printedValue.toList value

namespace WrittenAttribute

/-- The text of the attribute. -/
def text (w : WrittenAttribute) : List Char := w.key ++ '=' :: w.value

variable (w : WrittenAttribute)

theorem unbroken_text : Unbroken w.text := by
  have equals : Unbroken ['='] := .plain (by decide) .nil
  have key : Unbroken w.key := (Unbroken.of_isKeyCode w.spelled.isKey).of_isSpaced w.keySpaced
  have value : Unbroken w.value := w.original.unbroken_printedValue.of_isSpaced w.valueSpaced
  exact key.append (equals.append value)

theorem not_blank_text : w.text.all Text.isBlank = false :=
  List.all_eq_false.2 ⟨'=', List.mem_append_right _ List.mem_cons_self, by decide⟩

/-- It is compared as the spelling and the printed value. -/
theorem ofChars_text : NameComponent.ofChars w.text
    = ⟨canonicalType w.type, Text.lower (Text.trim w.original.printedValue)⟩ := by
  have type : IsKey w.type := w.spelled.isKey
  have plain : '=' ∉ w.key := by
    intro mem
    rcases w.keySpaced.isBlank_or_mem mem with blank | inside
    · exact absurd blank (by decide)
    · exact absurd (type _ inside) (by decide)
  have key : Text.trim (String.ofList w.key) = w.type := by
    rw [Text.trim_ofList, w.keySpaced.trimChars_eq, Text.trimChars_of_visible, String.ofList_toList]
    intro c mem
    exact isBlank_of_isKeyCode (type c mem)
  have value : Text.trim (String.ofList w.value) = Text.trim w.original.printedValue := by
    rw [Text.trim_ofList, w.valueSpaced.trimChars_eq, Text.trim]
  rw [text, NameComponent.ofChars_append_cons plain, key, value]

/-- It is compared like the printed attribute just if `EMAIL` is kept. -/
theorem ofChars_text_eq_iff :
    NameComponent.ofChars w.text = NameComponent.ofChars w.original.text.toList ↔
      (w.original.printedType = "EMAIL" → Text.upperAscii w.type = "EMAIL") := by
  rw [ofChars_text, NameAttribute.text_eq, NameComponent.ofChars_eq w.original.isKey_printedType,
    NameComponent.mk.injEq, and_iff_left rfl, canonicalType_eq_iff, w.spelled.sameType_iff]

end WrittenAttribute

/-! ## Issuers in other spellings -/

/-- Texts that are put together are the components of what they make, if each of them is unbroken
and not blank. -/
theorem components_of_joined {parts : List (List Char)} {s : String}
    (joined : Joined parts s.toList) (unbroken : ∀ cs ∈ parts, Unbroken cs)
    (visible : ∀ cs ∈ parts, cs.all Text.isBlank = false) : components s = parts := by
  cases parts with
  | nil =>
    generalize chars : s.toList = cs at joined
    cases joined
    rw [components, chars]
    rfl
  | cons cs parts =>
    have filled : cs :: parts ≠ [] := List.cons_ne_nil cs parts
    have last : ((cs :: parts).getLastD []).all Text.isBlank = false := by
      rw [List.getLastD_eq_getLast?, List.getLast?_eq_some_getLast filled, Option.getD_some]
      exact visible _ (List.getLast_mem filled)
    rw [components, cutComponents_of_joined joined filled unbroken, last]
    rfl

/-- Attributes that are written one after the other are the components of what is written. -/
theorem components_of_written {written : List WrittenAttribute} {s : String}
    (joined : Joined (written.map (·.text)) s.toList) : components s = written.map (·.text) := by
  refine components_of_joined joined ?_ ?_
  · exact List.forall_mem_map.2 fun w _ => w.unbroken_text
  · exact List.forall_mem_map.2 fun w _ => w.not_blank_text

/-- All relative names count if they have attributes. -/
theorem Name.counted_eq_self {n : Name} (filled : [] ∉ n) : n.counted = n := by
  fun_cases counted n with
  | case1 rest => exact absurd List.mem_cons_self filled
  | case2 => rfl

theorem RelativeName.text_singleton (a : NameAttribute) : text [a] = a.text := by
  rw [text, List.map_singleton, String.intercalate_singleton]

/-- A name of single attributes is compared as these. -/
theorem comparisonForm_text_of_single {n : Name} {attributes : List NameAttribute}
    (single : n = (attributes.map fun a => [a]).reverse) :
    comparisonForm n.text = attributes.map fun a => NameComponent.ofChars a.text.toList := by
  have filled : [] ∉ n := by
    rw [single, List.mem_reverse, List.mem_map]
    rintro ⟨a, -, empty⟩
    exact List.cons_ne_nil a [] empty
  rw [comparisonForm, n.components_text, Name.counted_eq_self filled, single, List.reverse_reverse,
    List.map_map, List.map_map]
  refine List.map_congr_left fun a _ => ?_
  rw [Function.comp_apply, Function.comp_apply, RelativeName.text_singleton]

end X509

namespace Certificate

open X509 (Joined NameAttribute WrittenAttribute)

/-- **An issuer matches in all spellings but those of a mail address.**  The printed issuer of a
certificate whose relative names have one attribute each may be written with other spellings of
the types, in letters of either case, with semicolons, and with blanks around types and values.
Together with the printed serial number this matches the certificate if and only if each type
that is printed as `EMAIL` is written as `EMAIL`, in letters of either case. -/
theorem matchesIssuerSerial_iff_keepsEmail {c : Certificate} {written : List WrittenAttribute}
    {issuer : String} (single : c.record.issuer = (written.map fun w => [w.original]).reverse)
    (joined : Joined (written.map (·.text)) issuer.toList) :
    Joined (written.map fun w => w.original.text.toList) c.issuer.toList ∧
    (c.matchesIssuerSerial issuer c.serialNumber = true ↔
      ∀ w ∈ written, w.original.printedType = "EMAIL" → Text.upperAscii w.type = "EMAIL") := by
  have attributes : c.record.issuer = ((written.map (·.original)).map fun a => [a]).reverse := by
    rw [single, List.map_map]
    rfl
  constructor
  · have parts : (c.record.issuer.reverse.map X509.RelativeName.text).map String.toList
        = written.map fun w => w.original.text.toList := by
      rw [single, List.reverse_reverse, List.map_map, List.map_map]
      refine List.map_congr_left fun w _ => ?_
      rw [Function.comp_apply, Function.comp_apply, X509.RelativeName.text_singleton]
    rw [Certificate.issuer, X509.Name.text, String.toList_intercalate, parts]
    exact X509.joined_intercalate _
  · have printed : X509.comparisonForm c.issuer
        = written.map fun w => X509.NameComponent.ofChars w.original.text.toList := by
      rw [Certificate.issuer, X509.comparisonForm_text_of_single attributes, List.map_map]
      rfl
    rw [matchesIssuerSerial, Bool.and_eq_true, beq_iff_eq, beq_iff_eq, normalSerial_serialNumber,
      and_iff_right rfl, printed, X509.comparisonForm, X509.components_of_written joined,
      List.map_map, List.map_inj_left]
    refine forall₂_congr fun w _ => ?_
    exact w.ofChars_text_eq_iff

/-- A common name. -/
def commonNameA : NameAttribute := ⟨⟨[0x55, 0x04, 0x03]⟩, ⟨0x0C, [0x61]⟩⟩

/-- A mail address. -/
def mailAddressA : NameAttribute :=
  ⟨⟨[0x2A, 0x86, 0x48, 0x86, 0xF7, 0x0D, 0x01, 0x09, 0x01]⟩, ⟨0x16, [0x61, 0x40, 0x62, 0x2E, 0x63]⟩⟩

/-- A certificate whose issuer has both. -/
def issuedByMail : Certificate :=
  .ofRecord { Resolution.smallRecord with issuer := [[mailAddressA], [commonNameA]] }

/-- The common name by its number. -/
def writtenName : WrittenAttribute where
  original := commonNameA
  type := "2.5.4.3"
  key := [] ++ "2.5.4.3".toList ++ [' ']
  value := [' '] ++ commonNameA.printedValue.toList ++ [' ']
  spelled := .inr ⟨["CN", "2.5.4.3"], by decide +kernel, by decide +kernel⟩
  keySpaced := .around (List.all_eq_true.1 (by decide)) (List.all_eq_true.1 (by decide))
  valueSpaced := .around (List.all_eq_true.1 (by decide)) (List.all_eq_true.1 (by decide))

theorem printedType_mailAddressA : mailAddressA.printedType = "EMAIL" := by decide +kernel

theorem isSpelled_mailAddressA : mailAddressA.IsSpelled "Email" := by
  have written : Text.upperAscii "Email" = "EMAIL" := by decide +kernel
  have printed : Text.upperAscii "EMAIL" = "EMAIL" := by decide +kernel
  refine .inl ?_
  rw [printedType_mailAddressA, written, printed]

/-- The mail address as it is printed, in other letters. -/
def writtenMail : WrittenAttribute where
  original := mailAddressA
  type := "Email"
  key := "Email".toList
  value := mailAddressA.printedValue.toList
  spelled := isSpelled_mailAddressA
  keySpaced := .refl _
  valueSpaced := .refl _

/-- The issuer matches in this spelling. -/
theorem matchesIssuerSerial_issuedByMail :
    Joined ([writtenName, writtenMail].map (·.text)) "2.5.4.3 = a ;Email=a@b.c".toList ∧
      issuedByMail.matchesIssuerSerial "2.5.4.3 = a ;Email=a@b.c" issuedByMail.serialNumber
        = true := by
  have joined : Joined ([writtenName, writtenMail].map (·.text))
      "2.5.4.3 = a ;Email=a@b.c".toList := by
    have chars : "2.5.4.3 = a ;Email=a@b.c".toList
        = writtenName.text ++ ';' :: writtenMail.text := by decide +kernel
    rw [chars]
    exact .more (.inr rfl) (.one _)
  have kept : ∀ w ∈ [writtenName, writtenMail],
      w.original.printedType = "EMAIL" → Text.upperAscii w.type = "EMAIL" := by
    decide +kernel
  exact ⟨joined, (matchesIssuerSerial_iff_keepsEmail rfl joined).2.2 kept⟩

/-- The issuer does not match with the mail address under one of its other spellings, though
these are all that the comparison knows of it. -/
theorem not_matchesIssuerSerial_mailSpellings :
    issuedByMail.issuer = "CN=a,EMAIL=a@b.c" ∧
    ∀ type ∈ ["E", "EMAILADDRESS", "1.2.840.113549.1.9.1"], mailAddressA.IsSpelled type ∧
      issuedByMail.matchesIssuerSerial ("CN=a," ++ type ++ "=a@b.c") issuedByMail.serialNumber
        = false := by
  have known : (mailAddressA.type.arcs, ["EMAILADDRESS", "E", "1.2.840.113549.1.9.1"])
      ∈ X509.typeArcs.zip X509.typeRows := by decide +kernel
  have row : ∀ type ∈ ["E", "EMAILADDRESS", "1.2.840.113549.1.9.1"],
      Text.upperAscii type ∈ ["EMAILADDRESS", "E", "1.2.840.113549.1.9.1"] := by decide +kernel
  have refused : ∀ type ∈ ["E", "EMAILADDRESS", "1.2.840.113549.1.9.1"],
      issuedByMail.matchesIssuerSerial ("CN=a," ++ type ++ "=a@b.c") issuedByMail.serialNumber
        = false := by decide +kernel
  refine ⟨by decide +kernel, fun type mem => ?_⟩
  exact ⟨.inr ⟨_, known, row type mem⟩, refused type mem⟩

end Certificate
end SecurityTokens
