/-
# Printed names can be cut

A name is printed with commas between its relative names, and a comparison of names cuts
it at its separators again.  Values hold what their issuer likes, so this only works
because of the backslashes:

| in a value | printed |
| --- | --- |
| a separator, a backslash | with a backslash in front |
| a control character | as a backslash and two digits |
| a blank or a number sign at its beginning, a blank at its end | with a backslash in front |

Such a text is `Unbroken`: outside of escapes it has no separator, and its last escape is
complete.  Cutting passes through unbroken text (`cutComponents_append`), so the components
of a printed name are its relative names as they are printed (`Name.components_text`).  The
types in front of the values have no escapes; that the registered names of types have no
separators either is read off their table (`isKey_name?`).
-/

import SecurityTokens.Proofs.SerialNumbers

namespace SecurityTokens

/-! ## Texts up to a sign -/

namespace Text

variable {sign : Char} {key : List Char}

/-- What is in front of the first sign of a kind is read up to it. -/
theorem takeWhile_append_cons (apart : sign ∉ key) (value : List Char) :
    (key ++ sign :: value).takeWhile (· ≠ sign) = key := by
  have before : ∀ c ∈ key, decide (c ≠ sign) = true := by
    intro c mem
    refine decide_eq_true ?_
    rintro rfl
    exact apart mem
  rw [List.takeWhile_append_of_pos before, List.takeWhile_cons_of_neg (by simp), List.append_nil]

theorem dropWhile_append_cons (apart : sign ∉ key) (value : List Char) :
    (key ++ sign :: value).dropWhile (· ≠ sign) = sign :: value := by
  have whole := List.takeWhile_append_dropWhile (p := (· ≠ sign)) (l := key ++ sign :: value)
  rw [takeWhile_append_cons apart value] at whole
  exact List.append_cancel_left whole

end Text

/-! ## The characters of types -/

namespace X509

/-- The codes of letters and digits of ASCII, of the hyphen and of the point. -/
def isKeyCode (n : Nat) : Bool :=
  (45 ≤ n && n ≤ 46) || (48 ≤ n && n ≤ 57) || (65 ≤ n && n ≤ 90) || (97 ≤ n && n ≤ 122)

/-- A text of such characters only, as types are printed. -/
def IsKey (s : String) : Prop := ∀ c ∈ s.toList, isKeyCode c.toNat = true

theorem isKeyCode_of_isDigit {c : Char} (digit : c.isDigit = true) : isKeyCode c.toNat = true := by
  have range : 48 ≤ c.toNat ∧ c.toNat ≤ 57 := Char.isDigit_iff_toNat.1 digit
  simp only [isKeyCode, Bool.or_eq_true, Bool.and_eq_true, decide_eq_true_eq]
  omega

theorem lt_of_isKeyCode {n : Nat} (key : isKeyCode n = true) : 32 < n ∧ n < 128 := by
  simp only [isKeyCode, Bool.or_eq_true, Bool.and_eq_true, decide_eq_true_eq] at key
  omega

/-- Such characters are no blanks. -/
theorem isBlank_of_isKeyCode {c : Char} (key : isKeyCode c.toNat = true) :
    Text.isBlank c = false := by
  have range := lt_of_isKeyCode key
  simp [Text.isBlank, Text.blanks, Text.CharacterRanges.contains]
  omega

/-- Capitals of such characters are such characters. -/
theorem isKey_upperAscii {s : String} (key : IsKey s) : IsKey (Text.upperAscii s) := by
  have capital : ∀ n : Fin 128, isKeyCode n = true →
      isKeyCode (Char.ofNat n).toUpper.toNat = true := by decide
  intro c mem
  rw [Text.upperAscii, String.toList_map] at mem
  obtain ⟨d, there, rfl⟩ := List.mem_map.1 mem
  have range := lt_of_isKeyCode (key d there)
  have small := capital ⟨d.toNat, range.2⟩ (key d there)
  rwa [Char.ofNat_toNat] at small

/-- A character of ASCII is known by its byte, and all others have bytes beyond. -/
theorem isKeyCode_of_bytes {c : Char}
    (bytes : ∀ b ∈ String.utf8EncodeChar c, isKeyCode b.toNat = true) :
    isKeyCode c.toNat = true := by
  have value : c.val.toNat = c.toNat := rfl
  by_cases single : c.toNat ≤ 127
  · have byte : String.utf8EncodeChar c = [UInt8.ofNat c.toNat] := if_pos single
    have code := bytes (UInt8.ofNat c.toNat) (by rw [byte]; exact List.mem_singleton_self _)
    have same : (UInt8.ofNat c.toNat).toNat = c.toNat := UInt8.toNat_ofNat_of_lt' (Nat.lt_of_le_of_lt single (by decide))
    rwa [same] at code
  · have beyond : ∃ n rest, String.utf8EncodeChar c = UInt8.ofNat n :: rest ∧
        192 ≤ n ∧ n < 256 := by
      unfold String.utf8EncodeChar
      rw [value]
      dsimp only
      rw [if_neg single]
      split
      · exact ⟨_, _, rfl, by omega, by omega⟩
      · split
        · exact ⟨_, _, rfl, by omega, by omega⟩
        · exact ⟨_, _, rfl, by omega, by omega⟩
    obtain ⟨n, rest, encoded, low, high⟩ := beyond
    have code := bytes (UInt8.ofNat n) (by rw [encoded]; exact List.mem_cons_self)
    have same : (UInt8.ofNat n).toNat = n := UInt8.toNat_ofNat_of_lt' high
    rw [same] at code
    have range := lt_of_isKeyCode code
    omega

/-- The registered names of types are not empty and have no separators. -/
theorem isKey_of_mem_registeredNames {arcs : List Nat} {names : List (Nat × String)}
    {last : Nat} {name : String} (known : (arcs, names) ∈ Der.registeredNames)
    (mem : (last, name) ∈ names) : name ≠ "" ∧ IsKey name := by
  -- going by bytes spares decoding the whole table
  have table : (Der.registeredNames.all fun entry => entry.2.all fun named =>
      !named.2.toByteArray.data.toList.isEmpty &&
        named.2.toByteArray.data.toList.all fun b => isKeyCode b.toNat) = true := by
    decide +kernel
  have row := List.all_eq_true.1 (List.all_eq_true.1 table _ known) _ mem
  rw [← Bytes.ofText_eq_toList, Bytes.ofText_eq_flatMap, Bool.and_eq_true, List.all_eq_true] at row
  obtain ⟨filled, bytes⟩ := row
  constructor
  · intro empty
    obtain rfl : name = "" := empty
    cases filled
  · intro c inside
    refine isKeyCode_of_bytes fun b byte => bytes b ?_
    exact List.mem_flatMap.2 ⟨c, inside, byte⟩

/-- The name of a type is such a name. -/
theorem isKey_name? {o : Der.ObjectId} {name : String} (known : o.name? = some name) :
    name ≠ "" ∧ IsKey name := by
  unfold Der.ObjectId.name? at known
  split at known
  next =>
    unfold Der.registeredName? at known
    obtain ⟨names, row, known⟩ := Option.bind_eq_some_iff.1 known
    obtain ⟨last, -, known⟩ := Option.bind_eq_some_iff.1 known
    exact isKey_of_mem_registeredNames (mem_of_lookup row) (mem_of_lookup known)
  next => cases known

/-- What holds of texts and of what stands between them, and of texts put together, holds of
all of them together. -/
theorem intercalate_induction {P : List Char → Prop} {between : List Char}
    {parts : List (List Char)} (nil : P []) (append : ∀ cs ds, P cs → P ds → P (cs ++ ds))
    (separator : P between) (each : ∀ cs ∈ parts, P cs) : P (between.intercalate parts) := by
  induction parts with
  | nil => exact nil
  | cons cs parts ih =>
    obtain ⟨first, others⟩ := List.forall_mem_cons.1 each
    cases parts with
    | nil =>
      rw [List.intercalate_singleton]
      exact first
    | cons ds parts =>
      rw [List.intercalate_cons_cons]
      exact append _ _ (append _ _ first separator) (ih others)

/-- A type that is printed by its numbers has digits and points. -/
theorem isKey_dotted (o : Der.ObjectId) : IsKey o.dotted := by
  unfold IsKey Der.ObjectId.dotted
  rw [String.toList_intercalate]
  refine intercalate_induction (P := fun cs => ∀ c ∈ cs, isKeyCode c.toNat = true) ?_ ?_ ?_ ?_
  · intro c mem
    exact absurd mem List.not_mem_nil
  · intro cs ds first second
    exact List.forall_mem_append.2 ⟨first, second⟩
  · have point : isKeyCode '.'.toNat = true := by decide
    exact List.forall_mem_singleton.2 point
  · intro cs mem
    rw [List.map_map] at mem
    obtain ⟨n, -, rfl⟩ := List.mem_map.1 mem
    intro c inside
    rw [Function.comp_apply, Nat.toString_eq_ofList_toDigits, String.toList_ofList] at inside
    exact isKeyCode_of_isDigit (Nat.isDigit_of_mem_toDigits (by decide) (by decide) inside)

/-! ## Cutting -/

/-- A text without separators but in escapes, the last of which is complete. -/
inductive Unbroken : List Char → Prop
  | nil : Unbroken []
  | plain {c cs} (plain : c ≠ '\\' ∧ c ≠ ',' ∧ c ≠ ';') (rest : Unbroken cs) : Unbroken (c :: cs)
  | escaped {c cs} (rest : Unbroken cs) : Unbroken ('\\' :: c :: cs)

namespace Unbroken

variable {cs ds : List Char}

theorem append (first : Unbroken cs) (second : Unbroken ds) : Unbroken (cs ++ ds) := by
  induction first with
  | nil => exact second
  | plain plain _ ih => exact .plain plain ih
  | escaped _ ih => exact .escaped ih

theorem of_plain (plain : ∀ c ∈ cs, c ≠ '\\' ∧ c ≠ ',' ∧ c ≠ ';') : Unbroken cs := by
  induction cs with
  | nil => exact .nil
  | cons c cs ih =>
    obtain ⟨first, rest⟩ := List.forall_mem_cons.1 plain
    exact .plain first (ih rest)

theorem of_isKeyCode (key : ∀ c ∈ cs, isKeyCode c.toNat = true) : Unbroken cs := by
  refine of_plain fun c mem => ?_
  have code := key c mem
  refine ⟨?_, ?_, ?_⟩
  all_goals
    rintro rfl
    exact absurd code (by decide)

end Unbroken

/-- Cutting passes through unbroken text. -/
theorem cutComponents_append {cs : List Char} (unbroken : Unbroken cs) (current rest : List Char) :
    cutComponents current (cs ++ rest) = cutComponents (cs.reverse ++ current) rest := by
  induction unbroken generalizing current with
  | nil => rfl
  | @plain c cs plain _ ih =>
    obtain ⟨backslash, comma, semicolon⟩ := plain
    rw [List.cons_append, cutComponents, if_neg (not_or.2 ⟨comma, semicolon⟩), ih,
      List.reverse_cons, List.append_assoc, List.singleton_append]
    intro _ _ same _
    exact absurd same backslash
  | @escaped c cs _ ih =>
    rw [List.cons_append, List.cons_append, cutComponents, ih, List.reverse_cons,
      List.reverse_cons, List.append_assoc, List.append_assoc]
    rfl

/-- Texts put together with a comma or a semicolon between any two of them. -/
inductive Joined : List (List Char) → List Char → Prop
  | none : Joined [] []
  | one (cs) : Joined [cs] cs
  | more {cs ds parts separator text} (separates : separator = ',' ∨ separator = ';')
    (others : Joined (ds :: parts) text) : Joined (cs :: ds :: parts) (cs ++ separator :: text)

theorem joined_intercalate (parts : List (List Char)) :
    Joined parts ([','].intercalate parts) := by
  induction parts with
  | nil => exact .none
  | cons cs parts ih =>
    cases parts with
    | nil =>
      rw [List.intercalate_singleton]
      exact .one cs
    | cons ds parts =>
      rw [List.intercalate_cons_cons, List.append_assoc]
      exact .more (.inl rfl) ih

/-- Unbroken texts that are put together are cut apart again. -/
theorem cutComponents_of_joined {parts : List (List Char)} {text : List Char}
    (joined : Joined parts text) (filled : parts ≠ []) (each : ∀ cs ∈ parts, Unbroken cs) :
    cutComponents [] text = parts := by
  induction joined with
  | none => exact absurd rfl filled
  | one cs =>
    have cut := cutComponents_append (List.forall_mem_singleton.1 each) [] []
    rw [List.append_nil, List.append_nil] at cut
    rw [cut, cutComponents, List.reverse_reverse]
  | @more cs ds parts separator text separates _ ih =>
    obtain ⟨first, others⟩ := List.forall_mem_cons.1 each
    have cut (current rest : List Char) : cutComponents current (separator :: rest)
        = current.reverse :: cutComponents [] rest := by
      rcases separates with rfl | rfl <;> rfl
    rw [cutComponents_append first, List.append_nil, cut, List.reverse_reverse,
      ih (List.cons_ne_nil _ _) others]

/-! ## Printed values -/

theorem unbroken_escapeInner (c : Char) : Unbroken (escapeInner c) := by
  unfold escapeInner
  split
  next => exact .escaped .nil
  next special =>
    split
    next =>
      have digit : ∀ n : Fin 16, isKeyCode (Hex.digit n).toNat = true := by decide
      have low := digit ⟨c.toNat % 16, Nat.mod_lt _ (by decide)⟩
      exact .escaped (.of_isKeyCode (List.forall_mem_singleton.2 low))
    next =>
      refine .plain ⟨?_, ?_, ?_⟩ .nil
      all_goals
        rintro rfl
        exact special (by decide)

theorem unbroken_escapeRest (cs : List Char) : Unbroken (escapeRest cs) := by
  fun_induction escapeRest cs with
  | case1 => exact .nil
  | case2 => exact .escaped .nil
  | case3 c cs _ ih => exact (unbroken_escapeInner c).append ih

theorem unbroken_escapeValue (cs : List Char) : Unbroken (escapeValue cs) := by
  fun_cases escapeValue cs with
  | case1 cs => exact .escaped (unbroken_escapeRest cs)
  | case2 cs => exact .escaped (unbroken_escapeRest cs)
  | case3 cs => exact unbroken_escapeRest cs

/-! ## Printed attributes -/

namespace NameAttribute

/-- The type of an attribute as it is printed. -/
def printedType (a : NameAttribute) : String :=
  match a.type.name?, stringValue? a.value with
  | some key, some _ => Text.upperAscii key
  | _, _ => a.type.dotted

/-- The value of an attribute as it is printed. -/
def printedValue (a : NameAttribute) : String :=
  match a.type.name?, stringValue? a.value with
  | some _, some value => String.ofList (escapeValue value.toList)
  | _, _ => "#" ++ Hex.encode a.value.encode

/-- An attribute is printed as its type and its value. -/
theorem text_eq (a : NameAttribute) : a.text = a.printedType ++ "=" ++ a.printedValue := by
  have unnamed (encoding : String) :
      a.type.dotted ++ "=#" ++ encoding = a.type.dotted ++ "=" ++ ("#" ++ encoding) := by
    have mark : "=#" = "=" ++ "#" := by decide
    rw [mark, String.append_assoc, String.append_assoc, String.append_assoc]
  unfold text printedType printedValue
  cases a.type.name? with
  | none => exact unnamed _
  | some key =>
    cases stringValue? a.value with
    | none => exact unnamed _
    | some value => rfl

theorem isKey_printedType (a : NameAttribute) : IsKey a.printedType := by
  unfold printedType
  split
  next key _ named _ => exact isKey_upperAscii (isKey_name? named).2
  next => exact isKey_dotted a.type

theorem unbroken_printedValue (a : NameAttribute) : Unbroken a.printedValue.toList := by
  unfold printedValue
  split
  next =>
    rw [String.toList_ofList]
    exact unbroken_escapeValue _
  next =>
    have digit : ∀ n : Fin 16, isKeyCode (Hex.digit n).toNat = true := by decide
    have digits : Unbroken (Hex.encode a.value.encode).toList := by
      rw [Hex.encode, String.toList_ofList]
      refine .of_isKeyCode fun c mem => ?_
      obtain ⟨b, -, mem⟩ := List.mem_flatMap.1 mem
      have small : b.toNat / 16 < 16 := Nat.div_lt_of_lt_mul b.toNat_lt
      rcases List.mem_pair.1 mem with rfl | rfl
      · exact digit ⟨b.toNat / 16, small⟩
      · exact digit ⟨b.toNat % 16, Nat.mod_lt _ (by decide)⟩
    have mark : Unbroken "#".toList := .plain (by decide) .nil
    rw [String.toList_append]
    exact mark.append digits

theorem unbroken_text (a : NameAttribute) : Unbroken a.text.toList := by
  have equals : Unbroken "=".toList := .plain (by decide) .nil
  rw [text_eq, String.toList_append, String.toList_append]
  exact ((Unbroken.of_isKeyCode a.isKey_printedType).append equals).append a.unbroken_printedValue

end NameAttribute

/-! ## Printed names -/

theorem RelativeName.unbroken_text (r : RelativeName) : Unbroken r.text.toList := by
  have plus : Unbroken "+".toList := .plain (by decide) .nil
  rw [text, String.toList_intercalate]
  refine intercalate_induction .nil (fun _ _ => Unbroken.append) plus ?_
  intro cs mem
  rw [List.map_map] at mem
  obtain ⟨a, -, rfl⟩ := List.mem_map.1 mem
  exact a.unbroken_text

/-- A relative name is printed as its first type and whatever follows. -/
theorem RelativeName.text_cons (a : NameAttribute) (as : List NameAttribute) :
    text (a :: as) = a.printedType ++ "=" ++ "+".intercalate (a.printedValue :: as.map (·.text)) := by
  rw [text, List.map_cons, NameAttribute.text_eq, String.intercalate_cons_append]

/-- Something is printed for a relative name that has attributes. -/
theorem RelativeName.not_blank_text_cons (a : NameAttribute) (as : List NameAttribute) :
    (text (a :: as)).toList.all Text.isBlank = false := by
  rw [List.all_eq_false]
  refine ⟨'=', ?_, by decide⟩
  rw [text_cons, String.toList_append, String.toList_append]
  exact List.mem_append_left _ (List.mem_append_right _ (List.mem_singleton_self _))

namespace Name

/-- Cutting a printed name gives its relative names as they are printed, from last to
first. -/
theorem cutComponents_text {n : Name} (filled : n ≠ []) :
    cutComponents [] n.text.toList = n.reverse.map fun r => r.text.toList := by
  have printed : n.text.toList = [','].intercalate (n.reverse.map fun r => r.text.toList) := by
    rw [text, String.toList_intercalate, List.map_map]
    rfl
  rw [printed]
  refine cutComponents_of_joined (joined_intercalate _) ?_ ?_
  · intro empty
    exact filled (List.reverse_eq_nil_iff.1 (List.map_eq_nil_iff.1 empty))
  · intro cs mem
    obtain ⟨r, -, rfl⟩ := List.mem_map.1 mem
    exact r.unbroken_text

/-- The relative names that count in a comparison, which are all but the first one if it has
no attributes. -/
def counted : Name → Name
  | [] :: rest => rest
  | name => name

/-- The components of a printed name are the relative names that count, as they are
printed. -/
theorem components_text (n : Name) :
    components n.text = n.counted.reverse.map fun r => r.text.toList := by
  cases n with
  | nil => rfl
  | cons r rest =>
    rw [components, cutComponents_text (List.cons_ne_nil r rest), List.reverse_cons, List.map_append,
      List.map_singleton, List.getLastD_concat, List.dropLast_concat]
    cases r with
    | nil => rfl
    | cons a as =>
      rw [RelativeName.not_blank_text_cons, if_neg Bool.false_ne_true, counted, List.reverse_cons,
        List.map_append, List.map_singleton]
      exact fun _ other => nomatch other

end Name
end X509
end SecurityTokens
