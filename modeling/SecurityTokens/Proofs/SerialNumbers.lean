/-
# Serial numbers compare as numbers

The serial number of a certificate is printed by a conversion of its bytes to decimal
digits, and a reference gives one as text.  Each side has its own way to zeros in front:
the conversion drops them at the end, the comparison drops those of the text.

| text, without blanks around it | compared as |
| --- | --- |
| zeros alone, or nothing | 0 |
| zeros, then other digits | the other digits |
| zeros, then anything else | that, which is no serial number |

Both lead to numerals without zeros in front, and a number has one of these only
(`isNumeral_iff`).  So the texts agree just if the numbers do
(`matchesIssuerSerial_iff_value`).  For the conversion, the invariant is that the digits
so far have the value of the bytes so far; it is kept by each byte (`ofDigits_shiftDigits`).
-/

import Mathlib.Data.Nat.Digits.Lemmas
import SecurityTokens.Certificate.Basic
import SecurityTokens.Text.Decimal

namespace SecurityTokens

/-! ## Digits of bytes -/

namespace Bytes

theorem carryDigits_eq (n : Nat) : carryDigits n = Nat.digits 10 n := by
  induction n using Nat.strongRecOn with
  | ind n ih =>
    unfold carryDigits
    split
    next zero => rw [zero, Nat.digits_zero]
    next nonzero =>
      rw [ih (n / 10) (by omega), Nat.digits_eq_cons_digits_div (by decide) nonzero]

/-- One more byte multiplies the number by 256 and is added. -/
theorem ofDigits_shiftDigits (carry : Nat) (ds : List Nat) :
    Nat.ofDigits 10 (shiftDigits carry ds) = Nat.ofDigits 10 ds * 256 + carry := by
  induction ds generalizing carry with
  | nil => rw [shiftDigits, carryDigits_eq, Nat.ofDigits_digits, Nat.ofDigits_nil, Nat.zero_mul,
      Nat.zero_add]
  | cons d ds ih =>
    have rest := ih ((d * 256 + carry) / 10)
    rw [shiftDigits, Nat.ofDigits_cons, Nat.ofDigits_cons, rest]
    omega

/-- Whatever the digits were before, they are digits again. -/
theorem lt_ten_of_mem_shiftDigits {carry d : Nat} {ds : List Nat}
    (mem : d ∈ shiftDigits carry ds) : d < 10 := by
  induction ds generalizing carry with
  | nil =>
    rw [shiftDigits, carryDigits_eq] at mem
    exact Nat.digits_lt_base (by decide) mem
  | cons e ds ih =>
    rcases List.mem_cons.1 mem with rfl | mem
    · exact Nat.mod_lt _ (by decide)
    · exact ih mem

/-- The digits of bytes have the value of the bytes. -/
theorem ofDigits_digits (bs : Bytes) : Nat.ofDigits 10 (digits bs) = toNat bs := by
  have run (ds : List Nat) : Nat.ofDigits 10 (bs.foldl (fun ds b => shiftDigits b.toNat ds) ds)
      = bs.foldl (fun n b => n * 256 + b.toNat) (Nat.ofDigits 10 ds) := by
    induction bs generalizing ds with
    | nil => rfl
    | cons b bs ih => rw [List.foldl_cons, List.foldl_cons, ih, ofDigits_shiftDigits]
  rw [digits, run, toNat, Nat.ofDigits_singleton]

theorem lt_ten_of_mem_digits {bs : Bytes} {d : Nat} (mem : d ∈ digits bs) : d < 10 := by
  unfold digits at mem
  cases bs using List.reverseRecOn with
  | nil =>
    obtain rfl := List.mem_singleton.1 mem
    decide
  | append_singleton bs b _ =>
    rw [List.foldl_concat] at mem
    exact lt_ten_of_mem_shiftDigits mem

end Bytes

/-! ## Numerals -/

/-- The shortest decimal numeral of a number: ASCII digits, which begin with a zero only if
it is the only digit. -/
structure IsNumeral (cs : List Char) (n : Nat) : Prop where
  filled : cs ≠ []
  digits : ∀ c ∈ cs, c.isDigit = true
  shortest : cs.head? = some '0' → cs = ['0']
  value : Text.digitsValue cs = n

theorem digitChar_of_isDigit {c : Char} (digit : c.isDigit = true) :
    c.toNat - 48 < 10 ∧ Nat.digitChar (c.toNat - 48) = c := by
  have range : 48 ≤ c.toNat ∧ c.toNat ≤ 57 := Char.isDigit_iff_toNat.1 digit
  have small : c.toNat - 48 < 10 := by omega
  refine ⟨small, Char.toNat_inj.1 ?_⟩
  rw [Nat.toNat_digitChar_of_lt_ten small]
  omega

/-- Digits that follow the numeral of a positive number. -/
theorem toDigits_append {cs : List Char} {n : Nat} (positive : 0 < n)
    (digits : ∀ c ∈ cs, c.isDigit = true) :
    Nat.toDigits 10 n ++ cs = Nat.toDigits 10 (cs.foldl (fun n c => n * 10 + (c.toNat - 48)) n) := by
  induction cs generalizing n with
  | nil => rw [List.append_nil, List.foldl_nil]
  | cons c cs ih =>
    obtain ⟨digit, others⟩ := List.forall_mem_cons.1 digits
    obtain ⟨small, char⟩ := digitChar_of_isDigit digit
    have next : Nat.toDigits 10 (n * 10 + (c.toNat - 48)) = Nat.toDigits 10 n ++ [c] := by
      rw [Nat.toDigits_of_base_le (by decide) (by omega)]
      have quotient : (n * 10 + (c.toNat - 48)) / 10 = n := by omega
      have remainder : (n * 10 + (c.toNat - 48)) % 10 = c.toNat - 48 := by omega
      rw [quotient, remainder, char]
    rw [List.foldl_cons, ← ih (by omega) others, next, List.append_assoc, List.singleton_append]

/-- The digits of a positive number do not begin with a zero. -/
theorem exists_toDigits_eq_cons {n : Nat} (positive : 0 < n) :
    ∃ d ds, Nat.toDigits 10 n = d :: ds ∧ d ≠ '0' := by
  induction n using Nat.strongRecOn with
  | ind n ih =>
    by_cases single : n < 10
    · have nonzero : ∀ d : Fin 10, 0 < d.val → Nat.digitChar d ≠ '0' := by decide
      exact ⟨_, [], Nat.toDigits_of_lt_base single, nonzero ⟨n, single⟩ positive⟩
    · obtain ⟨d, ds, split, nonzero⟩ := ih (n / 10) (by omega) (by omega)
      rw [Nat.toDigits_of_base_le (by decide) (by omega), split]
      exact ⟨d, _, rfl, nonzero⟩

/-- Every number has one numeral. -/
theorem isNumeral_iff {cs : List Char} {n : Nat} : IsNumeral cs n ↔ cs = Nat.toDigits 10 n := by
  constructor
  · rintro ⟨filled, digits, shortest, rfl⟩
    cases cs with
    | nil => exact absurd rfl filled
    | cons c cs =>
      by_cases zero : c = '0'
      · subst zero
        obtain ⟨-, rfl⟩ := List.cons.inj (shortest rfl)
        rfl
      · obtain ⟨digit, others⟩ := List.forall_mem_cons.1 digits
        obtain ⟨small, char⟩ := digitChar_of_isDigit digit
        have positive : 0 < c.toNat - 48 := by
          refine Nat.pos_of_ne_zero fun none => zero ?_
          rw [← char, none]
          rfl
        have first : Nat.toDigits 10 (c.toNat - 48) = [c] := by
          rw [Nat.toDigits_of_lt_base small, char]
        have all := toDigits_append positive others
        rw [first, List.singleton_append] at all
        rw [Text.digitsValue, List.foldl_cons, Nat.zero_mul, Nat.zero_add, ← all]
  · rintro rfl
    refine ⟨Nat.toDigits_ne_nil, ?_, ?_, ?_⟩
    · intro c mem
      exact Nat.isDigit_of_mem_toDigits (by decide) (by decide) mem
    · intro zero
      rcases Nat.eq_zero_or_pos n with rfl | positive
      · rw [Nat.toDigits_zero]
      · obtain ⟨d, ds, split, nonzero⟩ := exists_toDigits_eq_cons positive
        rw [split] at zero
        exact absurd (Option.some.inj zero) nonzero
    · have value := Nat.ofDigitChars_ten_toDigits (n := n)
      rw [Nat.ofDigitChars_eq_foldl] at value
      simp only [Nat.mul_comm 10] at value
      exact value

/-- The characters without zeros in front, of which one stays if there is nothing else. -/
def withoutZeros (cs : List Char) : List Char :=
  match cs.dropWhile (· == '0') with
  | [] => ['0']
  | cs => cs

theorem withoutZeros_cons_of_ne {c : Char} (nonzero : c ≠ '0') (cs : List Char) :
    withoutZeros (c :: cs) = c :: cs := by
  rw [withoutZeros, List.dropWhile_cons, beq_false_of_ne nonzero, if_neg Bool.false_ne_true]

/-- Without zeros in front, digits are the numeral of their value, and nothing else is a
numeral. -/
theorem isNumeral_withoutZeros_iff {cs : List Char} {n : Nat} : IsNumeral (withoutZeros cs) n ↔
    (∀ c ∈ cs, c.isDigit = true) ∧ Text.digitsValue cs = n := by
  induction cs with
  | nil =>
    constructor
    · intro numeral
      exact ⟨fun c mem => absurd mem List.not_mem_nil, numeral.value⟩
    · rintro ⟨-, rfl⟩
      exact isNumeral_iff.2 (Nat.toDigits_zero 10).symm
  | cons c cs ih =>
    by_cases zero : c = '0'
    · subst zero
      have drop : withoutZeros ('0' :: cs) = withoutZeros cs := rfl
      have value : Text.digitsValue ('0' :: cs) = Text.digitsValue cs := rfl
      have digit : '0'.isDigit = true := by decide
      rw [drop, value, ih, List.forall_mem_cons, and_iff_right digit]
    · rw [withoutZeros_cons_of_ne zero]
      constructor
      · intro numeral
        exact ⟨numeral.digits, numeral.value⟩
      · rintro ⟨digits, value⟩
        refine ⟨List.cons_ne_nil c cs, digits, ?_, value⟩
        intro first
        exact absurd (Option.some.inj first) zero

namespace Bytes

/-- The value of digits that are written, the most significant one first. -/
theorem digitsValue_map_digitChar {ds : List Nat} (small : ∀ d ∈ ds, d < 10) :
    Text.digitsValue (ds.map Nat.digitChar) = Nat.ofDigits 10 ds.reverse := by
  induction ds using List.reverseRecOn with
  | nil => rfl
  | append_singleton ds d ih =>
    have last : d < 10 := small d (by simp)
    have others := ih fun e mem => small e (List.mem_append_left _ mem)
    have char := Nat.toNat_digitChar_sub_48_of_lt_ten last
    rw [Text.digitsValue] at others ⊢
    rw [List.map_append, List.foldl_append, others, List.reverse_concat, Nat.ofDigits_cons]
    simp only [List.map_cons, List.map_nil, List.foldl_cons, List.foldl_nil, char]
    omega

theorem toList_decimal (bs : Bytes) :
    (decimal bs).toList = withoutZeros ((digits bs).reverse.map Nat.digitChar) := by
  have drop : ((digits bs).reverse.map Nat.digitChar).dropWhile (· == '0')
      = ((digits bs).reverse.dropWhile (· == 0)).map Nat.digitChar := by
    rw [List.dropWhile_map]
    congr 2
    funext d
    rw [Function.comp_apply, Bool.eq_iff_iff, beq_iff_eq, beq_iff_eq, Nat.digitChar_eq_zero]
  rw [decimal, withoutZeros, drop]
  cases (digits bs).reverse.dropWhile (· == 0) with
  | nil => rfl
  | cons d ds => exact String.toList_ofList

/-- What is written for bytes is the numeral of their value. -/
theorem isNumeral_decimal (bs : Bytes) : IsNumeral (decimal bs).toList (toNat bs) := by
  have small : ∀ d ∈ (digits bs).reverse, d < 10 := by
    intro d mem
    exact lt_ten_of_mem_digits (List.mem_reverse.1 mem)
  rw [toList_decimal, isNumeral_withoutZeros_iff, digitsValue_map_digitChar small,
    List.reverse_reverse, ofDigits_digits]
  refine ⟨fun c mem => ?_, rfl⟩
  obtain ⟨d, digit, rfl⟩ := List.mem_map.1 mem
  rw [Nat.isDigit_digitChar, decide_eq_true (small d digit)]

end Bytes

/-! ## Texts of serial numbers -/

namespace Text

/-- A digit is no blank. -/
theorem isBlank_of_isDigit {c : Char} (digit : c.isDigit = true) : isBlank c = false := by
  have range : 48 ≤ c.toNat ∧ c.toNat ≤ 57 := Char.isDigit_iff_toNat.1 digit
  simp [isBlank, blanks, CharacterRanges.contains]
  omega

/-- A text without blanks is trimmed. -/
theorem trimChars_of_visible {cs : List Char} (visible : ∀ c ∈ cs, isBlank c = false) :
    trimChars cs = cs := by
  have stays {cs : List Char} (visible : ∀ c ∈ cs, isBlank c = false) :
      cs.dropWhile isBlank = cs := by
    cases cs with
    | nil => rfl
    | cons c cs => rw [List.dropWhile_cons, visible c List.mem_cons_self, if_neg Bool.false_ne_true]
  have backwards : ∀ c ∈ cs.reverse, isBlank c = false := by
    intro c mem
    exact visible c (List.mem_reverse.1 mem)
  rw [trimChars, stays visible, stays backwards, List.reverse_reverse]

end Text

namespace X509

theorem toList_normalSerial (serial : String) :
    (normalSerial serial).toList = withoutZeros (Text.trim serial).toList := by
  rw [normalSerial, withoutZeros]
  cases (Text.trim serial).toList.dropWhile (· == '0') with
  | nil => rfl
  | cons c cs => exact String.toList_ofList

end X509

namespace Certificate

/-- A serial number as text is compared with the number of a certificate by its value, and
equal to none unless it has digits only. -/
theorem normalSerial_eq_iff {c : Certificate} {serial : String} :
    X509.normalSerial serial = c.serialNumber ↔
      (∀ ch ∈ (Text.trim serial).toList, ch.isDigit = true) ∧
        Text.digitsValue (Text.trim serial).toList = Bytes.toNat c.record.serial := by
  rw [← isNumeral_withoutZeros_iff, ← X509.toList_normalSerial, isNumeral_iff,
    ← isNumeral_iff.1 (Bytes.isNumeral_decimal c.record.serial), String.toList_inj]
  rfl

/-- The serial number that a certificate shows is the numeral of its value. -/
theorem isNumeral_serialNumber (c : Certificate) :
    IsNumeral c.serialNumber.toList (Bytes.toNat c.record.serial) :=
  Bytes.isNumeral_decimal c.record.serial

/-- The serial number that a certificate shows is compared as it stands. -/
theorem normalSerial_serialNumber (c : Certificate) :
    X509.normalSerial c.serialNumber = c.serialNumber := by
  have numeral := c.isNumeral_serialNumber
  have trimmed : (Text.trim c.serialNumber).toList = c.serialNumber.toList := by
    rw [Text.trim, String.toList_ofList, Text.trimChars_of_visible]
    intro ch mem
    exact Text.isBlank_of_isDigit (numeral.digits ch mem)
  rw [normalSerial_eq_iff, trimmed]
  exact ⟨numeral.digits, numeral.value⟩

/-- **Serial numbers compare as numbers.**  What is written for any bytes is the one numeral
of their unsigned value.  An issuer and a serial number match a certificate if and only if
the issuer does and the serial number, without the blanks around it, has ASCII digits only
and the value of the certificate's bytes. -/
theorem matchesIssuerSerial_iff_value :
    (∀ (bs : Bytes) (cs : List Char),
      IsNumeral cs (Bytes.toNat bs) ↔ cs = (Bytes.decimal bs).toList) ∧
    ∀ (c : Certificate) (issuer serial : String), c.matchesIssuerSerial issuer serial = true ↔
      X509.comparisonForm issuer = X509.comparisonForm c.issuer ∧
        (∀ ch ∈ (Text.trim serial).toList, ch.isDigit = true) ∧
        Text.digitsValue (Text.trim serial).toList = Bytes.toNat c.record.serial := by
  constructor
  · intro bs cs
    rw [isNumeral_iff, isNumeral_iff.1 (Bytes.isNumeral_decimal bs)]
  · intro c issuer serial
    rw [matchesIssuerSerial, Bool.and_eq_true, beq_iff_eq, beq_iff_eq, normalSerial_eq_iff,
      and_comm]

/-- The bytes of 2 to the power of 64. -/
example : Bytes.decimal [1, 0, 0, 0, 0, 0, 0, 0, 0] = "18446744073709551616" := by
  decide +kernel

end Certificate
end SecurityTokens
