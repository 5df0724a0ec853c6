import NetImport.Descriptor.Text.Printer
import NetImport.Descriptor.Text.Reader
import NetImport.Proofs.Number.Numeral

/-!
# Numerals of the text format are read back

An integer is written without zeros in front, so that it is not read in base eight, and no integer
of a field has too many digits. A number is read as itself from its text. What is not a number is
read from its text as one pattern of its kind.
-/

namespace NetImport.Descriptor

open NetImport.Text NetImport.Numeral

variable {digits : List Char}

/-! ## Integers -/

namespace Numeral

theorem digits?_eq (all_digits : ∀ digit ∈ digits, digit.isDigit) (some_digit : digits ≠ []) :
    digits? 10 digits = some (digits.map fun digit => digit.toNat - 48) := by
  induction digits with
  | nil => exact absurd rfl some_digit
  | cons digit digits hypothesis =>
      rcases List.forall_mem_cons.mp all_digits with ⟨first, later⟩
      cases digits with
      | nil => simp [digits?, digitValue?_of_isDigit first]
      | cons next digits =>
          have no_underscore : next ≠ '_' := by
            rintro rfl
            cases later '_' List.mem_cons_self
          have rest := hypothesis later (by simp)
          simp [digits?, no_underscore, digitValue?_of_isDigit first, rest]

theorem natural?_eq (all_digits : ∀ digit ∈ digits, digit.isDigit) (some_digit : digits ≠ [])
    (short : digits.length ≤ maximalDigits) (no_zero : digits.head? = some '0' → digits = ['0']) :
    natural? digits = some (numberOf digits) := by
  have no_letter {letter : Char} {rest : List Char} (isLetter : letter.isDigit = false) :
      digits ≠ '0' :: letter :: rest := by
    rintro rfl
    rw [all_digits letter (by simp)] at isLetter
    cases isLetter
  have no_leading : ¬((digits.map fun digit => digit.toNat - 48).head? = some 0 ∧
      (digits.map fun digit => digit.toNat - 48).any (· ≠ 0)) := by
    rintro ⟨zero, more⟩
    cases digits with
    | nil => exact some_digit rfl
    | cons first rest =>
        have first_digit := Char.isDigit_iff_toNat.mp (all_digits first List.mem_cons_self)
        have first_zero : first = '0' := by
          have zero : first.toNat - 48 = 0 := by simpa using zero
          exact Char.toNat_inj.mp (Nat.le_antisymm (Nat.sub_eq_zero_iff_le.mp zero) first_digit.1)
        rw [no_zero (by rw [first_zero]; rfl)] at more
        cases more
  have not_long : ¬maximalDigits < (digits.map fun digit => digit.toNat - 48).length := by
    rw [List.length_map]
    exact Nat.not_lt.mpr short
  unfold natural?
  simp only
  split
  · exact absurd rfl (no_letter rfl)
  · exact absurd rfl (no_letter rfl)
  · exact absurd rfl (no_letter rfl)
  · exact absurd rfl (no_letter rfl)
  · exact absurd rfl (no_letter rfl)
  · exact absurd rfl (no_letter rfl)
  · simp only [digits?_eq all_digits some_digit, Option.bind_eq_bind, Option.bind_some,
      not_or.mpr ⟨not_long, no_leading⟩, if_false, ofDigits_eq_numberOf, Option.pure_def]

/-- The digits of a number begin with a zero only when there is no other digit. -/
theorem toDigits_zero_first {number : Nat} (zero : (Nat.toDigits 10 number).head? = some '0') :
    Nat.toDigits 10 number = ['0'] := by
  rcases Nat.eq_zero_or_pos number with rfl | positive
  · rfl
  · rcases toDigits_eq_cons positive with ⟨first, rest, start, nonzero⟩
    rw [start] at zero
    exact absurd (Option.some.inj zero) nonzero

theorem splitMinus_digits {first : Char} (isDigit : first.isDigit) (negative : Bool)
    (rest : List Char) :
    splitMinus ((if negative then ['-'] else []) ++ first :: rest) = (negative, first :: rest) := by
  have no_minus : first ≠ '-' := ne_of_isDigit isDigit rfl
  cases negative with
  | false => simp [splitMinus, no_minus]
  | true => rfl

theorem split_integerText (number : Int) :
    splitMinus (integerText number) = (decide (number < 0), Nat.toDigits 10 number.natAbs) ∧
      splitSign (integerText number) = (decide (number < 0), Nat.toDigits 10 number.natAbs) := by
  have all_digits : ∀ digit ∈ Nat.toDigits 10 number.natAbs, digit.isDigit :=
    isDigit_of_mem_toDigits
  unfold integerText
  cases start : Nat.toDigits 10 number.natAbs with
  | nil => exact absurd start Nat.toDigits_ne_nil
  | cons first rest =>
      rw [start] at all_digits
      have isDigit := all_digits first List.mem_cons_self
      have minus := splitMinus_digits isDigit (decide (number < 0)) rest
      have sign := splitSign_digits isDigit (decide (number < 0)) rest
      simp only [decide_eq_true_eq] at minus sign
      exact ⟨minus, sign⟩

/-- An integer that fits the greatest number of digits is read from its text. -/
theorem integer?_integerText {number : Int}
    (short : (Nat.toDigits 10 number.natAbs).length ≤ maximalDigits) :
    integer? (integerText number) = some number := by
  rcases split_integerText number with ⟨minus, sign⟩
  have read : natural? (Nat.toDigits 10 number.natAbs) = some number.natAbs := by
    rw [natural?_eq isDigit_of_mem_toDigits Nat.toDigits_ne_nil short toDigits_zero_first, numberOf,
      Nat.ofDigitChars_ten_toDigits]
  have signed : signed? (integerText number) = some number := by
    simp only [signed?, sign, read, Option.bind_eq_bind, Option.bind_some, Option.pure_def,
      decide_eq_true_eq, Option.some.injEq]
    split
    · omega
    · omega
  unfold integer?
  rw [minus]
  split
  · rename_i same
    have start := congrArg Prod.snd same
    simp only at start
    have only := toDigits_zero_first (by rw [start]; rfl)
    rw [start] at only
    cases only
  · exact signed

/-! ## Numbers -/

theorem hasLeadingZero_of_spells {number : Binary64} {characters : List Char}
    (spells : number.Spells characters) : hasLeadingZero characters = false := by
  cases spells with
  | infinity negative _ =>
      cases negative with
      | false => decide
      | true => decide
  | finite unsigned _ =>
      rcases unsigned.first_digit with ⟨first, rest, rfl, isDigit, alone⟩
      unfold hasLeadingZero
      rw [splitMinus_digits isDigit]
      simp only
      split
      · rename_i second others same
        rcases same with ⟨⟩
        simpa using alone rfl second rfl
      · rfl

/-- A number is read from its text. -/
theorem float?_text {number : Binary64} (isNumber : number.magnitude ≤ Format.double.infinity) :
    float? (number.text .descriptor) = some number := by
  have spells := Binary64.spells_text isNumber
  simp only [float?, hasLeadingZero_of_spells spells, spells.plainFloat?, Bool.false_eq_true,
    if_false]

theorem text_of_not_number {number : Binary64}
    (noNumber : Format.double.infinity < number.magnitude) :
    number.text .descriptor = "nan".toList := by
  rw [Binary64.text, if_pos noNumber]
  rfl

/-- What is not a number is read from its text as the positive pattern of its kind. -/
theorem float?_nan : float? "nan".toList = some (notANumber false) := by
  decide

end Numeral

end NetImport.Descriptor
