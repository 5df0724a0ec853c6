import Mathlib.Data.Bool.AllAny
import NetImport.Number.Numeral
import NetImport.Proofs.Number.Shortest

/-!
# Numbers are read back from their texts

The text of a number lays out the digits of its shortest decimal, with a point and an exponent where
they are needed. Read as a numeral it gives a decimal that differs from the shortest one in zeros at
the end alone. So the text of every number is read as that number, infinities and zeros of either
sign included.
-/

namespace NetImport

open NetImport.Text

namespace Text

variable {digits others : List Char}

/-- What has a property is taken up to where it ends. -/
theorem takeWhile_append {part : Char → Bool} (parts : ∀ character ∈ digits, part character)
    (rest : List Char) (stops : ∀ character ∈ rest.head?, part character = false) :
    (digits ++ rest).takeWhile part = digits ∧ (digits ++ rest).dropWhile part = rest := by
  rw [List.takeWhile_append_of_pos parts, List.dropWhile_append_of_pos parts]
  cases rest with
  | nil => simp
  | cons character rest =>
      have first := stops character rfl
      simp [first]

/-! ## Digits -/

theorem digitValue?_of_isDigit {digit : Char} (isDigit : digit.isDigit) :
    digitValue? 10 digit = some (digit.toNat - 48) := by
  have between : '0' ≤ digit ∧ digit ≤ '9' := by
    simpa [Char.isDigit, Char.le_def] using isDigit
  have le_most : digit.toNat ≤ 57 := by
    simpa [Char.le_def, UInt32.le_iff_toNat_le] using between.2
  have small : digit.toNat - 48 < 10 := by omega
  simp only [digitValue?, if_pos between]
  exact Option.filter_some_pos (by simpa using small)

theorem ne_of_isDigit {digit character : Char} (isDigit : digit.isDigit)
    (no_digit : character.isDigit = false) : digit ≠ character := by
  rintro rfl
  rw [isDigit] at no_digit
  cases no_digit

/-- The number that decimal digits write. -/
def numberOf (digits : List Char) : Nat := Nat.ofDigitChars 10 digits 0

theorem numberOf_append_zeros (digits : List Char) (zeros : Nat) :
    numberOf (digits ++ List.replicate zeros '0') = numberOf digits * 10 ^ zeros := by
  rw [numberOf, Nat.ofDigitChars_append, Nat.ofDigitChars_replicate_zero, numberOf, Nat.mul_comm]

theorem numberOf_zeros_append (digits : List Char) (zeros : Nat) :
    numberOf (List.replicate zeros '0' ++ digits) = numberOf digits := by
  rw [numberOf, Nat.ofDigitChars_append, Nat.ofDigitChars_replicate_zero, Nat.mul_zero, numberOf]

theorem mapM_digitValue? (all_digits : ∀ digit ∈ digits, digit.isDigit) :
    digits.mapM (digitValue? 10) = some (digits.map fun digit => digit.toNat - 48) := by
  induction digits with
  | nil => rfl
  | cons digit digits hypothesis =>
      rcases List.forall_mem_cons.mp all_digits with ⟨first, later⟩
      simp [digitValue?_of_isDigit first, hypothesis later]

theorem ofDigits_eq_numberOf (digits : List Char) :
    ofDigits 10 (digits.map fun digit => digit.toNat - 48) = numberOf digits := by
  rw [ofDigits, List.foldl_map, numberOf, Nat.ofDigitChars_eq_foldl]
  rfl

theorem isDigit_of_mem_toDigits {number : Nat} :
    ∀ digit ∈ Nat.toDigits 10 number, digit.isDigit :=
  fun _ member => Nat.isDigit_of_mem_toDigits (by decide) (by decide) member

/-- The digits of a positive number do not begin with a zero. -/
theorem toDigits_eq_cons {number : Nat} (positive : 0 < number) :
    ∃ first rest, Nat.toDigits 10 number = first :: rest ∧ first ≠ '0' := by
  induction number using Nat.strongRecOn with
  | ind number hypothesis =>
      by_cases single : number < 10
      · refine ⟨_, _, Nat.toDigits_of_lt_base single, ?_⟩
        rw [ne_eq, Nat.digitChar_eq_zero]
        omega
      · rcases hypothesis (number / 10) (by omega) (by omega) with ⟨first, rest, start, nonzero⟩
        refine ⟨first, rest ++ [Nat.digitChar (number % 10)], ?_, nonzero⟩
        rw [Nat.toDigits_of_base_le (by decide) (by omega), start]
        rfl

end Text

/-! ## Reading numerals -/

namespace Numeral

variable {negative : Bool} {whole fraction rest characters : List Char} {exponent : Int}

/-- A numeral of digits, a point and more digits, in front of an exponent. -/
theorem decimal?_point (negative : Bool) (whole_digits : ∀ digit ∈ whole, digit.isDigit)
    (fraction_digits : ∀ digit ∈ fraction, digit.isDigit) (some_digit : whole ++ fraction ≠ [])
    (stops : ∀ character ∈ rest.head?, character.isDigit = false)
    (exponent_eq : exponent? rest = some exponent) :
    decimal? negative (whole ++ '.' :: (fraction ++ rest)) =
      some ⟨negative, numberOf (whole ++ fraction), exponent - fraction.length⟩ := by
  rcases takeWhile_append whole_digits ('.' :: (fraction ++ rest)) (by simp) with
    ⟨whole_taken, whole_left⟩
  rcases takeWhile_append fraction_digits rest stops with ⟨fraction_taken, fraction_left⟩
  have all_digits : ∀ digit ∈ whole ++ fraction, digit.isDigit := by
    simpa [or_imp, forall_and] using ⟨whole_digits, fraction_digits⟩
  simp only [decimal?, whole_taken, whole_left, fraction_taken, fraction_left, some_digit, if_false,
    exponent_eq, mapM_digitValue? all_digits, ofDigits_eq_numberOf, Option.bind_eq_bind,
    Option.bind_some, Option.pure_def]

/-- A numeral of digits in front of an exponent. -/
theorem decimal?_whole (negative : Bool) (whole_digits : ∀ digit ∈ whole, digit.isDigit)
    (some_digit : whole ≠ [])
    (exponent_eq : exponent? ('e' :: rest) = some exponent) :
    decimal? negative (whole ++ 'e' :: rest) = some ⟨negative, numberOf whole, exponent⟩ := by
  rcases takeWhile_append whole_digits ('e' :: rest) (by simp) with ⟨whole_taken, whole_left⟩
  simp [decimal?, whole_taken, whole_left, some_digit, exponent_eq, mapM_digitValue? whole_digits,
    ofDigits_eq_numberOf]

theorem exponent?_exponentText (layout : Layout) (exponent : Int) :
    exponent? (Shortest.exponentText layout exponent) = some exponent := by
  have all_digits : ∀ digit ∈ List.replicate
      (layout.exponentWidth - (Nat.toDigits 10 exponent.natAbs).length) '0' ++
        Nat.toDigits 10 exponent.natAbs, digit.isDigit := by
    intro digit member
    rcases List.mem_append.mp member with zero | digit_mem
    · rw [(List.mem_replicate.mp zero).2]
      rfl
    · exact isDigit_of_mem_toDigits digit digit_mem
  have number : numberOf (List.replicate
      (layout.exponentWidth - (Nat.toDigits 10 exponent.natAbs).length) '0' ++
        Nat.toDigits 10 exponent.natAbs) = exponent.natAbs := by
    rw [numberOf_zeros_append, numberOf, Nat.ofDigitChars_ten_toDigits]
  have some_digit : List.replicate
      (layout.exponentWidth - (Nat.toDigits 10 exponent.natAbs).length) '0' ++
        Nat.toDigits 10 exponent.natAbs ≠ [] :=
    List.append_ne_nil_of_right_ne_nil _ Nat.toDigits_ne_nil
  by_cases negative : exponent < 0
  · simp only [Shortest.exponentText, negative, if_true, exponent?, splitSign, some_digit, if_false,
      mapM_digitValue? all_digits, ofDigits_eq_numberOf, number, true_or, Option.bind_eq_bind,
      Option.bind_some, Option.pure_def, Option.some.injEq]
    omega
  · simp only [Shortest.exponentText, negative, if_false, exponent?, splitSign, some_digit, if_true,
      mapM_digitValue? all_digits, ofDigits_eq_numberOf, number, true_or, Option.bind_eq_bind,
      Option.bind_some, Option.pure_def, Option.some.injEq, Bool.false_eq_true]
    omega

theorem dropUnderscores_eq (absent : '_' ∉ characters) :
    dropUnderscores characters = some characters := by
  fun_induction dropUnderscores characters <;> simp_all

theorem splitSign_digits {first : Char} (isDigit : first.isDigit) (negative : Bool)
    (rest : List Char) :
    splitSign ((if negative then ['-'] else []) ++ first :: rest) = (negative, first :: rest) := by
  have no_minus : first ≠ '-' := ne_of_isDigit isDigit rfl
  have no_plus : first ≠ '+' := ne_of_isDigit isDigit rfl
  cases negative with
  | false => simp [splitSign, no_minus, no_plus]
  | true => rfl

/-- A numeral without underscores that begins with a digit is read as a decimal. -/
theorem plainFloat?_eq {first : Char} (isDigit : first.isDigit) (absent : '_' ∉ first :: rest) :
    plainFloat? ((if negative then ['-'] else []) ++ first :: rest) =
      (decimal? negative (first :: rest)).map Decimal.toBinary64 := by
  have same_lower : first.toLower = first := by
    rcases Char.isDigit_iff_toNat.mp isDigit with ⟨_, le_nine⟩
    refine dif_neg ?_
    rintro ⟨ge_a, _⟩
    have ge_a := UInt32.le_iff_toNat_le.mp ge_a
    rw [Char.toNat_val] at ge_a
    have digits_first := Nat.le_trans ge_a le_nine
    exact absurd digits_first (by decide)
  have no_word {letter : Char} {letters : List Char} (no_digit : letter.isDigit = false) :
      lower (first :: rest) ≠ letter :: letters := by
    rw [lower, List.map_cons, same_lower]
    intro same
    exact ne_of_isDigit isDigit no_digit (List.cons.inj same).1
  have no_infinity : ¬(lower (first :: rest) = "inf".toList ∨
      lower (first :: rest) = "infinity".toList) := not_or.mpr ⟨no_word rfl, no_word rfl⟩
  have no_nan : lower (first :: rest) ≠ "nan".toList := no_word rfl
  simp only [plainFloat?, splitSign_digits isDigit, no_infinity, no_nan, if_false,
    dropUnderscores_eq absent, Option.bind_eq_bind, Option.bind_some, Option.pure_def,
    Option.map_eq_bind]
  rfl

end Numeral

/-! ## Laying out digits -/

namespace Shortest

variable {digits : List Char} {order : Int}

/-- Digits that do not begin with a zero. -/
structure Significant (digits : List Char) : Prop where
  all_digits : ∀ digit ∈ digits, digit.isDigit
  leading : ∃ first rest, digits = first :: rest ∧ first ≠ '0'

theorem decimal?_positional (all_digits : ∀ digit ∈ digits, digit.isDigit) (whole : Nat)
    (negative : Bool) :
    ∃ zeros : Nat, Numeral.decimal? negative
        (digits.take whole ++ List.replicate (whole - digits.length) '0' ++
          '.' :: (if digits.drop whole = [] then ['0'] else digits.drop whole)) =
      some ⟨negative, numberOf digits * 10 ^ zeros, whole - digits.length - zeros⟩ := by
  have whole_digits : ∀ digit ∈ digits.take whole ++ List.replicate (whole - digits.length) '0',
      digit.isDigit := by
    intro digit member
    rcases List.mem_append.mp member with taken | zero
    · exact all_digits digit (List.mem_of_mem_take taken)
    · rw [(List.mem_replicate.mp zero).2]
      rfl
  have no_exponent : Numeral.exponent? [] = some 0 := rfl
  by_cases nothing : digits.drop whole = []
  · have short := List.drop_eq_nil_iff.mp nothing
    refine ⟨whole - digits.length + 1, ?_⟩
    have zero_digit : ∀ digit ∈ ['0'], digit.isDigit := List.forall_mem_singleton.mpr rfl
    have read := Numeral.decimal?_point negative whole_digits zero_digit (by simp) (by simp)
      no_exponent
    rw [if_pos nothing]
    rw [List.append_nil] at read
    rw [read, List.take_of_length_le short, List.append_assoc, ← List.replicate_succ',
      numberOf_append_zeros, List.length_singleton]
    simp only [Option.some.injEq, Decimal.mk.injEq, true_and]
    omega
  · have long : whole < digits.length := by simpa [List.drop_eq_nil_iff] using nothing
    refine ⟨0, ?_⟩
    have fraction_digits : ∀ digit ∈ digits.drop whole, digit.isDigit :=
      fun digit member => all_digits digit (List.mem_of_mem_drop member)
    have read := Numeral.decimal?_point negative whole_digits fraction_digits (by simp [nothing])
      (by simp) no_exponent
    rw [if_neg nothing]
    rw [List.append_nil] at read
    rw [read, Nat.sub_eq_zero_of_le long.le, List.replicate_zero, List.append_nil,
      List.take_append_drop, List.length_drop]
    simp only [Option.some.injEq, Decimal.mk.injEq, true_and]
    omega

/-- The text of digits with an order is read as a decimal of that number. -/
theorem decimal?_layOut (layout : Layout) (significant : Significant digits) (order : Int)
    (negative : Bool) :
    ∃ zeros : Nat, Numeral.decimal? negative (layOut layout digits order) =
      some ⟨negative, numberOf digits * 10 ^ zeros, order - digits.length - zeros⟩ := by
  rcases significant with ⟨all_digits, first, rest, digits_eq, nonzero⟩
  unfold layOut
  -- The layouts are one digit with an exponent, leading zeros, and a point among the digits.
  split
  · subst digits_eq
    rcases List.forall_mem_cons.mp all_digits with ⟨isDigit, rest_digits⟩
    have first_digit : ∀ digit ∈ [first], digit.isDigit := List.forall_mem_singleton.mpr isDigit
    have exponent_eq := Numeral.exponent?_exponentText layout (order - 1)
    refine ⟨0, ?_⟩
    by_cases only : rest = []
    · have read := Numeral.decimal?_whole negative first_digit (by simp) exponent_eq
      simp only [only, List.take_one, List.drop_one, List.tail_cons, if_true, List.append_nil]
      refine read.trans ?_
      simp
    · have read := Numeral.decimal?_point negative first_digit rest_digits (by simp)
        (by simp [exponentText]) exponent_eq
      simp only [only, List.take_one, List.drop_one, List.tail_cons, if_false]
      refine read.trans ?_
      simp
      omega
  · split
    · rename_i small
      refine ⟨0, ?_⟩
      have fraction_digits : ∀ digit ∈ List.replicate (-order).toNat '0' ++ digits,
          digit.isDigit := by
        intro digit member
        rcases List.mem_append.mp member with zero | listed
        · rw [(List.mem_replicate.mp zero).2]
          rfl
        · exact all_digits digit listed
      have zero_digit : ∀ digit ∈ ['0'], digit.isDigit := List.forall_mem_singleton.mpr rfl
      have no_exponent : Numeral.exponent? [] = some 0 := rfl
      have read := Numeral.decimal?_point negative zero_digit fraction_digits (by simp) (by simp)
        no_exponent
      have leading_zeros : ['0'] ++ (List.replicate (-order).toNat '0' ++ digits) =
          List.replicate ((-order).toNat + 1) '0' ++ digits := rfl
      rw [List.append_nil, leading_zeros, numberOf_zeros_append] at read
      refine read.trans ?_
      rw [List.length_append, List.length_replicate]
      simp only [Option.some.injEq, Decimal.mk.injEq, true_and, Nat.pow_zero, Nat.mul_one]
      omega
    · rename_i large
      have order_eq : ((order.toNat : Nat) : Int) = order := by omega
      rcases decimal?_positional all_digits order.toNat negative with ⟨zeros, read⟩
      rw [order_eq] at read
      exact ⟨zeros, read⟩

/-! ## Texts -/

theorem trimZeros_append (digits : List Char) :
    ∃ zeros, digits = trimZeros digits ++ List.replicate zeros '0' := by
  refine ⟨(digits.reverse.takeWhile (· = '0')).length, ?_⟩
  have zeros_eq : digits.reverse.takeWhile (· = '0') =
      List.replicate (digits.reverse.takeWhile (· = '0')).length '0' := by
    refine List.eq_replicate_iff.mpr ⟨rfl, ?_⟩
    have all_zero := List.all_takeWhile (p := (· = '0')) (l := digits.reverse)
    simpa only [List.all_eq_true, decide_eq_true_eq] using all_zero
  have parts := congrArg List.reverse
    (List.takeWhile_append_dropWhile (p := (· = '0')) (l := digits.reverse))
  rw [List.reverse_append, List.reverse_reverse, zeros_eq, List.reverse_replicate]
    at parts
  exact parts.symm

/-- The digits of a positive number without the zeros at their end do not begin with a zero. -/
theorem significant_trimZeros {number : Nat} (positive : 0 < number) :
    Significant (trimZeros (Nat.toDigits 10 number)) ∧
      ∃ zeros, number = numberOf (trimZeros (Nat.toDigits 10 number)) * 10 ^ zeros ∧
        (Nat.toDigits 10 number).length =
          (trimZeros (Nat.toDigits 10 number)).length + zeros := by
  rcases trimZeros_append (Nat.toDigits 10 number) with ⟨zeros, parts⟩
  rcases toDigits_eq_cons positive with ⟨first, rest, start, nonzero⟩
  generalize trimZeros (Nat.toDigits 10 number) = digits at *
  refine ⟨⟨?_, ?_⟩, zeros, ?_, ?_⟩
  · intro digit member
    have listed : digit ∈ Nat.toDigits 10 number := by
      rw [parts]
      exact List.mem_append_left _ member
    exact isDigit_of_mem_toDigits digit listed
  · cases digits with
    | nil =>
        rw [start, List.nil_append] at parts
        exact absurd (List.mem_replicate.mp (parts ▸ List.mem_cons_self)).2 nonzero
    | cons digit digits =>
        rw [start, List.cons_append] at parts
        exact ⟨digit, digits, rfl, (List.cons.inj parts).1 ▸ nonzero⟩
  · rw [← numberOf_append_zeros, ← parts, numberOf, Nat.ofDigitChars_ten_toDigits]
  · rw [← List.length_replicate (n := zeros) (a := '0'), ← List.length_append, ← parts]

/-- What the text of a positive number looks like. -/
structure Unsigned (characters : List Char) : Prop where
  first_digit : ∃ first rest, characters = first :: rest ∧ first.isDigit ∧
    (first = '0' → ∀ second ∈ rest.head?, ¬second.isDigit)
  each : ∀ character ∈ characters, character.isDigit ∨ character ∈ ['.', 'e', '+', '-']

theorem each_exponentText (layout : Layout) (exponent : Int) :
    ∀ character ∈ exponentText layout exponent,
      character.isDigit ∨ character ∈ ['.', 'e', '+', '-'] := by
  simp only [exponentText, List.forall_mem_cons, List.forall_mem_append, List.mem_replicate]
  refine ⟨.inr (by decide), .inr ?_, ?_,
    fun digit member => .inl (isDigit_of_mem_toDigits digit member)⟩
  · split
    · decide
    · decide
  · rintro digit ⟨_, rfl⟩
    exact .inl rfl

theorem unsigned_layOut (layout : Layout) (significant : Significant digits) (order : Int) :
    Unsigned (layOut layout digits order) := by
  rcases significant with ⟨all_digits, first, rest, digits_eq, nonzero⟩
  have zero_digits (count : Nat) : ∀ character ∈ List.replicate count '0',
      character.isDigit ∨ character ∈ ['.', 'e', '+', '-'] := by
    intro digit member
    rw [(List.mem_replicate.mp member).2]
    exact .inl rfl
  have first_digit := all_digits first (digits_eq ▸ List.mem_cons_self)
  unfold layOut
  split
  -- A zero comes first only where the point follows it at once.
  · constructor
    · refine ⟨first, (if rest = [] then [] else '.' :: rest) ++ exponentText layout (order - 1), ?_,
        first_digit, fun zero => absurd zero nonzero⟩
      rw [digits_eq]
      rfl
    · simp only [List.forall_mem_append]
      refine ⟨⟨fun digit member => .inl (all_digits digit (List.mem_of_mem_take member)), ?_⟩,
        each_exponentText layout _⟩
      split
      · simp
      · rw [List.forall_mem_cons]
        exact ⟨.inr (by decide),
          fun digit member => .inl (all_digits digit (List.mem_of_mem_drop member))⟩
  · split
    · constructor
      · exact ⟨'0', _, rfl, rfl, by simp⟩
      · simp only [List.forall_mem_cons, List.forall_mem_append]
        exact ⟨.inl rfl, .inr (by decide), zero_digits _,
          fun digit member => .inl (all_digits digit member)⟩
    · rename_i large
      obtain ⟨whole, order_eq⟩ : ∃ whole, order.toNat = whole + 1 := ⟨order.toNat - 1, by omega⟩
      constructor
      · simp only [digits_eq, order_eq, List.take_succ_cons, List.cons_append]
        exact ⟨first, _, rfl, first_digit, fun zero => absurd zero nonzero⟩
      · simp only [List.forall_mem_append, List.forall_mem_cons]
        refine ⟨⟨fun digit member => .inl (all_digits digit (List.mem_of_mem_take member)),
          zero_digits _⟩, .inr (by decide), ?_⟩
        split
        · exact zero_digits 1
        · exact fun digit member => .inl (all_digits digit (List.mem_of_mem_drop member))

/-- The text of a decimal point is read as a number of the same magnitude. -/
theorem decimal?_pointText (layout : Layout) {point : GridPoint} (positive : 0 < point.digits)
    (negative : Bool) :
    ∃ decimal, Numeral.decimal? negative (pointText layout point) = some decimal ∧
      decimal.negative = negative ∧ Decimal.magnitudeIn .double decimal.digits decimal.exponent =
        Decimal.magnitudeIn .double point.digits point.exponent := by
  rcases significant_trimZeros positive with ⟨significant, zeros, number_eq, length_eq⟩
  rcases decimal?_layOut layout significant
    (point.exponent + (Nat.toDigits 10 point.digits).length) negative with ⟨more, read⟩
  refine ⟨_, read, rfl, ?_⟩
  generalize trimZeros (Nat.toDigits 10 point.digits) = digits at *
  have exponent_eq : point.exponent + ((Nat.toDigits 10 point.digits).length : Int) -
      digits.length = point.exponent + zeros := by
    omega
  simp only [exponent_eq, Decimal.magnitudeIn_mul_pow]
  have restored := Decimal.magnitudeIn_mul_pow .double (numberOf digits) zeros
    (point.exponent + zeros)
  rw [← number_eq, add_sub_cancel_right] at restored
  exact restored.symm

end Shortest

namespace Binary64

variable {number : Binary64}

/-- What the text of a number looks like, unless it is not one. -/
inductive Spells (number : Binary64) : List Char → Prop where
  | infinity (negative : Bool) (same : number = Numeral.infinity negative) :
      Spells number ((if negative then ['-'] else []) ++ "inf".toList)
  | finite {characters : List Char} (unsigned : Shortest.Unsigned characters)
      (same :
        (Numeral.decimal? number.isNegative characters).map Decimal.toBinary64 = some number) :
      Spells number ((if number.isNegative then ['-'] else []) ++ characters)

/-- The text of a number spells it. -/
theorem spells_text (isNumber : number.magnitude ≤ Format.double.infinity) :
    number.Spells (number.text .descriptor) := by
  have same := ofMagnitude_magnitude number
  unfold text
  rw [if_neg (Nat.not_lt.mpr isNumber)]
  split
  · rename_i infinite
    rw [infinite] at same
    exact .infinity number.isNegative same.symm
  · rename_i notInfinite
    split
    · rename_i zero
      rw [zero] at same
      have noDigit : ∀ second ∈ some '.', ¬second.isDigit := by simp
      have each : ∀ character ∈ ['0', '.', '0'],
          character.isDigit ∨ character ∈ ['.', 'e', '+', '-'] := List.all_iff_forall_prop.mp rfl
      refine .finite ⟨⟨'0', ['.', '0'], rfl, rfl, fun _ => noDigit⟩, each⟩ ?_
      generalize number.isNegative = negative at *
      subst same
      cases negative with
      | false => decide
      | true => decide
    · rename_i nonzero
      have positive : 0 < number.magnitude := Nat.pos_of_ne_zero nonzero
      have finite : number.magnitude < Format.double.infinity := by omega
      have reads := Shortest.shortestPoint_reads positive finite rfl
      have digits_pos : 0 < (Shortest.shortestPoint .double number.magnitude).digits := by
        refine Nat.pos_of_ne_zero fun none => nonzero ?_
        rw [← reads, Decimal.magnitudeIn, if_pos (.inl none)]
      rcases Shortest.significant_trimZeros digits_pos with ⟨significant, _⟩
      rcases Shortest.decimal?_pointText .descriptor digits_pos number.isNegative with
        ⟨decimal, read, sign, same_magnitude⟩
      refine .finite (Shortest.unsigned_layOut .descriptor significant _) ?_
      rw [read, Option.map_some, Decimal.toBinary64, sign, same_magnitude, reads, same]

theorem Spells.plainFloat? {characters : List Char} (spells : number.Spells characters) :
    Numeral.plainFloat? characters = some number := by
  cases spells with
  | infinity negative same =>
      subst same
      cases negative with
      | false => decide
      | true => decide
  | finite unsigned same =>
      rcases unsigned with ⟨⟨first, rest, rfl, isDigit, _⟩, each⟩
      have absent : '_' ∉ first :: rest := by
        intro member
        rcases each _ member with digit | listed
        · cases digit
        · revert listed
          decide
      rw [Numeral.plainFloat?_eq isDigit absent, same]

end Binary64

/-! ## Numbers of single precision -/

namespace Decimal

theorem magnitudeIn_le (format : Format) (digits : Nat) (exponent : Int) :
    magnitudeIn format digits exponent ≤ format.infinity := by
  unfold magnitudeIn
  simp only
  split
  · exact Nat.zero_le _
  · split
    · exact Nat.le_refl _
    · rw [Format.round]
      split
      · exact Nat.zero_le _
      · exact Nat.min_le_right _ _

theorem magnitude_toBinary64_le (decimal : Decimal) :
    decimal.toBinary64.magnitude ≤ Format.double.infinity := by
  have least := magnitudeIn_le .double decimal.digits decimal.exponent
  rw [toBinary64, Binary64.magnitude_ofMagnitude (Nat.lt_of_le_of_lt least (by decide))]
  exact least

end Decimal

namespace Binary32

variable {number : Binary32}

/-- The number that is written in place of one of single precision narrows to it. -/
theorem narrow_representative (isNumber : number.magnitude ≤ Format.single.infinity) :
    number.representative.magnitude ≤ Format.double.infinity ∧
      number.representative.narrow = number := by
  have widened : number.widen.magnitude ≤ Format.double.infinity ∧ number.widen.narrow = number :=
    ⟨magnitude_widen_le isNumber, narrow_widen isNumber⟩
  unfold representative
  split
  · exact widened
  · simp only
    generalize found_eq : List.find? _ _ = found
    cases found with
    | none => exact widened
    | some candidate =>
        rcases List.mem_map.mp (List.mem_of_find?_eq_some found_eq) with ⟨significant, _, rfl⟩
        exact ⟨Decimal.magnitude_toBinary64_le _, by simpa using List.find?_some found_eq⟩

theorem lt_magnitude_representative (noNumber : Format.single.infinity < number.magnitude) :
    Format.double.infinity < number.representative.magnitude := by
  rw [representative, if_pos (.inr noNumber.le)]
  exact lt_magnitude_widen noNumber

end Binary32

end NetImport
