import NetImport.Proofs.Number.Binary

/-!
# Shortest decimals are read back

A decimal of seventeen significant digits that is nearest to a number of double precision is near
enough to be read back as that number. So the search for a decimal with fewest digits always ends
in one that is read back. How many zeros stand at the end of the digits does not matter.
-/

namespace NetImport

variable {digits zeros : Nat} {exponent : Int} {format : Format} {magnitude : Nat}

namespace Decimal

/-! ## Counting digits -/

theorem digitCount_pos (number : Nat) : 0 < digitCount number := Nat.length_toDigits_pos

theorem lt_pow_digitCount (number : Nat) : number < 10 ^ digitCount number :=
  (Nat.length_toDigits_le_iff (by decide) (digitCount_pos number)).mp (Nat.le_refl _)

theorem pow_digitCount_le {number : Nat} (positive : 0 < number) :
    10 ^ (digitCount number - 1) ≤ number := by
  rcases Nat.eq_zero_or_pos (digitCount number - 1) with single | more
  · rw [single]
    exact positive
  · have counted := digitCount_pos number
    by_contra less
    have fewer := (Nat.length_toDigits_le_iff (by decide) more).mpr (Nat.not_le.mp less)
    unfold digitCount at counted fewer
    omega

theorem digitCount_eq {number count : Nat} (above : 10 ^ count ≤ number)
    (below : number < 10 ^ (count + 1)) : digitCount number = count + 1 := by
  have positive : 0 < number := Nat.lt_of_lt_of_le (Nat.pow_pos (by decide)) above
  have counted := digitCount_pos number
  have lower := Nat.lt_of_le_of_lt above (lt_pow_digitCount number)
  have upper := Nat.lt_of_le_of_lt (pow_digitCount_le positive) below
  have lower := (Nat.pow_lt_pow_iff_right (by decide)).mp lower
  have upper := (Nat.pow_lt_pow_iff_right (by decide)).mp upper
  omega

theorem digitCount_mul_pow (positive : 0 < digits) (zeros : Nat) :
    digitCount (digits * 10 ^ zeros) = digitCount digits + zeros := by
  have counted := digitCount_pos digits
  obtain ⟨fewer, count_eq⟩ : ∃ fewer, digitCount digits = fewer + 1 :=
    ⟨digitCount digits - 1, by omega⟩
  have above := pow_digitCount_le positive
  have below := lt_pow_digitCount digits
  rw [count_eq] at above below ⊢
  rw [Nat.add_right_comm]
  apply digitCount_eq
  · rw [Nat.pow_add]
    exact Nat.mul_le_mul_right _ above
  · rw [Nat.add_right_comm, Nat.pow_add]
    exact Nat.mul_lt_mul_of_pos_right below (Nat.pow_pos (by decide))

/-! ## Reading decimals -/

/-- Zeros at the end of the digits count as much as a greater exponent. -/
theorem magnitudeIn_mul_pow (format : Format) (digits zeros : Nat) (exponent : Int) :
    magnitudeIn format (digits * 10 ^ zeros) (exponent - zeros) =
      magnitudeIn format digits exponent := by
  rcases Nat.eq_zero_or_pos digits with rfl | positive
  · simp [magnitudeIn]
  · have product_ne : digits * 10 ^ zeros ≠ 0 := by positivity
    have same_order : exponent - zeros + (digitCount (digits * 10 ^ zeros) : Int) =
        exponent + digitCount digits := by
      rw [digitCount_mul_pow positive]
      omega
    have powers : zeros + (exponent - zeros).toNat + (-exponent).toNat =
        exponent.toNat + (-(exponent - zeros)).toNat := by
      omega
    have same_quotient : format.round
          (digits * 10 ^ zeros * 10 ^ (exponent - zeros).toNat) (10 ^ (-(exponent - zeros)).toNat) =
        format.round (digits * 10 ^ exponent.toNat) (10 ^ (-exponent).toNat) := by
      apply Format.round_congr (Nat.pow_pos (by decide)) (Nat.pow_pos (by decide))
      simp only [Nat.mul_assoc, ← Nat.pow_add, powers]
    simp only [magnitudeIn, same_order, product_ne, Nat.ne_of_gt positive, Nat.pow_eq,
      same_quotient]

/-- The order of a decimal is the power of ten above it. -/
theorem between_orders (positive : 0 < digits) (exponent : Int) :
    (10 : ℚ) ^ (exponent + digitCount digits - 1) ≤ digits * 10 ^ exponent ∧
      (digits : ℚ) * 10 ^ exponent < 10 ^ (exponent + digitCount digits) := by
  have counted := digitCount_pos digits
  obtain ⟨fewer, count_eq⟩ : ∃ fewer, digitCount digits = fewer + 1 :=
    ⟨digitCount digits - 1, by omega⟩
  have above : (10 : ℚ) ^ fewer ≤ digits := by
    have above := pow_digitCount_le positive
    rw [count_eq] at above
    exact_mod_cast above
  have below : (digits : ℚ) < 10 ^ (fewer + 1) := by
    have below := lt_pow_digitCount digits
    rw [count_eq] at below
    exact_mod_cast below
  have unit_pos : (0 : ℚ) < 10 ^ exponent := by positivity
  have lower_eq : exponent + (digitCount digits : Int) - 1 = fewer + exponent := by omega
  have upper_eq : exponent + (digitCount digits : Int) = (fewer + 1 : Nat) + exponent := by omega
  constructor
  · rw [lower_eq, zpow_add₀ (by norm_num), zpow_natCast]
    exact mul_le_mul_of_nonneg_right above unit_pos.le
  · rw [upper_eq, zpow_add₀ (by norm_num), zpow_natCast]
    exact mul_lt_mul_of_pos_right below unit_pos

end Decimal

/-! ## Near numbers of double precision -/

theorem Format.ten_le_least : (10 : ℚ) ^ (-331 : Int) ≤ 2 ^ (-1075 : Int) := by
  have powers : 2 ^ 1075 ≤ 10 ^ 331 := by decide +kernel
  have powers : (2 : ℚ) ^ 1075 ≤ 10 ^ 331 := by exact_mod_cast powers
  rw [zpow_neg, zpow_neg]
  exact inv_anti₀ (by positivity) powers

theorem Format.most_le_ten : (2 : ℚ) ^ (1025 : Int) ≤ 10 ^ (311 : Int) := by
  have powers : 2 ^ 1025 ≤ 10 ^ 311 := by decide +kernel
  have powers : (2 : ℚ) ^ 1025 ≤ 10 ^ 311 := by exact_mod_cast powers
  exact powers

/-- The positive numbers of double precision lie well within the orders that are rounded. -/
theorem Format.double_value_bounds (positive : 0 < magnitude)
    (finite : magnitude < Format.double.infinity) :
    (10 : ℚ) ^ (-331 : Int) ≤ Format.double.value magnitude / 2 ∧
      Format.double.value magnitude * 2 ≤ 10 ^ (311 : Int) := by
  rcases Format.represents_decode Format.double magnitude with
    ⟨least_le, magnitude_eq, significand_lt, normal⟩
  unfold Format.value
  generalize (Format.double.decode magnitude).1 = significand at *
  generalize (Format.double.decode magnitude).2 = exponent at *
  simp only [Format.double, Nat.add_one_sub_one]
    at least_le magnitude_eq significand_lt normal finite
  have significand_pos : 1 ≤ significand := by
    rcases normal with rfl | normal
    · simp at magnitude_eq
      omega
    · omega
  have exponent_le : exponent ≤ 971 := by
    omega
  have significand_ge : (1 : ℚ) ≤ significand := by exact_mod_cast significand_pos
  have significand_le : (significand : ℚ) ≤ 2 ^ (53 : Int) := by exact_mod_cast significand_lt.le
  have unit_pos : (0 : ℚ) < 2 ^ exponent := by positivity
  constructor
  · calc (10 : ℚ) ^ (-331 : Int) ≤ 2 ^ (-1075 : Int) := Format.ten_le_least
      _ ≤ 2 ^ (exponent - 1) := zpow_le_zpow_right₀ (by norm_num) (by omega)
      _ = 2 ^ exponent / 2 := by rw [zpow_sub_one₀ (by norm_num), div_eq_mul_inv]
      _ ≤ significand * 2 ^ exponent / 2 :=
          div_le_div_of_nonneg_right (le_mul_of_one_le_left unit_pos.le significand_ge)
            (by norm_num)
  · calc (significand : ℚ) * 2 ^ exponent * 2 ≤ 2 ^ (53 : Int) * 2 ^ exponent * 2 := by gcongr
      _ = 2 ^ (53 + exponent + 1) := by
          rw [zpow_add_one₀ (by norm_num), zpow_add₀ (by norm_num)]
      _ ≤ 2 ^ (1025 : Int) := zpow_le_zpow_right₀ (by norm_num) (by omega)
      _ ≤ 10 ^ (311 : Int) := Format.most_le_ten

/-- A decimal near a number of double precision is read as that number. -/
theorem Decimal.magnitudeIn_of_near (positive : 0 < magnitude)
    (finite : magnitude < Format.double.infinity)
    (near : |(digits : ℚ) * 10 ^ exponent - Format.double.value magnitude| * 2 ^ 54 <
      Format.double.value magnitude) :
    magnitudeIn .double digits exponent = magnitude := by
  rcases Format.double_value_bounds positive finite with ⟨least_le, le_most⟩
  have distance : |(digits : ℚ) * 10 ^ exponent - Format.double.value magnitude| <
      Format.double.value magnitude / 2 := by
    have more : (2 : ℚ) ≤ 2 ^ 54 := by norm_num
    have smaller := mul_le_mul_of_nonneg_left more
      (abs_nonneg ((digits : ℚ) * 10 ^ exponent - Format.double.value magnitude))
    linarith
  rcases abs_lt.mp distance with ⟨above, below⟩
  have value_pos : 0 < Format.double.value magnitude := Format.value_pos positive
  have digits_pos : 0 < digits := by
    rcases Nat.eq_zero_or_pos digits with rfl | some
    · rw [Nat.cast_zero, zero_mul] at above
      linarith
    · exact some
  rcases between_orders digits_pos exponent with ⟨lower, upper⟩
  have order_ge : ¬exponent + (digitCount digits : Int) < -330 := by
    intro less
    have small : (10 : ℚ) ^ (exponent + (digitCount digits : Int)) ≤ 10 ^ (-331 : Int) :=
      zpow_le_zpow_right₀ (by norm_num) (by omega)
    linarith
  have order_le : ¬311 < exponent + (digitCount digits : Int) := by
    intro less
    have large : (10 : ℚ) ^ (311 : Int) ≤ 10 ^ (exponent + (digitCount digits : Int) - 1) :=
      zpow_le_zpow_right₀ (by norm_num) (by omega)
    have far := le_most.trans (large.trans lower)
    linarith only [far, below, value_pos]
  simp only [magnitudeIn, Nat.ne_of_gt digits_pos, order_ge, order_le, if_false, false_or,
    Nat.pow_eq]
  apply Format.round_of_near (by decide) positive finite (Nat.pow_pos (by decide))
  have same : ((digits * 10 ^ exponent.toNat : Nat) : ℚ) / (10 ^ (-exponent).toNat : Nat) =
      digits * 10 ^ exponent := by
    rw [zpow_eq_div]
    push_cast
    rw [mul_div_assoc]
  rw [same]
  exact near

namespace Shortest

variable {numerator denominator : Nat}

/-- A quotient is at least the power of ten below its order. -/
theorem pow_decimalOrder_le (numerator_pos : 0 < numerator) (denominator_pos : 0 < denominator) :
    (10 : ℚ) ^ (decimalOrder numerator denominator - 1) ≤ numerator / denominator := by
  have counted := Decimal.digitCount_pos numerator
  have counted' := Decimal.digitCount_pos denominator
  rcases quotient_between (by decide)
    (Decimal.pow_digitCount_le numerator_pos)
    (by rw [Nat.sub_add_cancel counted]; exact Decimal.lt_pow_digitCount numerator)
    (Decimal.pow_digitCount_le denominator_pos)
    (by rw [Nat.sub_add_cancel counted']; exact Decimal.lt_pow_digitCount denominator) with
    ⟨above, below⟩
  have guess_eq : ((Decimal.digitCount numerator - 1 : Nat) : Int) -
      (Decimal.digitCount denominator - 1 : Nat) =
        Decimal.digitCount numerator - Decimal.digitCount denominator := by
    omega
  rw [guess_eq] at above below
  refine (quotient_order (by decide) denominator_pos above below ?_).1
  simp only [decimalOrder, Nat.pow_eq]
  split
  · omega
  · omega

/-- The nearest point with seventeen digits is read back. -/
theorem nearestPoint_reads (positive : 0 < magnitude) (finite : magnitude < Format.double.infinity)
    {point : GridPoint} (point_eq : point = nearestPoint (Format.double.quotient magnitude).1
      (Format.double.quotient magnitude).2 17) :
    Decimal.magnitudeIn .double point.digits point.exponent = magnitude := by
  subst point_eq
  have denominator_pos := Format.quotient_snd_pos .double magnitude
  have value_pos : 0 < Format.double.value magnitude := Format.value_pos positive
  have value_eq := Format.quotient_eq .double magnitude
  generalize (Format.double.quotient magnitude).1 = numerator at *
  generalize (Format.double.quotient magnitude).2 = denominator at *
  have numerator_pos : 0 < numerator := by
    rcases Nat.eq_zero_or_pos numerator with rfl | positive
    · rw [Nat.cast_zero, zero_div] at value_eq
      linarith
    · exact positive
  have order_le := pow_decimalOrder_le numerator_pos denominator_pos
  simp only [nearestPoint, inUnits, Nat.pow_eq]
  generalize decimalOrder numerator denominator = order at *
  apply Decimal.magnitudeIn_of_near positive finite
  have unit_pos : (0 : ℚ) < 10 ^ (order - 17) := by positivity
  have unit_ne : 0 < denominator * 10 ^ (order - 17).toNat :=
    Nat.mul_pos denominator_pos (Nat.pow_pos (by decide))
  have rounded := nearestEven_near (numerator * 10 ^ (-(order - 17)).toNat) unit_ne
  rw [scaled_quotient (by decide), value_eq, Nat.cast_ofNat] at rounded
  generalize nearestEven _ _ = digits at *
  have deviation : |(digits : ℚ) * 10 ^ (order - 17) - Format.double.value magnitude| ≤
      10 ^ (order - 17) / 2 := by
    have scaled : (digits : ℚ) * 10 ^ (order - 17) - Format.double.value magnitude =
        (digits - Format.double.value magnitude / 10 ^ (order - 17)) * 10 ^ (order - 17) := by
      field_simp
    rw [scaled, abs_mul, abs_of_pos unit_pos]
    linarith only [mul_le_mul_of_nonneg_right rounded unit_pos.le]
  have unit_le : (10 : ℚ) ^ (order - 17) * 10 ^ 16 ≤ Format.double.value magnitude := by
    rw [← value_eq, ← zpow_natCast, ← zpow_add₀ (by norm_num)]
    have same : order - 17 + ((16 : Nat) : Int) = order - 1 := by omega
    rw [same]
    exact order_le
  -- Seventeen digits are enough since `2 ^ 53 < 10 ^ 16`.
  calc |(digits : ℚ) * 10 ^ (order - 17) - Format.double.value magnitude| * 2 ^ 54
      ≤ 10 ^ (order - 17) / 2 * 2 ^ 54 := mul_le_mul_of_nonneg_right deviation (by norm_num)
    _ < 10 ^ (order - 17) * 10 ^ 16 := by
        rw [div_mul_eq_mul_div, mul_div_assoc]
        exact mul_lt_mul_of_pos_left (by norm_num) unit_pos
    _ ≤ Format.double.value magnitude := unit_le

/-- The search for the shortest decimal ends in one that is read back. -/
theorem shortestPoint_reads (positive : 0 < magnitude)
    (finite : magnitude < Format.double.infinity) {point : GridPoint}
    (point_eq : point = shortestPoint .double magnitude) :
    Decimal.magnitudeIn .double point.digits point.exponent = magnitude := by
  simp only [shortestPoint] at point_eq
  cases found : (List.range 17).findSome? fun fewer =>
      (neighbours (Format.double.quotient magnitude).1 (Format.double.quotient magnitude).2
        (fewer + 1)).find? fun point =>
          Decimal.magnitudeIn .double point.digits point.exponent = magnitude with
  | none =>
      rw [found, Option.getD_none] at point_eq
      exact nearestPoint_reads positive finite point_eq
  | some candidate =>
      rw [found, Option.getD_some] at point_eq
      subst point_eq
      rcases List.exists_of_findSome?_eq_some found with ⟨fewer, _, accepted⟩
      simpa using List.find?_some accepted

end Shortest

end NetImport
