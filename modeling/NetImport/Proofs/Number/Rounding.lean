import Mathlib.Algebra.Order.Field.Power
import Mathlib.Data.Rat.Cast.Order
import Mathlib.Tactic.FieldSimp
import Mathlib.Tactic.Linarith
import Mathlib.Tactic.NormNum
import Mathlib.Tactic.Positivity
import Mathlib.Tactic.Ring
import NetImport.Number.Shortest

/-!
# Rounding to a format

The quotients of naturals that a format rounds are taken as rationals here. A quotient rounds to a
magnitude when its distance from the number of that magnitude is less than that number divided by
two to the power of one more than the precision. In particular a magnitude is the rounding of its
own number, so that conversion to a wider format loses nothing.
-/

namespace NetImport

variable {base numerator denominator : Nat} {exponent other : Int} {ratio : ℚ}

/-! ## Powers and quotients -/

theorem zpow_eq_div (base : ℚ) (exponent : Int) :
    base ^ exponent = base ^ exponent.toNat / base ^ (-exponent).toNat := by
  rcases Int.le_total 0 exponent with natural | negative
  · rcases Int.eq_ofNat_of_zero_le natural with ⟨power, rfl⟩
    simp
  · rcases Int.eq_ofNat_of_zero_le (Int.neg_nonneg.mpr negative) with ⟨power, opposite⟩
    rcases Int.neg_eq_comm.mp opposite with rfl
    simp

/-- A quotient measured in units of a power of a base. -/
theorem scaled_quotient (positive : 0 < base) (numerator denominator : Nat) (exponent : Int) :
    ((numerator * base ^ (-exponent).toNat : Nat) : ℚ) /
        ((denominator * base ^ exponent.toNat : Nat) : ℚ) =
      numerator / denominator / (base : ℚ) ^ exponent := by
  have base_ne : (base : ℚ) ≠ 0 := by positivity
  rw [zpow_eq_div]
  push_cast
  field_simp

theorem pow_le_quotient_iff (positive : 0 < base) (denominator_pos : 0 < denominator) :
    denominator * base ^ exponent.toNat ≤ numerator * base ^ (-exponent).toNat ↔
      (base : ℚ) ^ exponent ≤ numerator / denominator := by
  have base_pos : (0 : ℚ) < base := by exact_mod_cast positive
  have unit_pos : (0 : ℚ) < (denominator * base ^ exponent.toNat : Nat) := by positivity
  rw [← one_le_div₀ (zpow_pos base_pos exponent), ← scaled_quotient positive, one_le_div₀ unit_pos]
  exact_mod_cast Iff.rfl

/-- The quotient of two numbers, each between neighbouring powers of a base. -/
theorem quotient_between {high low : Nat} (positive : 0 < base)
    (numerator_ge : base ^ high ≤ numerator) (numerator_lt : numerator < base ^ (high + 1))
    (denominator_ge : base ^ low ≤ denominator) (denominator_lt : denominator < base ^ (low + 1)) :
    (base : ℚ) ^ ((high : Int) - low - 1) ≤ numerator / denominator ∧
      (numerator : ℚ) / denominator < (base : ℚ) ^ ((high : Int) - low + 1) := by
  have base_ne : (base : ℚ) ≠ 0 := by positivity
  have low_pos : (0 : ℚ) < (base : ℚ) ^ low := by positivity
  have numerator_ge : (base : ℚ) ^ high ≤ numerator := by exact_mod_cast numerator_ge
  have numerator_lt : (numerator : ℚ) < (base : ℚ) ^ (high + 1) := by exact_mod_cast numerator_lt
  have denominator_ge : (base : ℚ) ^ low ≤ denominator := by exact_mod_cast denominator_ge
  have denominator_lt : (denominator : ℚ) < (base : ℚ) ^ (low + 1) := by
    exact_mod_cast denominator_lt
  have denominator_pos : (0 : ℚ) < denominator := low_pos.trans_le denominator_ge
  constructor
  · calc (base : ℚ) ^ ((high : Int) - low - 1) = (base : ℚ) ^ high / (base : ℚ) ^ (low + 1) := by
          rw [sub_sub, zpow_sub₀ base_ne]
          norm_cast
      _ ≤ numerator / denominator := by gcongr
  · calc (numerator : ℚ) / denominator < (base : ℚ) ^ (high + 1) / (base : ℚ) ^ low := by
          gcongr
      _ = (base : ℚ) ^ ((high : Int) - low + 1) := by
          rw [sub_add_eq_add_sub, zpow_sub₀ base_ne]
          norm_cast

/-- The power of a base in which a quotient lies is the estimate by digits or the one below. -/
theorem quotient_order {guess : Int} (positive : 0 < base) (denominator_pos : 0 < denominator)
    (above : (base : ℚ) ^ (guess - 1) ≤ numerator / denominator)
    (below : (numerator : ℚ) / denominator < (base : ℚ) ^ (guess + 1))
    (exponent_eq : exponent =
      if denominator * base ^ guess.toNat ≤ numerator * base ^ (-guess).toNat then guess
      else guess - 1) :
    (base : ℚ) ^ exponent ≤ numerator / denominator ∧
      (numerator : ℚ) / denominator < (base : ℚ) ^ (exponent + 1) := by
  have reached_iff : denominator * base ^ guess.toNat ≤ numerator * base ^ (-guess).toNat ↔
      (base : ℚ) ^ guess ≤ numerator / denominator :=
    pow_le_quotient_iff positive denominator_pos
  subst exponent_eq
  split
  · rename_i reached
    exact ⟨reached_iff.mp reached, below⟩
  · rename_i missed
    rw [sub_add_cancel]
    exact ⟨above, not_le.mp fun reached => missed (reached_iff.mpr reached)⟩

theorem exponent_unique (one_lt : 1 < base) (exponent_le : (base : ℚ) ^ exponent ≤ ratio)
    (lt_exponent : ratio < (base : ℚ) ^ (exponent + 1)) (other_le : (base : ℚ) ^ other ≤ ratio)
    (lt_other : ratio < (base : ℚ) ^ (other + 1)) :
    exponent = other := by
  have base_gt : (1 : ℚ) < base := by exact_mod_cast one_lt
  have first := (zpow_lt_zpow_iff_right₀ base_gt).mp (exponent_le.trans_lt lt_other)
  have second := (zpow_lt_zpow_iff_right₀ base_gt).mp (other_le.trans_lt lt_exponent)
  omega

theorem binaryExponent_spec (numerator_pos : 0 < numerator) (denominator_pos : 0 < denominator) :
    (2 : ℚ) ^ binaryExponent numerator denominator ≤ numerator / denominator ∧
      (numerator : ℚ) / denominator < (2 : ℚ) ^ (binaryExponent numerator denominator + 1) := by
  rcases quotient_between (by decide)
    (Nat.log2_self_le (Nat.ne_of_gt numerator_pos)) Nat.lt_log2_self
    (Nat.log2_self_le (Nat.ne_of_gt denominator_pos)) Nat.lt_log2_self with ⟨above, below⟩
  refine quotient_order (by decide) denominator_pos above below ?_
  simp only [binaryExponent, Nat.shiftLeft_eq]

theorem binaryExponent_eq (numerator_pos : 0 < numerator) (denominator_pos : 0 < denominator)
    (above : (2 : ℚ) ^ exponent ≤ numerator / denominator)
    (below : (numerator : ℚ) / denominator < (2 : ℚ) ^ (exponent + 1)) :
    binaryExponent numerator denominator = exponent := by
  rcases binaryExponent_spec numerator_pos denominator_pos with ⟨reached, within⟩
  exact exponent_unique (by decide) reached within above below

/-! ## The nearest whole number -/

theorem nearestEven_near (numerator : Nat) (denominator_pos : 0 < denominator) :
    |(nearestEven numerator denominator : ℚ) - numerator / denominator| ≤ 1 / 2 := by
  have split_eq := Nat.div_add_mod numerator denominator
  have remainder_lt := Nat.mod_lt numerator denominator_pos
  have positive : (0 : ℚ) < denominator := by exact_mod_cast denominator_pos
  have bounds :
      2 * (denominator * nearestEven numerator denominator) ≤ 2 * numerator + denominator ∧
        2 * numerator ≤ 2 * (denominator * nearestEven numerator denominator) + denominator := by
    simp only [nearestEven]
    split
    · omega
    · split
      · rw [Nat.mul_add]
        omega
      · rw [Nat.mul_add]
        rcases Nat.mod_two_eq_zero_or_one (numerator / denominator) with even | odd
        · rw [even]
          omega
        · rw [odd]
          omega
  rcases bounds with ⟨upper, lower⟩
  have upper : 2 * ((denominator : ℚ) * nearestEven numerator denominator) ≤
      2 * numerator + denominator := by exact_mod_cast upper
  have lower : 2 * (numerator : ℚ) ≤
      2 * (denominator * nearestEven numerator denominator) + denominator := by exact_mod_cast lower
  rw [abs_le, le_sub_iff_add_le, sub_le_iff_le_add, ← le_sub_iff_add_le', div_le_iff₀ positive,
    ← sub_le_iff_le_add', le_div_iff₀ positive]
  constructor
  · linarith
  · linarith

theorem nearestEven_eq {whole : Nat} (denominator_pos : 0 < denominator)
    (near : |(numerator : ℚ) / denominator - whole| < 1 / 2) :
    nearestEven numerator denominator = whole := by
  have rounded := abs_le.mp (nearestEven_near numerator denominator_pos)
  rw [abs_lt] at near
  have upper : (nearestEven numerator denominator : ℚ) < (whole + 1 : Nat) := by
    push_cast
    linarith
  have lower : (whole : ℚ) < (nearestEven numerator denominator + 1 : Nat) := by
    push_cast
    linarith
  have upper := Nat.cast_lt.mp upper
  have lower := Nat.cast_lt.mp lower
  omega

theorem nearestEven_mul {factor : Nat} (positive : 0 < factor) :
    nearestEven (numerator * factor) (denominator * factor) =
      nearestEven numerator denominator := by
  have twice : 2 * (numerator % denominator * factor) = 2 * (numerator % denominator) * factor := by
    ring
  simp only [nearestEven, Nat.mul_div_mul_right _ _ positive, Nat.mul_mod_mul_right, twice,
    Nat.mul_lt_mul_right positive]

/-! ## The numbers of magnitudes -/

namespace Format

variable {format : Format} {magnitude : Nat}

/-- The number of a finite magnitude. -/
def value (format : Format) (magnitude : Nat) : ℚ :=
  (format.decode magnitude).1 * 2 ^ (format.decode magnitude).2

/-- A significand and an exponent that a finite magnitude of a format has. -/
structure Represents (format : Format) (magnitude significand : Nat) (exponent : Int) : Prop where
  least_le : format.leastExponent ≤ exponent
  magnitude_eq : magnitude =
    (exponent - format.leastExponent).toNat * 2 ^ (format.precision - 1) + significand
  significand_lt : significand < 2 * 2 ^ (format.precision - 1)
  normal : exponent = format.leastExponent ∨ 2 ^ (format.precision - 1) ≤ significand

theorem represents_decode (format : Format) (magnitude : Nat) :
    format.Represents magnitude (format.decode magnitude).1 (format.decode magnitude).2 := by
  have positive : 0 < 2 ^ (format.precision - 1) := Nat.two_pow_pos _
  have split_eq := Nat.div_add_mod' magnitude (2 ^ (format.precision - 1))
  have remainder_lt := Nat.mod_lt magnitude positive
  simp only [decode, Nat.one_shiftLeft]
  generalize magnitude / 2 ^ (format.precision - 1) = steps at *
  cases steps with
  | zero =>
      constructor
      · simp
      · simp
      · simp only [if_true]
        omega
      · exact .inl rfl
  | succ steps =>
      rw [Nat.succ_mul] at split_eq
      constructor
      · simp only [Nat.succ_ne_zero, if_false]
        omega
      · have steps_eq : (format.leastExponent + steps - format.leastExponent).toNat = steps := by
          omega
        simp only [Nat.succ_ne_zero, if_false, Nat.add_one_sub_one, steps_eq]
        omega
      · simp only [Nat.succ_ne_zero, if_false]
        omega
      · simp only [Nat.succ_ne_zero, if_false]
        exact .inr (Nat.le_add_right _ _)

/-- A magnitude has only one significand and exponent. -/
theorem Represents.decode_eq {significand : Nat}
    (represents : format.Represents magnitude significand exponent) :
    format.decode magnitude = (significand, exponent) := by
  rcases represents with ⟨least_le, magnitude_eq, significand_lt, normal⟩
  have positive : 0 < 2 ^ (format.precision - 1) := Nat.two_pow_pos _
  simp only [decode, Nat.one_shiftLeft]
  generalize 2 ^ (format.precision - 1) = hidden at *
  by_cases subnormal : significand < hidden
  · have least : exponent = format.leastExponent := normal.resolve_right (by omega)
    have magnitude_eq : magnitude = significand := by simpa [least] using magnitude_eq
    rw [magnitude_eq, Nat.div_eq_of_lt subnormal, if_pos rfl, least]
  · have remainder_lt : significand - hidden < hidden := by omega
    have magnitude_eq : magnitude =
        significand - hidden + hidden * ((exponent - format.leastExponent).toNat + 1) := by
      rw [magnitude_eq, Nat.mul_add, Nat.mul_comm]
      omega
    rw [magnitude_eq, Nat.add_mul_div_left _ _ positive, Nat.div_eq_of_lt remainder_lt,
      Nat.add_mul_mod_self_left, Nat.mod_eq_of_lt remainder_lt, if_neg (by omega)]
    refine Prod.ext ?_ ?_
    · simp only
      omega
    · simp only
      omega

theorem Represents.value_eq {significand : Nat}
    (represents : format.Represents magnitude significand exponent) :
    format.value magnitude = significand * 2 ^ exponent := by
  rw [value, represents.decode_eq]

theorem quotient_eq (format : Format) (magnitude : Nat) :
    ((format.quotient magnitude).1 : ℚ) / (format.quotient magnitude).2 =
      format.value magnitude := by
  simp only [quotient, Nat.shiftLeft_eq, Nat.one_mul, value]
  rw [zpow_eq_div]
  push_cast
  rw [mul_div_assoc]

theorem quotient_snd_pos (format : Format) (magnitude : Nat) :
    0 < (format.quotient magnitude).2 := by
  simp only [quotient, Nat.one_shiftLeft]
  exact Nat.two_pow_pos _

theorem value_pos (magnitude_pos : 0 < magnitude) : 0 < format.value magnitude := by
  rcases represents_decode format magnitude with ⟨least_le, magnitude_eq, _, normal⟩
  have significand_pos : 0 < (format.decode magnitude).1 := by
    rcases normal with least | normal
    · simp only [least, sub_self, Int.toNat_zero, Nat.zero_mul, Nat.zero_add] at magnitude_eq
      omega
    · exact Nat.lt_of_lt_of_le (Nat.two_pow_pos _) normal
  unfold value
  positivity

/-- The exponent of a quotient and the significand nearest to it give the magnitude. -/
theorem round_eq {significand : Nat} (numerator_pos : 0 < numerator)
    (denominator_pos : 0 < denominator)
    (exponent_eq : max format.leastExponent
      (binaryExponent numerator denominator - (format.precision - 1 : Nat)) = exponent)
    (near : |(numerator : ℚ) / denominator - significand * 2 ^ exponent| < 2 ^ exponent / 2) :
    format.round numerator denominator =
      min ((exponent - format.leastExponent).toNat * 2 ^ (format.precision - 1) + significand)
        format.infinity := by
  have unit_pos : (0 : ℚ) < 2 ^ exponent := by positivity
  have scaled := scaled_quotient Nat.two_pos numerator denominator exponent
  have rounded : nearestEven (numerator * 2 ^ (-exponent).toNat)
      (denominator * 2 ^ exponent.toNat) = significand := by
    apply nearestEven_eq (Nat.mul_pos denominator_pos (Nat.two_pow_pos _))
    rw [scaled, Nat.cast_ofNat, div_sub' unit_pos.ne', abs_div, abs_of_pos unit_pos,
      div_lt_iff₀ unit_pos, mul_comm _ (significand : ℚ)]
    linarith
  simp only [round, if_neg (Nat.ne_of_gt numerator_pos), exponent_eq, Nat.shiftLeft_eq, rounded]

/-- A quotient near the number of a finite magnitude is less than half a unit away from it. -/
theorem deviation_lt {significand place : Nat} (significand_lt : significand < 2 * 2 ^ place)
    (near : |ratio - significand * 2 ^ exponent| * (4 * 2 ^ place) < significand * 2 ^ exponent) :
    |ratio - significand * 2 ^ exponent| < 2 ^ exponent / 2 := by
  have unit_pos : (0 : ℚ) < 2 ^ exponent := by positivity
  have significand_lt : (significand : ℚ) < 2 * 2 ^ place := by exact_mod_cast significand_lt
  have place_pos : (0 : ℚ) < 2 ^ place := by positivity
  by_contra far
  have scale_nonneg : (0 : ℚ) ≤ 4 * 2 ^ place := by positivity
  have atLeast := mul_le_mul_of_nonneg_right (not_lt.mp far) scale_nonneg
  have atMost := mul_lt_mul_of_pos_right significand_lt unit_pos
  linarith

theorem exponent_eq_of_between {place : Nat} (numerator_pos : 0 < numerator)
    (denominator_pos : 0 < denominator) (least_le : format.leastExponent ≤ exponent)
    (above : (2 : ℚ) ^ place * 2 ^ exponent ≤ numerator / denominator)
    (below : (numerator : ℚ) / denominator < 2 * 2 ^ place * 2 ^ exponent) :
    max format.leastExponent (binaryExponent numerator denominator - place) = exponent := by
  have power : (2 : ℚ) ^ ((place : Int) + exponent) = 2 ^ place * 2 ^ exponent := by
    rw [zpow_add₀ (by norm_num), zpow_natCast]
  have next : (2 : ℚ) ^ ((place : Int) + exponent + 1) = 2 * 2 ^ place * 2 ^ exponent := by
    rw [zpow_add_one₀ (by norm_num), power]
    ring
  rw [← power] at above
  rw [← next] at below
  rw [binaryExponent_eq numerator_pos denominator_pos above below]
  omega

/--
Only the first number of its exponent has smaller ones nearby that have a smaller exponent. They are
rounded in units half as large.
-/
theorem round_below_first {place : Nat} (place_eq : format.precision - 1 = place)
    (numerator_pos : 0 < numerator) (denominator_pos : 0 < denominator)
    (least_lt : format.leastExponent < exponent)
    (below : (numerator : ℚ) / denominator < 2 ^ place * 2 ^ exponent)
    (near : |(numerator : ℚ) / denominator - 2 ^ place * 2 ^ exponent| * (4 * 2 ^ place) <
      2 ^ place * 2 ^ exponent) :
    format.round numerator denominator =
      min ((exponent - format.leastExponent).toNat * 2 ^ place + 2 ^ place) format.infinity := by
  have unit_pos : (0 : ℚ) < 2 ^ exponent := by positivity
  have hidden_ge : (1 : ℚ) ≤ 2 ^ place := one_le_pow₀ (by norm_num)
  have half_unit : (2 : ℚ) ^ (exponent - 1) = 2 ^ exponent / 2 := by
    rw [zpow_sub_one₀ (by norm_num), div_eq_mul_inv]
  have quarter : |(numerator : ℚ) / denominator - 2 ^ place * 2 ^ exponent| < 2 ^ exponent / 4 := by
    by_contra far
    have atLeast := mul_le_mul_of_nonneg_right (not_lt.mp far)
      (by positivity : (0 : ℚ) ≤ 4 * 2 ^ place)
    linarith
  have closer : |(numerator : ℚ) / denominator - (2 * 2 ^ place : Nat) * 2 ^ (exponent - 1)| <
      2 ^ (exponent - 1) / 2 := by
    have same : ((2 * 2 ^ place : Nat) : ℚ) * 2 ^ (exponent - 1) = 2 ^ place * 2 ^ exponent := by
      rw [half_unit]
      push_cast
      ring
    rw [same, half_unit]
    linarith
  have exponent_eq : max format.leastExponent
      (binaryExponent numerator denominator - (format.precision - 1 : Nat)) = exponent - 1 := by
    rcases abs_lt.mp quarter with ⟨less, _⟩
    have unit_le := mul_le_mul_of_nonneg_right hidden_ge unit_pos.le
    rw [place_eq]
    apply exponent_eq_of_between numerator_pos denominator_pos (by omega)
    · rw [half_unit]
      linarith
    · rw [half_unit]
      linarith
  have steps_eq : (exponent - format.leastExponent).toNat =
      (exponent - 1 - format.leastExponent).toNat + 1 := by
    omega
  rw [round_eq numerator_pos denominator_pos exponent_eq closer, place_eq, steps_eq]
  congr 1
  ring

/-- A quotient near the number of a finite magnitude rounds to that magnitude. -/
theorem round_of_near (precise : 0 < format.precision) (magnitude_pos : 0 < magnitude)
    (finite : magnitude < format.infinity) (denominator_pos : 0 < denominator)
    (near : |(numerator : ℚ) / denominator - format.value magnitude| *
      2 ^ (format.precision + 1) < format.value magnitude) :
    format.round numerator denominator = magnitude := by
  have value_pos : 0 < format.value magnitude := value_pos magnitude_pos
  rcases represents_decode format magnitude with ⟨least_le, magnitude_eq, significand_lt, normal⟩
  unfold value at near value_pos
  generalize (format.decode magnitude).1 = significand at *
  generalize (format.decode magnitude).2 = exponent at *
  obtain ⟨place, precision_eq⟩ : ∃ place, format.precision = place + 1 :=
    ⟨format.precision - 1, by omega⟩
  have place_eq : format.precision - 1 = place := by omega
  rw [place_eq] at significand_lt magnitude_eq normal
  have four_hidden : (2 : ℚ) ^ (format.precision + 1) = 4 * 2 ^ place := by
    rw [precision_eq]
    ring
  rw [four_hidden] at near
  have unit_pos : (0 : ℚ) < 2 ^ exponent := by positivity
  have hidden_ge : (1 : ℚ) ≤ 2 ^ place := one_le_pow₀ (by norm_num)
  have deviation := deviation_lt significand_lt near
  rcases abs_lt.mp deviation with ⟨above, below⟩
  have numerator_pos : 0 < numerator := by
    rcases Nat.eq_zero_or_pos numerator with rfl | positive
    · rw [Nat.cast_zero, zero_div, zero_sub, abs_neg, abs_of_pos value_pos] at near
      have larger := le_mul_of_one_le_right value_pos.le (by linarith : 1 ≤ 4 * (2 : ℚ) ^ place)
      exact absurd near (not_lt.mpr larger)
    · exact positive
  have rounds (exponent_eq : max format.leastExponent
      (binaryExponent numerator denominator - (format.precision - 1 : Nat)) = exponent) :
      format.round numerator denominator = magnitude := by
    rw [round_eq numerator_pos denominator_pos exponent_eq deviation, place_eq, ← magnitude_eq]
    exact Nat.min_eq_left finite.le
  -- The exponent of the quotient is that of the number, unless the number is the first of its
  -- exponent and the quotient lies below it.
  by_cases lower : (numerator : ℚ) / denominator < 2 ^ place * 2 ^ exponent
  · by_cases least : exponent = format.leastExponent
    · apply rounds
      have reached := (binaryExponent_spec numerator_pos denominator_pos).1.trans_lt lower
      rw [← zpow_natCast, ← zpow_add₀ (by norm_num)] at reached
      have less := (zpow_lt_zpow_iff_right₀ (by norm_num : (1 : ℚ) < 2)).mp reached
      omega
    · have hidden_le := normal.resolve_left least
      have first : significand = 2 ^ place := by
        have less : (significand : ℚ) * 2 ^ exponent < (2 ^ place + 1 : Nat) * 2 ^ exponent := by
          push_cast
          linarith
        have less := Nat.cast_lt.mp (lt_of_mul_lt_mul_right less unit_pos.le)
        omega
      rw [first] at magnitude_eq near
      push_cast at near
      rw [round_below_first place_eq numerator_pos denominator_pos (by omega) lower near,
        ← magnitude_eq]
      exact Nat.min_eq_left finite.le
  · apply rounds
    have significand_le : (significand : ℚ) + 1 ≤ 2 * 2 ^ place := by
      exact_mod_cast significand_lt
    have upper := mul_le_mul_of_nonneg_right significand_le unit_pos.le
    rw [place_eq]
    apply exponent_eq_of_between numerator_pos denominator_pos least_le (not_lt.mp lower)
    linarith

theorem round_mul {factor : Nat} (denominator_pos : 0 < denominator) (factor_pos : 0 < factor) :
    format.round (numerator * factor) (denominator * factor) =
      format.round numerator denominator := by
  rcases Nat.eq_zero_or_pos numerator with rfl | numerator_pos
  · simp [round]
  · have same_exponent : binaryExponent (numerator * factor) (denominator * factor) =
        binaryExponent numerator denominator := by
      rcases binaryExponent_spec numerator_pos denominator_pos with ⟨above, below⟩
      have same : ((numerator * factor : Nat) : ℚ) / (denominator * factor : Nat) =
          numerator / denominator := by
        push_cast
        exact mul_div_mul_right _ _ (Nat.cast_ne_zero.mpr (Nat.ne_of_gt factor_pos))
      apply binaryExponent_eq (Nat.mul_pos numerator_pos factor_pos)
        (Nat.mul_pos denominator_pos factor_pos)
      · rw [same]
        exact above
      · rw [same]
        exact below
    have product_ne := Nat.ne_of_gt (Nat.mul_pos numerator_pos factor_pos)
    simp only [round, if_neg product_ne, if_neg (Nat.ne_of_gt numerator_pos), same_exponent,
      Nat.shiftLeft_eq, Nat.mul_right_comm _ factor, nearestEven_mul factor_pos]

/-- Rounding depends on the quotient alone. -/
theorem round_congr {numerator' denominator' : Nat} (denominator_pos : 0 < denominator)
    (denominator_pos' : 0 < denominator')
    (same : numerator * denominator' = numerator' * denominator) :
    format.round numerator denominator = format.round numerator' denominator' := by
  rw [← round_mul denominator_pos denominator_pos', same, Nat.mul_comm denominator,
    round_mul denominator_pos' denominator_pos]

/-! ## Conversion -/

/-- Conversion to a format that has a number keeps it. -/
theorem convert_of_value_eq {source target : Format} {other : Nat} (precise : 0 < target.precision)
    (finite : magnitude < source.infinity) (other_pos : 0 < other)
    (other_finite : other < target.infinity)
    (same : source.value magnitude = target.value other) :
    source.convert target magnitude = other := by
  have value_pos : 0 < target.value other := value_pos other_pos
  have near : |((source.quotient magnitude).1 : ℚ) / (source.quotient magnitude).2 -
      target.value other| * 2 ^ (target.precision + 1) < target.value other := by
    rw [quotient_eq, same, sub_self, abs_zero, zero_mul]
    exact value_pos
  simp only [convert, if_pos finite]
  exact round_of_near precise other_pos other_finite (quotient_snd_pos source magnitude) near

/-- Every finite number of single precision has a place in double precision. -/
theorem exists_double_of_single (magnitude_pos : 0 < magnitude)
    (finite : magnitude < single.infinity) :
    ∃ other, 0 < other ∧ other < double.infinity ∧ single.value magnitude = double.value other := by
  rcases represents_decode single magnitude with ⟨least_le, magnitude_eq, significand_lt, normal⟩
  have value_eq : single.value magnitude =
      (single.decode magnitude).1 * 2 ^ (single.decode magnitude).2 := rfl
  generalize (single.decode magnitude).1 = significand at *
  generalize (single.decode magnitude).2 = exponent at *
  simp only [single, Nat.add_one_sub_one] at least_le magnitude_eq significand_lt normal finite
  have significand_ne : significand ≠ 0 := by
    rintro rfl
    rcases normal with rfl | normal
    · simp at magnitude_eq
      omega
    · simp at normal
  have leading_le := Nat.log2_self_le significand_ne
  have lt_leading := Nat.lt_log2_self (n := significand)
  have place_le : significand.log2 ≤ 23 :=
    Nat.lt_succ_iff.mp ((Nat.log2_lt significand_ne).mpr significand_lt)
  obtain ⟨shift, place_eq⟩ : ∃ shift, significand.log2 + shift = 52 :=
    ⟨52 - significand.log2, by omega⟩
  have shifted_ge : 2 ^ 52 ≤ significand * 2 ^ shift := by
    rw [← place_eq, Nat.pow_add]
    exact Nat.mul_le_mul_right _ leading_le
  have shifted_lt : significand * 2 ^ shift < 2 * 2 ^ 52 := by
    rw [← place_eq, Nat.pow_add, ← Nat.mul_assoc, ← Nat.pow_succ']
    exact Nat.mul_lt_mul_of_pos_right lt_leading (Nat.two_pow_pos _)
  have represents : double.Represents
      ((exponent - shift + 1074).toNat * 2 ^ 52 + significand * 2 ^ shift)
      (significand * 2 ^ shift) (exponent - shift) := by
    constructor
    · simp only [double]
      omega
    · simp only [double, Int.sub_neg]
    · exact shifted_lt
    · exact .inr shifted_ge
  refine ⟨(exponent - shift + 1074).toNat * 2 ^ 52 + significand * 2 ^ shift, ?_, ?_, ?_⟩
  · omega
  · simp only [double]
    omega
  · rw [represents.value_eq, value_eq, zpow_sub₀ (by norm_num), zpow_natCast]
    push_cast
    field_simp

end Format

end NetImport
