import NetImport.Number.Word
import NetImport.Proofs.Number.Rounding

/-!
# Signs and magnitudes

A number is a sign and a magnitude, and any sign and magnitude make a number. A number of single
precision narrows to itself after it has been widened, unless it is not a number. Integers that fit
a word have a finite place in double precision.
-/

namespace NetImport

variable {negative : Bool} {magnitude : Nat}

/-- A word is its leading bit and the bits behind it. -/
theorem leading_add_rest {word leading : Nat} (small : word < 2 * leading) :
    (if decide (leading ≤ word) then leading else 0) + word % leading = word := by
  by_cases set : leading ≤ word
  · rw [Nat.mod_eq_sub_mod set, Nat.mod_eq_of_lt (by omega)]
    simp only [set, decide_true, if_true]
    omega
  · rw [Nat.mod_eq_of_lt (Nat.not_le.mp set)]
    simp [set]

theorem Binary32.ofMagnitude_magnitude (number : Binary32) :
    ofMagnitude number.isNegative number.magnitude = number := by
  have small : number.bits.toNat < 2 * signBit := number.bits.toNat_lt
  have parts := leading_add_rest small
  rw [ofMagnitude, isNegative, Binary32.magnitude, parts, UInt32.ofNat_toNat]

namespace Binary64

theorem ofMagnitude_magnitude (number : Binary64) :
    ofMagnitude number.isNegative number.magnitude = number := by
  have small : number.bits.toNat < 2 * signBit := number.bits.toNat_lt
  have parts := leading_add_rest small
  rw [ofMagnitude, isNegative, Binary64.magnitude, parts, UInt64.ofNat_toNat]

theorem toNat_ofMagnitude (small : magnitude < signBit) :
    (ofMagnitude negative magnitude).bits.toNat =
      (if negative then signBit else 0) + magnitude := by
  unfold signBit at small
  refine UInt64.toNat_ofNat_of_lt ?_
  rw [UInt64.size, signBit]
  split
  · omega
  · omega

theorem isNegative_ofMagnitude (small : magnitude < signBit) :
    (ofMagnitude negative magnitude).isNegative = negative := by
  rw [isNegative, toNat_ofMagnitude small]
  cases negative with
  | false => simp [small]
  | true => simp

theorem magnitude_ofMagnitude (small : magnitude < signBit) :
    (ofMagnitude negative magnitude).magnitude = magnitude := by
  rw [Binary64.magnitude, toNat_ofMagnitude small]
  cases negative with
  | false => simp [Nat.mod_eq_of_lt small]
  | true => simp [Nat.mod_eq_of_lt small]

end Binary64

/-! ## Widening -/

namespace Binary32

variable {number : Binary32}

/-- The magnitudes of numbers, with infinity, have places in double precision. -/
theorem exists_widened (isNumber : magnitude ≤ Format.single.infinity) :
    ∃ other, Format.single.convert Format.double magnitude = other ∧
      other ≤ Format.double.infinity ∧ Format.double.convert Format.single other = magnitude := by
  rcases Nat.eq_zero_or_pos magnitude with rfl | positive
  · exact ⟨0, by decide, by decide, by decide⟩
  · rcases Nat.lt_or_eq_of_le isNumber with finite | rfl
    · rcases Format.exists_double_of_single positive finite with
        ⟨other, other_pos, other_finite, same⟩
      exact ⟨other, Format.convert_of_value_eq (by decide) finite other_pos other_finite same,
        Nat.le_of_lt other_finite,
        Format.convert_of_value_eq (by decide) other_finite positive finite same.symm⟩
    · exact ⟨Format.double.infinity, by decide, Nat.le_refl _, by decide⟩

theorem magnitude_widen_le (isNumber : number.magnitude ≤ Format.single.infinity) :
    number.widen.magnitude ≤ Format.double.infinity := by
  rcases exists_widened isNumber with ⟨other, widened, other_le, _⟩
  rw [widen, widened, Binary64.magnitude_ofMagnitude (Nat.lt_of_le_of_lt other_le (by decide))]
  exact other_le

/-- A number narrows to itself after it has been widened. -/
theorem narrow_widen (isNumber : number.magnitude ≤ Format.single.infinity) :
    number.widen.narrow = number := by
  rcases exists_widened isNumber with ⟨other, widened, other_le, narrowed⟩
  have small : other < Binary64.signBit := Nat.lt_of_le_of_lt other_le (by decide)
  rw [widen, widened, Binary64.narrow, Binary64.isNegative_ofMagnitude small,
    Binary64.magnitude_ofMagnitude small, narrowed, ofMagnitude_magnitude]

/-- What is not a number stays so when it is widened. -/
theorem lt_magnitude_widen (noNumber : Format.single.infinity < number.magnitude) :
    Format.double.infinity < number.widen.magnitude := by
  have quiet_pos : 0 < 1 <<< (Format.double.precision - 2) := by decide
  have widened : ∃ rest < 1 <<< (Format.double.precision - 2),
      Format.single.convert Format.double number.magnitude =
        Format.double.infinity + 1 <<< (Format.double.precision - 2) + rest := by
    simp only [Format.convert, if_neg (Nat.not_lt.mpr (Nat.le_of_lt noNumber)),
      if_neg (Nat.ne_of_gt noNumber)]
    exact ⟨_, Nat.mod_lt _ quiet_pos, rfl⟩
  rcases widened with ⟨rest, rest_lt, widened⟩
  have small : Format.double.infinity + 1 <<< (Format.double.precision - 2) + rest <
      Binary64.signBit := Nat.lt_of_lt_of_le (Nat.add_lt_add_left rest_lt _) (by decide)
  rw [widen, widened, Binary64.magnitude_ofMagnitude small]
  omega

end Binary32

/-! ## Words -/

theorem nearestEven_le_succ (numerator denominator : Nat) :
    nearestEven numerator denominator ≤ numerator / denominator + 1 := by
  unfold nearestEven
  dsimp only
  split
  · omega
  · split
    · omega
    · omega

theorem binaryExponent_whole {whole : Nat} (nonzero : whole ≠ 0) :
    binaryExponent whole 1 = whole.log2 := by
  have reached := Nat.log2_self_le nonzero
  have least : Nat.log2 1 = 0 := by decide
  simp [binaryExponent, Nat.shiftLeft_eq, least, reached]

/-- Shifted to the place of its leading bit, a whole number has as many bits as a significand. -/
theorem shifted_lt {whole place : Nat} (small : whole < 2 ^ (place + 1)) :
    (whole <<< (-((place : Int) - 52)).toNat) / (1 <<< ((place : Int) - 52).toNat) < 2 ^ 53 := by
  rw [Nat.shiftLeft_eq, Nat.shiftLeft_eq, Nat.one_mul, Nat.div_lt_iff_lt_mul (Nat.two_pow_pos _),
    ← Nat.pow_add]
  calc
    whole * 2 ^ (-((place : Int) - 52)).toNat
      < 2 ^ (place + 1) * 2 ^ (-((place : Int) - 52)).toNat :=
        Nat.mul_lt_mul_of_pos_right small (Nat.two_pow_pos _)
    _ = 2 ^ (53 + ((place : Int) - 52).toNat) := by
        rw [← Nat.pow_add]
        congr 1
        omega

theorem round_word_lt {whole : Nat} (small : whole < wordCount) :
    Format.double.round whole 1 < Format.double.infinity := by
  unfold Format.round
  split
  · decide
  · rename_i nonzero
    have words : wordCount = 2 ^ 64 := by decide
    have place_lt : whole.log2 < 64 := (Nat.log2_lt nonzero).mpr (words ▸ small)
    have exponent_eq : max (-1074) ((whole.log2 : Int) - (53 - 1 : Nat)) = whole.log2 - 52 := by
      omega
    have steps_eq : ((whole.log2 : Int) - 52 - -1074).toNat = whole.log2 + 1022 := by
      omega
    have below := shifted_lt (Nat.lt_log2_self (n := whole))
    have significand_le := nearestEven_le_succ (whole <<< (-((whole.log2 : Int) - 52)).toNat)
      (1 <<< ((whole.log2 : Int) - 52).toNat)
    rw [binaryExponent_whole nonzero]
    simp only [Format.double, exponent_eq, steps_eq]
    rw [Nat.shiftLeft_eq (whole.log2 + 1022)]
    omega

/-- A word is finite in double precision. -/
theorem Binary64.isFinite_ofInt {value : Int} (fits : fitsSigned value) :
    (Binary64.ofInt value).isFinite := by
  simp only [fitsSigned, fitsSignedWord, Bool.and_eq_true, decide_eq_true_eq] at fits
  have small : value.natAbs < wordCount := by
    unfold wordCount at fits ⊢
    omega
  have rounded_lt := round_word_lt small
  have signless : Format.double.round value.natAbs 1 < signBit :=
    Nat.lt_trans rounded_lt (by decide)
  simpa [isFinite, ofInt, magnitude_ofMagnitude signless] using rounded_lt

end NetImport
