import Mathlib.Algebra.Order.Archimedean.Basic
import Mhvp.Core.Decimal
import Mhvp.Lib.Rounding

namespace Mhvp.Core

/-- Relative error of a result in the default context. -/
def contextError : ℚ := 1 / (2 * 10 ^ 27)

theorem roundHalfEven_error (value : ℚ) : |(roundHalfEven value : ℚ) - value| ≤ 1 / 2 := by
  have below := Int.floor_le value
  have above := Int.lt_floor_add_one value
  have isFloor : (value.floor : ℚ) = (⌊value⌋ : ℚ) := rfl
  unfold roundHalfEven
  dsimp only
  rw [isFloor]
  split
  · rename_i down
    rw [abs_le]
    constructor <;> rcases down with less | ⟨half, -⟩ <;> linarith
  · rename_i up
    push Not at up
    have atLeast := up.1
    push_cast
    rw [abs_le]
    constructor <;> linarith

theorem digits_le (large : 1 ≤ value) : (10 : ℚ) ^ ((toString (Rat.floor value).natAbs).length - 1) ≤ value := by
  have isFloor : Rat.floor value = ⌊value⌋ := rfl
  have whole : ((⌊value⌋.natAbs : ℕ) : ℚ) ≤ value := by
    have positive : 0 ≤ ⌊value⌋ := Int.floor_nonneg.mpr (by linarith)
    have cast : ((⌊value⌋.natAbs : ℕ) : ℚ) = (⌊value⌋ : ℚ) := by
      rw [Nat.cast_natAbs, abs_of_nonneg positive]
    rw [cast]
    exact Int.floor_le value
  rw [isFloor]
  have natOne : 1 ≤ ⌊value⌋.natAbs := by
    have one : 1 ≤ ⌊value⌋ := Int.le_floor.mpr (by exact_mod_cast large)
    omega
  generalize ⌊value⌋.natAbs = number at *
  refine le_trans ?_ whole
  have isRepr : toString number = number.repr := rfl
  rw [isRepr]
  by_cases single : number.repr.length - 1 = 0
  · rw [single]
    exact_mod_cast natOne
  · have shorter : ¬ number.repr.length ≤ number.repr.length - 1 := by omega
    rw [Nat.length_repr_le_iff (Nat.pos_of_ne_zero single)] at shorter
    exact_mod_cast Nat.le_of_not_lt shorter

theorem lt_digits (value : ℚ) (positive : 0 ≤ value) :
    value < (10 : ℚ) ^ (toString (Rat.floor value).natAbs).length := by
  have isFloor : Rat.floor value = ⌊value⌋ := rfl
  have floorPos : 0 ≤ ⌊value⌋ := Int.floor_nonneg.mpr positive
  have whole : value < ((⌊value⌋.natAbs : ℕ) : ℚ) + 1 := by
    have cast : ((⌊value⌋.natAbs : ℕ) : ℚ) = (⌊value⌋ : ℚ) := by
      rw [Nat.cast_natAbs, abs_of_nonneg floorPos]
    rw [cast]
    exact Int.lt_floor_add_one value
  rw [isFloor]
  generalize ⌊value⌋.natAbs = number at *
  refine lt_of_lt_of_le whole ?_
  have isRepr : toString number = number.repr := rfl
  rw [isRepr]
  have fits := (Nat.length_repr_le_iff (n := number) Nat.length_repr_pos).mp (Nat.le_refl _)
  exact_mod_cast fits

theorem places_enough (positive : 0 < size) : ∃ places : ℤ, 10 ^ 27 ≤ size * (10 : ℚ) ^ places ∧
    size * (10 : ℚ) ^ places ≤ 10 ^ 28 ∧ ∀ value, |value| = size → contextRound value =
      if value < 0 then -((roundHalfEven (size * 10 ^ places) : ℚ) / 10 ^ places)
      else (roundHalfEven (size * 10 ^ places) : ℚ) / 10 ^ places := by
  by_cases large : 1 ≤ size
  · refine ⟨contextDigits - (toString (Rat.floor size).natAbs).length, ?_, ?_, ?_⟩
    · have enough := digits_le large
      have atLeastOne : 1 ≤ (toString (Rat.floor size).natAbs).length := Nat.length_repr_pos
      have exponent : ((contextDigits : ℤ) - ((toString (Rat.floor size).natAbs).length : ℤ)) =
          27 - (((toString (Rat.floor size).natAbs).length - 1 : ℕ) : ℤ) := by
        unfold contextDigits
        omega
      rw [exponent, zpow_sub₀ (by norm_num), zpow_natCast, mul_div_assoc', le_div_iff₀ (by positivity), mul_comm size]
      exact mul_le_mul_of_nonneg_left enough (by positivity)
    · have few := lt_digits size positive.le
      generalize (toString (Rat.floor size).natAbs).length = digits at few
      have scale : (0 : ℚ) < 10 ^ digits := by positivity
      rw [zpow_sub₀ (by norm_num), zpow_natCast, zpow_natCast, mul_div_assoc', div_le_iff₀ scale, mul_comm]
      exact mul_le_mul_of_nonneg_left few.le (by norm_num)
    · rintro value rfl
      simp [contextRound, large]
  · have inverse : 0 ≤ size⁻¹ := le_of_lt (inv_pos.mpr positive)
    refine ⟨contextDigits - 1 + (toString (Rat.floor size⁻¹).natAbs).length, ?_, ?_, ?_⟩
    · have enough := lt_digits size⁻¹ inverse
      rw [zpow_add₀ (by norm_num), zpow_natCast]
      have one : 1 ≤ size * (10 : ℚ) ^ (toString (Rat.floor size⁻¹).natAbs).length := by
        have scaled := mul_le_mul_of_nonneg_left (le_of_lt enough) (le_of_lt positive)
        rwa [mul_inv_cancel₀ (ne_of_gt positive)] at scaled
      have digits : (10 : ℚ) ^ ((contextDigits : ℤ) - 1) = 10 ^ 27 := by
        norm_num [contextDigits]
      rw [digits]
      calc (10 : ℚ) ^ 27 = 10 ^ 27 * 1 := by ring
        _ ≤ 10 ^ 27 * (size * (10 : ℚ) ^ (toString (Rat.floor size⁻¹).natAbs).length) :=
            mul_le_mul_of_nonneg_left one (by positivity)
        _ = size * (10 ^ 27 * (10 : ℚ) ^ (toString (Rat.floor size⁻¹).natAbs).length) := by ring
    · have atLeastOne : 1 ≤ (toString (Rat.floor size⁻¹).natAbs).length := Nat.length_repr_pos
      have few := digits_le ((one_le_inv₀ positive).mpr (not_le.mp large).le)
      generalize (toString (Rat.floor size⁻¹).natAbs).length = digits at *
      obtain ⟨more, rfl⟩ := Nat.exists_eq_add_of_le' atLeastOne
      rw [Nat.add_sub_cancel] at few
      have scaled := mul_le_mul_of_nonneg_left few positive.le
      rw [mul_inv_cancel₀ positive.ne'] at scaled
      have exponent : (contextDigits : ℤ) - 1 + ((more + 1 : ℕ) : ℤ) = 28 + more := by
        unfold contextDigits
        push_cast
        omega
      rw [exponent, zpow_add₀ (by norm_num), zpow_natCast]
      calc size * (10 ^ (28 : ℤ) * (10 : ℚ) ^ more) = 10 ^ 28 * (size * 10 ^ more) := by ring
        _ ≤ 10 ^ 28 * 1 := mul_le_mul_of_nonneg_left scaled (by positivity)
        _ = 10 ^ 28 := mul_one _
    · rintro value rfl
      simp [contextRound, large]

theorem contextRound_error (value : ℚ) : |contextRound value - value| ≤ contextError * |value| := by
  by_cases zero : value = 0
  · subst zero
    decide +kernel
  · have positive : 0 < |value| := abs_pos.mpr zero
    obtain ⟨places, enough, -, isRound⟩ := places_enough positive
    have scale : (0 : ℚ) < 10 ^ places := zpow_pos (by norm_num) places
    have sizeError : abs ((roundHalfEven (|value| * 10 ^ places) : ℚ) / 10 ^ places - abs value) ≤
        contextError * |value| := by
      have half := roundHalfEven_error (|value| * 10 ^ places)
      have scaled : (roundHalfEven (|value| * 10 ^ places) : ℚ) / 10 ^ places - |value| =
          ((roundHalfEven (|value| * 10 ^ places) : ℚ) - |value| * 10 ^ places) / 10 ^ places := by
        field_simp
      rw [scaled, abs_div, abs_of_pos scale, div_le_iff₀ scale]
      refine half.trans ?_
      unfold contextError
      have least : (1 : ℚ) / 2 = 1 / (2 * 10 ^ 27) * 10 ^ 27 := by norm_num
      rw [least, mul_assoc]
      exact mul_le_mul_of_nonneg_left enough (by positivity)
    rw [isRound value rfl]
    split
    · rename_i negative
      have sizeIs : |value| = -value := abs_of_neg negative
      have flipped : -((roundHalfEven (|value| * 10 ^ places) : ℚ) / 10 ^ places) - value =
          -((roundHalfEven (|value| * 10 ^ places) : ℚ) / 10 ^ places - |value|) := by
        rw [sizeIs]
        ring
      rw [flipped, abs_neg]
      exact sizeError
    · rename_i notNegative
      have sizeIs : |value| = value := abs_of_nonneg (le_of_not_gt notNegative)
      rw [sizeIs] at sizeError ⊢
      exact sizeError

theorem roundHalfEven_intCast (number : ℤ) : roundHalfEven number = number := by
  have isFloor : Rat.floor (number : ℚ) = number := by
    have same : Rat.floor (number : ℚ) = ⌊(number : ℚ)⌋ := rfl
    rw [same, Int.floor_intCast]
  unfold roundHalfEven
  rw [isFloor]
  norm_num

theorem roundHalfEven_powTen (power : ℕ) : roundHalfEven (10 ^ power) = 10 ^ power := by
  have whole := roundHalfEven_intCast (10 ^ power)
  push_cast at whole
  exact whole

theorem contextRound_eq {value : ℚ} (positive : 0 < value) {places : ℤ} (enough : 10 ^ 27 ≤ value * (10 : ℚ) ^ places)
    (few : value * (10 : ℚ) ^ places < 10 ^ 28) :
    contextRound value = (roundHalfEven (value * 10 ^ places) : ℚ) / 10 ^ places := by
  obtain ⟨used, usedEnough, usedFew, isRound⟩ := places_enough positive
  rw [isRound value (abs_of_pos positive), if_neg (not_lt.mpr positive.le)]
  have ten : (1 : ℚ) < 10 := by norm_num
  have atLeast : places ≤ used := by
    by_contra less
    have grown : (10 : ℚ) ^ (used + 1) ≤ 10 ^ places := zpow_le_zpow_right₀ ten.le (not_le.mp less)
    have scaled := mul_le_mul_of_nonneg_left grown positive.le
    rw [zpow_add₀ (by norm_num), zpow_one] at scaled
    linarith
  have atMost : used ≤ places + 1 := by
    by_contra more
    have grown : (10 : ℚ) ^ (places + 2) ≤ 10 ^ used := zpow_le_zpow_right₀ ten.le (by omega)
    have scaled := mul_le_mul_of_nonneg_left grown positive.le
    rw [zpow_add₀ (by norm_num)] at scaled
    norm_num at scaled usedFew enough
    linarith
  rcases eq_or_lt_of_le atLeast with same | next
  · rw [same]
  · -- a power of ten is given one digit more, and is exact with either
    have isNext : used = places + 1 := by omega
    have exactPower : value * (10 : ℚ) ^ places = 10 ^ 27 := by
      rw [isNext, zpow_add₀ (by norm_num), zpow_one] at usedFew
      linarith
    have nextPower : value * (10 : ℚ) ^ used = 10 ^ 28 := by
      rw [isNext, zpow_add₀ (by norm_num), zpow_one, ← mul_assoc, exactPower]
      norm_num
    rw [nextPower, exactPower, roundHalfEven_powTen, roundHalfEven_powTen, isNext, zpow_add₀ (by norm_num), zpow_one]
    have scale : (10 : ℚ) ^ places ≠ 0 := (zpow_pos (by norm_num) places).ne'
    push_cast
    rw [div_eq_div_iff (mul_ne_zero scale (by norm_num)) scale]
    ring

theorem contextRound_mul_zpow {value : ℚ} (nonneg : 0 ≤ value) (shift : ℤ) :
    contextRound (value * 10 ^ shift) = contextRound value * 10 ^ shift := by
  rcases eq_or_lt_of_le nonneg with rfl | positive
  · have zero : contextRound 0 = 0 := by decide +kernel
    rw [zero_mul, zero, zero_mul]
  · obtain ⟨power, atLeast, below⟩ := exists_mem_Ico_zpow positive (show (1 : ℚ) < 10 by norm_num)
    have scale : (0 : ℚ) < 10 ^ power := zpow_pos (by norm_num) power
    have enough : 10 ^ 27 ≤ value * (10 : ℚ) ^ (27 - power) := by
      rw [zpow_sub₀ (by norm_num), mul_div_assoc', le_div_iff₀ scale, mul_comm]
      exact mul_le_mul_of_nonneg_right atLeast (by positivity)
    have few : value * (10 : ℚ) ^ (27 - power) < 10 ^ 28 := by
      rw [zpow_sub₀ (by norm_num), mul_div_assoc', div_lt_iff₀ scale]
      rw [zpow_add₀ (by norm_num), zpow_one] at below
      norm_num
      linarith
    have shifted : value * (10 : ℚ) ^ shift * 10 ^ (27 - power - shift) = value * 10 ^ (27 - power) := by
      rw [mul_assoc, ← zpow_add₀ (by norm_num)]
      congr 2
      ring
    have shiftPositive : (0 : ℚ) < 10 ^ shift := zpow_pos (by norm_num) shift
    rw [contextRound_eq positive enough few, contextRound_eq (mul_pos positive shiftPositive)
      (by rw [shifted]; exact enough) (by rw [shifted]; exact few), shifted, zpow_sub₀ (by norm_num : (10 : ℚ) ≠ 0) _ shift]
    field_simp

theorem contextRound_natCast {number : ℕ} (few : number < 10 ^ 28) : contextRound number = number := by
  rcases Nat.eq_zero_or_pos number with rfl | positive
  · decide +kernel
  · have size : (0 : ℚ) < number := by exact_mod_cast positive
    obtain ⟨power, atLeast, below⟩ := exists_mem_Ico_zpow size (show (1 : ℚ) < 10 by norm_num)
    have powerLess : power < 28 := by
      have less : (10 : ℚ) ^ power < 10 ^ (28 : ℤ) := lt_of_le_of_lt atLeast (by exact_mod_cast few)
      exact (zpow_lt_zpow_iff_right₀ (by norm_num)).mp less
    have scale : (0 : ℚ) < 10 ^ power := zpow_pos (by norm_num) power
    obtain ⟨places, isPlaces⟩ := Int.eq_ofNat_of_zero_le (show 0 ≤ 27 - power by omega)
    have enough : 10 ^ 27 ≤ (number : ℚ) * (10 : ℚ) ^ (27 - power) := by
      rw [zpow_sub₀ (by norm_num), mul_div_assoc', le_div_iff₀ scale, mul_comm]
      exact mul_le_mul_of_nonneg_right atLeast (by positivity)
    have enoughFew : (number : ℚ) * (10 : ℚ) ^ (27 - power) < 10 ^ 28 := by
      rw [zpow_sub₀ (by norm_num), mul_div_assoc', div_lt_iff₀ scale]
      rw [zpow_add₀ (by norm_num), zpow_one] at below
      norm_num
      linarith
    rw [contextRound_eq size enough enoughFew, isPlaces]
    have isWhole : (number : ℚ) * (10 : ℚ) ^ ((places : ℕ) : ℤ) = ((number * 10 ^ places : ℕ) : ℤ) := by
      push_cast
      rw [zpow_natCast]
    rw [isWhole, roundHalfEven_intCast]
    push_cast
    rw [zpow_natCast, mul_div_assoc, div_self (by positivity), mul_one]

theorem contextRound_neg (value : ℚ) : contextRound (-value) = -contextRound value := by
  rcases lt_trichotomy value 0 with negative | rfl | positive
  · have flipped : ¬ -value < 0 := not_lt.mpr (neg_nonneg.mpr negative.le)
    simp only [contextRound, abs_neg, if_neg flipped, if_pos negative, neg_neg]
  · decide +kernel
  · have flipped : -value < 0 := neg_lt_zero.mpr positive
    simp only [contextRound, abs_neg, if_pos flipped, if_neg (not_lt.mpr positive.le)]

theorem contextRound_accurate : Lib.Rounding.Accurate contextRound contextError where
  within := contextRound_error
  nonneg := by norm_num [contextError]
  lt_one := by norm_num [contextError]

theorem roundHalfEven_mono (order : first ≤ second) : roundHalfEven first ≤ roundHalfEven second := by
  by_contra reversed
  have next : (roundHalfEven second : ℚ) + 1 ≤ roundHalfEven first := by exact_mod_cast not_le.mp reversed
  have firstError := (abs_le.mp (roundHalfEven_error first)).2
  have secondError := (abs_le.mp (roundHalfEven_error second)).1
  have same : first = second := le_antisymm order (by linarith)
  rw [same] at reversed
  exact reversed (le_refl _)

end Mhvp.Core
