import Mhvp.Core.Precision

namespace Mhvp.Core.Binary64

variable {value bound : ℚ} {power : ℤ}

def step (value : ℚ) : ℚ := 2 ^ exponent |value|

/-- Size of the nearest float. -/
def size (value : ℚ) : ℚ := roundHalfEven (|value| / step value) * step value

theorem nearest_eq (value : ℚ) : nearest value =
    if 2 ^ 1024 ≤ size value then .infinity (value < 0) else .finite (if value < 0 then -size value else size value) := rfl

theorem step_pos (value : ℚ) : 0 < step value := zpow_pos (by norm_num) _

/-- A multiple of a power of two that is no smaller than the step is a multiple of the step. -/
theorem multiple_of_step (number : ℤ) (coarse : exponent |value| ≤ power) :
    ∃ steps : ℤ, (number : ℚ) * 2 ^ power = steps * step value := by
  obtain ⟨shift, isShift⟩ := Int.eq_ofNat_of_zero_le (sub_nonneg.mpr coarse)
  refine ⟨number * 2 ^ shift, ?_⟩
  have isPower : power = shift + exponent |value| := by omega
  unfold step
  rw [isPower, zpow_add₀ (by norm_num)]
  push_cast
  rw [zpow_natCast, mul_assoc]

section

variable (nonneg : 0 ≤ value) (number : ℤ) (coarse : exponent |value| ≤ power)
include nonneg number coarse

theorem le_size (reaches : (number : ℚ) * 2 ^ power ≤ value) : (number : ℚ) * 2 ^ power ≤ size value := by
  obtain ⟨steps, isSteps⟩ := multiple_of_step number coarse
  rw [isSteps] at reaches ⊢
  have order : (steps : ℚ) ≤ |value| / step value := by
    rw [abs_of_nonneg nonneg]
    exact (le_div_iff₀ (step_pos value)).mpr reaches
  have rounded := roundHalfEven_mono order
  rw [roundHalfEven_intCast] at rounded
  exact mul_le_mul_of_nonneg_right (Int.cast_le.mpr rounded) (step_pos value).le

theorem size_le (reaches : value ≤ (number : ℚ) * 2 ^ power) : size value ≤ (number : ℚ) * 2 ^ power := by
  obtain ⟨steps, isSteps⟩ := multiple_of_step number coarse
  rw [isSteps] at reaches ⊢
  have order : |value| / step value ≤ steps := by
    rw [abs_of_nonneg nonneg]
    exact (div_le_iff₀ (step_pos value)).mpr reaches
  have rounded := roundHalfEven_mono order
  rw [roundHalfEven_intCast] at rounded
  exact mul_le_mul_of_nonneg_right (Int.cast_le.mpr rounded) (step_pos value).le

end

theorem size_le_add (nonneg : 0 ≤ value) : size value ≤ value + step value / 2 := by
  have error := (abs_le.mp (roundHalfEven_error (|value| / step value))).2
  have scaled := mul_le_mul_of_nonneg_right error (step_pos value).le
  rw [sub_mul, div_mul_cancel₀ _ (step_pos value).ne', abs_of_nonneg nonneg] at scaled
  unfold size
  rw [abs_of_nonneg nonneg]
  linarith

theorem size_nonneg (value : ℚ) : 0 ≤ size value := by
  have order : ((0 : ℤ) : ℚ) ≤ |value| / step value := by
    rw [Int.cast_zero]
    exact div_nonneg (abs_nonneg _) (step_pos value).le
  have rounded := roundHalfEven_mono order
  rw [roundHalfEven_intCast] at rounded
  have nonneg : (0 : ℚ) ≤ roundHalfEven (|value| / step value) := by exact_mod_cast rounded
  exact mul_nonneg nonneg (step_pos value).le

theorem exponent_le (positive : 0 < value) (small : value < 2 ^ (power + 53)) (notTiny : -1074 ≤ power) :
    exponent |value| ≤ power := by
  rw [abs_of_pos positive]
  have log : Int.log 2 value < power + 53 :=
    (Int.lt_zpow_iff_log_lt (b := 2) (by norm_num) positive).mp (by exact_mod_cast small)
  exact max_le (by omega) notTiny

theorem powTwo_le_size (notTiny : -1074 ≤ power) (reaches : 2 ^ power ≤ value) : 2 ^ power ≤ size value := by
  have positive : 0 < value := (zpow_pos (by norm_num) power).trans_le reaches
  have log : power ≤ Int.log 2 value :=
    (Int.zpow_le_iff_le_log (b := 2) (by norm_num) positive).mp (by exact_mod_cast reaches)
  have below : ((2 : ℕ) : ℚ) ^ Int.log 2 value ≤ value := Int.zpow_log_le_self (by norm_num) positive
  have coarse : exponent |value| ≤ Int.log 2 value := by
    rw [abs_of_pos positive]
    exact max_le (by omega) (notTiny.trans log)
  have kept := le_size positive.le 1 coarse (by push_cast at below ⊢; linarith)
  calc (2 : ℚ) ^ power ≤ 2 ^ Int.log 2 value := zpow_le_zpow_right₀ (by norm_num) log
    _ ≤ size value := by push_cast at kept; linarith

/-- `(part / whole) * 100 >= percent` of whole numbers. -/
def reachesPercent (part whole percent : ℕ) : Bool :=
  match nearest (part / whole) with
  | .finite share =>
    match nearest (share * 100) with
    | .finite found => percent ≤ found
    | .infinity negative => !negative
    | .nan => false
  | .infinity negative => !negative
  | .nan => false

variable {part whole : ℕ}

theorem half_le_size (reaches : 1 / 2 ≤ value) : 1 / 2 ≤ size value := by
  have power : (2 : ℚ) ^ (-1 : ℤ) = 1 / 2 := by norm_num
  rw [← power] at reaches ⊢
  exact powTwo_le_size (by norm_num) reaches

theorem fifty_le_size (reaches : 50 ≤ value) : 50 ≤ size value := by
  by_cases small : value < 2 ^ (53 : ℤ)
  · have kept := le_size (by linarith) 50 (exponent_le (by linarith) small (by norm_num) : exponent |value| ≤ 0)
      (by norm_num; exact reaches)
    norm_num at kept
    exact kept
  · have large := powTwo_le_size (by norm_num) (not_lt.mp small)
    norm_num at large
    linarith

theorem size_le_below_half (positive : 0 < value) (below : value ≤ 1 / 2 - 1 / 2 ^ 54) :
    size value ≤ 1 / 2 - 1 / 2 ^ 54 := by
  have isMultiple : (((2 ^ 53 - 1 : ℤ)) : ℚ) * 2 ^ (-54 : ℤ) = 1 / 2 - 1 / 2 ^ 54 := by norm_num
  rw [← isMultiple] at below ⊢
  apply size_le positive.le _ _ below
  apply exponent_le positive _ (by norm_num)
  rw [isMultiple] at below
  norm_num at below ⊢
  linarith

theorem size_lt_fifty (nonneg : 0 ≤ value) (below : value ≤ 50 - 100 / 2 ^ 54) : size value < 50 := by
  have coarse : exponent |value| ≤ -47 := by
    rcases nonneg.eq_or_lt with isZero | positive
    · rw [← isZero]
      decide +kernel
    · apply exponent_le positive _ (by norm_num)
      norm_num at below ⊢
      linarith
  have short : step value ≤ 2 ^ (-47 : ℤ) := zpow_le_zpow_right₀ (by norm_num) coarse
  have moved := size_le_add nonneg
  norm_num at short below
  linarith

theorem nearest_of_nonneg (nonneg : 0 ≤ value) :
    nearest value = if 2 ^ 1024 ≤ size value then .infinity false else .finite (size value) := by
  have notNegative : ¬ value < 0 := not_lt.mpr nonneg
  rw [nearest_eq, if_neg notNegative, decide_eq_false notNegative]

theorem nearest_of_small (nonneg : 0 ≤ value) (small : size value < 50) : nearest value = .finite (size value) := by
  have inRange : ¬ 2 ^ 1024 ≤ size value := by
    have large : (2 : ℚ) ^ 6 ≤ 2 ^ 1024 := pow_le_pow_right₀ (by norm_num) (by norm_num)
    exact not_le.mpr (small.trans_le (le_trans (by norm_num) large))
  rw [nearest_of_nonneg nonneg, if_neg inRange]

theorem reachesPercent_half (positive : 0 < whole) (few : whole ≤ 2 ^ 53) :
    reachesPercent part whole 50 = true ↔ whole ≤ 2 * part := by
  have wholePos : (0 : ℚ) < whole := Nat.cast_pos.mpr positive
  have shareNonneg : (0 : ℚ) ≤ part / whole := div_nonneg (Nat.cast_nonneg _) wholePos.le
  unfold reachesPercent
  constructor
  · intro reached
    by_contra less
    have below : (part : ℚ) / whole ≤ 1 / 2 - 1 / 2 ^ 54 := by
      have oneLess : (2 * part + 1 : ℚ) ≤ whole := by exact_mod_cast not_le.mp less
      have bounded : (whole : ℚ) ≤ 9007199254740992 := by exact_mod_cast few
      rw [div_le_iff₀ wholePos]
      linarith
    have small : size ((part : ℚ) / whole) ≤ 1 / 2 - 1 / 2 ^ 54 := by
      rcases shareNonneg.eq_or_lt with isZero | isPositive
      · rw [← isZero]
        decide +kernel
      · exact size_le_below_half isPositive below
    have scaled : size ((part : ℚ) / whole) * 100 ≤ 50 - 100 / 2 ^ 54 := by linarith
    have scaledNonneg : 0 ≤ size ((part : ℚ) / whole) * 100 := mul_nonneg (size_nonneg _) (by norm_num)
    have notFifty := size_lt_fifty scaledNonneg scaled
    have smallShare : size ((part : ℚ) / whole) < 50 := by norm_num at small; linarith
    rw [nearest_of_small shareNonneg smallShare] at reached
    dsimp only at reached
    rw [nearest_of_small scaledNonneg notFifty] at reached
    exact absurd (of_decide_eq_true reached) (not_le.mpr notFifty)
  · intro enough
    have reaches : (1 : ℚ) / 2 ≤ part / whole := by
      have doubled : (whole : ℚ) ≤ 2 * part := by exact_mod_cast enough
      rw [le_div_iff₀ wholePos]
      linarith
    have share := half_le_size reaches
    rw [nearest_of_nonneg shareNonneg]
    split
    · rename_i finite isFinite
      split at isFinite
      · cases isFinite
      · cases isFinite
        have fifty := fifty_le_size (by linarith : 50 ≤ size ((part : ℚ) / whole) * 100)
        rw [nearest_of_nonneg (by linarith)]
        split
        · rename_i found isFound
          split at isFound
          · cases isFound
          · cases isFound
            exact decide_eq_true fifty
        · rename_i negative isInfinite
          split at isInfinite
          · cases isInfinite
            rfl
          · cases isInfinite
        · rename_i isNan
          split at isNan <;> cases isNan
    · rename_i negative isInfinite
      split at isInfinite
      · cases isInfinite
        rfl
      · cases isInfinite
    · rename_i isNan
      split at isNan <;> cases isNan

end Mhvp.Core.Binary64
