import Mathlib.Algebra.BigOperators.Ring.List
import Mathlib.Algebra.Order.Ring.Pow
import Mathlib.Tactic.FieldSimp
import Mathlib.Tactic.Linarith
import Mathlib.Tactic.Positivity
import Mathlib.Tactic.Ring

/-!
Arithmetic that rounds every result, and what a total loses when it is split by weights in it: each of the shares is
rounded, and so is every step of the sum of the weights.
-/

namespace Mhvp.Lib.Rounding

open List

universe u

variable {Number : Type u} [Field Number] [LinearOrder Number] [IsStrictOrderedRing Number]
  {round : Number → Number} {error total value : Number} {weights : List Number}

/-- A result is off by at most the share `error` of the exact value. -/
structure Accurate (round : Number → Number) (error : Number) : Prop where
  within : ∀ value, |round value - value| ≤ error * |value|
  nonneg : 0 ≤ error
  lt_one : error < 1

theorem Accurate.bounds (accurate : Accurate round error) (nonneg : 0 ≤ value) :
    (1 - error) * value ≤ round value ∧ round value ≤ (1 + error) * value := by
  have within := accurate.within value
  rw [abs_of_nonneg nonneg, abs_le] at within
  constructor <;> linarith

theorem Accurate.round_nonneg (accurate : Accurate round error) (nonneg : 0 ≤ value) : 0 ≤ round value := by
  have below := (accurate.bounds nonneg).1
  have factor : 0 ≤ 1 - error := sub_nonneg.mpr (le_of_lt accurate.lt_one)
  exact le_trans (mul_nonneg factor nonneg) below

/-- The sum from the left, every step rounded. -/
def roundedSum (round : Number → Number) (values : List Number) : Number :=
  values.foldl (fun sum value => round (sum + value)) 0

section

variable (accurate : Accurate round error) (nonneg : ∀ weight ∈ weights, 0 ≤ weight)
include accurate nonneg

private theorem foldl_bounds (start : Number) (startNonneg : 0 ≤ start) :
    (1 - error) ^ weights.length * (start + weights.sum) ≤
        weights.foldl (fun sum weight => round (sum + weight)) start ∧
      weights.foldl (fun sum weight => round (sum + weight)) start ≤
        (1 + error) ^ weights.length * (start + weights.sum) := by
  have less : 0 ≤ 1 - error := sub_nonneg.mpr (le_of_lt accurate.lt_one)
  have more : 0 ≤ 1 + error := add_nonneg zero_le_one accurate.nonneg
  induction weights generalizing start with
  | nil => simp
  | cons weight rest ih =>
    have weightNonneg := nonneg weight mem_cons_self
    have restNonneg : ∀ other ∈ rest, 0 ≤ other := fun other member => nonneg other (mem_cons_of_mem _ member)
    have sumNonneg : 0 ≤ rest.sum := sum_nonneg restNonneg
    have added : 0 ≤ start + weight := add_nonneg startNonneg weightNonneg
    obtain ⟨below, above⟩ := accurate.bounds added
    obtain ⟨restBelow, restAbove⟩ := ih restNonneg (round (start + weight)) (accurate.round_nonneg added)
    rw [foldl_cons, length_cons, sum_cons]
    constructor
    · refine le_trans ?_ restBelow
      rw [pow_succ, mul_assoc]
      refine mul_le_mul_of_nonneg_left ?_ (pow_nonneg less _)
      have shrunk : (1 - error) * rest.sum ≤ rest.sum :=
        mul_le_of_le_one_left sumNonneg (sub_le_self 1 accurate.nonneg)
      linarith
    · refine le_trans restAbove ?_
      rw [pow_succ, mul_assoc]
      refine mul_le_mul_of_nonneg_left ?_ (pow_nonneg more _)
      have grown : rest.sum ≤ (1 + error) * rest.sum :=
        le_mul_of_one_le_left sumNonneg (le_add_of_nonneg_right accurate.nonneg)
      linarith

theorem roundedSum_bounds :
    (1 - error) ^ weights.length * weights.sum ≤ roundedSum round weights ∧
      roundedSum round weights ≤ (1 + error) ^ weights.length * weights.sum := by
  simpa [roundedSum] using foldl_bounds accurate nonneg 0 (le_refl 0)

end

theorem roundedSum_error (accurate : Accurate round error) (values : List Number) :
    |roundedSum round values - values.sum| ≤ ((1 + error) ^ values.length - 1) * (values.map abs).sum := by
  have more : 0 ≤ error := accurate.nonneg
  have general : ∀ (rest : List Number) (start exact : Number), 0 ≤ exact → |start| ≤ exact →
      |rest.foldl (fun sum value => round (sum + value)) start - (start + rest.sum)| ≤
        ((1 + error) ^ rest.length - 1) * (exact + (rest.map abs).sum) := by
    intro rest
    induction rest with
    | nil =>
      intro start exact _ _
      simp
    | cons value rest ih =>
      intro start exact nonneg within
      rw [foldl_cons, sum_cons, map_cons, sum_cons, length_cons]
      have valueNonneg : 0 ≤ |value| := abs_nonneg value
      have restNonneg : 0 ≤ (rest.map abs).sum := by
        apply sum_nonneg
        intro size member
        obtain ⟨other, -, rfl⟩ := mem_map.mp member
        exact abs_nonneg other
      have sumSize : |start + value| ≤ exact + |value| := (abs_add_le _ _).trans (add_le_add_left within _)
      have stepError := accurate.within (start + value)
      have step : |round (start + value) - (start + value)| ≤ error * (exact + |value|) :=
        stepError.trans (mul_le_mul_of_nonneg_left sumSize more)
      have rounded : |round (start + value)| ≤ (1 + error) * (exact + |value|) := by
        have parts : round (start + value) = (round (start + value) - (start + value)) + (start + value) := by ring
        rw [parts]
        refine (abs_add_le _ _).trans ?_
        linarith
      have bound : 0 ≤ (1 + error) * (exact + |value|) :=
        mul_nonneg (by linarith) (by linarith)
      have later := ih (round (start + value)) ((1 + error) * (exact + |value|)) bound rounded
      have grown : (1 : Number) ≤ (1 + error) ^ rest.length := one_le_pow₀ (by linarith)
      rw [pow_succ]
      generalize (1 + error) ^ rest.length = factor at *
      have apart : rest.foldl (fun sum value => round (sum + value)) (round (start + value)) -
          (start + (value + rest.sum)) =
          (rest.foldl (fun sum value => round (sum + value)) (round (start + value)) -
            (round (start + value) + rest.sum)) + (round (start + value) - (start + value)) := by ring
      rw [apart]
      refine (abs_add_le _ _).trans ((add_le_add later step).trans ?_)
      have lost : 0 ≤ factor * (error * (rest.map abs).sum) :=
        mul_nonneg (by linarith) (mul_nonneg more restNonneg)
      have difference : (factor * (1 + error) - 1) * (exact + (|value| + (rest.map abs).sum)) =
          (factor - 1) * ((1 + error) * (exact + |value|) + (rest.map abs).sum) + error * (exact + |value|) +
            factor * (error * (rest.map abs).sum) := by ring
      linarith
  have whole := general values 0 0 (le_refl _) (by rw [abs_zero])
  simpa [roundedSum] using whole

/-- Values that are each off by a share of the exact value: what their sum is off by, and how large they are. -/
theorem sums_close {Item : Type*} {items : List Item} {value exact : Item → Number} {relative : Number}
    (each : ∀ item ∈ items, |value item - exact item| ≤ relative * |exact item|) :
    |(items.map value).sum - (items.map exact).sum| ≤ relative * (items.map fun item => |exact item|).sum ∧
      ((items.map value).map abs).sum ≤ (1 + relative) * (items.map fun item => |exact item|).sum := by
  induction items with
  | nil => simp
  | cons item rest ih =>
    have first := each item mem_cons_self
    obtain ⟨apart, size⟩ := ih fun other member => each other (mem_cons_of_mem _ member)
    simp only [map_cons, sum_cons]
    constructor
    · have parts : value item + (rest.map value).sum - (exact item + (rest.map exact).sum) =
          (value item - exact item) + ((rest.map value).sum - (rest.map exact).sum) := by ring
      rw [parts]
      refine (abs_add_le _ _).trans ?_
      linarith
    · have near : |value item| ≤ |value item - exact item| + |exact item| := by
        have parts : value item = (value item - exact item) + exact item := by ring
        calc |value item| = |(value item - exact item) + exact item| := by rw [← parts]
          _ ≤ |value item - exact item| + |exact item| := abs_add_le _ _
      linarith

theorem sums_within {Item : Type*} {items : List Item} {value exact : Item → Number} {bound : Number}
    (each : ∀ item ∈ items, |value item - exact item| ≤ bound) :
    |(items.map value).sum - (items.map exact).sum| ≤ items.length * bound := by
  induction items with
  | nil => simp
  | cons item rest ih =>
    have first := each item mem_cons_self
    have later := ih fun other member => each other (mem_cons_of_mem _ member)
    have parts : value item + (rest.map value).sum - (exact item + (rest.map exact).sum) =
        (value item - exact item) + ((rest.map value).sum - (rest.map exact).sum) := by ring
    rw [map_cons, map_cons, sum_cons, sum_cons, length_cons, parts]
    push_cast
    refine (abs_add_le _ _).trans ?_
    linarith

theorem roundedSum_close (accurate : Accurate round error) {Item : Type*} {items : List Item}
    {value exact : Item → Number} {relative : Number}
    (each : ∀ item ∈ items, |value item - exact item| ≤ relative * |exact item|) :
    |roundedSum round (items.map value) - (items.map exact).sum| ≤
      ((1 + error) ^ items.length * (1 + relative) - 1) * (items.map fun item => |exact item|).sum := by
  obtain ⟨apart, size⟩ := sums_close each
  have summed := roundedSum_error accurate (items.map value)
  rw [length_map] at summed
  have grown : (1 : Number) ≤ (1 + error) ^ items.length := one_le_pow₀ (by linarith [accurate.nonneg])
  generalize (1 + error) ^ items.length = factor at *
  have parts : roundedSum round (items.map value) - (items.map exact).sum =
      (roundedSum round (items.map value) - (items.map value).sum) +
        ((items.map value).sum - (items.map exact).sum) := by ring
  rw [parts]
  refine (abs_add_le _ _).trans ((add_le_add summed apart).trans ?_)
  have scaled := mul_le_mul_of_nonneg_left size (show 0 ≤ factor - 1 by linarith)
  linarith

/-- A result of at most `steps` roundings. -/
def Close (error : Number) (steps : ℕ) (value exact : Number) : Prop :=
  |value - exact| ≤ ((1 + error) ^ steps - 1) * |exact|

variable {steps others : ℕ} {exact other otherExact : Number}

theorem Close.refl (error value : Number) : Close error 0 value value := by
  simp [Close]

theorem Close.size (close : Close error steps value exact) : |value| ≤ (1 + error) ^ steps * |exact| := by
  have parts : value = (value - exact) + exact := by ring
  have within := abs_add_le (value - exact) exact
  rw [← parts] at within
  have apart : |value - exact| ≤ ((1 + error) ^ steps - 1) * |exact| := close
  linarith

theorem Close.rounded (accurate : Accurate round error) (close : Close error steps value exact) :
    Close error (steps + 1) (round value) exact := by
  have rounded := accurate.within value
  have size := mul_le_mul_of_nonneg_left close.size accurate.nonneg
  have apart : |value - exact| ≤ ((1 + error) ^ steps - 1) * |exact| := close
  have parts : round value - exact = (round value - value) + (value - exact) := by ring
  unfold Close
  rw [parts, pow_succ]
  refine (abs_add_le _ _).trans ?_
  linarith

theorem Close.mul (close : Close error steps value exact) (second : Close error others other otherExact) :
    Close error (steps + others) (value * other) (exact * otherExact) := by
  have apart : |value - exact| ≤ ((1 + error) ^ steps - 1) * |exact| := close
  have otherApart : |other - otherExact| ≤ ((1 + error) ^ others - 1) * |otherExact| := second
  have parts : value * other - exact * otherExact =
      (value - exact) * (other - otherExact) + exact * (other - otherExact) + (value - exact) * otherExact := by ring
  have both := mul_le_mul apart otherApart (abs_nonneg _) ((abs_nonneg _).trans apart)
  have right := mul_le_mul_of_nonneg_left otherApart (abs_nonneg exact)
  have left := mul_le_mul_of_nonneg_right apart (abs_nonneg otherExact)
  unfold Close
  rw [parts, pow_add, abs_mul]
  refine (abs_add_le _ _).trans ((add_le_add_left (abs_add_le _ _) _).trans ?_)
  rw [abs_mul, abs_mul, abs_mul]
  linarith

theorem Close.scale (close : Close error steps value exact) (factor : Number) :
    Close error steps (value * factor) (exact * factor) := by
  simpa using close.mul (Close.refl error factor)

/-- The share of a weight in `total`, with product and quotient rounded. -/
def quota (round : Number → Number) (total weightSum weight : Number) : Number :=
  round (round (total * weight) / weightSum)

section

variable (accurate : Accurate round error)
include accurate

theorem quota_nonneg (totalNonneg : 0 ≤ total) (sumPositive : 0 < weightSum)
    (nonneg : 0 ≤ weight) : 0 ≤ quota round total weightSum weight :=
  accurate.round_nonneg (div_nonneg (accurate.round_nonneg (mul_nonneg totalNonneg nonneg)) (le_of_lt sumPositive))

theorem quota_bounds (totalNonneg : 0 ≤ total) (sumPositive : 0 < weightSum)
    (nonneg : 0 ≤ weight) :
    (1 - error) ^ 2 * (total / weightSum) * weight ≤ quota round total weightSum weight ∧
      quota round total weightSum weight ≤ (1 + error) ^ 2 * (total / weightSum) * weight := by
  have less : 0 ≤ 1 - error := sub_nonneg.mpr (le_of_lt accurate.lt_one)
  have more : 0 ≤ 1 + error := add_nonneg zero_le_one accurate.nonneg
  have product := mul_nonneg totalNonneg nonneg
  obtain ⟨below, above⟩ := accurate.bounds product
  have quotient := div_nonneg (accurate.round_nonneg product) (le_of_lt sumPositive)
  obtain ⟨quotientBelow, quotientAbove⟩ := accurate.bounds quotient
  constructor
  · refine le_trans ?_ quotientBelow
    calc (1 - error) ^ 2 * (total / weightSum) * weight
        = (1 - error) * (((1 - error) * (total * weight)) / weightSum) := by ring
      _ ≤ (1 - error) * (round (total * weight) / weightSum) := by gcongr
  · refine le_trans quotientAbove ?_
    calc (1 + error) * (round (total * weight) / weightSum)
        ≤ (1 + error) * (((1 + error) * (total * weight)) / weightSum) := by gcongr
      _ = (1 + error) ^ 2 * (total / weightSum) * weight := by ring

theorem roundedSum_pos_iff (nonneg : ∀ weight ∈ weights, 0 ≤ weight) :
    0 < roundedSum round weights ↔ 0 < weights.sum := by
  obtain ⟨below, above⟩ := roundedSum_bounds accurate nonneg
  have less : 0 < (1 - error) ^ weights.length := pow_pos (sub_pos.mpr accurate.lt_one) _
  have more : 0 < (1 + error) ^ weights.length := pow_pos (add_pos_of_pos_of_nonneg one_pos accurate.nonneg) _
  constructor
  · intro positive
    exact pos_of_mul_pos_right (positive.trans_le above) more.le
  · intro positive
    exact (mul_pos less positive).trans_le below

/-- A share against the exact one: each rounded step of the sum and of the share itself counts once. -/
theorem quota_near (totalNonneg : 0 ≤ total) (nonneg : ∀ weight ∈ weights, 0 ≤ weight)
    (sumPositive : 0 < weights.sum) (few : (weights.length + 2) * error ≤ 1 / 2)
    (weightNonneg : 0 ≤ weight) :
    |quota round total (roundedSum round weights) weight - total * weight / weights.sum| ≤
      2 * ((weights.length + 2) * error) * (total * weight / weights.sum) := by
  obtain ⟨sumBelow, sumAbove⟩ := roundedSum_bounds accurate nonneg
  have roundedPositive := (roundedSum_pos_iff accurate nonneg).mpr sumPositive
  obtain ⟨below, above⟩ := quota_bounds accurate totalNonneg roundedPositive weightNonneg
  have quotaNonneg := quota_nonneg accurate totalNonneg roundedPositive weightNonneg
  have less : 0 ≤ 1 - error := sub_nonneg.mpr (le_of_lt accurate.lt_one)
  have more : 0 ≤ 1 + error := add_nonneg zero_le_one accurate.nonneg
  have exactNonneg : 0 ≤ total * weight / weights.sum :=
    div_nonneg (mul_nonneg totalNonneg weightNonneg) sumPositive.le
  -- Bernoulli: the steps together lose at most the sum of what each of them loses
  have bernoulli : 1 - (weights.length + 2) * error ≤ (1 - error) ^ (weights.length + 2) := by
    have lower := one_add_mul_le_pow (a := -error) (by linarith [accurate.lt_one]) (weights.length + 2)
    push_cast at lower
    rw [← sub_eq_add_neg] at lower
    linarith
  have inverse : ∀ steps : ℕ, (1 - error) ^ steps * (1 + error) ^ steps ≤ 1 := by
    intro steps
    rw [← mul_pow]
    refine pow_le_one₀ (mul_nonneg less more) ?_
    have square := mul_nonneg accurate.nonneg accurate.nonneg
    linarith
  have isRate : total / roundedSum round weights * weight * roundedSum round weights =
      total * weight / weights.sum * weights.sum := by
    field_simp
  generalize quota round total (roundedSum round weights) weight = share at *
  generalize roundedSum round weights = rounded at *
  generalize isExact : total * weight / weights.sum = exact at *
  generalize isUsed : total / rounded * weight = used at *
  have usedNonneg : 0 ≤ used := by
    rw [← isUsed]
    exact mul_nonneg (div_nonneg totalNonneg roundedPositive.le) weightNonneg
  have usedBelow : (1 - error) ^ weights.length * used ≤ exact := by
    have scaled := mul_le_mul_of_nonneg_right sumBelow usedNonneg
    refine le_of_mul_le_mul_right ?_ sumPositive
    calc (1 - error) ^ weights.length * used * weights.sum
        = (1 - error) ^ weights.length * weights.sum * used := by ring
      _ ≤ rounded * used := scaled
      _ = exact * weights.sum := by rw [mul_comm, isRate]
  have usedAbove : exact ≤ (1 + error) ^ weights.length * used := by
    have scaled := mul_le_mul_of_nonneg_right sumAbove usedNonneg
    refine le_of_mul_le_mul_right ?_ sumPositive
    calc exact * weights.sum = rounded * used := by rw [mul_comm rounded, isRate]
      _ ≤ (1 + error) ^ weights.length * weights.sum * used := scaled
      _ = (1 + error) ^ weights.length * used * weights.sum := by ring
  have high : (1 - error) ^ (weights.length + 2) * share ≤ exact := by
    calc (1 - error) ^ (weights.length + 2) * share
        ≤ (1 - error) ^ (weights.length + 2) * ((1 + error) ^ 2 * used) := by
          refine mul_le_mul_of_nonneg_left ?_ (pow_nonneg less _)
          calc share ≤ (1 + error) ^ 2 * (total / rounded) * weight := above
            _ = (1 + error) ^ 2 * used := by rw [← isUsed]; ring
      _ = (1 - error) ^ 2 * (1 + error) ^ 2 * ((1 - error) ^ weights.length * used) := by ring
      _ ≤ 1 * ((1 - error) ^ weights.length * used) :=
          mul_le_mul_of_nonneg_right (inverse 2) (mul_nonneg (pow_nonneg less _) usedNonneg)
      _ ≤ exact := by rw [one_mul]; exact usedBelow
  have low : (1 - error) ^ (weights.length + 2) * exact ≤ share := by
    calc (1 - error) ^ (weights.length + 2) * exact
        ≤ (1 - error) ^ (weights.length + 2) * ((1 + error) ^ weights.length * used) :=
          mul_le_mul_of_nonneg_left usedAbove (pow_nonneg less _)
      _ = (1 - error) ^ weights.length * (1 + error) ^ weights.length * ((1 - error) ^ 2 * used) := by ring
      _ ≤ 1 * ((1 - error) ^ 2 * used) :=
          mul_le_mul_of_nonneg_right (inverse _) (mul_nonneg (pow_nonneg less _) usedNonneg)
      _ = (1 - error) ^ 2 * (total / rounded) * weight := by rw [← isUsed]; ring
      _ ≤ share := below
  generalize (1 - error) ^ (weights.length + 2) = factor at *
  have lossNonneg : 0 ≤ (weights.length + 2) * error := mul_nonneg (by positivity) accurate.nonneg
  generalize ((weights.length : Number) + 2) * error = loss at *
  have leastHigh := (mul_le_mul_of_nonneg_right bernoulli quotaNonneg).trans high
  have leastLow := (mul_le_mul_of_nonneg_right bernoulli exactNonneg).trans low
  rw [abs_le]
  constructor
  · have lost := mul_nonneg lossNonneg exactNonneg
    linarith
  · -- a loss of at most a half is at most doubled by the division
    have rest : (1 - loss) * (share - exact) ≤ loss * exact := by linarith
    have half := mul_nonneg (show 0 ≤ 1 - 2 * loss by linarith) (mul_nonneg lossNonneg exactNonneg)
    have positive : 0 < 1 - loss := by linarith
    refine le_of_mul_le_mul_left ?_ positive
    calc (1 - loss) * (share - exact) ≤ loss * exact := rest
      _ ≤ (1 - loss) * (2 * loss * exact) := by linarith

theorem quotas_near (totalNonneg : 0 ≤ total)
    (nonneg : ∀ weight ∈ weights, 0 ≤ weight) (sumPositive : 0 < weights.sum)
    (few : (weights.length + 2) * error ≤ 1 / 2) :
    |(weights.map (quota round total (roundedSum round weights))).sum - total| ≤
      2 * ((weights.length + 2) * error) * total := by
  have sizes : ∀ weight ∈ weights, |total * weight / weights.sum| = total * weight / weights.sum :=
    fun weight member => abs_of_nonneg (div_nonneg (mul_nonneg totalNonneg (nonneg weight member)) sumPositive.le)
  have whole : (weights.map fun weight => total * weight / weights.sum).sum = total := by
    simp only [div_eq_mul_inv, mul_comm _ weights.sum⁻¹]
    rw [sum_map_mul_left, sum_map_mul_left, map_id']
    field_simp
  have each : ∀ weight ∈ weights, |quota round total (roundedSum round weights) weight - total * weight / weights.sum| ≤
      2 * ((weights.length + 2) * error) * |total * weight / weights.sum| := by
    intro weight member
    rw [sizes weight member]
    exact quota_near accurate totalNonneg nonneg sumPositive few (nonneg weight member)
  have near := (sums_close each).1
  rw [whole, map_congr_left sizes, whole] at near
  exact near

end

end Mhvp.Lib.Rounding
