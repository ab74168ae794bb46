import Mathlib.Algebra.BigOperators.Ring.List
import Mathlib.Algebra.Order.BigOperators.Group.List
import Mathlib.Algebra.Order.Floor.Ring
import Mathlib.Data.List.Dedup
import Mathlib.Tactic.Ring

/-!
Largest remainders: every share is cut to whole units, and the units cut off are handed out one by one to the shares
at the front of an order.
-/

namespace Mhvp.Lib.Apportion

open List hiding length

universe u

variable {Key : Type u} {Number : Type*}

/-- `items[:count]`: a negative count leaves out that many at the end. -/
def slice (items : List Key) (count : ℤ) : List Key :=
  if 0 ≤ count then items.take count.toNat else items.take (items.length - (-count).toNat)

theorem slice_sublist (items : List Key) (count : ℤ) : (slice items count).Sublist items := by
  unfold slice
  split <;> exact take_sublist ..

/-- Items that a slice has beyond its count. -/
def excess (length : ℕ) (count : ℤ) : ℤ := if count < 0 then max (length : ℤ) (-count) else min (length : ℤ) count - count

theorem slice_length (items : List Key) (count : ℤ) :
    ((slice items count).length : ℤ) = count + excess items.length count := by
  unfold slice excess
  by_cases nonneg : 0 ≤ count
  · rw [if_pos nonneg, if_neg (not_lt.mpr nonneg), length_take]
    omega
  · rw [if_neg nonneg, if_pos (lt_of_not_ge nonneg), length_take]
    omega

/-- A slice has as many items as it counts exactly where the count is one of a part of the list. -/
theorem excess_eq_zero (notEmpty : 0 < length) (count : ℤ) :
    excess length count = 0 ↔ 0 ≤ count ∧ count ≤ length := by
  unfold excess
  split <;> omega

variable [DecidableEq Key]

theorem sum_raised [AddCommMonoid Number] {keys raised : List Key} (unique : keys.Nodup)
    (raisedUnique : raised.Nodup) (among : raised ⊆ keys) (part : Key → Number) (unit : Number) :
    (keys.map fun key => part key + if key ∈ raised then unit else 0).sum =
      (keys.map part).sum + raised.length • unit := by
  rw [sum_map_add]
  congr 1
  have kept : (keys.filter (· ∈ raised)).Perm raised := by
    apply (perm_ext_iff_of_nodup (unique.filter _) raisedUnique).mpr
    intro key
    simp only [mem_filter, decide_eq_true_eq]
    exact ⟨And.right, fun isRaised => ⟨among isRaised, isRaised⟩⟩
  rw [← kept.length_eq]
  clear kept raisedUnique among unique
  induction keys with
  | nil => simp
  | cons key rest ih =>
    by_cases isRaised : key ∈ raised
    · simp [isRaised, ih, add_nsmul, one_nsmul, add_comm]
    · simp [isRaised, ih]

/-- The largest number of whole units in a size. -/
def whole [Field Number] [LinearOrder Number] [FloorRing Number] (unit size : Number) : Number :=
  ⌊size / unit⌋ * unit

section Cut

variable [Field Number] [LinearOrder Number] [IsStrictOrderedRing Number] [FloorRing Number] {unit : Number}

theorem whole_le (positive : 0 < unit) (size : Number) : whole unit size ≤ size := by
  have below := Int.floor_le (size / unit)
  exact (le_div_iff₀ positive).mp below

theorem lt_whole_add (positive : 0 < unit) (size : Number) : size < whole unit size + unit := by
  have above := Int.lt_floor_add_one (size / unit)
  have scaled := (div_lt_iff₀ positive).mp above
  unfold whole
  linarith

/-- Sizes that add up to the total, up to less than a unit, are cut by between no and as many units as there are sizes. -/
theorem cut_between (positive : 0 < unit) {sizes : List Number} {total : Number} {units : ℤ}
    (isCut : total - (sizes.map (whole unit)).sum = units * unit) (less : sizes.sum < total + unit)
    (more : total - unit < sizes.sum) : 0 ≤ units ∧ units ≤ sizes.length := by
  have below : (sizes.map (whole unit)).sum ≤ sizes.sum := by
    have each := sum_le_sum fun size (_ : size ∈ sizes) => whole_le positive size
    rwa [map_id'] at each
  have above : sizes.sum ≤ (sizes.map (whole unit)).sum + sizes.length * unit := by
    clear isCut less more below
    induction sizes with
    | nil => simp
    | cons size rest ih =>
      have first := lt_whole_add positive size
      rw [map_cons, sum_cons, sum_cons, length_cons]
      push_cast
      linarith
  constructor
  · have least : (-1 : Number) * unit < units * unit := by linarith
    have count : ((-1 : ℤ) : Number) < units := by
      push_cast
      exact lt_of_mul_lt_mul_right least (le_of_lt positive)
    have integer : (-1 : ℤ) < units := by exact_mod_cast count
    omega
  · have most : (units : Number) * unit < ((sizes.length : ℤ) + 1 : ℤ) * unit := by
      push_cast
      linarith
    have count := lt_of_mul_lt_mul_right most (le_of_lt positive)
    have integer : units < (sizes.length : ℤ) + 1 := by exact_mod_cast count
    omega

end Cut

section Front

variable [Field Number] [LinearOrder Number] [IsStrictOrderedRing Number] {unit : Number} {remainder : Key → Number}
  {front back : List Key} {key : Key}

omit [DecidableEq Key] in
/-- One of the largest remainders: the others of the front are at most a unit, those behind no larger than it. -/
theorem sum_le_front (most : ∀ other ∈ front, remainder other ≤ unit)
    (dominates : ∀ first ∈ front, ∀ second ∈ back, remainder second ≤ remainder first) (member : key ∈ front) :
    ((front ++ back).map remainder).sum ≤ (front.length - 1) * unit + (back.length + 1) * remainder key := by
  obtain ⟨before, after, rfl⟩ := append_of_mem member
  have bounded : ∀ {keys : List Key} {bound : Number}, (∀ other ∈ keys, remainder other ≤ bound) →
      (keys.map remainder).sum ≤ keys.length * bound := by
    intro keys bound each
    have sum := sum_le_card_nsmul (keys.map remainder) bound (by simpa using each)
    rwa [length_map, nsmul_eq_mul] at sum
  have first := bounded fun other isBefore => most other (mem_append_left _ isBefore)
  have second := bounded fun other isAfter => most other (mem_append_right _ (mem_cons_of_mem _ isAfter))
  have third := bounded fun other isBack => dominates key member other isBack
  simp only [map_append, map_cons, sum_append, sum_cons, length_append, length_cons]
  push_cast
  linarith

omit [DecidableEq Key] in
theorem back_le_sum (nonneg : ∀ other ∈ back, 0 ≤ remainder other)
    (dominates : ∀ first ∈ front, ∀ second ∈ back, remainder second ≤ remainder first) (member : key ∈ back) :
    (front.length + 1) * remainder key ≤ ((front ++ back).map remainder).sum := by
  have ahead := card_nsmul_le_sum (front.map remainder) (remainder key) (by
    simpa using fun other isFront => dominates other isFront key member)
  rw [length_map, nsmul_eq_mul] at ahead
  have own : remainder key ≤ (back.map remainder).sum :=
    single_le_sum (by simpa using nonneg) _ (mem_map_of_mem member)
  rw [map_append, sum_append]
  linarith

end Front

end Mhvp.Lib.Apportion
