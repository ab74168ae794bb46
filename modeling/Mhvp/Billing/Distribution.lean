import Mathlib.Data.List.Sort
import Mhvp.Core.Cents
import Mhvp.Lib.Apportion

namespace Mhvp.Billing

open Core Lib.Apportion Lib.Rounding
open List hiding count

/-- Unit number, and what stands for the party or unit. -/
abbrev ShareKey := String × ℕ

structure Share where
  key : ShareKey
  weight : Decimal
  deriving DecidableEq

def cent : Decimal := 1 / 100

/-- `value.quantize(CENT, rounding=ROUND_DOWN)` -/
def quantizeDown (value : Decimal) : Decimal := if value < 0 then -whole cent (-value) else whole cent value

/-- Tuples are compared from the left. -/
def KeyLe (first second : ShareKey) : Prop := first.1 < second.1 ∨ first.1 = second.1 ∧ first.2 ≤ second.2

instance : DecidableRel KeyLe := fun _ _ => by unfold KeyLe; infer_instance

/-- `total * s.weight / weight_sum` for each share. -/
def exactShare (total weightSum : Decimal) (share : Share) : Decimal := quota contextRound total weightSum share.weight

def ordered (shares : List Share) : List Share := shares.insertionSort fun first second => KeyLe first.key second.key

/-- `sum((s.weight for s in ordered), Decimal(0))` -/
def weightSum (shares : List Share) : Decimal := roundedSum contextRound ((ordered shares).map Share.weight)

/-- The shares cut to cents. -/
def floored (total : Decimal) (shares : List Share) (share : Share) : Decimal :=
  quantizeDown (exactShare total (weightSum shares) share)

/-- Cents left to hand out. -/
def restCents (total : Decimal) (shares : List Share) : ℤ :=
  roundHalfEven ((total - ((ordered shares).map (floored total shares)).sum) * 100)

/-- Largest remainder first, ties by key. -/
def remainderOrder (total : Decimal) (shares : List Share) : List Share :=
  let remainder (share : Share) := exactShare total (weightSum shares) share - floored total shares share
  (ordered shares).insertionSort fun first second =>
    remainder second < remainder first ∨ remainder first = remainder second ∧ KeyLe first.key second.key

/-- The parts of a total that is not negative; none where the weights add up to nothing, or where a share in cents
has more than 28 digits, which `quantize` refuses. -/
def distributeAbs (total : Decimal) (shares : List Share) : Option (List (ShareKey × Decimal)) :=
  if weightSum shares ≤ 0 ∨ ∃ share ∈ shares, 10 ^ 26 ≤ |floored total shares share| then none
  else
    let raised := (slice (remainderOrder total shares) (restCents total shares)).map Share.key
    some ((ordered shares).map fun share =>
      (share.key, floored total shares share + if share.key ∈ raised then cent else 0))

/-- `distribute`: a negative total by its absolute value. -/
def distribute (total : Decimal) (shares : List Share) : Option (List (ShareKey × Decimal)) :=
  if total < 0 then (distributeAbs (-total) shares).map (List.map fun part => (part.1, -part.2))
  else distributeAbs total shares

def partsSum (parts : List (ShareKey × Decimal)) : Decimal := (parts.map Prod.snd).sum

variable {total : Decimal} {shares : List Share} {parts : List (ShareKey × Decimal)}

theorem ordered_perm (shares : List Share) : (ordered shares).Perm shares := perm_insertionSort ..

theorem remainderOrder_perm (total : Decimal) (shares : List Share) :
    (remainderOrder total shares).Perm (ordered shares) :=
  perm_insertionSort ..

theorem isCents_iff : IsCents value ↔ ∃ cents : ℤ, value = cents * cent := by
  simp only [isCents_iff_int, cent, mul_one_div]

theorem isCents_cent : IsCents cent := isCents_iff.mpr ⟨1, by simp⟩

theorem isCents_quantizeDown (value : Decimal) : IsCents (quantizeDown value) := by
  unfold quantizeDown whole
  split
  · exact (isCents_iff.mpr ⟨_, rfl⟩).neg
  · exact isCents_iff.mpr ⟨_, rfl⟩

theorem quantizeDown_nonneg (nonneg : 0 ≤ value) : 0 ≤ quantizeDown value := by
  unfold quantizeDown whole
  rw [if_neg (not_lt.mpr nonneg)]
  have positive : 0 < cent := by norm_num [cent]
  have floorNonneg : 0 ≤ ⌊value / cent⌋ := Int.floor_nonneg.mpr (div_nonneg nonneg (le_of_lt positive))
  exact mul_nonneg (by exact_mod_cast floorNonneg) (le_of_lt positive)

theorem quantizeDown_le (nonneg : 0 ≤ value) : quantizeDown value ≤ value := by
  unfold quantizeDown
  rw [if_neg (not_lt.mpr nonneg)]
  exact whole_le (by norm_num [cent]) value

theorem isCents_floored (total : Decimal) (shares : List Share) (share : Share) :
    IsCents (floored total shares share) :=
  isCents_quantizeDown _

theorem restCents_eq (shares : List Share) (isCents : IsCents total) :
    total - ((ordered shares).map (floored total shares)).sum = restCents total shares * cent := by
  have each : ∀ value ∈ (ordered shares).map (floored total shares), IsCents value := by
    intro value member
    obtain ⟨share, -, rfl⟩ := mem_map.mp member
    exact isCents_floored ..
  obtain ⟨cents, isTotal⟩ := isCents_iff.mp isCents
  obtain ⟨cut, isSum⟩ := isCents_iff.mp (IsCents.sum each)
  have scaled : (total - ((ordered shares).map (floored total shares)).sum) * 100 = ((cents - cut : ℤ) : ℚ) := by
    rw [isSum, isTotal]
    unfold cent
    push_cast
    ring
  unfold restCents
  rw [scaled, roundHalfEven_intCast, isSum, isTotal]
  push_cast
  ring

theorem distributeAbs_sum (unique : (shares.map Share.key).Nodup) (isParts : distributeAbs total shares = some parts) :
    partsSum parts = ((ordered shares).map (floored total shares)).sum +
      (slice (remainderOrder total shares) (restCents total shares)).length * cent := by
  unfold distributeAbs at isParts
  split at isParts
  · cases isParts
  · cases isParts
    have orderedUnique : ((ordered shares).map Share.key).Nodup :=
      ((ordered_perm shares).map Share.key).nodup_iff.mpr unique
    have distinct : (ordered shares).Nodup := orderedUnique.of_map
    have inOrder := remainderOrder_perm total shares
    have raisedSub := slice_sublist (remainderOrder total shares) (restCents total shares)
    have raisedUnique := raisedSub.nodup (inOrder.nodup_iff.mpr distinct)
    generalize slice (remainderOrder total shares) (restCents total shares) = raised at *
    have among : raised ⊆ ordered shares := fun share member => inOrder.mem_iff.mp (raisedSub.mem member)
    -- a share is known by its key
    have sameRaised : ∀ share ∈ ordered shares, (share.key ∈ raised.map Share.key ↔ share ∈ raised) := by
      intro share member
      constructor
      · intro isRaised
        obtain ⟨other, otherRaised, same⟩ := mem_map.mp isRaised
        rw [← inj_on_of_nodup_map orderedUnique (among otherRaised) member same]
        exact otherRaised
      · exact fun isRaised => mem_map_of_mem isRaised
    have raisedParts := sum_raised distinct raisedUnique among (floored total shares) cent
    rw [nsmul_eq_mul] at raisedParts
    rw [← raisedParts]
    unfold partsSum
    rw [map_map]
    congr 1
    apply map_congr_left
    intro share member
    simp [← sameRaised share member]

/-- Cents by which the parts of a total are more than it. -/
def surplusCents (total : Decimal) (shares : List Share) : ℤ :=
  if total < 0 then -excess shares.length (restCents (-total) shares)
  else excess shares.length (restCents total shares)

theorem distributeAbs_surplus (unique : (shares.map Share.key).Nodup) (isCents : IsCents total)
    (isParts : distributeAbs total shares = some parts) :
    partsSum parts = total + excess shares.length (restCents total shares) * cent := by
  have isSum := distributeAbs_sum unique isParts
  have isRest := restCents_eq shares isCents
  have length : (remainderOrder total shares).length = shares.length :=
    ((remainderOrder_perm total shares).trans (ordered_perm shares)).length_eq
  have raised := slice_length (remainderOrder total shares) (restCents total shares)
  have count : ((slice (remainderOrder total shares) (restCents total shares)).length : ℚ) =
      restCents total shares + excess shares.length (restCents total shares) := by
    rw [← length]
    exact_mod_cast raised
  rw [isSum, count, add_mul, ← isRest]
  ring

theorem partsSum_neg (parts : List (ShareKey × Decimal)) :
    partsSum (parts.map fun part => (part.1, -part.2)) = -partsSum parts := by
  unfold partsSum
  induction parts with
  | nil => rfl
  | cons part rest ih =>
    rw [map_cons, map_cons, sum_cons, ih, map_cons, sum_cons]
    ring

theorem distribute_sum (unique : (shares.map Share.key).Nodup) (isCents : IsCents total)
    (isParts : distribute total shares = some parts) : partsSum parts = total + surplusCents total shares * cent := by
  unfold distribute at isParts
  unfold surplusCents
  split at isParts
  · rename_i negative
    obtain ⟨flipped, isFlipped, rfl⟩ := Option.map_eq_some_iff.mp isParts
    rw [partsSum_neg, distributeAbs_surplus unique isCents.neg isFlipped, if_pos negative]
    push_cast
    ring
  · rename_i notNegative
    rw [distributeAbs_surplus unique isCents isParts, if_neg notNegative]

/-- The parts add up to the total exactly where the cents to hand out are no more than the shares. -/
theorem surplusCents_eq_zero (notEmpty : shares ≠ []) :
    surplusCents total shares = 0 ↔ 0 ≤ restCents |total| shares ∧ restCents |total| shares ≤ shares.length := by
  have count : 0 < shares.length := length_pos_iff.mpr notEmpty
  unfold surplusCents
  split
  · rename_i negative
    rw [neg_eq_zero, abs_of_neg negative]
    exact excess_eq_zero count _
  · rename_i notNegative
    rw [abs_of_nonneg (le_of_not_gt notNegative)]
    exact excess_eq_zero count _

/-- What a column `Numeric(14, 2)` holds. -/
structure IsMoney (amount : Decimal) : Prop where
  cents : IsCents amount
  small : |amount| < 10 ^ 12

/-- Shares up to which 28 digits are enough for an exact distribution. -/
def shareLimit : ℕ := 10 ^ 12

/-- What rounding in the context makes an exact share off by, relative to it. -/
def shareError (count : ℕ) : ℚ := (count + 2) / 10 ^ 27

theorem contextError_mul (count : ℕ) : 2 * (((count : ℚ) + 2) * contextError) = shareError count := by
  unfold contextError shareError
  ring

theorem restCents_between (nonneg : ∀ share ∈ shares, 0 ≤ share.weight) (isCents : IsCents total)
    (totalNonneg : 0 ≤ total) (positive : 0 < weightSum shares) (few : shareError shares.length ≤ 1)
    (small : shareError shares.length * total < cent) :
    0 ≤ restCents total shares ∧ restCents total shares ≤ shares.length := by
  have weightsNonneg : ∀ weight ∈ (ordered shares).map Share.weight, 0 ≤ weight := by
    intro weight member
    obtain ⟨share, isShare, rfl⟩ := mem_map.mp member
    exact nonneg share ((ordered_perm shares).mem_iff.mp isShare)
  have length : (ordered shares).length = shares.length := (ordered_perm shares).length_eq
  have sumPositive := (roundedSum_pos_iff contextRound_accurate weightsNonneg).mp positive
  have near := quotas_near contextRound_accurate totalNonneg weightsNonneg sumPositive (by
    rw [length_map, length]
    linarith [contextError_mul shares.length])
  rw [length_map, length, contextError_mul] at near
  have within : |(((ordered shares).map Share.weight).map (quota contextRound total (weightSum shares))).sum - total| <
      cent := near.trans_lt small
  obtain ⟨more, less⟩ := abs_lt.mp within
  have isCut := restCents_eq shares isCents
  have cut : (ordered shares).map (floored total shares) =
      (((ordered shares).map Share.weight).map (quota contextRound total (weightSum shares))).map (whole cent) := by
    rw [map_map, map_map]
    apply map_congr_left
    intro share member
    have shareNonneg := quota_nonneg contextRound_accurate totalNonneg positive
      (nonneg share ((ordered_perm shares).mem_iff.mp member))
    simp [floored, quantizeDown, exactShare, not_lt.mpr shareNonneg]
  rw [cut] at isCut
  have between := cut_between (by norm_num [cent]) isCut (by linarith) (by linarith)
  simpa [length] using between

theorem shareError_limit (few : count ≤ shareLimit) : shareError count ≤ 2 / 10 ^ 15 := by
  have number : (count : ℚ) ≤ 10 ^ 12 := by exact_mod_cast few
  unfold shareError
  rw [div_le_div_iff₀ (by norm_num) (by norm_num)]
  linarith

theorem weightSum_nil : weightSum [] = 0 := rfl

theorem distributeAbs_positive (isParts : distributeAbs total shares = some parts) : 0 < weightSum shares := by
  unfold distributeAbs at isParts
  split at isParts
  · cases isParts
  · rename_i possible
    exact lt_of_not_ge fun nothing => possible (Or.inl nothing)

theorem distribute_positive (isParts : distribute total shares = some parts) : 0 < weightSum shares := by
  unfold distribute at isParts
  split at isParts
  · obtain ⟨flipped, isFlipped, -⟩ := Option.map_eq_some_iff.mp isParts
    exact distributeAbs_positive isFlipped
  · exact distributeAbs_positive isParts

theorem distributeAbs_keys (isParts : distributeAbs total shares = some parts) :
    parts.map Prod.fst = (ordered shares).map Share.key := by
  unfold distributeAbs at isParts
  split at isParts
  · cases isParts
  · cases isParts
    rw [map_map]
    rfl

theorem distributeAbs_cents (isParts : distributeAbs total shares = some parts) :
    ∀ own ∈ parts, IsCents own.2 := by
  unfold distributeAbs at isParts
  split at isParts
  · cases isParts
  · cases isParts
    intro own member
    obtain ⟨share, -, rfl⟩ := mem_map.mp member
    refine IsCents.add (isCents_floored ..) ?_
    split
    · exact isCents_cent
    · exact isCents_zero

theorem distribute_keys (isParts : distribute total shares = some parts) :
    parts.map Prod.fst = (ordered shares).map Share.key := by
  unfold distribute at isParts
  split at isParts
  · obtain ⟨flipped, isFlipped, rfl⟩ := Option.map_eq_some_iff.mp isParts
    rw [map_map]
    exact distributeAbs_keys isFlipped
  · exact distributeAbs_keys isParts

theorem distribute_nonneg (nonneg : ∀ share ∈ shares, 0 ≤ share.weight) (totalNonneg : 0 ≤ total)
    (isParts : distribute total shares = some parts) : ∀ part ∈ parts, 0 ≤ part.2 := by
  have positive := distribute_positive isParts
  unfold distribute at isParts
  rw [if_neg (not_lt.mpr totalNonneg)] at isParts
  unfold distributeAbs at isParts
  split at isParts
  · cases isParts
  · cases isParts
    intro part member
    obtain ⟨share, isShare, rfl⟩ := mem_map.mp member
    have exact' : 0 ≤ exactShare total (weightSum shares) share :=
      quota_nonneg contextRound_accurate totalNonneg positive (nonneg share ((ordered_perm shares).mem_iff.mp isShare))
    have cut := quantizeDown_nonneg exact'
    dsimp only
    split
    · exact add_nonneg cut (by norm_num [cent])
    · exact add_nonneg cut (le_refl 0)

theorem surplusCents_nonneg (nonneg : ∀ share ∈ shares, 0 ≤ share.weight) (few : shares.length ≤ shareLimit)
    (isMoney : IsMoney total) (positive : 0 < weightSum shares) : surplusCents total shares = 0 := by
  have notEmpty : shares ≠ [] := by
    rintro rfl
    rw [weightSum_nil] at positive
    exact lt_irrefl 0 positive
  rw [surplusCents_eq_zero notEmpty]
  have error := shareError_limit few
  have small := isMoney.small
  refine restCents_between nonneg ?_ (abs_nonneg total) positive (by linarith) ?_
  · rcases abs_choice total with same | flipped
    · rw [same]
      exact isMoney.cents
    · rw [flipped]
      exact isMoney.cents.neg
  · have product := mul_le_mul error small.le (abs_nonneg total) (by norm_num)
    refine product.trans_lt ?_
    norm_num [cent]

theorem distribute_exact (unique : (shares.map Share.key).Nodup) (nonneg : ∀ share ∈ shares, 0 ≤ share.weight)
    (few : shares.length ≤ shareLimit) (isMoney : IsMoney total) (isParts : distribute total shares = some parts) :
    partsSum parts = total := by
  rw [distribute_sum unique isMoney.cents isParts,
    surplusCents_nonneg nonneg few isMoney (distribute_positive isParts)]
  simp

end Mhvp.Billing
