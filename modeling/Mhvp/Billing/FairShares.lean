import Mathlib.Algebra.BigOperators.Ring.Finset
import Mhvp.Billing.Distribution
import Mhvp.Lib.Sorting

namespace Mhvp.Billing

open Core Lib.Apportion Lib.Rounding Lib.Sorting List

variable {total : Decimal} {shares others : List Share} {share : Share}

/-- `core.money.distribute_cents`: the same on a list of weights, ties by position. -/
def distributeCents (total : Decimal) (weights : List Decimal) : Except String (List Decimal) :=
  -- `quantize` refuses more than 28 digits
  if 10 ^ 26 ≤ |total| then .error "decimal.InvalidOperation"
  else if ¬ IsCents total then .error "total must be a whole cent amount"
  else if weights = [] then .error "weights must not be empty"
  else if ∃ weight ∈ weights, weight < 0 then .error "weights must not be negative"
  else
    let weightSum := roundedSum contextRound weights
    if weightSum = 0 then .error "weights must not all be zero"
    else
      let sign : Decimal := if total < 0 then -1 else 1
      let cents : ℤ := (contextRound (|total| / cent)).floor
      let exact (weight : Decimal) : Decimal := quota contextRound cents weightSum weight
      let base (weight : Decimal) : ℤ := (exact weight).floor
      let rest : ℤ := cents - (weights.map base).sum
      let order := weights.zipIdx.insertionSort fun first second =>
        exact second.1 - base second.1 < exact first.1 - base first.1 ∨
          exact first.1 - base first.1 = exact second.1 - base second.1 ∧ first.2 ≤ second.2
      let raised := (slice order rest).map Prod.snd
      .ok (weights.zipIdx.map fun place =>
        sign * (base place.1 + if place.2 ∈ raised then 1 else 0) * cent)

theorem keyLe_total (first second : ShareKey) : KeyLe first second ∨ KeyLe second first := by
  unfold KeyLe
  by_cases less : first.1 < second.1
  · exact Or.inl (Or.inl less)
  · by_cases more : second.1 < first.1
    · exact Or.inr (Or.inl more)
    · have same := String.le_antisymm (String.not_lt.mp more) (String.not_lt.mp less)
      rcases le_total first.2 second.2 with before | after
      · exact Or.inl (Or.inr ⟨same, before⟩)
      · exact Or.inr (Or.inr ⟨same.symm, after⟩)

theorem keyLe_trans (one : KeyLe first second) (two : KeyLe second third) :
    KeyLe first third := by
  unfold KeyLe at *
  rcases one with less | ⟨same, before⟩
  · rcases two with further | ⟨next, -⟩
    · exact Or.inl (String.lt_trans less further)
    · exact Or.inl (next ▸ less)
  · rcases two with further | ⟨next, later⟩
    · exact Or.inl (same ▸ further)
    · exact Or.inr ⟨same.trans next, before.trans later⟩

theorem keyLe_antisymm (one : KeyLe first second) (two : KeyLe second first) :
    first = second := by
  unfold KeyLe at *
  rcases one with less | ⟨same, before⟩
  · rcases two with more | ⟨back, -⟩
    · exact absurd more (String.lt_asymm less)
    · exact absurd less (back ▸ String.lt_irrefl _)
  · rcases two with more | ⟨-, after⟩
    · exact absurd more (same ▸ String.lt_irrefl _)
    · exact Prod.ext same (le_antisymm before after)

instance : Std.Total fun first second : Share => KeyLe first.key second.key :=
  ⟨fun first second => keyLe_total first.key second.key⟩

instance : IsTrans Share fun first second => KeyLe first.key second.key := ⟨fun _ _ _ => keyLe_trans⟩

/-- What a share loses when it is cut to cents. -/
def remainder (total : Decimal) (shares : List Share) (share : Share) : Decimal :=
  exactShare total (weightSum shares) share - floored total shares share

/-- Larger remainder first, then by key. -/
def Ranks (total : Decimal) (shares : List Share) (first second : Share) : Prop :=
  remainder total shares second < remainder total shares first ∨
    remainder total shares first = remainder total shares second ∧ KeyLe first.key second.key

instance : DecidableRel (Ranks total shares) := fun _ _ => by unfold Ranks; infer_instance

instance : Std.Total (Ranks total shares) := ⟨by
  intro first second
  rcases lt_trichotomy (remainder total shares first) (remainder total shares second) with less | same | more
  · exact Or.inr (Or.inl less)
  · exact (keyLe_total first.key second.key).imp (fun before => Or.inr ⟨same, before⟩) fun after => Or.inr ⟨same.symm, after⟩
  · exact Or.inl (Or.inl more)⟩

instance : IsTrans Share (Ranks total shares) := ⟨by
  intro first second third one two
  rcases one with more | ⟨same, before⟩
  · rcases two with further | ⟨next, -⟩
    · exact Or.inl (further.trans more)
    · exact Or.inl (next ▸ more)
  · rcases two with further | ⟨next, later⟩
    · exact Or.inl (same ▸ further)
    · exact Or.inr ⟨same.trans next, keyLe_trans before later⟩⟩

theorem remainderOrder_eq (total : Decimal) (shares : List Share) :
    remainderOrder total shares = (ordered shares).insertionSort (Ranks total shares) := by
  unfold remainderOrder
  congr

theorem remainderOrder_descending (total : Decimal) (shares : List Share) :
    (remainderOrder total shares).Pairwise fun first second =>
      remainder total shares second ≤ remainder total shares first := by
  rw [remainderOrder_eq]
  refine (pairwise_insertionSort _ _).imp ?_
  intro first second ranks
  rcases ranks with more | ⟨same, -⟩
  · exact more.le
  · exact same.ge

section

variable (unique : (shares.map Share.key).Nodup) (perm : shares.Perm others)
include unique perm

theorem ordered_of_perm :
    ordered shares = ordered others := by
  apply insertionSort_eq_of_perm perm
  intro first isFirst second isSecond before after
  exact inj_on_of_nodup_map unique isFirst isSecond (keyLe_antisymm before after)

theorem distribute_of_perm (total : Decimal) :
    distribute total shares = distribute total others := by
  have sameOrder := ordered_of_perm unique perm
  have sameSum : weightSum shares = weightSum others := by
    unfold weightSum
    rw [sameOrder]
  have sameCut : ∀ amount, floored amount shares = floored amount others := by
    intro amount
    unfold floored
    rw [sameSum]
  have absolute : ∀ amount, distributeAbs amount shares = distributeAbs amount others := by
    intro amount
    have sameRest : restCents amount shares = restCents amount others := by
      unfold restCents
      rw [sameOrder, sameCut]
    have sameRanks : remainderOrder amount shares = remainderOrder amount others := by
      unfold remainderOrder
      rw [sameOrder, sameSum, sameCut]
    unfold distributeAbs
    rw [sameOrder, sameSum, sameCut, sameRest, sameRanks]
    simp only [perm.mem_iff]
  unfold distribute
  rw [absolute, absolute]

end

/-- What a distribution is asked for: distinct keys, weights of which none is negative and one is positive, and a whole
number of cents that 28 digits are enough for. -/
structure Splits (total : Decimal) (shares : List Share) : Prop where
  unique : (shares.map Share.key).Nodup
  nonneg : ∀ share ∈ shares, 0 ≤ share.weight
  positive : 0 < (shares.map Share.weight).sum
  isCents : IsCents total
  enough : (|total| + 1) * ((shares.length + 1) * (shares.length + 2)) < 10 ^ 25

/-- The share without any rounding. -/
def fairShare (total : Decimal) (shares : List Share) (share : Share) : Decimal :=
  total * share.weight / (shares.map Share.weight).sum

theorem Splits.neg (splits : Splits total shares) : Splits (-total) shares where
  unique := splits.unique
  nonneg := splits.nonneg
  positive := splits.positive
  isCents := splits.isCents.neg
  enough := by
    rw [abs_neg]
    exact splits.enough

/-- What rounding adds to or takes from the exact shares is little, even once for each of them. -/
theorem Splits.slack (splits : Splits total shares) :
    shareError shares.length * |total| * (shares.length + 1) < cent ∧ shareError shares.length ≤ 1 ∧
      0 ≤ shareError shares.length * |total| ∧ shareError shares.length * |total| < cent ∧ |total| < 10 ^ 25 := by
  have enough := splits.enough
  have sizeNonneg := abs_nonneg total
  have countNonneg : (0 : ℚ) ≤ shares.length := Nat.cast_nonneg _
  unfold shareError
  generalize |total| = size at *
  generalize (shares.length : ℚ) = count at *
  have pairs : 2 ≤ (count + 1) * (count + 2) := by
    have product := mul_nonneg countNonneg countNonneg
    linarith
  have sized : size * ((count + 1) * (count + 2)) < 10 ^ 25 := by linarith
  have least := mul_le_mul_of_nonneg_left pairs sizeNonneg
  have product := mul_nonneg (mul_nonneg sizeNonneg countNonneg) countNonneg
  have single := mul_nonneg sizeNonneg countNonneg
  have squares := mul_nonneg countNonneg countNonneg
  refine ⟨?_, ?_, by positivity, ?_, by linarith⟩
  · unfold cent
    linarith
  · rw [div_le_one (by norm_num)]
    linarith
  · unfold cent
    linarith

theorem ordered_weights (shares : List Share) :
    ((ordered shares).map Share.weight).sum = (shares.map Share.weight).sum ∧
      ((ordered shares).map Share.weight).length = shares.length :=
  ⟨((ordered_perm shares).map _).sum_eq, by rw [length_map, (ordered_perm shares).length_eq]⟩

section

variable (splits : Splits total shares)
include splits

theorem Splits.ordered_nonneg : ∀ weight ∈ (ordered shares).map Share.weight, 0 ≤ weight := by
  intro weight member
  obtain ⟨share, isShare, rfl⟩ := mem_map.mp member
  exact splits.nonneg share ((ordered_perm shares).mem_iff.mp isShare)

theorem Splits.weightSum_pos : 0 < weightSum shares := by
  refine (roundedSum_pos_iff contextRound_accurate splits.ordered_nonneg).mpr ?_
  rw [(ordered_weights shares).1]
  exact splits.positive

theorem exactShare_near (totalNonneg : 0 ≤ total) (member : share ∈ shares) :
    |exactShare total (weightSum shares) share - fairShare total shares share| ≤ shareError shares.length * |total| ∧
      0 ≤ exactShare total (weightSum shares) share ∧ fairShare total shares share ≤ total := by
  obtain ⟨isSum, isLength⟩ := ordered_weights shares
  obtain ⟨-, few, -, -, -⟩ := splits.slack
  have weightNonneg := splits.nonneg share member
  have near := quota_near contextRound_accurate totalNonneg splits.ordered_nonneg (isSum ▸ splits.positive)
    (by rw [isLength]; linarith [contextError_mul shares.length]) weightNonneg
  rw [isSum, isLength, contextError_mul] at near
  have atMost : share.weight ≤ (shares.map Share.weight).sum := by
    refine single_le_sum ?_ _ (mem_map_of_mem member)
    intro weight isWeight
    obtain ⟨other, isShare, rfl⟩ := mem_map.mp isWeight
    exact splits.nonneg other isShare
  have exactMost : fairShare total shares share ≤ total := by
    unfold fairShare
    rw [div_le_iff₀ splits.positive]
    exact mul_le_mul_of_nonneg_left atMost totalNonneg
  refine ⟨?_, quota_nonneg contextRound_accurate totalNonneg splits.weightSum_pos weightNonneg, exactMost⟩
  refine near.trans ?_
  rw [abs_of_nonneg totalNonneg]
  have errorNonneg : 0 ≤ shareError shares.length := by
    unfold shareError
    positivity
  exact mul_le_mul_of_nonneg_left exactMost errorNonneg

theorem remainder_bounds (totalNonneg : 0 ≤ total) (member : share ∈ shares) :
    0 ≤ remainder total shares share ∧ remainder total shares share < cent := by
  have nonneg := (exactShare_near splits totalNonneg member).2.1
  have below := quantizeDown_le nonneg
  have above := lt_whole_add (show 0 < cent by norm_num [cent]) (exactShare total (weightSum shares) share)
  unfold remainder floored
  refine ⟨sub_nonneg.mpr below, ?_⟩
  unfold quantizeDown
  rw [if_neg (not_lt.mpr nonneg)]
  linarith

/-- Whose remainder is raised to a cent and whose is dropped: the remainders add up to the cents handed out, up to what
rounding makes them off by. -/
theorem raised_or_kept (totalNonneg : 0 ≤ total) (member : share ∈ shares) :
    (share ∈ slice (remainderOrder total shares) (restCents total shares) →
      shareError shares.length * |total| < remainder total shares share) ∧
    (share ∉ slice (remainderOrder total shares) (restCents total shares) →
      remainder total shares share + shareError shares.length * |total| < cent) := by
  obtain ⟨little, few, slackNonneg, small, -⟩ := splits.slack
  rw [abs_of_nonneg totalNonneg] at small little slackNonneg ⊢
  obtain ⟨isSum, isLength⟩ := ordered_weights shares
  have inOrder := (remainderOrder_perm total shares).trans (ordered_perm shares)
  obtain ⟨restNonneg, restMost⟩ := restCents_between splits.nonneg splits.isCents totalNonneg splits.weightSum_pos few small
  obtain ⟨rest, isRest⟩ := Int.eq_ofNat_of_zero_le restNonneg
  rw [isRest] at restMost
  have atMost : rest ≤ shares.length := by exact_mod_cast restMost
  have isFront : slice (remainderOrder total shares) (restCents total shares) = (remainderOrder total shares).take rest := by
    rw [isRest]
    unfold slice
    rw [if_pos (by omega), Int.toNat_natCast]
  have frontLength : ((remainderOrder total shares).take rest).length = rest := by
    rw [length_take, inOrder.length_eq, min_eq_left atMost]
  have backLength : ((remainderOrder total shares).drop rest).length = shares.length - rest := by
    rw [length_drop, inOrder.length_eq]
  -- what the remainders add up to
  have near := quotas_near contextRound_accurate totalNonneg splits.ordered_nonneg (isSum ▸ splits.positive)
    (by rw [isLength]; linarith [contextError_mul shares.length])
  rw [isLength, contextError_mul, map_map] at near
  have cut := restCents_eq shares splits.isCents
  rw [isRest] at cut
  have remainders : ((remainderOrder total shares).map (remainder total shares)).sum =
      ((ordered shares).map (exactShare total (weightSum shares))).sum - ((ordered shares).map (floored total shares)).sum := by
    have split : ((ordered shares).map (exactShare total (weightSum shares))).sum =
        ((ordered shares).map (remainder total shares)).sum + ((ordered shares).map (floored total shares)).sum := by
      rw [← sum_map_add]
      simp only [remainder, sub_add_cancel]
    rw [((remainderOrder_perm total shares).map _).sum_eq, split, add_sub_cancel_right]
  have summed : |((remainderOrder total shares).map (remainder total shares)).sum - rest * cent| ≤
      shareError shares.length * total := by
    have isDifference : ((remainderOrder total shares).map (remainder total shares)).sum - rest * cent =
        ((ordered shares).map (exactShare total (weightSum shares))).sum - total := by
      have castRest : ((rest : ℤ) : ℚ) = rest := Int.cast_natCast rest
      rw [castRest] at cut
      rw [remainders, ← cut]
      ring
    rw [isDifference]
    exact near
  obtain ⟨least, most⟩ := abs_le.mp summed
  have bounds : ∀ other ∈ remainderOrder total shares, 0 ≤ remainder total shares other ∧ remainder total shares other < cent :=
    fun other isOther => remainder_bounds splits totalNonneg (inOrder.mem_iff.mp isOther)
  have dominates : ∀ first ∈ (remainderOrder total shares).take rest, ∀ second ∈ (remainderOrder total shares).drop rest,
      remainder total shares second ≤ remainder total shares first := by
    have descending := remainderOrder_descending total shares
    rw [← take_append_drop rest (remainderOrder total shares)] at descending
    exact (pairwise_append.mp descending).2.2
  have whole := take_append_drop rest (remainderOrder total shares)
  have ownNonneg := (remainder_bounds splits totalNonneg member).1
  have restSize : (rest : ℚ) ≤ shares.length := by exact_mod_cast atMost
  rw [isFront]
  constructor
  · intro raised
    have front := sum_le_front (fun other isOther => (bounds other (mem_of_mem_take isOther)).2.le) dominates raised
    rw [whole, frontLength, backLength] at front
    have started : 1 ≤ rest := by
      rw [← frontLength]
      exact length_pos_of_mem raised
    have count : ((shares.length - rest : ℕ) : ℚ) + 1 ≤ shares.length := by
      have number : shares.length - rest + 1 ≤ shares.length := by omega
      exact_mod_cast number
    have own := mul_le_mul_of_nonneg_right count ownNonneg
    -- otherwise the cent of this share would be more than all that rounding takes
    by_contra less
    have product := mul_le_mul_of_nonneg_left (not_lt.mp less) (Nat.cast_nonneg (α := ℚ) shares.length)
    linarith
  · intro kept
    have isBack : share ∈ (remainderOrder total shares).drop rest := by
      have isIn := inOrder.mem_iff.mpr member
      rw [← whole] at isIn
      exact (mem_append.mp isIn).resolve_left kept
    have back := back_le_sum (fun other isOther => (bounds other (mem_of_mem_drop isOther)).1) dominates isBack
    rw [whole, frontLength] at back
    have room : (rest : ℚ) + 1 ≤ shares.length := by
      have left := length_pos_of_mem isBack
      rw [backLength] at left
      have number : rest + 1 ≤ shares.length := by omega
      exact_mod_cast number
    by_contra more
    have product := mul_le_mul_of_nonneg_left (not_lt.mp more) (show (0 : ℚ) ≤ rest + 1 by positivity)
    have lost := mul_le_mul_of_nonneg_right room slackNonneg
    linarith

end

/-- One part in whole cents for each share, in the order of the keys; together they are the amount, each is less than a cent off its exact
share, and a share without weight gets nothing. -/
structure Fair (total : Decimal) (shares : List Share) (parts : List (ShareKey × Decimal)) : Prop where
  keys : parts.map Prod.fst = (ordered shares).map Share.key
  cents : ∀ part ∈ parts, IsCents part.2
  sum : partsSum parts = total
  near : ∀ share ∈ shares, ∀ part ∈ parts, part.1 = share.key → |part.2 - fairShare total shares share| < cent
  zero : ∀ share ∈ shares, ∀ part ∈ parts, part.1 = share.key → share.weight = 0 → part.2 = 0

/-- The parts of the negative amount. -/
def negated (parts : List (ShareKey × Decimal)) : List (ShareKey × Decimal) := parts.map fun part => (part.1, -part.2)

variable {parts : List (ShareKey × Decimal)}

theorem negated_negated (parts : List (ShareKey × Decimal)) : negated (negated parts) = parts := by
  unfold negated
  rw [map_map]
  simp [Function.comp_def]

theorem Fair.neg (fair : Fair total shares parts) : Fair (-total) shares (negated parts) where
  keys := by
    rw [← fair.keys, negated, map_map]
    rfl
  cents := by
    intro part isPart
    obtain ⟨own, isOwn, rfl⟩ := mem_map.mp isPart
    exact (fair.cents own isOwn).neg
  sum := by
    rw [← fair.sum]
    exact partsSum_neg parts
  near := by
    intro share isShare part isPart sameKey
    obtain ⟨own, isOwn, rfl⟩ := mem_map.mp isPart
    have near := fair.near share isShare own isOwn sameKey
    have flipped : -own.2 - fairShare (-total) shares share = -(own.2 - fairShare total shares share) := by
      unfold fairShare
      ring
    rw [flipped, abs_neg]
    exact near
  zero := by
    intro share isShare part isPart sameKey noWeight
    obtain ⟨own, isOwn, rfl⟩ := mem_map.mp isPart
    have nothing := fair.zero share isShare own isOwn sameKey noWeight
    simp only [nothing, neg_zero]

theorem exactShare_zero (noWeight : share.weight = 0) (total : Decimal) (shares : List Share) :
    exactShare total (weightSum shares) share = 0 := by
  have zero : contextRound 0 = 0 := by decide +kernel
  rw [exactShare, quota, noWeight, mul_zero, zero, zero_div, zero]

theorem distributeAbs_fair (splits : Splits total shares) (totalNonneg : 0 ≤ total) :
    ∃ parts, distributeAbs total shares = some parts ∧ Fair total shares parts := by
  obtain ⟨little, few, slackNonneg, small, large⟩ := splits.slack
  have possible : ¬ (weightSum shares ≤ 0 ∨ ∃ share ∈ shares, 10 ^ 26 ≤ |floored total shares share|) := by
    rintro (nothing | ⟨share, member, tooLong⟩)
    · exact absurd splits.weightSum_pos (not_lt.mpr nothing)
    · obtain ⟨near, nonneg, most⟩ := exactShare_near splits totalNonneg member
      have cut := quantizeDown_le nonneg
      rw [floored, abs_of_nonneg (quantizeDown_nonneg nonneg)] at tooLong
      rw [abs_of_nonneg totalNonneg] at large
      have above := (abs_le.mp near).2
      have centSmall : cent ≤ 1 := by norm_num [cent]
      norm_num at tooLong large
      linarith
  obtain ⟨parts, isParts⟩ : ∃ parts, distributeAbs total shares = some parts := by
    unfold distributeAbs
    rw [if_neg possible]
    exact ⟨_, rfl⟩
  have restBetween := restCents_between splits.nonneg splits.isCents totalNonneg splits.weightSum_pos few
    (by rw [abs_of_nonneg totalNonneg] at small; exact small)
  have notEmpty : 0 < shares.length := by
    apply length_pos_iff.mpr
    rintro rfl
    exact absurd splits.positive (lt_irrefl 0)
  have sum := distributeAbs_surplus splits.unique splits.isCents isParts
  rw [(excess_eq_zero notEmpty _).mpr restBetween, Int.cast_zero, zero_mul, add_zero] at sum
  -- the part of a share by its key
  have own : ∀ share ∈ shares, ∀ part ∈ parts, part.1 = share.key →
      part.2 = floored total shares share +
        if share ∈ slice (remainderOrder total shares) (restCents total shares) then cent else 0 := by
    have keysOf := isParts
    unfold distributeAbs at keysOf
    rw [if_neg possible] at keysOf
    cases keysOf
    have inOrder := (remainderOrder_perm total shares).trans (ordered_perm shares)
    intro share isShare part isPart sameKey
    obtain ⟨other, isOther, rfl⟩ := mem_map.mp isPart
    have same := inj_on_of_nodup_map splits.unique ((ordered_perm shares).mem_iff.mp isOther) isShare sameKey
    subst same
    have raised : other.key ∈ (slice (remainderOrder total shares) (restCents total shares)).map Share.key ↔
        other ∈ slice (remainderOrder total shares) (restCents total shares) := by
      constructor
      · intro isRaised
        obtain ⟨one, isOne, sameOne⟩ := mem_map.mp isRaised
        have among := inOrder.mem_iff.mp ((slice_sublist _ _).mem isOne)
        rw [← inj_on_of_nodup_map splits.unique among isShare sameOne]
        exact isOne
      · exact fun isRaised => mem_map_of_mem isRaised
    simp only [raised]
  have keys := distributeAbs_keys isParts
  refine ⟨parts, isParts, keys, distributeAbs_cents isParts, sum, ?_, ?_⟩
  · intro share isShare part isPart sameKey
    obtain ⟨near, -, -⟩ := exactShare_near splits totalNonneg isShare
    obtain ⟨remainderNonneg, remainderSmall⟩ := remainder_bounds splits totalNonneg isShare
    obtain ⟨raised, kept⟩ := raised_or_kept splits totalNonneg isShare
    obtain ⟨lower, upper⟩ := abs_le.mp near
    have isRemainder : remainder total shares share =
        exactShare total (weightSum shares) share - floored total shares share := rfl
    rw [own share isShare part isPart sameKey, abs_lt]
    split
    · rename_i isRaised
      have more := raised isRaised
      constructor <;> linarith
    · rename_i isKept
      have less := kept isKept
      constructor <;> linarith
  · intro share isShare part isPart sameKey noWeight
    have nothing := exactShare_zero noWeight total shares
    have cut : floored total shares share = 0 := by
      rw [floored, nothing]
      decide +kernel
    have noRemainder : remainder total shares share = 0 := by rw [remainder, nothing, cut, sub_zero]
    rw [own share isShare part isPart sameKey, cut, zero_add]
    apply if_neg
    intro isRaised
    have more := (raised_or_kept splits totalNonneg isShare).1 isRaised
    rw [noRemainder] at more
    exact absurd slackNonneg (not_le.mpr more)

theorem Fair.of_zero (fair : Fair 0 shares parts) : negated parts = parts := by
  have each : ∀ part ∈ parts, part.2 = 0 := by
    intro part isPart
    have isKey : part.1 ∈ (ordered shares).map Share.key := fair.keys ▸ mem_map_of_mem isPart
    obtain ⟨share, isShare, sameKey⟩ := mem_map.mp isKey
    have near := fair.near share ((ordered_perm shares).mem_iff.mp isShare) part isPart sameKey.symm
    rw [fairShare, zero_mul, zero_div, sub_zero] at near
    have least := abs_le_of_isCents (fair.cents part isPart) isCents_cent near
    rw [cent, sub_self] at least
    exact abs_nonpos_iff.mp least
  unfold negated
  conv_rhs => rw [← map_id parts]
  apply map_congr_left
  intro part isPart
  rw [id, each part isPart, neg_zero, ← each part isPart]

theorem distribute_neg (splits : Splits total shares) :
    distribute (-total) shares = (distribute total shares).map negated := by
  rcases lt_trichotomy total 0 with negative | zero | positive
  · have flipped : ¬ -total < 0 := not_lt.mpr (neg_nonneg.mpr negative.le)
    obtain ⟨parts, isParts, -⟩ := distributeAbs_fair splits.neg (neg_nonneg.mpr negative.le)
    rw [distribute, distribute, if_neg flipped, if_pos negative, isParts]
    exact congrArg some (negated_negated parts).symm
  · subst zero
    obtain ⟨parts, isParts, fair⟩ := distributeAbs_fair splits (le_refl 0)
    have notNegative : ¬ (0 : ℚ) < 0 := lt_irrefl 0
    rw [neg_zero, distribute, if_neg notNegative, isParts, Option.map_some, fair.of_zero]
  · have flipped : -total < 0 := neg_lt_zero.mpr positive
    rw [distribute, distribute, if_pos flipped, if_neg (not_lt.mpr positive.le), neg_neg]
    rfl

theorem distribute_fair (splits : Splits total shares) :
    ∃ parts, distribute total shares = some parts ∧ Fair total shares parts := by
  by_cases negative : total < 0
  · obtain ⟨parts, isParts, fair⟩ := distributeAbs_fair splits.neg (neg_nonneg.mpr negative.le)
    refine ⟨negated parts, ?_, ?_⟩
    · rw [distribute, if_pos negative, isParts]
      rfl
    · have back := fair.neg
      rwa [neg_neg] at back
  · obtain ⟨parts, isParts, fair⟩ := distributeAbs_fair splits (not_lt.mp negative)
    refine ⟨parts, ?_, fair⟩
    rw [distribute, if_neg negative, isParts]

theorem quota_cents (nonneg : 0 ≤ amount) (weightNonneg : 0 ≤ weight)
    (positive : 0 < rounded) :
    quota contextRound (amount / cent) rounded weight = quota contextRound amount rounded weight / cent := by
  have shift : ∀ value : ℚ, value / cent = value * 10 ^ (2 : ℤ) := by
    intro value
    unfold cent
    rw [div_div_eq_mul_div, div_one]
    norm_num
  have product := mul_nonneg nonneg weightNonneg
  have quotient := div_nonneg (contextRound_accurate.round_nonneg product) positive.le
  unfold quota
  rw [shift amount, mul_right_comm, contextRound_mul_zpow product, mul_div_right_comm, contextRound_mul_zpow quotient, shift]

theorem floored_cents (splits : Splits total shares) (totalNonneg : 0 ≤ total) (member : share ∈ shares) :
    floored total shares share =
      ((quota contextRound (total / cent) (weightSum shares) share.weight).floor : ℤ) * cent ∧
      remainder total shares share / cent = quota contextRound (total / cent) (weightSum shares) share.weight -
        ((quota contextRound (total / cent) (weightSum shares) share.weight).floor : ℤ) := by
  have nonneg := (exactShare_near splits totalNonneg member).2.1
  have centNonzero : cent ≠ 0 := by norm_num [cent]
  rw [quota_cents totalNonneg (splits.nonneg share member) splits.weightSum_pos]
  have isFloored : floored total shares share =
      ((quota contextRound total (weightSum shares) share.weight / cent).floor : ℤ) * cent := by
    unfold floored quantizeDown
    rw [if_neg (not_lt.mpr nonneg)]
    rfl
  refine ⟨isFloored, ?_⟩
  rw [remainder, isFloored, sub_div, mul_div_cancel_right₀ _ centNonzero]
  rfl

theorem position_iff (unique : (shares.map Share.key).Nodup)
    (ascending : shares.Pairwise fun first second => KeyLe first.key second.key) :
    ∀ first ∈ shares.zipIdx, ∀ second ∈ shares.zipIdx,
      (first.2 ≤ second.2 ↔ KeyLe first.1.key second.1.key) ∧ (first.2 = second.2 ↔ first.1.key = second.1.key) := by
  intro first isFirst second isSecond
  obtain ⟨firstIn, isFirstShare⟩ := List.getElem?_eq_some_iff.mp (mem_zipIdx_iff_getElem?.mp isFirst)
  obtain ⟨secondIn, isSecondShare⟩ := List.getElem?_eq_some_iff.mp (mem_zipIdx_iff_getElem?.mp isSecond)
  have ordered := pairwise_iff_getElem.mp ascending
  have distinct : first.1.key = second.1.key → first.2 = second.2 := by
    intro sameKey
    have firstKey : first.2 < (shares.map Share.key).length := by rwa [length_map]
    have secondKey : second.2 < (shares.map Share.key).length := by rwa [length_map]
    have keys : (shares.map Share.key)[first.2] = (shares.map Share.key)[second.2] := by
      simpa [isFirstShare, isSecondShare] using sameKey
    exact (List.Nodup.getElem_inj_iff unique).mp keys
  have sameShare : first.2 = second.2 → first.1 = second.1 := by
    intro same
    rw [← isFirstShare, ← isSecondShare]
    simp only [same]
  have before : ∀ {one other : Share × ℕ} (oneIn : one.2 < shares.length) (otherIn : other.2 < shares.length),
      shares[one.2] = one.1 → shares[other.2] = other.1 → one.2 < other.2 → KeyLe one.1.key other.1.key := by
    intro one other oneIn otherIn isOne isOther less
    have ranks := ordered one.2 other.2 oneIn otherIn less
    rwa [isOne, isOther] at ranks
  constructor
  · constructor
    · intro atMost
      rcases Nat.lt_or_eq_of_le atMost with less | same
      · exact before firstIn secondIn isFirstShare isSecondShare less
      · rw [sameShare same]
        exact (keyLe_total _ _).elim id id
    · intro ranks
      by_contra more
      have back := before secondIn firstIn isSecondShare isFirstShare (not_le.mp more)
      exact more (distinct (keyLe_antisymm ranks back)).le
  · exact ⟨fun same => congrArg Share.key (sameShare same), distinct⟩

theorem slice_map (image : Item → Image) (items : List Item) (count : ℤ) :
    slice (items.map image) count = (slice items count).map image := by
  unfold slice
  rw [length_map]
  split <;> exact map_take.symm

theorem amount_cents (isCents : IsCents amount) (nonneg : 0 ≤ amount) (large : amount < 10 ^ 25) :
    (((contextRound (amount / cent)).floor : ℤ) : ℚ) = amount / cent := by
  obtain ⟨cents, rfl⟩ := isCents_iff.mp isCents
  have positive : 0 < cent := by norm_num [cent]
  rw [mul_div_cancel_right₀ _ positive.ne']
  have centsNonneg : 0 ≤ cents := by
    have scaled : (0 : ℚ) ≤ cents := nonneg_of_mul_nonneg_left nonneg positive
    exact_mod_cast scaled
  obtain ⟨count, rfl⟩ := Int.eq_ofNat_of_zero_le centsNonneg
  have less : count < 10 ^ 28 := by
    have scaled : (count : ℚ) < 10 ^ 28 := by
      unfold cent at large
      push_cast at large
      linarith
    exact_mod_cast scaled
  have isFloor : ((count : ℕ) : ℚ).floor = ⌊((count : ℕ) : ℚ)⌋ := rfl
  rw [Int.cast_natCast, contextRound_natCast less, isFloor, Int.floor_natCast, Int.cast_natCast]

section

variable (splits : Splits total shares)
include splits

theorem rest_cents (totalNonneg : 0 ≤ total) {cents : ℤ} (isCents : (cents : ℚ) = total / cent) :
    cents - ((shares.map Share.weight).map fun weight =>
      (quota contextRound (total / cent) (weightSum shares) weight).floor).sum = restCents total shares := by
  have cut := restCents_eq shares splits.isCents
  have summed : ((ordered shares).map (floored total shares)).sum =
      (((shares.map Share.weight).map fun weight =>
        (quota contextRound (total / cent) (weightSum shares) weight).floor).sum : ℤ) * cent := by
    rw [((ordered_perm shares).map _).sum_eq,
      map_congr_left fun share member => (floored_cents splits totalNonneg member).1, sum_map_mul_right,
      Int.cast_list_sum, map_map, map_map]
    rfl
  have centNonzero : cent ≠ 0 := by norm_num [cent]
  rw [summed] at cut
  generalize ((shares.map Share.weight).map fun weight =>
    (quota contextRound (total / cent) (weightSum shares) weight).floor).sum = base at *
  have inCents : ((cents - base : ℤ) : ℚ) = (restCents total shares : ℤ) := by
    push_cast
    rw [isCents, sub_eq_iff_eq_add, div_eq_iff centNonzero, add_mul, ← cut]
    ring
  exact_mod_cast inCents

theorem raised_position (totalNonneg : 0 ≤ total)
    (ascending : shares.Pairwise fun first second => KeyLe first.key second.key) (exact : Decimal → Decimal)
    (isExact : exact = quota contextRound (total / cent) (weightSum shares)) (count : ℤ) :
    ∀ place ∈ shares.zipIdx,
      (place.2 ∈ (slice ((shares.map Share.weight).zipIdx.insertionSort fun first second =>
        exact second.1 - (exact second.1).floor < exact first.1 - (exact first.1).floor ∨
          exact first.1 - (exact first.1).floor = exact second.1 - (exact second.1).floor ∧ first.2 ≤ second.2)
        count).map Prod.snd ↔
      place.1.key ∈ (slice (remainderOrder total shares) count).map Share.key) := by
  have isOrdered : ordered shares = shares := List.Pairwise.insertionSort_eq ascending
  have ranks := position_iff splits.unique ascending
  have isShare : ∀ place ∈ shares.zipIdx, place.1 ∈ shares := fun place member =>
    mem_of_getElem? (mem_zipIdx_iff_getElem?.mp member)
  have positive : 0 < cent := by norm_num [cent]
  have inCents : ∀ place ∈ shares.zipIdx, exact place.1.weight - (exact place.1.weight).floor =
      remainder total shares place.1 / cent := by
    intro place member
    rw [(floored_cents splits totalNonneg (isShare place member)).2, isExact]
  have byKey : ((shares.zipIdx.insertionSort fun first second => Ranks total shares first.1 second.1).map Prod.fst) =
      remainderOrder total shares := by
    have mapped := map_insertionSort (fun first second : Share × ℕ => Ranks total shares first.1 second.1)
      (Ranks total shares) Prod.fst shares.zipIdx fun _ _ _ _ => Iff.rfl
    rw [mapped, zipIdx_map_fst, remainderOrder_eq, isOrdered]
  have byPosition : ((shares.map Share.weight).zipIdx.insertionSort fun first second =>
      exact second.1 - (exact second.1).floor < exact first.1 - (exact first.1).floor ∨
        exact first.1 - (exact first.1).floor = exact second.1 - (exact second.1).floor ∧ first.2 ≤ second.2) =
      (shares.zipIdx.insertionSort fun first second => Ranks total shares first.1 second.1).map
        (Prod.map Share.weight id) := by
    have mapped := map_insertionSort (fun first second : Share × ℕ => Ranks total shares first.1 second.1)
      (fun first second : Decimal × ℕ => exact second.1 - (exact second.1).floor < exact first.1 - (exact first.1).floor ∨
        exact first.1 - (exact first.1).floor = exact second.1 - (exact second.1).floor ∧ first.2 ≤ second.2)
      (Prod.map Share.weight id) shares.zipIdx (by
        intro first isFirst second isSecond
        simp only [Prod.map_fst, Prod.map_snd, id]
        rw [inCents first isFirst, inCents second isSecond, div_lt_div_iff_of_pos_right positive,
          div_left_inj' positive.ne', (ranks first isFirst second isSecond).1]
        rfl)
    rw [mapped, zipIdx_map]
  rw [byPosition, ← byKey, slice_map, slice_map, map_map, map_map]
  have among : ∀ other ∈ slice (shares.zipIdx.insertionSort fun first second => Ranks total shares first.1 second.1) count,
      other ∈ shares.zipIdx := fun other member =>
    (perm_insertionSort _ _).mem_iff.mp ((slice_sublist _ _).mem member)
  intro place isPlace
  simp only [mem_map, Function.comp_apply, Prod.map_snd, id]
  constructor
  · rintro ⟨other, isOther, same⟩
    exact ⟨other, isOther, ((ranks other (among other isOther) place isPlace).2).mp same⟩
  · rintro ⟨other, isOther, same⟩
    exact ⟨other, isOther, ((ranks other (among other isOther) place isPlace).2).mpr same⟩

theorem distributeCents_abs (ascending : shares.Pairwise fun first second => KeyLe first.key second.key) :
    ∃ parts, distributeAbs |total| shares = some parts ∧
      distributeCents total (shares.map Share.weight) =
        .ok (parts.map fun part => (if total < 0 then -1 else 1) * part.2) := by
  have absSplits : Splits |total| shares := by
    rcases abs_choice total with same | flipped
    · rw [same]
      exact splits
    · rw [flipped]
      exact splits.neg
  have totalNonneg := abs_nonneg total
  obtain ⟨-, -, -, -, large⟩ := absSplits.slack
  rw [abs_abs] at large
  obtain ⟨parts, isParts, -⟩ := distributeAbs_fair absSplits totalNonneg
  refine ⟨parts, isParts, ?_⟩
  have isOrdered : ordered shares = shares := List.Pairwise.insertionSort_eq ascending
  have isSum : roundedSum contextRound (shares.map Share.weight) = weightSum shares := by rw [weightSum, isOrdered]
  have sumPositive := splits.weightSum_pos
  have isAmount := amount_cents absSplits.isCents totalNonneg large
  have isRest := rest_cents absSplits totalNonneg isAmount
  have isShare : ∀ place ∈ shares.zipIdx, place.1 ∈ shares := fun place member =>
    mem_of_getElem? (mem_zipIdx_iff_getElem?.mp member)
  -- none of the refusals applies
  have notLong : ¬ 10 ^ 26 ≤ |total| := by
    norm_num at large ⊢
    linarith
  have notEmpty : shares.map Share.weight ≠ [] := by
    intro none
    have positive := splits.positive
    rw [none] at positive
    exact lt_irrefl _ positive
  have notNegative : ¬ ∃ weight ∈ shares.map Share.weight, weight < 0 := by
    rintro ⟨weight, member, negative⟩
    obtain ⟨share, isShare, rfl⟩ := mem_map.mp member
    exact absurd (splits.nonneg share isShare) (not_le.mpr negative)
  unfold distributeCents
  rw [if_neg notLong, if_neg (not_not.mpr splits.isCents), if_neg notEmpty, if_neg notNegative]
  dsimp only
  rw [isSum, if_neg sumPositive.ne', isAmount, isRest]
  congr 1
  unfold distributeAbs at isParts
  split at isParts
  · cases isParts
  · cases isParts
    have raised := raised_position absSplits totalNonneg ascending _ rfl (restCents |total| shares)
    rw [isOrdered, map_map, zipIdx_map, map_map]
    have places : ∀ image : Share → Decimal, shares.zipIdx.map (fun place => image place.1) = shares.map image := by
      intro image
      conv_rhs => rw [← zipIdx_map_fst 0 shares, map_map]
      rfl
    refine Eq.trans ?_ (places _)
    apply map_congr_left
    intro place isPlace
    have cut := (floored_cents absSplits totalNonneg (isShare place isPlace)).1
    have own := raised place isPlace
    rw [zipIdx_map] at own
    simp only [Function.comp_apply, Prod.map_fst, Prod.map_snd, id, own]
    rw [cut]
    by_cases isRaised : place.1.key ∈ (slice (remainderOrder |total| shares) (restCents |total| shares)).map Share.key
    · rw [if_pos isRaised, if_pos isRaised]
      ring
    · rw [if_neg isRaised, if_neg isRaised]
      ring

/-- The two implementations give the same parts where the positions are in the order of the keys. -/
theorem distribute_distributeCents (ascending : shares.Pairwise fun first second => KeyLe first.key second.key)
    (isParts : distribute total shares = some parts) :
    distributeCents total (shares.map Share.weight) = .ok (parts.map Prod.snd) := by
  obtain ⟨absolute, isAbsolute, isCents⟩ := distributeCents_abs splits ascending
  rw [isCents]
  unfold distribute at isParts
  by_cases negative : total < 0
  · rw [if_pos negative, ← abs_of_neg negative, isAbsolute] at isParts
    cases isParts
    rw [map_map, if_pos negative]
    simp only [neg_one_mul]
    rfl
  · rw [if_neg negative, ← abs_of_nonneg (not_lt.mp negative), isAbsolute] at isParts
    cases isParts
    rw [if_neg negative]
    simp only [one_mul]

end

/-- Weights by position. -/
def keyed (weights : List Decimal) : List Share := weights.zipIdx.map fun place => ⟨("", place.2), place.1⟩

theorem keyed_weights (weights : List Decimal) : (keyed weights).map Share.weight = weights := by
  rw [keyed, map_map]
  exact zipIdx_map_fst 0 weights

theorem keyed_ascending (weights : List Decimal) :
    (keyed weights).Pairwise fun first second => KeyLe first.key second.key := by
  have positions : (weights.zipIdx.map Prod.snd).Pairwise fun first second => first < second := by
    rw [zipIdx_map_snd]
    exact pairwise_lt_range'
  refine pairwise_map.mpr ((pairwise_map.mp positions).imp ?_)
  intro first second less
  exact Or.inr ⟨rfl, less.le⟩

theorem keyed_unique (weights : List Decimal) : ((keyed weights).map Share.key).Nodup := by
  have positions : (weights.zipIdx.map Prod.snd).Nodup := by
    rw [zipIdx_map_snd]
    exact nodup_range'
  rw [keyed, map_map]
  refine List.Nodup.of_map Prod.snd ?_
  rw [map_map]
  exact positions

/-- The same by positions: what the parts of a list of weights promise. -/
structure FairSplit (total : Decimal) (weights split : List Decimal) : Prop where
  length : split.length = weights.length
  cents : ∀ part ∈ split, IsCents part
  sum : split.sum = total
  near : ∀ pair ∈ weights.zip split, |pair.2 - total * pair.1 / weights.sum| < cent
  zero : ∀ pair ∈ weights.zip split, pair.1 = 0 → pair.2 = 0

theorem Fair.split (fair : Fair total (keyed weights) parts) :
    FairSplit total weights (parts.map Prod.snd) := by
  have isOrdered : ordered (keyed weights) = keyed weights := List.Pairwise.insertionSort_eq (keyed_ascending weights)
  have keys := fair.keys
  rw [isOrdered] at keys
  have places : ∀ pair ∈ weights.zip (parts.map Prod.snd), ∃ share ∈ keyed weights, ∃ part ∈ parts,
      part.1 = share.key ∧ share.weight = pair.1 ∧ part.2 = pair.2 := by
    intro pair member
    obtain ⟨index, isPair⟩ := mem_iff_getElem?.mp member
    obtain ⟨isWeight, isPart⟩ := List.getElem?_zip_eq_some.mp isPair
    rw [List.getElem?_map] at isPart
    obtain ⟨part, partAt, isValue⟩ := Option.map_eq_some_iff.mp isPart
    have shareAt : (keyed weights)[index]? = some ⟨("", index), pair.1⟩ := by
      rw [keyed, List.getElem?_map, List.getElem?_zipIdx, isWeight]
      simp
    have sameKey := congrArg (fun list => list[index]?) keys
    simp only [List.getElem?_map, partAt, shareAt, Option.map_some] at sameKey
    exact ⟨_, mem_of_getElem? shareAt, part, mem_of_getElem? partAt, Option.some.inj sameKey, rfl, isValue⟩
  refine ⟨?_, ?_, fair.sum, ?_, ?_⟩
  · have lengths := congrArg List.length keys
    rw [length_map, length_map, keyed, length_map, length_zipIdx] at lengths
    rw [length_map, lengths]
  · intro value member
    obtain ⟨part, isPart, rfl⟩ := mem_map.mp member
    exact fair.cents part isPart
  · intro pair member
    obtain ⟨share, isShare, part, isPart, sameKey, isWeight, isValue⟩ := places pair member
    have near := fair.near share isShare part isPart sameKey
    rw [fairShare, keyed_weights, isWeight, isValue] at near
    exact near
  · intro pair member noWeight
    obtain ⟨share, isShare, part, isPart, sameKey, isWeight, isValue⟩ := places pair member
    rw [← isValue]
    exact fair.zero share isShare part isPart sameKey (isWeight.trans noWeight)

/-- Both implementations split an amount in whole cents fairly, and the negative amount into the negative parts. By keys the
order of the input does not matter; by positions the parts are those by keys that ascend with them, and an amount that is
not in whole cents is refused. -/
theorem fair_distribution (splits : Splits total shares) :
    (∃ parts, distribute total shares = some parts ∧ Fair total shares parts ∧
      distribute (-total) shares = some (negated parts) ∧
      (∀ others, shares.Perm others → distribute total others = some parts) ∧
      ((shares.Pairwise fun first second => KeyLe first.key second.key) →
        distributeCents total (shares.map Share.weight) = .ok (parts.map Prod.snd))) ∧
    (∃ split, distributeCents total (shares.map Share.weight) = .ok split ∧
      FairSplit total (shares.map Share.weight) split ∧
      distributeCents (-total) (shares.map Share.weight) = .ok (split.map fun part => -part)) ∧
    ∀ amount, |amount| < 10 ^ 26 → ¬ IsCents amount →
      distributeCents amount (shares.map Share.weight) = .error "total must be a whole cent amount" := by
  refine ⟨?_, ?_, ?_⟩
  · obtain ⟨parts, isParts, fair⟩ := distribute_fair splits
    refine ⟨parts, isParts, fair, ?_, ?_, ?_⟩
    · rw [distribute_neg splits, isParts, Option.map_some]
    · intro others perm
      rw [← distribute_of_perm splits.unique perm, isParts]
    · intro ascending
      exact distribute_distributeCents splits ascending isParts
  · have keyedSplits : Splits total (keyed (shares.map Share.weight)) := by
      refine ⟨keyed_unique _, ?_, ?_, splits.isCents, ?_⟩
      · intro share member
        have isWeight := mem_map_of_mem (f := Share.weight) member
        rw [keyed_weights] at isWeight
        obtain ⟨own, isOwn, same⟩ := mem_map.mp isWeight
        rw [← same]
        exact splits.nonneg own isOwn
      · rw [keyed_weights]
        exact splits.positive
      · have length : (keyed (shares.map Share.weight)).length = shares.length := by
          rw [keyed, length_map, length_zipIdx, length_map]
        rw [length]
        exact splits.enough
    obtain ⟨parts, isParts, fair⟩ := distribute_fair keyedSplits
    have split := distribute_distributeCents keyedSplits (keyed_ascending _) isParts
    have flipped := distribute_distributeCents keyedSplits.neg (keyed_ascending _)
      ((distribute_neg keyedSplits).trans (congrArg (Option.map negated) isParts))
    rw [keyed_weights] at split flipped
    refine ⟨parts.map Prod.snd, split, fair.split, ?_⟩
    rw [flipped, negated, map_map, map_map]
    rfl
  · intro amount small notCents
    unfold distributeCents
    rw [if_neg (not_le.mpr small), if_pos notCents]

/-- A hundred on three equal shares, one of them first by its key. -/
def thirds : List Share := [⟨("03", 0), 1⟩, ⟨("01", 0), 1⟩, ⟨("02", 0), 1⟩]

theorem thirds_distributed :
    (∃ parts, distribute (-100) thirds = some parts ∧ Fair (-100) thirds parts) ∧
      ∃ split, distributeCents (-100) [1, 1, 1] = .ok split ∧ FairSplit (-100) [1, 1, 1] split := by
  have splits : Splits (-100) thirds := by
    refine ⟨by decide, by decide, by decide +kernel, by decide +kernel, ?_⟩
    norm_num [thirds]
  obtain ⟨⟨parts, isParts, fair, -⟩, ⟨split, isSplit, fairSplit, -⟩, -⟩ := fair_distribution splits
  exact ⟨⟨parts, isParts, fair⟩, split, isSplit, fairSplit⟩

/-- An amount of half a cent is refused; a cent on equal weights goes to whoever stands first; and beyond 28 digits the
parts of 60000000000000000000000000.02 are three cents more. -/
theorem not_for_every_amount :
    distributeCents (5 / 1000) [1] = .error "total must be a whole cent amount" ∧
      distributeCents (1 / 100) [1, 1] = .ok [1 / 100, 0] ∧
      (distribute (6 * 10 ^ 25 + 2 / 100) thirds).map partsSum = some (6 * 10 ^ 25 + 5 / 100) := by
  decide +kernel

end Mhvp.Billing
