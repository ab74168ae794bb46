import Mathlib.Data.List.Sort
import Mhvp.Core.Cents

namespace Mhvp.Hoa.ReserveSplit

open Core Lib.Rounding List

universe u

variable {Key : Type u}

/-- `{k: v for k, v in planned.items() if v > 0}` -/
def positive (planned : List (Key × Decimal)) : List (Key × Decimal) := planned.filter fun entry => 0 < entry.2

/-- `sum(positive.values(), ZERO)` -/
def planTotal (planned : List (Key × Decimal)) : Decimal := roundedSum contextRound ((positive planned).map Prod.snd)

/-- `(unassigned * v / total).quantize(CENT, rounding=ROUND_HALF_UP)` -/
def share (unassigned : Decimal) (planned : List (Key × Decimal)) (plan : Decimal) : Decimal :=
  roundCents (quota contextRound unassigned (planTotal planned) plan)

/-- `sorted(positive, key=lambda k: (-positive[k], k))` -/
def byPlan [LinearOrder Key] (planned : List (Key × Decimal)) : List (Key × Decimal) :=
  (positive planned).insertionSort fun first second => second.2 < first.2 ∨ first.2 = second.2 ∧ first.1 ≤ second.1

/-- The reserve with the largest plan amount, the smallest id of several. -/
def target [LinearOrder Key] (planned : List (Key × Decimal)) : Option Key := (byPlan planned).head?.map Prod.fst

/-- `split_by_plan_ratio`: nothing without a plan, and no parts where a share in cents has more than 28 digits, which
`quantize` refuses. -/
def splitByPlanRatio [LinearOrder Key] (unassigned : Decimal) (planned : List (Key × Decimal)) : Option (List (Key × Decimal)) :=
  if planTotal planned ≤ 0 ∨ unassigned = 0 then some []
  else if ∃ entry ∈ positive planned, 10 ^ 26 ≤ |share unassigned planned entry.2| then none
  else
    let parts := (positive planned).map fun entry => (entry.1, share unassigned planned entry.2)
    let rest := contextRound (unassigned - roundedSum contextRound (parts.map Prod.snd))
    some (parts.map fun part =>
      if rest ≠ 0 ∧ some part.1 = target planned then (part.1, contextRound (part.2 + rest)) else part)

/-- The keys of a dictionary, an amount in cents, and both far from 28 digits. -/
structure Fits (unassigned : Decimal) (planned : List (Key × Decimal)) : Prop where
  unique : (planned.map Prod.fst).Nodup
  isCents : IsCents unassigned
  enough : ((positive planned).length + 2) * (positive planned).length * |unassigned| < 10 ^ 24

/-- The exact share of a plan amount. -/
def exactShare (unassigned : Decimal) (planned : List (Key × Decimal)) (plan : Decimal) : Decimal :=
  unassigned * plan / ((positive planned).map Prod.snd).sum

variable {unassigned : Decimal} {planned : List (Key × Decimal)} {entry : Key × Decimal}

theorem plan_pos (member : entry ∈ positive planned) : 0 < entry.2 := by
  have isPositive := (mem_filter.mp member).2
  simpa using isPositive

theorem plans_nonneg (planned : List (Key × Decimal)) : ∀ plan ∈ (positive planned).map Prod.snd, 0 ≤ plan := by
  intro plan member
  obtain ⟨entry, isEntry, rfl⟩ := mem_map.mp member
  exact (plan_pos isEntry).le

theorem plan_le_sum (member : entry ∈ positive planned) : entry.2 ≤ ((positive planned).map Prod.snd).sum :=
  single_le_sum (plans_nonneg planned) _ (mem_map_of_mem member)

theorem plans_sum_pos (member : entry ∈ positive planned) : 0 < ((positive planned).map Prod.snd).sum :=
  (plan_pos member).trans_le (plan_le_sum member)

theorem planTotal_pos_iff : 0 < planTotal planned ↔ positive planned ≠ [] := by
  unfold planTotal
  rw [roundedSum_pos_iff contextRound_accurate (plans_nonneg planned)]
  constructor
  · intro isPositive empty
    rw [empty] at isPositive
    simp at isPositive
  · intro notEmpty
    obtain ⟨entry, member⟩ := exists_mem_of_ne_nil _ notEmpty
    exact plans_sum_pos member

theorem positive_unique (fits : Fits unassigned planned) : ((positive planned).map Prod.fst).Nodup :=
  fits.unique.sublist (filter_sublist.map Prod.fst)

theorem share_neg (unassigned : Decimal) (planned : List (Key × Decimal)) (plan : Decimal) :
    share (-unassigned) planned plan = -share unassigned planned plan := by
  unfold share quota
  rw [neg_mul, contextRound_neg, neg_div, contextRound_neg, roundCents_neg]

/-- By how much the digits of product, quotient and sum move a share. -/
def slack (unassigned : Decimal) (planned : List (Key × Decimal)) : Decimal :=
  2 * (((positive planned).length + 2) * contextError) * unassigned

theorem Fits.slack (fits : Fits unassigned planned) (nonneg : 0 ≤ unassigned) :
    (positive planned).length * slack unassigned planned < 1 / 1000 := by
  have enough := fits.enough
  rw [abs_of_nonneg nonneg] at enough
  have isProduct : (positive planned).length * ReserveSplit.slack unassigned planned =
      2 * contextError * (((positive planned).length + 2) * (positive planned).length * unassigned) := by
    unfold ReserveSplit.slack
    ring
  rw [isProduct]
  unfold contextError
  linarith

theorem slack_nonneg (planned : List (Key × Decimal)) (nonneg : 0 ≤ unassigned) : 0 ≤ slack unassigned planned := by
  unfold slack contextError
  positivity

theorem Fits.slack_small (fits : Fits unassigned planned) (nonneg : 0 ≤ unassigned) (member : entry ∈ positive planned) :
    ReserveSplit.slack unassigned planned < 1 / 1000 := by
  have some' : (1 : ℚ) ≤ (positive planned).length := by exact_mod_cast length_pos_of_mem member
  have slackNonneg := slack_nonneg planned nonneg
  have all := fits.slack nonneg
  have one := mul_le_mul_of_nonneg_right some' slackNonneg
  linarith

theorem quota_off (fits : Fits unassigned planned) (isPositive : 0 < unassigned) (member : entry ∈ positive planned) :
    |quota contextRound unassigned (planTotal planned) entry.2 - exactShare unassigned planned entry.2| ≤
      slack unassigned planned := by
  have sumPositive := plans_sum_pos member
  have few : (((positive planned).map Prod.snd).length + 2) * contextError ≤ (1 : ℚ) / 2 := by
    obtain ⟨cents, isAmount⟩ := isCents_iff_int.mp fits.isCents
    have least : 1 ≤ cents := by
      have size : (0 : ℚ) < cents := by linarith
      exact_mod_cast size
    have atLeast : (1 : ℚ) / 100 ≤ unassigned := by
      have cast : (1 : ℚ) ≤ cents := by exact_mod_cast least
      rw [isAmount]
      linarith
    have enough := fits.enough
    rw [abs_of_pos isPositive] at enough
    have some' : (1 : ℚ) ≤ (positive planned).length := by exact_mod_cast length_pos_of_mem member
    have length : (0 : ℚ) ≤ (positive planned).length + 2 := by linarith
    have shrunk : ((positive planned).length + 2 : ℚ) * (1 * (1 / 100)) ≤
        ((positive planned).length + 2) * ((positive planned).length * unassigned) := by gcongr
    rw [length_map]
    unfold contextError
    linarith
  have near := quota_near contextRound_accurate isPositive.le (plans_nonneg planned) sumPositive few (plan_pos member).le
  rw [length_map] at near
  refine near.trans ?_
  unfold slack
  have atMost : unassigned * entry.2 / ((positive planned).map Prod.snd).sum ≤ unassigned := by
    rw [div_le_iff₀ sumPositive]
    exact mul_le_mul_of_nonneg_left (plan_le_sum member) isPositive.le
  exact mul_le_mul_of_nonneg_left atMost (by unfold contextError; positivity)

theorem share_nonneg (isPositive : 0 < unassigned) (member : entry ∈ positive planned) :
    0 ≤ share unassigned planned entry.2 := by
  have totalPositive := planTotal_pos_iff.mpr (ne_nil_of_mem member)
  have nonneg := quota_nonneg contextRound_accurate isPositive.le totalPositive (plan_pos member).le
  exact le_roundCents (isCents_iff_int.mpr ⟨0, by simp⟩) (by linarith)

section

variable (fits : Fits unassigned planned) (isPositive : 0 < unassigned) (member : entry ∈ positive planned)
include fits isPositive member

theorem share_le :
    share unassigned planned entry.2 ≤ unassigned := by
  have off := (abs_le.mp (quota_off fits isPositive member)).2
  have small := fits.slack_small isPositive.le member
  have atMost : exactShare unassigned planned entry.2 ≤ unassigned := by
    unfold exactShare
    rw [div_le_iff₀ (plans_sum_pos member)]
    exact mul_le_mul_of_nonneg_left (plan_le_sum member) isPositive.le
  exact roundCents_le fits.isCents (by linarith)

theorem share_above :
    share unassigned planned entry.2 ≤ exactShare unassigned planned entry.2 + slack unassigned planned + 1 / 200 := by
  have off := (abs_le.mp (quota_off fits isPositive member)).2
  have rounded := (abs_le.mp (roundCents_error (quota contextRound unassigned (planTotal planned) entry.2))).2
  unfold share
  linarith

end

/-- What the shares are before the target takes the rest. -/
def shares (unassigned : Decimal) (planned entries : List (Key × Decimal)) : List Decimal :=
  entries.map fun entry => share unassigned planned entry.2

theorem shares_sum_le (fits : Fits unassigned planned) (isPositive : 0 < unassigned) :
    (shares unassigned planned (positive planned)).sum < 10 ^ 25 := by
  have each : ∀ value ∈ shares unassigned planned (positive planned), value ≤ unassigned := by
    intro value member
    obtain ⟨entry, isEntry, rfl⟩ := mem_map.mp member
    exact share_le fits isPositive isEntry
  have bound := sum_le_card_nsmul _ unassigned each
  have enough := fits.enough
  rw [abs_of_pos isPositive] at enough
  rw [shares, length_map, nsmul_eq_mul] at bound
  have count : (0 : ℚ) ≤ (positive planned).length := Nat.cast_nonneg _
  have rest : 0 ≤ ((positive planned).length + 1 : ℚ) * ((positive planned).length * unassigned) := by positivity
  unfold shares
  linarith

theorem shares_nonneg (isPositive : 0 < unassigned)
    (among : ∀ entry ∈ entries, entry ∈ positive planned) :
    ∀ value ∈ shares unassigned planned entries, 0 ≤ value := by
  intro value member
  obtain ⟨entry, isEntry, rfl⟩ := mem_map.mp member
  exact share_nonneg isPositive (among entry isEntry)

theorem isCents_shares (unassigned : Decimal) (planned entries : List (Key × Decimal)) :
    ∀ value ∈ shares unassigned planned entries, IsCents value := by
  intro value member
  obtain ⟨entry, -, rfl⟩ := mem_map.mp member
  exact isCents_roundCents _

/-- The other shares leave something, where the exact share of the target is large enough. -/
theorem others_le (fits : Fits unassigned planned) (isPositive : 0 < unassigned)
    {first : Key × Decimal} {others : List (Key × Decimal)} (perm : (positive planned).Perm (first :: others))
    (large : ((positive planned).length - 1) * (1 / 200) ≤ exactShare unassigned planned first.2) :
    (shares unassigned planned others).sum ≤ unassigned := by
  have isFirst : first ∈ positive planned := perm.mem_iff.mpr mem_cons_self
  have among : ∀ entry ∈ others, entry ∈ positive planned :=
    fun entry member => perm.mem_iff.mpr (mem_cons_of_mem _ member)
  have length : (positive planned).length = others.length + 1 := perm.length_eq
  have slackNonneg := slack_nonneg planned isPositive.le
  have slackSmall := fits.slack isPositive.le
  have bound : ∀ rest : List (Key × Decimal), (∀ entry ∈ rest, entry ∈ positive planned) →
      (shares unassigned planned rest).sum ≤
        (rest.map fun entry => exactShare unassigned planned entry.2).sum +
          rest.length * (slack unassigned planned + 1 / 200) := by
    intro rest
    induction rest with
    | nil =>
      intro _
      simp [shares]
    | cons entry rest ih =>
      intro inPlan
      have own := share_above fits isPositive (inPlan entry mem_cons_self)
      have later := ih fun other member => inPlan other (mem_cons_of_mem _ member)
      unfold shares at later ⊢
      rw [map_cons, sum_cons, map_cons, sum_cons, length_cons]
      push_cast
      linarith
  have exactSum : (others.map fun entry => exactShare unassigned planned entry.2).sum =
      unassigned - exactShare unassigned planned first.2 := by
    have sumPositive := plans_sum_pos isFirst
    have linear : ∀ rest : List (Key × Decimal), (rest.map fun entry => exactShare unassigned planned entry.2).sum =
        unassigned * (rest.map Prod.snd).sum / ((positive planned).map Prod.snd).sum := by
      intro rest
      induction rest with
      | nil => simp
      | cons entry rest ih =>
        rw [map_cons, sum_cons, ih, map_cons, sum_cons, exactShare]
        ring
    have whole := linear (first :: others)
    rw [← (perm.map Prod.snd).sum_eq, mul_div_assoc, div_self sumPositive.ne', mul_one, map_cons, sum_cons] at whole
    linarith
  have atMost := bound others among
  rw [exactSum] at atMost
  rw [length] at large slackSmall
  push_cast at large slackSmall
  obtain ⟨cents, isAmount⟩ := isCents_iff_int.mp fits.isCents
  obtain ⟨sum, isSum⟩ := isCents_iff_int.mp (IsCents.sum (isCents_shares unassigned planned others))
  rw [isSum] at atMost ⊢
  have less : (sum : ℚ) < cents + 1 := by linarith
  have whole : sum ≤ cents := by
    have number : sum < cents + 1 := by exact_mod_cast less
    omega
  have cast : (sum : ℚ) ≤ cents := by exact_mod_cast whole
  linarith

variable [LinearOrder Key]

theorem exists_target (notEmpty : positive planned ≠ []) :
    ∃ first others, byPlan planned = first :: others ∧ target planned = some first.1 ∧
      (positive planned).Perm (first :: others) := by
  have perm : (byPlan planned).Perm (positive planned) := perm_insertionSort ..
  cases isSorted : byPlan planned with
  | nil =>
    rw [isSorted] at perm
    exact absurd perm.symm.eq_nil notEmpty
  | cons first others =>
    rw [isSorted] at perm
    refine ⟨first, others, rfl, ?_, perm.symm⟩
    simp [target, isSorted]

/-- The parts of an amount that is positive: the target has what the shares of the others leave. -/
theorem splitByPlanRatio_pos (fits : Fits unassigned planned) (isPositive : 0 < unassigned)
    {first : Key × Decimal} {others : List (Key × Decimal)} (isTarget : target planned = some first.1)
    (perm : (positive planned).Perm (first :: others)) :
    splitByPlanRatio unassigned planned = some ((positive planned).map fun entry =>
      (entry.1, if some entry.1 = target planned then unassigned - (shares unassigned planned others).sum
        else share unassigned planned entry.2)) := by
  have isFirst : first ∈ positive planned := perm.mem_iff.mpr mem_cons_self
  have totalPositive := planTotal_pos_iff.mpr (ne_nil_of_mem isFirst)
  have among : ∀ entry ∈ others, entry ∈ positive planned :=
    fun entry member => perm.mem_iff.mpr (mem_cons_of_mem _ member)
  have sumLess := shares_sum_le fits isPositive
  have sumSplit : (shares unassigned planned (positive planned)).sum =
      share unassigned planned first.2 + (shares unassigned planned others).sum := by
    unfold shares
    rw [(perm.map fun entry => share unassigned planned entry.2).sum_eq, map_cons, sum_cons]
  have ownNonneg := share_nonneg isPositive isFirst
  have othersNonneg := sum_nonneg (shares_nonneg isPositive among)
  have amountLess : unassigned < 10 ^ 25 := by
    have some' : (1 : ℚ) ≤ (positive planned).length := by exact_mod_cast length_pos_of_mem isFirst
    have enough := fits.enough
    rw [abs_of_pos isPositive] at enough
    have more : (1 : ℚ) * unassigned ≤ ((positive planned).length + 2) * (positive planned).length * unassigned := by
      refine mul_le_mul_of_nonneg_right ?_ isPositive.le
      nlinarith
    linarith
  have fewDigits : ¬ ∃ entry ∈ positive planned, 10 ^ 26 ≤ |share unassigned planned entry.2| := by
    rintro ⟨entry, member, large⟩
    rw [abs_of_nonneg (share_nonneg isPositive member)] at large
    have atMost := share_le fits isPositive member
    linarith
  have isSum : roundedSum contextRound (shares unassigned planned (positive planned)) =
      (shares unassigned planned (positive planned)).sum :=
    roundedSum_isCents (isCents_shares unassigned planned _) (shares_nonneg isPositive fun _ member => member) (by linarith)
  have sumCents := IsCents.sum (isCents_shares unassigned planned (positive planned))
  have othersCents := IsCents.sum (isCents_shares unassigned planned others)
  have isRest : contextRound (unassigned - (shares unassigned planned (positive planned)).sum) =
      unassigned - (shares unassigned planned (positive planned)).sum := by
    apply contextRound_isCents (fits.isCents.sub sumCents)
    rw [abs_lt]
    constructor <;> linarith
  have isPart : contextRound (unassigned - (shares unassigned planned others).sum) =
      unassigned - (shares unassigned planned others).sum := by
    apply contextRound_isCents (fits.isCents.sub othersCents)
    rw [abs_lt]
    constructor <;> linarith
  have values : ((positive planned).map fun entry => (entry.1, share unassigned planned entry.2)).map Prod.snd =
      shares unassigned planned (positive planned) := by
    rw [map_map]
    rfl
  unfold splitByPlanRatio
  rw [if_neg (by rw [not_or]; exact ⟨not_le.mpr totalPositive, isPositive.ne'⟩), if_neg fewDigits]
  dsimp only
  rw [values, isSum, isRest, map_map]
  congr 1
  apply map_congr_left
  intro entry member
  rw [Function.comp_apply]
  by_cases own : some entry.1 = target planned
  · have same : entry = first := by
      have sameKey : entry.1 = first.1 := Option.some.inj (own.trans isTarget)
      exact inj_on_of_nodup_map (positive_unique fits) member isFirst sameKey
    rw [same] at own ⊢
    rw [if_pos own]
    by_cases noRest : unassigned - (shares unassigned planned (positive planned)).sum = 0
    · rw [if_neg (fun both => both.1 noRest)]
      have isShare : share unassigned planned first.2 = unassigned - (shares unassigned planned others).sum := by linarith
      rw [isShare]
    · rw [if_pos ⟨noRest, own⟩]
      have isSum : share unassigned planned first.2 + (unassigned - (shares unassigned planned (positive planned)).sum) =
          unassigned - (shares unassigned planned others).sum := by linarith
      rw [isSum, isPart]
  · rw [if_neg own, if_neg (fun both => own both.2)]

/-- What a split promises. -/
structure Split (unassigned : Decimal) (planned parts : List (Key × Decimal)) : Prop where
  keys : parts.map Prod.fst = (positive planned).map Prod.fst
  sum : (parts.map Prod.snd).sum = unassigned
  between : ∀ part ∈ parts, some part.1 ≠ target planned → part.2 ∈ Set.uIcc 0 unassigned
  notBeyond : ∀ part ∈ parts, (0 ≤ unassigned → part.2 ≤ unassigned) ∧ (unassigned ≤ 0 → unassigned ≤ part.2)
  /-- Half a cent for each other reserve is enough for the largest plan. -/
  enough : ∀ entry ∈ positive planned, some entry.1 = target planned →
    ((positive planned).length - 1) * (1 / 200) ≤ |exactShare unassigned planned entry.2| →
    ∀ part ∈ parts, part.2 ∈ Set.uIcc 0 unassigned

theorem split_pos (fits : Fits unassigned planned) (isPositive : 0 < unassigned) (notEmpty : positive planned ≠ []) :
    ∃ parts, splitByPlanRatio unassigned planned = some parts ∧ Split unassigned planned parts := by
  obtain ⟨first, others, -, isTarget, perm⟩ := exists_target notEmpty
  have isFirst : first ∈ positive planned := perm.mem_iff.mpr mem_cons_self
  have among : ∀ entry ∈ others, entry ∈ positive planned :=
    fun entry member => perm.mem_iff.mpr (mem_cons_of_mem _ member)
  have othersNonneg := sum_nonneg (shares_nonneg isPositive among)
  have unique := positive_unique fits
  have between : ∀ {value}, value ∈ Set.uIcc 0 unassigned ↔ 0 ≤ value ∧ value ≤ unassigned := by
    intro value
    rw [Set.uIcc_of_le isPositive.le, Set.mem_Icc]
  refine ⟨_, splitByPlanRatio_pos fits isPositive isTarget perm, ?_, ?_, ?_, ?_, ?_⟩
  · rw [map_map]
    rfl
  · rw [map_map, (perm.map _).sum_eq, map_cons, sum_cons, Function.comp_apply, if_pos isTarget.symm]
    have rest : others.map (Prod.snd ∘ fun entry => (entry.1, if some entry.1 = target planned
        then unassigned - (shares unassigned planned others).sum else share unassigned planned entry.2)) =
        shares unassigned planned others := by
      apply map_congr_left
      intro entry member
      have apart : entry.1 ≠ first.1 := by
        have distinct := ((perm.map Prod.fst).nodup_iff.mp unique)
        rw [map_cons, nodup_cons] at distinct
        intro same
        exact distinct.1 (same ▸ mem_map_of_mem member)
      rw [Function.comp_apply, isTarget, if_neg (fun same => apart (Option.some.inj same))]
    rw [rest]
    ring
  · intro part member notTarget
    obtain ⟨entry, isEntry, rfl⟩ := mem_map.mp member
    rw [between]
    rw [if_neg notTarget]
    exact ⟨share_nonneg isPositive isEntry, share_le fits isPositive isEntry⟩
  · intro part member
    obtain ⟨entry, isEntry, rfl⟩ := mem_map.mp member
    refine ⟨fun _ => ?_, fun negative => absurd isPositive negative.not_gt⟩
    dsimp only
    split
    · linarith
    · exact share_le fits isPositive isEntry
  · intro entry isEntry own large part member
    have same : entry = first :=
      inj_on_of_nodup_map unique isEntry isFirst (Option.some.inj (own.trans isTarget))
    have exactNonneg : 0 ≤ exactShare unassigned planned first.2 :=
      div_nonneg (mul_nonneg isPositive.le (plan_pos isFirst).le) (plans_sum_pos isFirst).le
    rw [same, abs_of_nonneg exactNonneg] at large
    have leaves := others_le fits isPositive perm large
    obtain ⟨other, isOther, rfl⟩ := mem_map.mp member
    rw [between]
    dsimp only
    split
    · exact ⟨by linarith, by linarith⟩
    · exact ⟨share_nonneg isPositive isOther, share_le fits isPositive isOther⟩

theorem uIcc_neg {value bound : Decimal} (within : value ∈ Set.uIcc 0 bound) : -value ∈ Set.uIcc 0 (-bound) := by
  rcases Set.mem_uIcc.mp within with ⟨nonneg, le⟩ | ⟨ge, nonpos⟩
  · exact Set.mem_uIcc.mpr (Or.inr ⟨neg_le_neg le, neg_nonpos.mpr nonneg⟩)
  · exact Set.mem_uIcc.mpr (Or.inl ⟨neg_nonneg.mpr nonpos, neg_le_neg ge⟩)

theorem roundedSum_neg (values : List Decimal) :
    roundedSum contextRound (values.map fun value => -value) = -roundedSum contextRound values := by
  have general : ∀ (rest : List Decimal) (start : Decimal),
      (rest.map fun value => -value).foldl (fun sum value => contextRound (sum + value)) (-start) =
        -rest.foldl (fun sum value => contextRound (sum + value)) start := by
    intro rest
    induction rest with
    | nil =>
      intro start
      rfl
    | cons value rest ih =>
      intro start
      rw [map_cons, foldl_cons, foldl_cons, ← neg_add, contextRound_neg, ih]
  have whole := general values 0
  rwa [neg_zero] at whole

omit [LinearOrder Key] in
theorem Fits.neg (fits : Fits unassigned planned) : Fits (-unassigned) planned :=
  ⟨fits.unique, fits.isCents.neg, by rw [abs_neg]; exact fits.enough⟩

theorem splitByPlanRatio_neg (unassigned : Decimal) (planned : List (Key × Decimal)) :
    splitByPlanRatio (-unassigned) planned =
      (splitByPlanRatio unassigned planned).map (List.map fun part => (part.1, -part.2)) := by
  unfold splitByPlanRatio
  simp only [share_neg, abs_neg, neg_eq_zero]
  split
  · rfl
  · split
    · rfl
    · have values : (((positive planned).map fun entry => (entry.1, -share unassigned planned entry.2)).map Prod.snd) =
          (((positive planned).map fun entry => (entry.1, share unassigned planned entry.2)).map Prod.snd).map
            fun value => -value := by
        rw [map_map, map_map, map_map]
        rfl
      rw [values, roundedSum_neg, ← neg_sub', contextRound_neg, Option.map_some]
      simp only [map_map]
      congr 1
      apply map_congr_left
      intro entry _
      simp only [Function.comp_apply, ne_eq, neg_eq_zero]
      split
      · rw [← neg_add, contextRound_neg]
      · rfl

theorem Split.neg {parts : List (Key × Decimal)} (split : Split unassigned planned parts) :
    Split (-unassigned) planned (parts.map fun part => (part.1, -part.2)) := by
  have sums : ∀ rest : List (Key × Decimal),
      ((rest.map fun part => (part.1, -part.2)).map Prod.snd).sum = -(rest.map Prod.snd).sum := by
    intro rest
    induction rest with
    | nil => rfl
    | cons part rest ih =>
      rw [map_cons, map_cons, sum_cons, ih, map_cons, sum_cons, neg_add]
  refine ⟨?_, ?_, ?_, ?_, ?_⟩
  · rw [map_map]
    exact split.keys
  · rw [sums, split.sum]
  · intro part member notTarget
    obtain ⟨own, isOwn, rfl⟩ := mem_map.mp member
    exact uIcc_neg (split.between own isOwn notTarget)
  · intro part member
    obtain ⟨own, isOwn, rfl⟩ := mem_map.mp member
    obtain ⟨above, below⟩ := split.notBeyond own isOwn
    exact ⟨fun nonneg => neg_le_neg (below (neg_nonneg.mp nonneg)), fun nonpos => neg_le_neg (above (neg_nonpos.mp nonpos))⟩
  · intro entry isEntry own large part member
    obtain ⟨before, isBefore, rfl⟩ := mem_map.mp member
    have same : |exactShare (-unassigned) planned entry.2| = |exactShare unassigned planned entry.2| := by
      unfold exactShare
      rw [neg_mul, neg_div, abs_neg]
    rw [same] at large
    exact uIcc_neg (split.enough entry isEntry own large before isBefore)

/-- Without a plan or an amount there are no parts. Otherwise the parts add up to the amount, and all but the part of the
largest plan lie between nothing and the amount; that part does not go beyond the amount, and is not on the other side of
nothing where its exact share is half a cent or more for each other reserve. -/
theorem split_by_plan_ratio (fits : Fits unassigned planned) :
    ((∀ entry ∈ planned, entry.2 ≤ 0) ∨ unassigned = 0 → splitByPlanRatio unassigned planned = some []) ∧
      ((∃ entry ∈ planned, 0 < entry.2) → unassigned ≠ 0 →
        ∃ parts, splitByPlanRatio unassigned planned = some parts ∧ Split unassigned planned parts) := by
  constructor
  · intro nothing
    unfold splitByPlanRatio
    refine if_pos (nothing.imp_left fun noPlan => ?_)
    rw [← not_lt, planTotal_pos_iff, not_not]
    apply filter_eq_nil_iff.mpr
    intro entry member
    simpa using noPlan entry member
  · rintro ⟨entry, member, isPlan⟩ notZero
    have notEmpty : positive planned ≠ [] :=
      ne_nil_of_mem (mem_filter.mpr ⟨member, by simpa using isPlan⟩)
    rcases lt_or_gt_of_ne notZero with negative | isPositive
    · obtain ⟨parts, isParts, split⟩ := split_pos fits.neg (neg_pos.mpr negative) notEmpty
      have flipped := splitByPlanRatio_neg (-unassigned) planned
      have splitBack := split.neg
      rw [neg_neg] at flipped splitBack
      exact ⟨_, by rw [flipped, isParts, Option.map_some], splitBack⟩
    · exact split_pos fits isPositive notEmpty

/-- A hundred in the ratio of one to two. -/
theorem hundred_split :
    ∃ parts, splitByPlanRatio 100 [(1, 1200), (2, 2400)] = some parts ∧ Split 100 [(1, 1200), (2, 2400)] parts := by
  have fits : Fits 100 [((1 : ℕ), 1200), (2, 2400)] := ⟨by decide, by decide +kernel, by decide +kernel⟩
  exact (split_by_plan_ratio fits).2 ⟨(1, 1200), by decide, by norm_num⟩ (by norm_num)

/-- Five cents on ten equal plans leave the first one with four cents less than nothing, and an amount is not split at all
where no plan is more than nothing. -/
theorem beyond_the_amount :
    splitByPlanRatio (5 / 100) ((List.range 10).map fun key => (key, 1)) =
        some ((List.range 10).map fun key => (key, if key = 0 then -4 / 100 else 1 / 100)) ∧
      splitByPlanRatio 50 [(0, 0)] = some [] := by
  decide +kernel

end Mhvp.Hoa.ReserveSplit
