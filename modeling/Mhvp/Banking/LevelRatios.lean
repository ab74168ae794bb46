import Mhvp.Banking.Levels

namespace Mhvp.Banking.Levels

open Core

variable {target current level : Level} {metrics : ClassMetrics} {need : Eligibility}

/-- The quotient with 28 digits, before it is rounded to four places. -/
def quotient (part whole : ℕ) : Decimal := contextRound (part / whole)

/-- Half a unit of the fourth place. -/
def margin : Decimal := 1 / 20000

/-- What a level needs besides the two ratios. -/
structure OthersMet (need : Eligibility) (target : Level) (metrics : ClassMetrics) (current : Level) : Prop where
  withinCap : target.index ≤ (capOf metrics.caseKind).index
  oneStep : target.index = current.index + 1
  decided : need.nDecided ≤ metrics.nDecided
  days : ∀ days ∈ need.daysAtPrevious, ∃ atLevel ∈ metrics.daysAtLevel, (days : ℤ) ≤ atLevel
  auto : ∀ least ∈ need.nAuto, least ≤ metrics.nAuto

/-- The exact ratios meet the thresholds. -/
def ExactlyMet (need : Eligibility) (metrics : ClassMetrics) : Prop :=
  need.precisionManual ≤ (metrics.nAcceptedUnchanged : ℚ) / metrics.nDecided ∧
    ∀ most ∈ need.errorRateAuto, (metrics.nAutoReversed : ℚ) / metrics.nAuto ≤ most

/-- The exact error rate is above the limit of the level. -/
def Exceeds (level : Level) (metrics : ClassMetrics) : Prop :=
  ∃ limit ∈ downgradeErrorRate level, metrics.nAuto ≠ 0 ∧ limit < (metrics.nAutoReversed : ℚ) / metrics.nAuto

theorem ratio_some (part : ℕ) (some' : whole ≠ 0) :
    ratio part whole = some (((quotient part whole * 10000 + 1 / 2).floor : ℚ) / 10000) := by
  unfold ratio
  rw [if_neg some']
  rfl

theorem le_ratio_iff (isRate : ratio part whole = some rate) (units : ℤ) :
    (units : ℚ) / 10000 ≤ rate ↔ (units : ℚ) / 10000 - margin ≤ quotient part whole := by
  have some' : whole ≠ 0 := by
    intro zero
    simp [ratio, zero] at isRate
  rw [ratio_some _ some'] at isRate
  cases isRate
  have floors : (units : ℚ) ≤ ((quotient part whole * 10000 + 1 / 2).floor : ℤ) ↔
      (units : ℚ) ≤ quotient part whole * 10000 + 1 / 2 := by
    rw [Int.cast_le]
    exact Rat.le_floor_iff
  unfold margin
  constructor
  · intro reaches
    have scaled := floors.mp (by linarith)
    linarith
  · intro near
    have scaled := floors.mpr (by linarith)
    linarith

theorem ratio_lt_iff (isRate : ratio part whole = some rate) (units : ℤ) :
    (units : ℚ) / 10000 < rate ↔ (units : ℚ) / 10000 + margin ≤ quotient part whole := by
  have some' : whole ≠ 0 := by
    intro zero
    simp [ratio, zero] at isRate
  have next := le_ratio_iff isRate (units + 1)
  have isUnits : ∃ floor : ℤ, rate = (floor : ℚ) / 10000 := by
    rw [ratio_some _ some'] at isRate
    exact ⟨_, (Option.some.inj isRate).symm⟩
  obtain ⟨floor, rfl⟩ := isUnits
  have whole' : (units : ℚ) / 10000 < floor / 10000 ↔ ((units + 1 : ℤ) : ℚ) / 10000 ≤ floor / 10000 := by
    rw [div_lt_div_iff_of_pos_right (by norm_num), div_le_div_iff_of_pos_right (by norm_num), Int.cast_lt, Int.cast_le]
    exact Int.lt_iff_add_one_le
  rw [whole', next]
  unfold margin
  push_cast
  constructor <;> intro near <;> linarith

section

variable (isNeed : eligibility target = some need)
include isNeed

theorem thresholds_units :
    (∃ units : ℤ, need.precisionManual = (units : ℚ) / 10000) ∧
      ∀ most ∈ need.errorRateAuto, ∃ units : ℤ, most = (units : ℚ) / 10000 := by
  cases target with
  | l0 => cases isNeed
  | l1 =>
    cases isNeed
    exact ⟨⟨9500, by norm_num [eligibilityL1]⟩, fun _ member => by cases member⟩
  | l2 =>
    cases isNeed
    exact ⟨⟨9800, by norm_num⟩, fun _ member => by cases member⟩
  | l3 =>
    cases isNeed
    refine ⟨⟨9800, by norm_num⟩, fun most member => ⟨50, ?_⟩⟩
    cases member
    norm_num

theorem auto_some (others : OthersMet need target metrics current)
    (most : Decimal) (isMost : most ∈ need.errorRateAuto) : metrics.nAuto ≠ 0 := by
  cases target with
  | l0 => cases isNeed
  | l1 =>
    cases isNeed
    cases isMost
  | l2 =>
    cases isNeed
    cases isMost
  | l3 =>
    cases isNeed
    have least := others.auto 100 rfl
    omega

theorem decided_some (others : OthersMet need target metrics current) :
    metrics.nDecided ≠ 0 := by
  have decided := others.decided
  cases target with
  | l0 => cases isNeed
  | l1 =>
    cases isNeed
    simp only [eligibilityL1] at decided
    omega
  | l2 | l3 =>
    cases isNeed
    dsimp only at decided
    omega

end

theorem reasonIf_eq_nil [Decidable lacking] :
    reasonIf lacking reason = [] ↔ ¬ lacking := by
  unfold reasonIf
  by_cases holds : lacking <;> simp [holds]

/-- A level is granted where the other requirements are met and the ratios reach their thresholds but for half a unit of
the fourth place. -/
theorem missingFor_nil_iff (isNeed : eligibility target = some need) :
    missingFor target metrics current = [] ↔
      OthersMet need target metrics current ∧
        need.precisionManual - margin ≤ quotient metrics.nAcceptedUnchanged metrics.nDecided ∧
        ∀ most ∈ need.errorRateAuto, quotient metrics.nAutoReversed metrics.nAuto < most + margin := by
  obtain ⟨⟨units, isPrecision⟩, mosts⟩ := thresholds_units isNeed
  have rates : OthersMet need target metrics current →
      ((¬ ∀ precision ∈ metrics.precisionManual, precision < need.precisionManual) ↔
        need.precisionManual - margin ≤ quotient metrics.nAcceptedUnchanged metrics.nDecided) ∧
      ((¬ ∃ most ∈ need.errorRateAuto, ∀ rate ∈ metrics.errorRateAuto, most < rate) ↔
        ∀ most ∈ need.errorRateAuto, quotient metrics.nAutoReversed metrics.nAuto < most + margin) := by
    intro others
    constructor
    · have isRatio := ratio_some metrics.nAcceptedUnchanged (decided_some isNeed others)
      unfold ClassMetrics.precisionManual
      rw [isPrecision, ← le_ratio_iff isRatio units, isRatio]
      simp only [Option.mem_some_iff, forall_eq', not_lt]
    · push Not
      refine forall₂_congr fun most isMost => ?_
      obtain ⟨units, isUnits⟩ := mosts most isMost
      have isRatio := ratio_some metrics.nAutoReversed (auto_some isNeed others most isMost)
      unfold ClassMetrics.errorRateAuto
      rw [← not_le, isUnits, ← ratio_lt_iff isRatio units, isRatio, not_lt]
      simp only [Option.mem_some_iff, exists_eq_left']
  unfold missingFor
  rw [isNeed]
  dsimp only
  by_cases above : (capOf metrics.caseKind).index < target.index
  · rw [if_pos above]
    constructor
    · intro nothing
      cases nothing
    · rintro ⟨others, -⟩
      exact absurd others.withinCap (not_le.mpr above)
  · rw [if_neg above]
    simp only [List.append_eq_nil_iff, reasonIf_eq_nil]
    constructor
    · rintro ⟨⟨⟨⟨⟨oneStep, decided⟩, precision⟩, days⟩, auto⟩, error⟩
      have others : OthersMet need target metrics current := by
        refine ⟨not_lt.mp above, not_not.mp oneStep, not_lt.mp decided, ?_, ?_⟩
        · push Not at days
          exact days
        · push Not at auto
          exact auto
      exact ⟨others, (rates others).1.mp precision, (rates others).2.mp error⟩
    · rintro ⟨others, precision, error⟩
      refine ⟨⟨⟨⟨⟨not_not.mpr others.oneStep, not_lt.mpr others.decided⟩, (rates others).1.mpr precision⟩, ?_⟩, ?_⟩,
        (rates others).2.mpr error⟩
      · push Not
        exact others.days
      · push Not
        exact others.auto

theorem limit_units (isLimit : downgradeErrorRate level = some limit) :
    level ≠ .l1 ∧ ∃ units : ℤ, limit = (units : ℚ) / 10000 := by
  cases level with
  | l0 | l1 => cases isLimit
  | l2 =>
    cases isLimit
    exact ⟨by decide, 200, by norm_num⟩
  | l3 =>
    cases isLimit
    exact ⟨by decide, 100, by norm_num⟩

theorem lowers_iff (isLimit : downgradeErrorRate level = some limit) (some' : metrics.nAuto ≠ 0) :
    lowers level metrics = true ↔ limit + margin ≤ quotient metrics.nAutoReversed metrics.nAuto := by
  obtain ⟨notL1, units, isUnits⟩ := limit_units isLimit
  have isRatio := ratio_some metrics.nAutoReversed some'
  rw [isUnits, ← ratio_lt_iff isRatio units, ← isUnits]
  unfold lowers ClassMetrics.errorRateAuto
  rw [decide_eq_true_eq, isLimit, isRatio]
  simp [notL1]

/-- A step to a higher level that is granted meets the exact thresholds unless a ratio is off by less than half a unit of
the fourth place, and the nightly test misses an exact error rate only where it is above the limit by less than that. -/
theorem exact_ratios_iff (target current level : Level) (metrics : ClassMetrics) :
    ((missingFor target metrics current = [] → ∀ need ∈ eligibility target, ExactlyMet need metrics) ↔
        ∀ need ∈ eligibility target, OthersMet need target metrics current →
          need.precisionManual - margin ≤ quotient metrics.nAcceptedUnchanged metrics.nDecided →
          (∀ most ∈ need.errorRateAuto, quotient metrics.nAutoReversed metrics.nAuto < most + margin) →
          ExactlyMet need metrics) ∧
      ((Exceeds level metrics → lowers level metrics = true) ↔
        ∀ limit ∈ downgradeErrorRate level, metrics.nAuto ≠ 0 →
          limit < (metrics.nAutoReversed : ℚ) / metrics.nAuto →
          limit + margin ≤ quotient metrics.nAutoReversed metrics.nAuto) := by
  constructor
  · constructor
    · intro holds need isNeed others precision error
      exact holds ((missingFor_nil_iff isNeed).mpr ⟨others, precision, error⟩) need isNeed
    · intro holds eligible need isNeed
      obtain ⟨others, precision, error⟩ := (missingFor_nil_iff isNeed).mp eligible
      exact holds need isNeed others precision error
  · constructor
    · intro holds limit isLimit some' above
      exact (lowers_iff isLimit some').mp (holds ⟨limit, isLimit, some', above⟩)
    · rintro holds ⟨limit, isLimit, some', above⟩
      exact (lowers_iff isLimit some').mpr (holds limit isLimit some' above)

/-- 968 of 1019 decisions took the proposal as it was shown. -/
def nearlyPrecise : ClassMetrics :=
  { caseKind := .debtorFull, windowFrom := ⟨0⟩, windowTo := ⟨90⟩, nDecided := 1019, nAcceptedUnchanged := 968 }

/-- 3 of 299 automatic postings were reversed. -/
def oftenReversed : ClassMetrics :=
  { caseKind := .debtorFull, windowFrom := ⟨0⟩, windowTo := ⟨30⟩, nAuto := 299, nAutoReversed := 3 }

/-- Less than 95 percent grant the first level, and more than one percent keep the last one. -/
theorem rounded_ratios_decide :
    (missingFor .l1 nearlyPrecise .l0 = [] ∧ ((968 : ℚ) / 1019 < 95 / 100)) ∧
      (lowers .l3 oftenReversed = false ∧ (1 / 100 : ℚ) < 3 / 299) := by
  decide +kernel

end Mhvp.Banking.Levels
