import Mathlib.Data.Prod.Lex
import Mhvp.Accounting.DunningPreview
import Mhvp.Core.Precision

namespace Mhvp.Accounting.Dunning

open Core Lib.Calendar Lib.Rounding List

variable {rates list : List BaseRate} {dayCount : DayCount} {start middle last : Date} {total extra : Decimal}

theorem before_iff : Before first second ↔
    toLex (first.validFrom, first.baseRate) ≤ toLex (second.validFrom, second.baseRate) := by
  rw [Prod.Lex.toLex_le_toLex]
  exact Iff.rfl

instance : Std.Total Before where
  total first second := by
    rw [before_iff, before_iff]
    exact le_total _ _

instance : IsTrans BaseRate Before where
  trans first second third := by
    rw [before_iff, before_iff, before_iff]
    exact le_trans

/-- One rate per day of validity, as the table of the tenant has them. -/
def Unique (rates : List BaseRate) : Prop := (rates.map BaseRate.validFrom).Nodup

instance : Decidable (Unique rates) := inferInstanceAs (Decidable (List.Nodup _))

/-- Each rate is replaced by the next one later. -/
def Ascending (list : List BaseRate) : Prop := list.Pairwise fun first second => first.validFrom < second.validFrom

theorem orderedRates_perm (rates : List BaseRate) : (orderedRates rates).Perm rates := perm_insertionSort ..

theorem orderedRates_ascending (unique : Unique rates) : Ascending (orderedRates rates) := by
  have sorted : (orderedRates rates).Pairwise Before := pairwise_insertionSort ..
  have distinct : (orderedRates rates).Pairwise fun first second => first.validFrom ≠ second.validFrom := by
    have nodup := ((orderedRates_perm rates).map BaseRate.validFrom).nodup_iff.mpr unique
    exact pairwise_map.mp nodup
  have both := pairwise_and_iff.mpr ⟨sorted, distinct⟩
  exact both.imp fun ⟨before, apart⟩ => before.resolve_right fun same => apart same.1

/-- The rate in force on a day: that of the latest validity up to the day. -/
def InForce (rates : List BaseRate) (day : Date) (base : BaseRate) : Prop :=
  base ∈ rates ∧ base.validFrom ≤ day ∧ ∀ other ∈ rates, other.validFrom ≤ day → other.validFrom ≤ base.validFrom

/-- Periods that follow one another from a day to the day before `last`. -/
def Covers (last : Date) : Date → List InterestPeriod → Prop
  | cursor, [] => cursor = last
  | cursor, period :: rest => period.start = cursor ∧ period.start ≤ period.last ∧
      period.days = period.last.ordinal + 1 - period.start.ordinal ∧ Covers last (period.last.addDays 1) rest

theorem Covers.days (covers : Covers last start periods) :
    start.ordinal + (periods.map InterestPeriod.days).sum = last.ordinal := by
  induction periods generalizing start with
  | nil =>
    rw [covers]
    rfl
  | cons period rest ih =>
    obtain ⟨isStart, order, days, later⟩ := covers
    have reached := ih later
    rw [Date.le_def] at order
    rw [map_cons, sum_cons, days, ← isStart]
    simp only [Date.addDays] at reached
    omega

theorem Covers.disjoint (covers : Covers last start periods) :
    periods.Pairwise (fun first second => first.last < second.start) ∧ ∀ period ∈ periods, start ≤ period.start := by
  induction periods generalizing start with
  | nil => exact ⟨List.Pairwise.nil, fun _ none => absurd none not_mem_nil⟩
  | cons period rest ih =>
    obtain ⟨isStart, order, -, later⟩ := covers
    obtain ⟨apart, after⟩ := ih later
    refine ⟨pairwise_cons.mpr ⟨?_, apart⟩, ?_⟩
    · exact fun other member => lt_of_lt_of_le (Date.lt_addDays_one _) (after other member)
    · intro other member
      rcases mem_cons.mp member with rfl | isRest
      · exact isStart.ge
      · have next := after other isRest
        have step := Date.lt_addDays_one period.last
        exact isStart ▸ order.trans (step.le.trans next)

theorem dayBefore_addDays (positive : start < last) : last.dayBefore.addDays 1 = last := by
  rw [Date.lt_def] at positive
  apply Date.ext
  simp only [Date.dayBefore, Date.addDays]
  omega

theorem le_dayBefore (order : start < last) : start ≤ last.dayBefore := by
  rw [Date.lt_def] at order
  rw [Date.le_def]
  simp only [Date.dayBefore]
  omega

theorem ratePeriods_next (base next : BaseRate) (rest : List BaseRate) :
    ratePeriods total extra dayCount start last (base :: next :: rest) =
      if min last next.validFrom ≤ max start base.validFrom then
        ratePeriods total extra dayCount start last (next :: rest)
      else
        { start := max start base.validFrom, last := (min last next.validFrom).dayBefore
          days := (min last next.validFrom).ordinal - (max start base.validFrom).ordinal
          baseRate := base.baseRate, spread := extra, rate := base.baseRate + extra
          amount := roundCents (interestProduct total (base.baseRate + extra)
            (yearFraction dayCount (max start base.validFrom) (min last next.validFrom))) } ::
        ratePeriods total extra dayCount start last (next :: rest) :=
  rfl

/-- The periods of ascending rates cover the span from where the first of them is valid. -/
theorem ratePeriods_covers (base : BaseRate) (rest : List BaseRate) (ascending : Ascending (base :: rest))
    (span : start < last) :
    Covers last (min last (max start base.validFrom)) (ratePeriods total extra dayCount start last (base :: rest)) := by
  induction rest generalizing base with
  | nil =>
    rw [ratePeriods]
    simp only [List.head?_nil, Option.map_none, Option.getD_none, min_self]
    split
    · rename_i nothing
      exact min_eq_left nothing
    · rename_i some
      have within := lt_of_not_ge some
      have step := congrArg Date.ordinal (dayBefore_addDays within)
      simp only [Date.addDays] at step
      rw [min_eq_right within.le]
      refine ⟨rfl, le_dayBefore within, ?_, dayBefore_addDays within⟩
      rw [step]
  | cons next rest ih =>
    obtain ⟨first, others⟩ := pairwise_cons.mp ascending
    have later : base.validFrom < next.validFrom := first next mem_cons_self
    have covers := ih next others
    rw [ratePeriods_next]
    by_cases nothing : min last next.validFrom ≤ max start base.validFrom
    · rw [if_pos nothing]
      have same : min last (max start base.validFrom) = min last (max start next.validFrom) := by
        rcases min_le_iff.mp nothing with past | replaced
        · rcases le_max_iff.mp past with early | late
          · exact absurd span (not_lt.mpr early)
          · have past : last ≤ max start base.validFrom := late.trans (le_max_right _ _)
            rw [min_eq_left past, min_eq_left (past.trans (max_le_max_left _ later.le))]
        · rcases le_max_iff.mp replaced with early | late
          · rw [max_eq_left early, max_eq_left (later.le.trans early)]
          · exact absurd later (not_lt.mpr late)
      rw [same]
      exact covers
    · rw [if_neg nothing]
      have within := lt_of_not_ge nothing
      obtain ⟨inSpan, beforeNext⟩ := lt_min_iff.mp within
      have isNext : max start next.validFrom = next.validFrom :=
        max_eq_right (le_of_lt (lt_of_le_of_lt (le_max_left _ _) beforeNext))
      have step := congrArg Date.ordinal (dayBefore_addDays within)
      simp only [Date.addDays] at step
      rw [isNext] at covers
      rw [min_eq_right inSpan.le]
      refine ⟨rfl, le_dayBefore within, ?_, ?_⟩
      · rw [step]
      · rw [dayBefore_addDays within]
        exact covers

/-- Each period has a rate that was valid at its start and that no other replaced up to its end. -/
theorem ratePeriods_inForce (ascending : Ascending list) (period : InterestPeriod)
    (member : period ∈ ratePeriods total extra dayCount start last list) :
    period.spread = extra ∧ period.rate = period.baseRate + extra ∧
      period.amount = roundCents (interestProduct total period.rate
        (yearFraction dayCount period.start (period.last.addDays 1))) ∧
      ∃ base ∈ list, period.baseRate = base.baseRate ∧ base.validFrom ≤ period.start ∧
        ∀ other ∈ list, other.validFrom ≤ period.last → other.validFrom ≤ base.validFrom := by
  induction list with
  | nil => exact absurd member not_mem_nil
  | cons base rest ih =>
    obtain ⟨first, later⟩ := pairwise_cons.mp ascending
    have inRest : period ∈ ratePeriods total extra dayCount start last rest → period.spread = extra ∧
        period.rate = period.baseRate + extra ∧
        period.amount = roundCents (interestProduct total period.rate
          (yearFraction dayCount period.start (period.last.addDays 1))) ∧
        ∃ held ∈ base :: rest, period.baseRate = held.baseRate ∧ held.validFrom ≤ period.start ∧
          ∀ other ∈ base :: rest, other.validFrom ≤ period.last → other.validFrom ≤ held.validFrom := by
      intro isLater
      obtain ⟨isSpread, isRate, isAmount, found, isFound, same, valid, replaced⟩ := ih later isLater
      refine ⟨isSpread, isRate, isAmount, found, mem_cons_of_mem _ isFound, same, valid, ?_⟩
      intro other isOther upTo
      rcases mem_cons.mp isOther with isBase | isRest
      · rw [isBase]
        exact (first found isFound).le
      · exact replaced other isRest upTo
    rw [ratePeriods] at member
    dsimp only at member
    split at member
    · exact inRest member
    · rename_i some
      have within := lt_of_not_ge some
      rcases mem_cons.mp member with rfl | isLater
      · refine ⟨rfl, rfl, ?_, base, mem_cons_self, rfl, le_max_right _ _, ?_⟩
        · rw [dayBefore_addDays within]
        · intro other isOther upTo
          rcases mem_cons.mp isOther with rfl | isRest
          · exact le_refl _
          · -- the period ends before the next rate is valid
            cases rest with
            | nil => exact absurd isRest not_mem_nil
            | cons next others =>
              have beforeNext : (min last next.validFrom).dayBefore < next.validFrom := by
                have step := dayBefore_addDays within
                simp only [List.head?_cons, Option.map_some, Option.getD_some] at step
                refine lt_of_lt_of_le ?_ (min_le_right last next.validFrom)
                calc (min last next.validFrom).dayBefore
                    < (min last next.validFrom).dayBefore.addDays 1 := Date.lt_addDays_one _
                  _ = min last next.validFrom := step
              have isNext : next.validFrom ≤ other.validFrom := by
                rcases mem_cons.mp isRest with rfl | isOther
                · exact le_refl _
                · exact ((pairwise_cons.mp later).1 other isOther).le
              exact absurd (isNext.trans upTo) (not_le.mpr beforeNext)
      · exact inRest isLater

/-- The share of the year a day is. -/
def dayShare (dayCount : DayCount) (day : Date) : ℚ :=
  match dayCount with
  | .act365Fixed => 1 / 365
  | .actAct => 1 / daysOfYear day.year

/-- The fraction of a year before any rounding, day by day. -/
def exactFraction (dayCount : DayCount) : Date → Date → ℚ := daySum (dayShare dayCount)

theorem dayShare_nonneg (dayCount : DayCount) (day : Date) : 0 ≤ dayShare dayCount day := by
  cases dayCount with
  | act365Fixed => norm_num [dayShare]
  | actAct => exact div_nonneg zero_le_one (Nat.cast_nonneg _)

theorem exactFraction_nonneg (dayCount : DayCount) (start last : Date) : 0 ≤ exactFraction dayCount start last :=
  daySum_nonneg (dayShare_nonneg dayCount) start last

theorem exactFraction_add (first : start ≤ middle) (second : middle ≤ last) :
    exactFraction dayCount start middle + exactFraction dayCount middle last = exactFraction dayCount start last :=
  daySum_add _ first second

theorem exactFraction_self (dayCount : DayCount) (day : Date) : exactFraction dayCount day day = 0 :=
  daySum_empty _ (le_refl day)

theorem exactFraction_year (before : last ≤ newYear (start.year + 1)) :
    exactFraction .actAct start last = (last.ordinal - start.ordinal : ℕ) / daysOfYear start.year := by
  have same : ∀ day, start ≤ day → day < last → dayShare .actAct day = 1 / daysOfYear start.year := by
    intro day after beforeLast
    have inYear : day.year = start.year := year_eq after (lt_of_lt_of_le beforeLast before)
    rw [dayShare, inYear]
  rw [exactFraction, daySum_const same]
  ring

theorem yearPieces_self (years : ℕ) (day : Date) : yearPieces years day day = [] := by
  cases years with
  | zero => rfl
  | succ years => simp [yearPieces]

theorem yearPieces_length (years : ℕ) (cursor last : Date) : (yearPieces years cursor last).length ≤ years := by
  induction years generalizing cursor with
  | zero => exact le_refl _
  | succ years ih =>
    rw [yearPieces]
    split
    · exact Nat.succ_le_succ (ih _)
    · exact Nat.zero_le _

theorem yearPieces_sum (enough : last.year + 1 ≤ start.year + years) (order : start ≤ last) :
    ((yearPieces years start last).map fun piece => (piece.1 : ℚ) / daysOfYear piece.2).sum =
      exactFraction .actAct start last := by
  induction years generalizing start with
  | zero =>
    have within := year_mono order
    omega
  | succ years ih =>
    rw [yearPieces]
    split
    · rename_i before
      rw [map_cons, sum_cons]
      rcases le_total last (newYear (start.year + 1)) with inYear | beyond
      · rw [min_eq_left inYear, yearPieces_self, exactFraction_year inYear]
        simp
      · have later : start ≤ newYear (start.year + 1) := (lt_nextNewYear start).le
        rw [min_eq_right beyond, ih ?_ beyond, ← exactFraction_year (le_refl _), exactFraction_add later beyond]
        rw [newYear_year (Nat.succ_le_succ (Nat.zero_le _))]
        omega
    · rename_i past
      have same : start = last := le_antisymm order (le_of_not_gt past)
      rw [same, exactFraction_self]
      rfl

/-- Relative error of the fraction of a span: one rounding for each year it touches, and one for the sum. -/
def fractionError (start last : Date) : ℚ := (1 + contextError) ^ (last.year + 2 - start.year) - 1

theorem fractionError_mono (wider : third.year ≤ first.year)
    (longer : second.year ≤ fourth.year) : fractionError first second ≤ fractionError third fourth := by
  have one : (1 : ℚ) ≤ 1 + contextError := by norm_num [contextError]
  have powers := pow_le_pow_right₀ one (show second.year + 2 - first.year ≤ fourth.year + 2 - third.year by omega)
  unfold fractionError
  linarith

theorem yearFraction_error (dayCount : DayCount) (order : start ≤ last) :
    |yearFraction dayCount start last - exactFraction dayCount start last| ≤
      fractionError start last * exactFraction dayCount start last := by
  have nonneg := exactFraction_nonneg dayCount start last
  have one : (1 : ℚ) ≤ 1 + contextError := by norm_num [contextError]
  have years : 1 ≤ last.year + 2 - start.year := by
    have within := year_mono order
    omega
  have single : contextError ≤ fractionError start last := by
    have power := pow_le_pow_right₀ one years
    unfold fractionError
    rw [pow_one] at power
    linarith
  unfold yearFraction
  split
  · rename_i past
    rw [le_antisymm order past, exactFraction_self]
    simp
  · cases dayCount with
    | act365Fixed =>
      dsimp only
      have isExact : exactFraction .act365Fixed start last = ((last.ordinal - start.ordinal : ℕ) : ℚ) / 365 := by
        have shares : ∀ day, start ≤ day → day < last → dayShare .act365Fixed day = 1 / 365 := fun _ _ _ => rfl
        rw [exactFraction, daySum_const shares, mul_one_div]
      have rounds := contextRound_error (((last.ordinal - start.ordinal : ℕ) : ℚ) / 365)
      rw [← isExact, abs_of_nonneg nonneg, isExact] at rounds
      rw [isExact] at nonneg ⊢
      exact rounds.trans (mul_le_mul_of_nonneg_right single nonneg)
    | actAct =>
      dsimp only
      have enough : last.year + 1 ≤ start.year + (last.year + 1 - start.year) := by omega
      have isExact := yearPieces_sum enough order
      have length := yearPieces_length (last.year + 1 - start.year) start last
      generalize yearPieces (last.year + 1 - start.year) start last = pieces at *
      have each : ∀ piece ∈ pieces, |contextRound ((piece.1 : ℚ) / daysOfYear piece.2) -
          (piece.1 : ℚ) / daysOfYear piece.2| ≤ contextError * |(piece.1 : ℚ) / daysOfYear piece.2| :=
        fun piece _ => contextRound_error _
      have close := roundedSum_close contextRound_accurate each
      have sizes : (pieces.map fun piece => |(piece.1 : ℚ) / daysOfYear piece.2|) =
          pieces.map fun piece => (piece.1 : ℚ) / daysOfYear piece.2 := by
        apply map_congr_left
        exact fun piece _ => abs_of_nonneg (div_nonneg (Nat.cast_nonneg _) (Nat.cast_nonneg _))
      rw [sizes, isExact, ← pow_succ] at close
      have power := pow_le_pow_right₀ one (show pieces.length + 1 ≤ last.year + 2 - start.year by omega)
      refine close.trans (mul_le_mul_of_nonneg_right ?_ nonneg)
      unfold fractionError
      linarith

/-- Fractions of adjacent spans add up to that of the whole span, up to the rounding to 28 digits. -/
theorem yearFraction_add (first : start ≤ middle) (second : middle ≤ last) :
    |yearFraction dayCount start middle + yearFraction dayCount middle last - yearFraction dayCount start last| ≤
      2 * fractionError start last * exactFraction dayCount start last := by
  have whole := yearFraction_error dayCount (first.trans second)
  have front := yearFraction_error dayCount first
  have back := yearFraction_error dayCount second
  have frontNonneg := exactFraction_nonneg dayCount start middle
  have backNonneg := exactFraction_nonneg dayCount middle last
  have frontError := mul_le_mul_of_nonneg_right
    (fractionError_mono (le_refl start.year) (year_mono second)) frontNonneg
  have backError := mul_le_mul_of_nonneg_right
    (fractionError_mono (year_mono first) (le_refl last.year)) backNonneg
  rw [← exactFraction_add first second] at whole ⊢
  have parts : yearFraction dayCount start middle + yearFraction dayCount middle last - yearFraction dayCount start last =
      (yearFraction dayCount start middle - exactFraction dayCount start middle) +
      (yearFraction dayCount middle last - exactFraction dayCount middle last) -
      (yearFraction dayCount start last - (exactFraction dayCount start middle + exactFraction dayCount middle last)) := by
    ring
  rw [parts]
  refine (abs_sub _ _).trans ?_
  have added := abs_add_le (yearFraction dayCount start middle - exactFraction dayCount start middle)
    (yearFraction dayCount middle last - exactFraction dayCount middle last)
  linarith

/-- Periods over the whole span, each with the rate in force on all its days, and their sum. -/
structure Splits (rates : List BaseRate) (spread : Option Decimal) (total : Decimal) (start last : Date)
    (dayCount : DayCount) (result : InterestResult) : Prop where
  covers : Covers last start result.periods
  days : (result.periods.map InterestPeriod.days).sum = last.ordinal - start.ordinal
  disjoint : result.periods.Pairwise fun first second => first.last < second.start
  inForce : ∀ period ∈ result.periods, period.rate = period.baseRate + spread.getD 0 ∧
    ∃ base, period.baseRate = base.baseRate ∧
      ∀ day, period.start ≤ day → day ≤ period.last → InForce rates day base
  charged : ∀ period ∈ result.periods, period.amount = roundCents (interestProduct total period.rate
    (yearFraction dayCount period.start (period.last.addDays 1)))
  amount : result.amount = (result.periods.map InterestPeriod.amount).sum

theorem uncovered_iff (unique : Unique rates) : (∀ first ∈ (orderedRates rates).head?, start < first.validFrom) ↔
    ∀ base ∈ rates, start < base.validFrom := by
  have ascending := orderedRates_ascending unique
  have perm := orderedRates_perm rates
  constructor
  · intro uncovered base member
    have isOrdered := perm.mem_iff.mpr member
    cases isList : orderedRates rates with
    | nil =>
      rw [isList] at isOrdered
      exact absurd isOrdered not_mem_nil
    | cons first rest =>
      rw [isList] at isOrdered uncovered ascending
      have early := uncovered first rfl
      rcases mem_cons.mp isOrdered with rfl | isRest
      · exact early
      · exact early.trans ((pairwise_cons.mp ascending).1 base isRest)
  · intro uncovered first isFirst
    exact uncovered first (perm.mem_iff.mp (mem_of_head? isFirst))

theorem interestOverPeriods_splits (unique : Unique rates) (span : start < last) (claim : 0 < total)
    (covered : ∃ base ∈ rates, base.validFrom ≤ start) :
    (interestOverPeriods rates spread total start last dayCount).note = none ∧
      Splits rates spread total start last dayCount (interestOverPeriods rates spread total start last dayCount) := by
  obtain ⟨valid, isRate, before⟩ := covered
  have someCovers : ¬ ∀ first ∈ (orderedRates rates).head?, start < first.validFrom := by
    rw [uncovered_iff unique]
    exact fun none => absurd (none valid isRate) (not_lt.mpr before)
  have ascending := orderedRates_ascending unique
  have perm := orderedRates_perm rates
  have isResult : interestOverPeriods rates spread total start last dayCount =
      { amount := ((ratePeriods total (spread.getD 0) dayCount start last (orderedRates rates)).map InterestPeriod.amount).sum
        periods := ratePeriods total (spread.getD 0) dayCount start last (orderedRates rates) } := by
    unfold interestOverPeriods
    rw [if_neg (not_or.mpr ⟨not_le.mpr span, not_le.mpr claim⟩)]
    dsimp only
    rw [if_neg someCovers]
  have covers : Covers last start (ratePeriods total (spread.getD 0) dayCount start last (orderedRates rates)) := by
    cases isList : orderedRates rates with
    | nil => exact absurd (fun first none => by simp [isList] at none) someCovers
    | cons first rest =>
      rw [isList] at ascending someCovers
      have past : Covers last (min last (max start first.validFrom))
          (ratePeriods total (spread.getD 0) dayCount start last (first :: rest)) :=
        ratePeriods_covers first rest ascending span
      have early : first.validFrom ≤ start := by
        by_contra late
        exact someCovers fun other isFirst => Option.some.inj isFirst ▸ lt_of_not_ge late
      rwa [max_eq_left early, min_eq_right span.le] at past
  rw [isResult]
  refine ⟨rfl, covers, ?_, covers.disjoint.1, ?_, ?_, rfl⟩
  · have counted := covers.days
    have ordered : start.ordinal < last.ordinal := span
    dsimp only
    omega
  · intro period member
    obtain ⟨-, isRate, -, base, isBase, same, valid, replaced⟩ := ratePeriods_inForce ascending period member
    refine ⟨isRate, base, same, ?_⟩
    intro day after upTo
    refine ⟨perm.mem_iff.mp isBase, valid.trans after, ?_⟩
    exact fun other isOther early => replaced other (perm.mem_iff.mpr isOther) (early.trans upTo)
  · exact fun period member => (ratePeriods_inForce ascending period member).2.2.1

/-- For every claim, table of base rates and span: the interest is refused exactly if no rate covers the start, and is
otherwise charged over the whole span, each day at the rate in force. Fractions of a year add up to 28 digits. -/
theorem interest_periods (rates : { rates : List BaseRate // Unique rates }) (spread : Option Decimal) (total : Decimal)
    (start last : Date) (dayCount : DayCount) :
    ((interestOverPeriods rates.1 spread total start last dayCount).note.isSome ↔
      0 < total ∧ start < last ∧ ∀ base ∈ rates.1, start < base.validFrom) ∧
    (0 < total → start < last → (∃ base ∈ rates.1, base.validFrom ≤ start) →
      Splits rates.1 spread total start last dayCount (interestOverPeriods rates.1 spread total start last dayCount)) ∧
    ((total ≤ 0 ∨ last ≤ start ∨ ∀ base ∈ rates.1, start < base.validFrom) →
      (interestOverPeriods rates.1 spread total start last dayCount).periods = [] ∧
        (interestOverPeriods rates.1 spread total start last dayCount).amount = 0) ∧
    ∀ middle, start ≤ middle → middle ≤ last →
      |yearFraction dayCount start middle + yearFraction dayCount middle last - yearFraction dayCount start last| ≤
        2 * fractionError start last * exactFraction dayCount start last := by
  have uncovered : (∀ first ∈ (orderedRates rates.1).head?, start < first.validFrom) ↔
      ∀ base ∈ rates.1, start < base.validFrom := uncovered_iff rates.2
  refine ⟨?_, ?_, ?_, fun middle first second => yearFraction_add first second⟩
  · constructor
    · intro refused
      unfold interestOverPeriods at refused
      split at refused
      · cases refused
      · rename_i asked
        obtain ⟨span, claim⟩ := not_or.mp asked
        dsimp only at refused
        split at refused
        · rename_i none
          exact ⟨lt_of_not_ge claim, lt_of_not_ge span, uncovered.mp none⟩
        · cases refused
    · rintro ⟨claim, span, none⟩
      unfold interestOverPeriods
      rw [if_neg (not_or.mpr ⟨not_le.mpr span, not_le.mpr claim⟩)]
      dsimp only
      rw [if_pos (uncovered.mpr none)]
      rfl
  · exact fun claim span covered => (interestOverPeriods_splits rates.2 span claim covered).2
  · intro nothing
    unfold interestOverPeriods
    split
    · exact ⟨rfl, rfl⟩
    · rename_i asked
      obtain ⟨span, claim⟩ := not_or.mp asked
      have none := (nothing.resolve_left claim).resolve_left span
      dsimp only
      rw [if_pos (uncovered.mpr none)]
      exact ⟨rfl, rfl⟩

/-- A day and the next one: their fractions, each rounded to 28 digits, are more than that of both days. -/
theorem fractions_of_two_days :
    yearFraction .act365Fixed (.ofYmd 2026 1 1) (.ofYmd 2026 1 2) + yearFraction .act365Fixed (.ofYmd 2026 1 2) (.ofYmd 2026 1 3) ≠
      yearFraction .act365Fixed (.ofYmd 2026 1 1) (.ofYmd 2026 1 3) := by
  decide +kernel

end Mhvp.Accounting.Dunning
