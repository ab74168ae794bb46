import Mhvp.Accounting.InterestPeriods
import Mhvp.Core.Cents

namespace Mhvp.Accounting.Dunning

open Core Lib.Calendar Lib.Rounding Lib.Dictionary List

variable {rates : List BaseRate} {dayCount : DayCount} {start middle last runDate : Date} {total : Decimal}
  {rate : Date → ℚ} {periods : List InterestPeriod} {settings : EffectiveSettings} {items : List OverdueItem}

/-- Interest on one euro over the days of a span, each at its yearly rate in percent. -/
def accrued (rate : Date → ℚ) (dayCount : DayCount) : Date → Date → ℚ :=
  daySum fun day => rate day / 100 * dayShare dayCount day

theorem accrued_add (rate : Date → ℚ) (dayCount : DayCount) (first : start ≤ middle) (second : middle ≤ last) :
    accrued rate dayCount start middle + accrued rate dayCount middle last = accrued rate dayCount start last :=
  daySum_add _ first second

theorem accrued_empty (rate : Date → ℚ) (dayCount : DayCount) (past : last ≤ start) :
    accrued rate dayCount start last = 0 :=
  daySum_empty _ past

theorem accrued_const (same : ∀ day, start ≤ day → day < last → rate day = percent) :
    accrued rate dayCount start last = percent / 100 * exactFraction dayCount start last := by
  unfold accrued exactFraction
  rw [← daySum_mul_left]
  apply daySum_congr
  intro day after before
  rw [same day after before]

theorem accrued_abs_nonneg (rate : Date → ℚ) (dayCount : DayCount) (start last : Date) :
    0 ≤ accrued (fun day => |rate day|) dayCount start last :=
  daySum_nonneg (fun day => mul_nonneg (div_nonneg (abs_nonneg _) (by norm_num)) (dayShare_nonneg dayCount day)) start last

/-- Relative error of the interest on a span: the roundings of its fraction, and of three products. -/
def interestError (start last : Date) : ℚ := (1 + contextError) ^ (last.year + 5 - start.year) - 1

theorem interestError_mono (wider : third.year ≤ first.year)
    (longer : second.year ≤ fourth.year) : interestError first second ≤ interestError third fourth := by
  have one : (1 : ℚ) ≤ 1 + contextError := le_add_of_nonneg_right contextRound_accurate.nonneg
  have powers := pow_le_pow_right₀ one (show second.year + 5 - first.year ≤ fourth.year + 5 - third.year by omega)
  unfold interestError
  linarith

theorem interestProduct_close (total rate : Decimal) (dayCount : DayCount) (order : start ≤ last) :
    |interestProduct total rate (yearFraction dayCount start last) - total * (rate / 100 * exactFraction dayCount start last)| ≤
      interestError start last * |total * (rate / 100 * exactFraction dayCount start last)| := by
  have product := (Close.refl contextError (total * rate)).rounded contextRound_accurate
  have percent : Close contextError 2 (contextRound (contextRound (total * rate) / 100)) (total * rate / 100) := by
    rw [div_eq_mul_inv, div_eq_mul_inv]
    exact (product.scale (100 : ℚ)⁻¹).rounded contextRound_accurate
  have fraction : Close contextError (last.year + 2 - start.year) (yearFraction dayCount start last)
      (exactFraction dayCount start last) := by
    have within := yearFraction_error dayCount order
    unfold Close
    rwa [abs_of_nonneg (exactFraction_nonneg dayCount start last)]
  have all := (percent.mul fraction).rounded contextRound_accurate
  have years := year_mono order
  have enough : 2 + (last.year + 2 - start.year) + 1 = last.year + 5 - start.year := by omega
  have regrouped : total * rate / 100 * exactFraction dayCount start last =
      total * (rate / 100 * exactFraction dayCount start last) := by ring
  rw [enough, regrouped] at all
  exact all

theorem Covers.le (covers : Covers last start periods) : start ≤ last := by
  have counted := covers.days
  rw [Date.le_def]
  omega

theorem Covers.charged (covers : Covers last start periods)
    (isRate : ∀ period ∈ periods, ∀ day, period.start ≤ day → day ≤ period.last → rate day = period.rate)
    (charged : ∀ period ∈ periods, period.amount =
      roundCents (interestProduct total period.rate (yearFraction dayCount period.start (period.last.addDays 1)))) :
    |(periods.map InterestPeriod.amount).sum - total * accrued rate dayCount start last| ≤
      periods.length / 200 +
        interestError start last * (|total| * accrued (fun day => |rate day|) dayCount start last) := by
  induction periods generalizing start with
  | nil =>
    rw [covers, accrued_empty _ _ (le_refl _), accrued_empty _ _ (le_refl _)]
    simp
  | cons period rest ih =>
    obtain ⟨rfl, order, -, later⟩ := covers
    have restClose := ih later (fun other member => isRate other (mem_cons_of_mem _ member))
      fun other member => charged other (mem_cons_of_mem _ member)
    have next : period.start ≤ period.last.addDays 1 := order.trans (Date.lt_addDays_one _).le
    have inSpan := later.le
    have oneRate : ∀ day, period.start ≤ day → day < period.last.addDays 1 → rate day = period.rate := by
      intro day after before
      apply isRate period mem_cons_self day after
      rw [Date.lt_def] at before
      rw [Date.le_def]
      simp only [Date.addDays] at before
      omega
    have product := interestProduct_close total period.rate dayCount next
    rw [← accrued_const oneRate] at product
    have rounded := roundCents_error
      (interestProduct total period.rate (yearFraction dayCount period.start (period.last.addDays 1)))
    rw [← charged period mem_cons_self] at rounded
    have absolute : |total * accrued rate dayCount period.start (period.last.addDays 1)| =
        |total| * accrued (fun day => |rate day|) dayCount period.start (period.last.addDays 1) := by
      have oneSize : ∀ day, period.start ≤ day → day < period.last.addDays 1 → |rate day| = |period.rate| :=
        fun day after before => by rw [oneRate day after before]
      rw [accrued_const oneRate, accrued_const oneSize, abs_mul, abs_mul, abs_of_nonneg (exactFraction_nonneg ..),
        abs_div]
      norm_num
    rw [absolute] at product
    have wide := interestError_mono (le_refl period.start.year) (year_mono inSpan)
    have narrow := interestError_mono (year_mono next) (le_refl last.year)
    have firstPart := mul_nonneg (abs_nonneg total)
      (accrued_abs_nonneg rate dayCount period.start (period.last.addDays 1))
    have restPart := mul_nonneg (abs_nonneg total) (accrued_abs_nonneg rate dayCount (period.last.addDays 1) last)
    have firstError := mul_le_mul_of_nonneg_right wide firstPart
    have restError := mul_le_mul_of_nonneg_right narrow restPart
    rw [map_cons, sum_cons, length_cons, ← accrued_add rate dayCount next inSpan,
      ← accrued_add (fun day => |rate day|) dayCount next inSpan]
    push_cast
    have near := abs_add_le (period.amount - interestProduct total period.rate
        (yearFraction dayCount period.start (period.last.addDays 1)))
      (interestProduct total period.rate (yearFraction dayCount period.start (period.last.addDays 1)) -
        total * accrued rate dayCount period.start (period.last.addDays 1))
    have together := abs_add_le
      (period.amount - total * accrued rate dayCount period.start (period.last.addDays 1))
      ((rest.map InterestPeriod.amount).sum - total * accrued rate dayCount (period.last.addDays 1) last)
    have parts : period.amount + (rest.map InterestPeriod.amount).sum -
        total * (accrued rate dayCount period.start (period.last.addDays 1) +
          accrued rate dayCount (period.last.addDays 1) last) =
        (period.amount - total * accrued rate dayCount period.start (period.last.addDays 1)) +
        ((rest.map InterestPeriod.amount).sum - total * accrued rate dayCount (period.last.addDays 1) last) := by ring
    rw [sub_add_sub_cancel] at near
    rw [parts]
    linarith

/-- The rate of the table in force on a day. -/
def rateOn (rates : List BaseRate) (day : Date) : Option BaseRate :=
  ((orderedRates rates).filter fun base => base.validFrom ≤ day).getLast?

theorem rateOn_inForce (unique : Unique rates) (inForce : InForce rates day base) :
    rateOn rates day = some base := by
  obtain ⟨isRate, valid, latest⟩ := inForce
  have perm := orderedRates_perm rates
  have ascending := (orderedRates_ascending unique).filter (p := fun base => base.validFrom ≤ day)
  have isValid : base ∈ (orderedRates rates).filter fun base => base.validFrom ≤ day :=
    mem_filter.mpr ⟨perm.mem_iff.mpr isRate, decide_eq_true valid⟩
  unfold rateOn
  cases isList : (orderedRates rates).filter (fun base => base.validFrom ≤ day) with
  | nil =>
    rw [isList] at isValid
    exact absurd isValid not_mem_nil
  | cons head rest =>
    have nonempty : (head :: rest) ≠ [] := cons_ne_nil _ _
    rw [List.getLast?_eq_getLast_of_ne_nil nonempty]
    have isLast := getLast_mem nonempty
    rw [isList] at isValid ascending
    have lastFound : (head :: rest).getLast nonempty ∈ (orderedRates rates).filter (fun base => base.validFrom ≤ day) := by
      rw [isList]
      exact isLast
    obtain ⟨lastOrdered, lastValid⟩ := mem_filter.mp lastFound
    have notLater := latest _ (perm.mem_iff.mp lastOrdered) (of_decide_eq_true lastValid)
    by_contra different
    have apart : base ≠ (head :: rest).getLast nonempty := fun same => different (by rw [same])
    have earlier : base.validFrom < ((head :: rest).getLast nonempty).validFrom := by
      rw [← dropLast_append_getLast nonempty] at isValid ascending
      have early := (mem_append.mp isValid).resolve_right fun isEnd => apart (mem_singleton.mp isEnd)
      exact (pairwise_append.mp ascending).2.2 base early _ (mem_singleton_self _)
    exact absurd notLater (not_le.mpr earlier)

/-- Yearly rate in percent that a day is charged at. -/
def chargedRate (settings : EffectiveSettings) (rates : List BaseRate) (day : Date) : ℚ :=
  let base := if rates = [] then settings.interestBaseRate else (rateOn rates day).map BaseRate.baseRate
  base.elim 0 fun base => base + settings.interestSpread.getD 0

/-- Interest is switched on, and a rate covers the start. -/
def Chargeable (settings : EffectiveSettings) (rates : List BaseRate) (start : Date) : Prop :=
  settings.interestEnabled = true ∧
    if rates = [] then settings.interestBaseRate.isSome = true else ∃ base ∈ rates, base.validFrom ≤ start

theorem Chargeable.later (chargeable : Chargeable settings rates start) (order : start ≤ last) :
    Chargeable settings rates last := by
  refine ⟨chargeable.1, ?_⟩
  have covered := chargeable.2
  split at covered
  · rename_i none
    rw [if_pos none]
    exact covered
  · rename_i some
    rw [if_neg some]
    exact covered.imp fun base ⟨isRate, early⟩ => ⟨isRate, early.trans order⟩

/-- What rounding adds to a charge at most: half a cent for each period, and the last of 28 digits. -/
def slack (settings : EffectiveSettings) (rates : List BaseRate) (total : Decimal) (last : Date) : Option Date → ℚ
  | none => 0
  | some start => (interestFor settings rates total (some start) last).periods.length / 200 +
      interestError start last *
        (|total| * accrued (fun day => |chargedRate settings rates day|) settings.interestDayCount start last)

theorem Splits.accrues (splits : Splits rates spread total start last dayCount result)
    (isRate : ∀ day base, start ≤ day → InForce rates day base → rate day = base.baseRate + spread.getD 0) :
    |result.amount - total * accrued rate dayCount start last| ≤ result.periods.length / 200 +
      interestError start last * (|total| * accrued (fun day => |rate day|) dayCount start last) := by
  rw [splits.amount]
  apply splits.covers.charged
  · intro period member day after upTo
    obtain ⟨isSum, base, isBase, inForce⟩ := splits.inForce period member
    have began := (splits.covers.disjoint.2 period member).trans after
    rw [isRate day base began (inForce day after upTo), isSum, isBase]
  · exact splits.charged

theorem interestFor_charged (last : Date) (unique : Unique rates) (positive : 0 < total)
    (chargeable : Chargeable settings rates start) :
    |(interestFor settings rates total (some start) last).amount -
        total * accrued (chargedRate settings rates) settings.interestDayCount start last| ≤
      slack settings rates total last (some start) := by
  obtain ⟨enabled, covered⟩ := chargeable
  unfold slack interestFor
  dsimp only
  rcases le_or_gt last start with past | span
  · rw [if_pos (Or.inr past), accrued_empty _ _ past, accrued_empty _ _ past]
    simp
  · rw [if_neg (not_or.mpr ⟨not_not.mpr enabled, not_le.mpr span⟩)]
    by_cases empty : rates = []
    · subst empty
      rw [if_pos rfl] at covered
      obtain ⟨base, isBase⟩ := Option.isSome_iff_exists.mp covered
      rw [if_neg (not_not.mpr rfl), isBase]
      dsimp only
      have single : Unique [⟨start, base⟩] := nodup_singleton _
      have splits : Splits [⟨start, base⟩] settings.interestSpread total start last settings.interestDayCount _ :=
        (interestOverPeriods_splits single span positive ⟨_, mem_singleton_self _, le_refl _⟩).2
      apply splits.accrues
      intro day other _ inForce
      rw [mem_singleton.mp inForce.1]
      simp [chargedRate, isBase]
    · rw [if_neg empty] at covered
      rw [if_pos empty]
      have splits : Splits rates settings.interestSpread total start last settings.interestDayCount _ :=
        (interestOverPeriods_splits unique span positive covered).2
      apply splits.accrues
      intro day base _ inForce
      simp [chargedRate, empty, rateOn_inForce unique inForce]

theorem interestFor_zero (notChargeable : ¬ Chargeable settings rates start) (unique : Unique rates) :
    (interestFor settings rates total (some start) last).amount = 0 := by
  unfold interestFor
  dsimp only
  split
  · rfl
  · rename_i asked
    obtain ⟨enabled, span⟩ := not_or.mp asked
    have isOn := not_not.mp enabled
    split
    · rename_i some
      have uncovered : ¬ ∃ base ∈ rates, base.validFrom ≤ start := by
        intro covered
        apply notChargeable
        refine ⟨isOn, ?_⟩
        rw [if_neg some]
        exact covered
      push Not at uncovered
      exact ((interest_periods ⟨rates, unique⟩ settings.interestSpread total start last
        settings.interestDayCount).2.2.1 (Or.inr (Or.inr uncovered))).2
    · rename_i noTable
      split
      · rfl
      · rename_i base isBase
        refine absurd ⟨isOn, ?_⟩ notChargeable
        rw [if_pos (not_not.mp noTable), isBase]
        rfl

/-- Start of default of an item on its own. -/
def ownStart (mode : Option DefaultMode) (reminderReceivedOn : Option Date) (item : OverdueItem) : Option Date :=
  (defaultStart mode [item] reminderReceivedOn).start

theorem addDays_min (days : ℕ) (first second : Date) :
    (min first second).addDays days = min (first.addDays days) (second.addDays days) := by
  have monotone : Monotone fun date : Date => date.addDays days :=
    fun _ _ order => Nat.add_le_add_right order days
  exact monotone.map_min

theorem min?_addDays (days : ℕ) (dates : List Date) :
    (dates.map fun date => date.addDays days).min? = dates.min?.map fun date => date.addDays days := by
  induction dates with
  | nil => rfl
  | cons date rest ih =>
    rw [map_cons, List.min?_cons, List.min?_cons, ih]
    cases rest.min? with
    | none => rfl
    | some least => exact congrArg some (addDays_min days date least).symm

theorem defaultStart_earliest (mode : Option DefaultMode) (reminderReceivedOn : Option Date) (nonempty : items ≠ []) :
    (defaultStart mode items reminderReceivedOn).start =
      (items.filterMap (ownStart mode reminderReceivedOn)).min? := by
  have constant : ∀ start : Date, (items.filterMap fun _ => some start).min? = some start := by
    intro start
    obtain ⟨first, rest, rfl⟩ := exists_cons_of_ne_nil nonempty
    rw [List.min?_eq_some_iff]
    simp
  have never : (items.filterMap fun _ => (none : Option Date)).min? = none := by simp
  cases mode with
  | none => exact never.symm
  | some mode =>
    cases mode with
    | calendarDueDate =>
      have own : items.filterMap (ownStart (some .calendarDueDate) reminderReceivedOn) =
          (items.map OverdueItem.dueDate).map fun date => date.addDays 1 := by
        rw [map_map, ← filterMap_eq_map]
        rfl
      rw [own, min?_addDays]
      unfold defaultStart
      dsimp only
      cases (items.map OverdueItem.dueDate).min? <;> rfl
    | afterNotice30Days =>
      have own : ownStart (some .afterNotice30Days) reminderReceivedOn = noticeStart := by
        funext item
        cases isStart : noticeStart item with
        | none => simp [ownStart, defaultStart, isStart]
        | some start => simp [ownStart, defaultStart, isStart]
      rw [own]
      unfold defaultStart
      dsimp only
      cases (items.filterMap noticeStart).min? <;> rfl
    | afterReminder =>
      cases reminderReceivedOn with
      | none => exact never.symm
      | some received => exact (constant _).symm
    | other name => exact never.symm

/-- Interest on the remaining amount of an item from its own start. -/
def ownInterest (settings : EffectiveSettings) (rates : List BaseRate) (debtor : Debtor) (runDate : Date)
    (item : OverdueItem) : Decimal :=
  (interestFor settings rates item.remaining (ownStart settings.defaultStartMode debtor.reminderReceivedOn item)
    runDate).amount

/-- Interest on one euro from the start of the case to the own start of an item, at most up to the day of the run. -/
def early (settings : EffectiveSettings) (rates : List BaseRate) (debtor : Debtor) (start runDate : Date)
    (item : OverdueItem) : ℚ :=
  let own := ownStart settings.defaultStartMode debtor.reminderReceivedOn item
  accrued (chargedRate settings rates) settings.interestDayCount start (min (own.getD runDate) runDate)

/-- The interest of a case with its items: that of each from the common start, and against that from its own. -/
structure Charged (settings : EffectiveSettings) (rates : List BaseRate) (debtor : Debtor) (start runDate : Date)
    (items : List OverdueItem) (interest : Decimal) : Prop where
  common : |interest - (items.map fun item =>
      item.remaining * accrued (chargedRate settings rates) settings.interestDayCount start runDate).sum| ≤
    slack settings rates (items.map OverdueItem.remaining).sum runDate (some start)
  own : interest ≤ (items.map (ownInterest settings rates debtor runDate)).sum +
    (items.map fun item => item.remaining * early settings rates debtor start runDate item).sum +
    (slack settings rates (items.map OverdueItem.remaining).sum runDate (some start) +
      (items.map fun item => slack settings rates item.remaining runDate
        (ownStart settings.defaultStartMode debtor.reminderReceivedOn item)).sum)

theorem ownInterest_charged (unique : Unique rates) (debtor : Debtor) (positive : 0 < item.remaining)
    (chargeable : Chargeable settings rates start)
    (earliest : ∀ own ∈ ownStart settings.defaultStartMode debtor.reminderReceivedOn item, start ≤ own) :
    item.remaining * accrued (chargedRate settings rates) settings.interestDayCount start runDate ≤
      ownInterest settings rates debtor runDate item +
        item.remaining * early settings rates debtor start runDate item +
        slack settings rates item.remaining runDate
          (ownStart settings.defaultStartMode debtor.reminderReceivedOn item) := by
  unfold ownInterest early
  dsimp only
  cases isOwn : ownStart settings.defaultStartMode debtor.reminderReceivedOn item with
  | none =>
    rw [Option.getD_none, min_self]
    simp [slack, interestFor]
  | some own =>
    have later := earliest own isOwn
    have close := interestFor_charged runDate unique positive (chargeable.later later)
    rw [Option.getD_some]
    rcases le_total own runDate with within | beyond
    · rw [min_eq_left within, ← accrued_add (chargedRate settings rates) settings.interestDayCount later within, mul_add]
      rw [abs_le] at close
      linarith [close.1]
    · rw [min_eq_right beyond]
      rw [accrued_empty _ _ beyond, mul_zero, sub_zero, abs_le] at close
      linarith [close.1]

theorem charged_of_chargeable (unique : Unique rates) (debtor : Debtor) (nonempty : items ≠ [])
    (positive : ∀ item ∈ items, 0 < item.remaining) (chargeable : Chargeable settings rates start)
    (earliest : ∀ item ∈ items, ∀ own ∈ ownStart settings.defaultStartMode debtor.reminderReceivedOn item, start ≤ own) :
    Charged settings rates debtor start runDate items
      (interestFor settings rates (items.map OverdueItem.remaining).sum (some start) runDate).amount := by
  have totalPositive : 0 < (items.map OverdueItem.remaining).sum := by
    apply sum_pos
    · intro amount member
      obtain ⟨item, isItem, rfl⟩ := mem_map.mp member
      exact positive item isItem
    · exact fun none => nonempty (map_eq_nil_iff.mp none)
  have whole := interestFor_charged runDate unique totalPositive chargeable
  rw [← sum_map_mul_right] at whole
  refine ⟨whole, ?_⟩
  have each : (items.map fun item =>
      item.remaining * accrued (chargedRate settings rates) settings.interestDayCount start runDate).sum ≤
      (items.map fun item => ownInterest settings rates debtor runDate item +
        item.remaining * early settings rates debtor start runDate item +
        slack settings rates item.remaining runDate
          (ownStart settings.defaultStartMode debtor.reminderReceivedOn item)).sum :=
    sum_le_sum fun item member =>
      ownInterest_charged unique debtor (positive item member) chargeable (earliest item member)
  rw [sum_map_add, sum_map_add] at each
  have upper := (abs_le.mp whole).2
  linarith

theorem reminderGuard_zero (level : ℕ) (fee : Decimal) : (reminderGuard level fee 0).2.1 = 0 := by
  unfold reminderGuard
  split <;> rfl

theorem reminderGuard_above (above : reminderLevel < level) (fee interest : Decimal) :
    (reminderGuard level fee interest).2.1 = interest := by
  unfold reminderGuard
  rw [if_pos (Or.inl (ne_of_gt above))]

theorem proposeCase_interest (rates : List BaseRate) (ledger : DunningLedger) (runDate : Date) (accountId : AccountId)
    (overdue : List OverdueItem) (proposed : DunningCase)
    (isCase : proposeCase rates ledger runDate accountId overdue = proposed) :
    proposed.interestAmount = 0 ∨ proposed.status = .proposed ∧ reminderLevel < proposed.level ∧
      ∃ settings, ledger.settings = some settings ∧
        proposed.interestAmount = (interestFor settings rates proposed.total proposed.defaultStart runDate).amount := by
  subst isCase
  unfold proposeCase
  dsimp only
  generalize exclusion ledger _ _ _ _ _ _ = reason
  cases reason with
  | some reason => exact Or.inl (reminderGuard_zero _ _)
  | none =>
    cases isSettings : ledger.settings with
    | none => exact Or.inl (reminderGuard_zero _ _)
    | some settings =>
      by_cases above : reminderLevel < (ledger.debtor accountId).lastLevel + 1
      · refine Or.inr ⟨rfl, above, settings, rfl, ?_⟩
        rw [reminderGuard_above above]
        simp only [Option.isNone_none, if_true, if_pos above]
      · left
        simp only [Option.isNone_none, if_true, if_neg above]
        exact reminderGuard_zero _ _

theorem proposeCase_items (nonempty : items ≠ []) :
    (proposeCase rates ledger runDate accountId items).openItems ≠ [] ∧
      (proposeCase rates ledger runDate accountId items).openItems ⊆ items := by
  unfold proposeCase
  dsimp only
  split
  · exact ⟨nonempty, fun _ member => member⟩
  · rename_i some
    exact ⟨some, fun _ member => (mem_filter.mp member).1⟩

theorem byAccount_items (member : group ∈ byAccount items runDate) :
    group.2 ≠ [] ∧ ∀ item ∈ group.2, item ∈ items ∧ item.accountId = group.1 ∧ 0 < item.remaining ∧ item.dueDate < runDate := by
  unfold byAccount grouped at member
  obtain ⟨account, isKey, rfl⟩ := mem_map.mp member
  constructor
  · obtain ⟨pair, isPair, rfl⟩ := mem_map.mp (mem_eraseDups.mp isKey)
    exact ne_nil_of_mem (mem_map.mpr ⟨pair, mem_filter.mpr ⟨isPair, decide_eq_true rfl⟩, rfl⟩)
  · intro item isItem
    obtain ⟨pair, isPair, rfl⟩ := mem_map.mp isItem
    obtain ⟨isPair, isAccount⟩ := mem_filter.mp isPair
    obtain ⟨overdue, isOverdue, rfl⟩ := mem_map.mp isPair
    obtain ⟨isOpen, selected⟩ := mem_filter.mp isOverdue
    obtain ⟨-, positive, late⟩ := of_decide_eq_true selected
    exact ⟨isOpen, of_decide_eq_true isAccount, positive, late⟩

/-- Every case of a run bears no interest, or interest on the total of its items from the earliest of their starts of
default: up to rounding that of each item from the common start, so the interest on each from its own start and what
accrues before that. -/
theorem interest_of_cases (rates : { rates : List BaseRate // Unique rates }) (ledgers : List DunningLedger)
    (runDate : Date) :
    ∀ proposed ∈ preview rates.1 ledgers runDate, ∃ ledger ∈ ledgers,
      let debtor := ledger.debtor proposed.debtorAccountId
      let mode := ledger.settings.bind EffectiveSettings.defaultStartMode
      proposed.total = (proposed.openItems.map OverdueItem.remaining).sum ∧
      proposed.defaultStart = (proposed.openItems.filterMap (ownStart mode debtor.reminderReceivedOn)).min? ∧
      (proposed.interestAmount = 0 ∨ proposed.status = .proposed ∧ reminderLevel < proposed.level ∧
        ∃ settings start, ledger.settings = some settings ∧ proposed.defaultStart = some start ∧
          Charged settings rates.1 debtor start runDate proposed.openItems proposed.interestAmount) := by
  intro proposed member
  obtain ⟨ledger, isLedger, isCase⟩ := mem_flatMap.mp member
  obtain ⟨group, isGroup, isCase⟩ := mem_map.mp isCase
  have inGroups := (perm_insertionSort _ _).mem_iff.mp isGroup
  obtain ⟨nonempty, overdue⟩ := byAccount_items inGroups
  have itsItems : (proposeCase rates.1 ledger runDate group.1 group.2).openItems ≠ [] ∧
      (proposeCase rates.1 ledger runDate group.1 group.2).openItems ⊆ group.2 := proposeCase_items nonempty
  have charged := proposeCase_interest rates.1 ledger runDate group.1 group.2 proposed isCase
  rw [isCase] at itsItems
  obtain ⟨someItems, among⟩ := itsItems
  have isAccount : proposed.debtorAccountId = group.1 := by
    rw [← isCase]
    rfl
  have isTotal : proposed.total = (proposed.openItems.map OverdueItem.remaining).sum := by
    rw [← isCase]
    rfl
  have isStart : proposed.defaultStart = (defaultStart (ledger.settings.bind EffectiveSettings.defaultStartMode)
      proposed.openItems (ledger.debtor proposed.debtorAccountId).reminderReceivedOn).start := by
    rw [← isCase]
    rfl
  rw [defaultStart_earliest _ _ someItems] at isStart
  refine ⟨ledger, isLedger, isTotal, isStart, ?_⟩
  rcases charged with none | ⟨status, above, settings, isSettings, isInterest⟩
  · exact Or.inl none
  · cases isDefault : proposed.defaultStart with
    | none =>
      rw [isDefault] at isInterest
      exact Or.inl isInterest
    | some start =>
      rw [isDefault] at isInterest isStart
      by_cases chargeable : Chargeable settings rates.1 start
      · refine Or.inr ⟨status, above, settings, start, isSettings, rfl, ?_⟩
        rw [isInterest, isTotal]
        apply charged_of_chargeable rates.2 _ someItems (fun item isItem => (overdue item (among isItem)).2.2.1) chargeable
        intro item isItem own isOwn
        rw [isSettings] at isStart
        exact (List.min?_eq_some_iff.mp isStart.symm).2 own (mem_filterMap.mpr ⟨item, isItem, isOwn⟩)
      · rw [interestFor_zero chargeable rates.2] at isInterest
        exact Or.inl isInterest

/-- Settings of a tenant who charges five percent over the base rate from the calendar due date on. -/
def calendarSettings : EffectiveSettings where
  levels := [{ level := 2, minDaysOverdue := 14 }]
  interestEnabled := true
  interestSpread := some 5
  defaultStartMode := some .calendarDueDate

/-- A debtor with an item of January and one of May. -/
def twoItems : DunningLedger where
  settings := some calendarSettings
  openItems := [{ id := 1, accountId := 1, dueDate := .ofYmd 2026 1 1, remaining := 1000 },
    { id := 2, accountId := 1, dueDate := .ofYmd 2026 5 31, remaining := 1000 }]
  debtor := fun _ => { number := "10001", lastLevel := 1 }

theorem two_items_total : ∃ proposed ∈ preview [⟨.ofYmd 2026 1 1, 127 / 100⟩] [twoItems] (.ofYmd 2026 7 1),
    proposed.total = (proposed.openItems.map OverdueItem.remaining).sum := by
  have nonempty : preview [⟨.ofYmd 2026 1 1, 127 / 100⟩] [twoItems] (.ofYmd 2026 7 1) ≠ [] := by decide +kernel
  have member := head_mem nonempty
  obtain ⟨ledger, -, total, -⟩ :=
    interest_of_cases ⟨[⟨.ofYmd 2026 1 1, 127 / 100⟩], by decide⟩ [twoItems] (.ofYmd 2026 7 1) _ member
  exact ⟨_, member, total⟩

/-- The item of May is charged from January on. -/
theorem later_item_charged_early : ∃ proposed ∈ preview [⟨.ofYmd 2026 1 1, 127 / 100⟩] [twoItems] (.ofYmd 2026 7 1),
    (proposed.openItems.map (ownInterest calendarSettings [⟨.ofYmd 2026 1 1, 127 / 100⟩] (twoItems.debtor 1)
      (.ofYmd 2026 7 1))).sum < proposed.interestAmount := by
  decide +kernel

end Mhvp.Accounting.Dunning
