import Mathlib.Algebra.BigOperators.Ring.Finset
import Mhvp.Core.Cents
import Mhvp.Lib.Months
import Mhvp.Lib.Sorting
import Mhvp.Receivables.Proration

namespace Mhvp.Receivables

open Core Lib.Calendar Lib.Rounding List

variable {month : Date} {method : ProrationMethod} {amount : Decimal} {periods : List Validity}

theorem adjustLast_sum (diff : Decimal) (nonempty : segments ≠ []) :
    ((adjustLast diff segments).map ListedSegment.rounded).sum = (segments.map ListedSegment.rounded).sum + diff := by
  induction segments with
  | nil => exact absurd rfl nonempty
  | cons segment rest ih =>
    cases rest with
    | nil => simp [adjustLast]
    | cons next others =>
      have later := ih (cons_ne_nil _ _)
      have step : adjustLast diff (segment :: next :: others) = segment :: adjustLast diff (next :: others) := rfl
      rw [step, map_cons, sum_cons, later]
      simp only [map_cons, sum_cons]
      ring

theorem listed_sum (month : Date) (method : ProrationMethod) (periods : List Validity) (contractStart : Date)
    (contractEnd : Option Date) :
    ((listed method (prorateMonth month method periods contractStart contractEnd)).map ListedSegment.rounded).sum =
      (prorateMonth month method periods contractStart contractEnd).total := by
  unfold prorateMonth
  dsimp only
  generalize cutPeriods _ _ periods = cut
  cases isLast : cut.getLast? with
  | none =>
    unfold listed
    split
    · rfl
    · rfl
  | some current =>
    dsimp only
    by_cases full : method = .fullMonth
    · rw [if_pos full]
      unfold listed
      rw [if_pos full]
      exact sum_singleton
    · rw [if_neg full]
      unfold listed
      rw [if_neg full]
      have nonempty : cut ≠ [] := by
        rintro rfl
        cases isLast
      dsimp only
      rw [adjustLast_sum]
      · exact add_sub_cancel _ _
      · simpa using nonempty

theorem monthFirst_eq (month : Date) : monthFirst month = firstOfMonth (monthIndex month) := by
  obtain ⟨isYear, isMonth⟩ := monthIndex_div month
  rw [monthFirst, firstOfMonth, isYear, isMonth]

theorem monthLast_eq (month : Date) : monthLast month = lastOfMonth (monthIndex month) := by
  obtain ⟨isYear, isMonth⟩ := monthIndex_div month
  rw [monthLast, lastOfMonth, isYear, isMonth]

/-- Days of the month. -/
def monthDays (month : Date) : ℕ := (monthLast month).ordinal + 1 - (monthFirst month).ordinal

theorem monthDays_eq (month : Date) : monthDays month = Date.monthLength month.year month.month ∧
    (monthLast month).ordinal + 1 = (monthFirst month).ordinal + monthDays month ∧
    28 ≤ monthDays month ∧ monthDays month ≤ 31 := by
  have ends := lastOfMonth_ordinal (monthIndex month)
  obtain ⟨isYear, isMonth⟩ := monthIndex_div month
  rw [isYear, isMonth, ← monthFirst_eq, ← monthLast_eq] at ends
  have bounds := monthLength_bounds month.year (month_pos month) (month_le month)
  unfold monthDays
  omega

theorem day_ofMonth (month : Date) (inMonth : number < monthDays month) :
    (⟨(monthFirst month).ordinal + number⟩ : Date).day = number + 1 ∧
      monthLast ⟨(monthFirst month).ordinal + number⟩ = monthLast month := by
  obtain ⟨isYear, isMonth⟩ := monthIndex_div month
  rw [(monthDays_eq month).1, ← isYear, ← isMonth] at inMonth
  obtain ⟨year, isNumber, isDay⟩ := read_ofMonth (late_monthIndex month) inMonth
  rw [monthFirst_eq]
  refine ⟨isDay, ?_⟩
  rw [monthLast, year, isNumber, isYear, isMonth, monthLast]

/-- The month cut into consecutive parts. -/
structure MonthParts (month : Date) where
  /-- Where the parts after the first one start, and the day after the month. -/
  stops : List Date
  ascending : (monthFirst month :: stops).Pairwise fun first second => first < second
  whole : (monthFirst month :: stops).getLast (cons_ne_nil _ _) = (monthLast month).addDays 1

variable {parts : MonthParts month}

/-- First day of each part, and the day after it. -/
def MonthParts.cuts (parts : MonthParts month) : List (Date × Date) := (monthFirst month :: parts.stops).zip parts.stops

def MonthParts.validities (parts : MonthParts month) (amount : Decimal) : List Validity :=
  parts.cuts.map fun cut => (cut.1, some cut.2.dayBefore, amount)

theorem MonthParts.mem_cuts (parts : MonthParts month) : ∀ cut ∈ parts.cuts,
    monthFirst month ≤ cut.1 ∧ cut.1 < cut.2 ∧ cut.2 ≤ (monthLast month).addDays 1 ∧
      (cut.2 = (monthLast month).addDays 1 ∨ cut.2 ≤ monthLast month) := by
  intro cut member
  obtain ⟨isFirst, isSecond, order, -⟩ := neighbours parts.ascending cut member
  have after : monthFirst month ≤ cut.1 := by
    rcases mem_cons.mp isFirst with same | later
    · exact same.ge
    · exact ((pairwise_cons.mp parts.ascending).1 _ later).le
  have upTo : cut.2 = (monthLast month).addDays 1 ∨ cut.2 < (monthLast month).addDays 1 := by
    have ascending := parts.ascending
    rw [← dropLast_append_getLast (cons_ne_nil (monthFirst month) parts.stops)] at isSecond ascending
    rcases mem_append.mp isSecond with early | isLast
    · right
      rw [← parts.whole]
      exact (pairwise_append.mp ascending).2.2 _ early _ (mem_singleton_self _)
    · left
      rw [mem_singleton.mp isLast, parts.whole]
  refine ⟨after, order, ?_, ?_⟩
  · rcases upTo with same | before
    · exact same.le
    · exact before.le
  · apply upTo.imp_right
    intro before
    rw [Date.lt_def] at before
    rw [Date.le_def]
    simp only [Date.addDays] at before
    omega

theorem MonthParts.cuts_ne_nil (parts : MonthParts month) : parts.cuts ≠ [] := by
  intro none
  have counted := neighbours_telescope (fun day => (day.ordinal : ℤ)) (monthFirst month) parts.stops
  rw [← MonthParts.cuts, none, parts.whole] at counted
  obtain ⟨-, isEnd, least, -⟩ := monthDays_eq month
  have stop : ((monthLast month).addDays 1).ordinal = (monthLast month).ordinal + 1 := rfl
  rw [map_nil, sum_nil, stop] at counted
  omega

theorem MonthParts.starts_ascending (parts : MonthParts month) :
    parts.cuts.Pairwise fun first second => first.1 < second.1 := by
  exact pairwise_map.mp (parts.ascending.sublist (starts_sublist _ _))

/-- Days counted before a day of the month, as the method counts them. -/
def countedBefore (month : Date) (method : ProrationMethod) (day : Date) : ℤ :=
  match method with
  | .thirty360 => if day = (monthLast month).addDays 1 then 30 else (day.ordinal - (monthFirst month).ordinal : ℕ)
  | _ => (day.ordinal - (monthFirst month).ordinal : ℕ)

/-- The 31st, where a part starts on it. -/
def extraDay (method : ProrationMethod) (cut : Date × Date) : ℤ := if method = .thirty360 ∧ cut.1.day = 31 then 1 else 0

/-- Days of the month, as the method counts them. -/
def methodDays (month : Date) : ProrationMethod → ℕ
  | .thirty360 => 30
  | _ => monthDays month

/-- The days of a part are those counted up to its end, and the 31st counts once more where a part starts on it. -/
theorem fraction_cut (partial' : method ≠ .fullMonth) (parts : MonthParts month) :
    ∀ cut ∈ parts.cuts, (fraction method cut.1 cut.2.dayBefore).2 = methodDays month method ∧
      ((fraction method cut.1 cut.2.dayBefore).1 : ℤ) =
        countedBefore month method cut.2 - countedBefore month method cut.1 + extraDay method cut := by
  intro cut member
  obtain ⟨after, order, upTo, ends⟩ := parts.mem_cuts cut member
  obtain ⟨isLength, isEnd, least, most⟩ := monthDays_eq month
  rw [Date.le_def] at after
  rw [Date.lt_def] at order
  have last : cut.2.ordinal ≤ (monthLast month).ordinal + 1 := upTo
  obtain ⟨number, isNumber⟩ := Nat.exists_eq_add_of_le after
  have isStart : cut.1 = ⟨(monthFirst month).ordinal + number⟩ := Date.ext isNumber
  have inMonth : number < monthDays month := by omega
  obtain ⟨startDay, startMonth⟩ := day_ofMonth month inMonth
  rw [← isStart] at startDay startMonth
  obtain ⟨further, isFurther⟩ := Nat.exists_eq_add_of_lt order
  have isLast : cut.2.dayBefore = ⟨(monthFirst month).ordinal + (number + further)⟩ := by
    apply Date.ext
    simp only [Date.dayBefore]
    omega
  have lastInMonth : number + further < monthDays month := by omega
  obtain ⟨lastDay, -⟩ := day_ofMonth month lastInMonth
  rw [← isLast] at lastDay
  cases method with
  | fullMonth => exact absurd rfl partial'
  | calendarDays =>
    refine ⟨?_, ?_⟩
    · have lastNumber : monthDays month - 1 < monthDays month := by omega
      obtain ⟨isDay, -⟩ := day_ofMonth month lastNumber
      have isMonthLast : monthLast month = ⟨(monthFirst month).ordinal + (monthDays month - 1)⟩ := by
        apply Date.ext
        dsimp only
        omega
      simp only [fraction, methodDays]
      rw [startMonth, isMonthLast, isDay]
      omega
    · simp only [fraction, countedBefore, extraDay]
      rw [isLast, isNumber]
      simp only [reduceCtorEq, false_and, if_false]
      omega
  | thirty360 =>
    refine ⟨rfl, ?_⟩
    have startInside : cut.1 ≠ (monthLast month).addDays 1 := by
      intro same
      have ordinals := congrArg Date.ordinal same
      simp only [Date.addDays] at ordinals
      omega
    simp only [fraction, countedBefore, extraDay]
    rw [if_neg startInside, startMonth, startDay, lastDay]
    rcases ends with isStop | before
    · have closes : cut.2.dayBefore = monthLast month := by
        rw [isStop]
        rfl
      rw [if_pos closes, if_pos isStop]
      have ordinals := congrArg Date.ordinal isStop
      simp only [Date.addDays] at ordinals
      by_cases isExtra : number + 1 = 31
      · rw [if_pos ⟨trivial, isExtra⟩]
        omega
      · rw [if_neg fun both => isExtra both.2]
        omega
    · have opens : cut.2.dayBefore ≠ monthLast month := by
        intro same
        have ordinals := congrArg Date.ordinal same
        simp only [Date.dayBefore] at ordinals
        rw [Date.le_def] at before
        omega
      have inside : cut.2 ≠ (monthLast month).addDays 1 := by
        intro same
        have ordinals := congrArg Date.ordinal same
        simp only [Date.addDays] at ordinals
        rw [Date.le_def] at before
        omega
      have notExtra : ¬ number + 1 = 31 := by
        rw [Date.le_def] at before
        omega
      rw [if_neg opens, if_neg inside, if_neg fun both => notExtra both.2]
      rw [Date.le_def] at before
      omega

theorem start_of_extra (parts : MonthParts month) {cut : Date × Date} (member : cut ∈ parts.cuts) (extra : cut.1.day = 31) :
    cut.1.ordinal = (monthFirst month).ordinal + 30 := by
  obtain ⟨after, order, upTo, -⟩ := parts.mem_cuts cut member
  obtain ⟨-, isEnd, -, -⟩ := monthDays_eq month
  rw [Date.le_def] at after
  rw [Date.lt_def] at order
  have last : cut.2.ordinal ≤ (monthLast month).ordinal + 1 := upTo
  obtain ⟨number, isNumber⟩ := Nat.exists_eq_add_of_le after
  have isStart : cut.1 = ⟨(monthFirst month).ordinal + number⟩ := Date.ext isNumber
  obtain ⟨startDay, -⟩ := day_ofMonth month (show number < monthDays month by omega)
  rw [← isStart, extra] at startDay
  omega

theorem extraDays_sum (method : ProrationMethod) (parts : MonthParts month) :
    (parts.cuts.map (extraDay method)).sum =
      if method = .thirty360 ∧ ∃ cut ∈ parts.cuts, cut.1.day = 31 then 1 else 0 := by
  have apart : parts.cuts.Pairwise fun first second => first.1.day = 31 → second.1.day ≠ 31 := by
    have ascending := parts.starts_ascending
    have among : ∀ cut ∈ parts.cuts, cut ∈ parts.cuts := fun _ member => member
    refine (List.Pairwise.and_mem.mp ascending).imp ?_
    rintro first second ⟨isFirst, isSecond, before⟩ isExtra isSecondExtra
    have sameFirst := start_of_extra parts isFirst isExtra
    have sameSecond := start_of_extra parts isSecond isSecondExtra
    rw [Date.lt_def] at before
    omega
  generalize parts.cuts = cuts at apart
  induction cuts with
  | nil => simp
  | cons cut rest ih =>
    obtain ⟨alone, later⟩ := pairwise_cons.mp apart
    rw [map_cons, sum_cons, ih later]
    by_cases thirty : method = .thirty360
    · by_cases isExtra : cut.1.day = 31
      · have none : ¬ ∃ other ∈ rest, other.1.day = 31 := fun ⟨other, member, extra⟩ => alone other member isExtra extra
        have some : ∃ other ∈ cut :: rest, other.1.day = 31 := ⟨cut, mem_cons_self, isExtra⟩
        rw [extraDay, if_pos ⟨thirty, isExtra⟩, if_neg fun both => none both.2, if_pos ⟨thirty, some⟩]
        rfl
      · have same : (∃ other ∈ cut :: rest, other.1.day = 31) ↔ ∃ other ∈ rest, other.1.day = 31 := by
          simp [isExtra]
        rw [extraDay, if_neg fun both => isExtra both.2, zero_add]
        simp only [same]
    · rw [extraDay, if_neg fun both => thirty both.1, if_neg fun both => thirty both.1, if_neg fun both => thirty both.1]
      rfl

/-- Over all parts as many days are counted as the month has, and one more if a part starts on the 31st. -/
theorem counted_sum (partial' : method ≠ .fullMonth) (parts : MonthParts month) :
    (parts.cuts.map fun cut => ((fraction method cut.1 cut.2.dayBefore).1 : ℤ)).sum =
      methodDays month method + if method = .thirty360 ∧ ∃ cut ∈ parts.cuts, cut.1.day = 31 then 1 else 0 := by
  have split : (parts.cuts.map fun cut => ((fraction method cut.1 cut.2.dayBefore).1 : ℤ)) =
      parts.cuts.map fun cut =>
        countedBefore month method cut.2 - countedBefore month method cut.1 + extraDay method cut :=
    map_congr_left fun cut member => (fraction_cut partial' parts cut member).2
  have telescoped := neighbours_telescope (countedBefore month method) (monthFirst month) parts.stops
  rw [← MonthParts.cuts, parts.whole] at telescoped
  rw [split, sum_map_add, extraDays_sum, telescoped]
  congr 1
  obtain ⟨-, isEnd, least, -⟩ := monthDays_eq month
  have stop : ((monthLast month).addDays 1).ordinal = (monthLast month).ordinal + 1 := rfl
  cases method with
  | fullMonth => exact absurd rfl partial'
  | calendarDays =>
    simp only [countedBefore, methodDays, stop]
    omega
  | thirty360 =>
    have inside : monthFirst month ≠ (monthLast month).addDays 1 := by
      intro same
      have ordinals := congrArg Date.ordinal same
      rw [stop] at ordinals
      omega
    simp only [countedBefore, methodDays, if_true, if_neg inside]
    omega

theorem cutPeriods_parts (perm : periods.Perm (parts.validities amount))
    (isLower : lower = monthFirst month) (isUpper : upper = monthLast month) :
    cutPeriods lower upper periods = parts.cuts.map fun cut => (cut.1, cut.2.dayBefore, amount) := by
  subst isLower isUpper
  have apart : (parts.validities amount).Pairwise fun first second => first.1 < second.1 :=
    pairwise_map.mpr parts.starts_ascending
  have sorted : periods.insertionSort (fun first second => first.1 ≤ second.1) = parts.validities amount := by
    have isSorted : (periods.insertionSort fun first second : Validity => first.1 ≤ second.1).Pairwise
        fun first second => first.1 ≤ second.1 := pairwise_insertionSort ..
    have samePerm := (perm_insertionSort (fun first second : Validity => first.1 ≤ second.1) periods).trans perm
    refine samePerm.eq_of_pairwise ?_ isSorted (apart.imp fun before => before.le)
    intro first second isFirst isSecond before after
    have sameStart := le_antisymm before after
    have inParts := samePerm.mem_iff.mp isFirst
    have distinct : ((parts.validities amount).map Prod.fst).Nodup :=
      pairwise_map.mpr (apart.imp fun order => ne_of_lt order)
    exact inj_on_of_nodup_map distinct inParts isSecond sameStart
  unfold cutPeriods
  rw [sorted, MonthParts.validities, filterMap_map, ← filterMap_eq_map]
  apply filterMap_congr
  intro cut member
  obtain ⟨after, order, upTo, -⟩ := parts.mem_cuts cut member
  rw [Date.lt_def] at order
  have last : cut.2.ordinal ≤ (monthLast month).ordinal + 1 := upTo
  have within : cut.2.dayBefore ≤ monthLast month := by
    rw [Date.le_def]
    simp only [Date.dayBefore]
    omega
  have nonempty : cut.1 ≤ cut.2.dayBefore := by
    rw [Date.le_def]
    simp only [Date.dayBefore]
    omega
  simp only [Function.comp_apply, Option.map_some, Option.getD_some, max_eq_left after, min_eq_left within]
  rw [if_pos nonempty]

theorem q8_error (value : Decimal) : |q8 value - value| ≤ 5 / 10 ^ 9 := by
  have error := roundCents_error (value * 10 ^ 6)
  have scaled : q8 value - value = (roundCents (value * 10 ^ 6) - value * 10 ^ 6) / 10 ^ 6 := by
    unfold q8
    ring
  rw [scaled, abs_div, div_le_iff₀ (by norm_num)]
  refine error.trans ?_
  norm_num

theorem exact_near {days base : ℕ} (small : |amount| < 10 ^ 12) (few : days ≤ 32) (many : 28 ≤ base) :
    |q8 (contextRound (amount * days / base)) - amount * days / base| ≤ 6 / 10 ^ 9 := by
  have rounded := contextRound_error (amount * days / base)
  have stored := q8_error (contextRound (amount * days / base))
  have basePositive : (0 : ℚ) < base := by
    have positive : 0 < base := by omega
    exact_mod_cast positive
  have size : |amount * days / base| ≤ 2 * 10 ^ 12 := by
    rw [abs_div, abs_mul, Nat.abs_cast, Nat.abs_cast, div_le_iff₀ basePositive]
    have fewDays : (days : ℚ) ≤ 32 := by exact_mod_cast few
    have manyDays : (28 : ℚ) ≤ base := by exact_mod_cast many
    have product : |amount| * days ≤ 10 ^ 12 * 32 :=
      mul_le_mul small.le fewDays (Nat.cast_nonneg _) (by norm_num)
    have total : (2 : ℚ) * 10 ^ 12 * 28 ≤ 2 * 10 ^ 12 * base := mul_le_mul_of_nonneg_left manyDays (by norm_num)
    linarith
  have contextPart : contextError * |amount * days / base| ≤ 1 / 10 ^ 9 := by
    refine (mul_le_mul_of_nonneg_left size contextRound_accurate.nonneg).trans ?_
    norm_num [contextError]
  have together := abs_add_le (q8 (contextRound (amount * days / base)) - contextRound (amount * days / base))
    (contextRound (amount * days / base) - amount * days / base)
  rw [sub_add_sub_cancel] at together
  linarith

theorem methodDays_bounds (month : Date) (partial' : method ≠ .fullMonth) :
    28 ≤ methodDays month method ∧ methodDays month method ≤ 31 := by
  obtain ⟨-, -, least, most⟩ := monthDays_eq month
  cases method with
  | fullMonth => exact absurd rfl partial'
  | calendarDays => exact ⟨least, most⟩
  | thirty360 => exact ⟨Nat.le_add_right 28 2, Nat.le_add_right 30 1⟩

/-- Days counted over all parts. -/
def countedDays (method : ProrationMethod) (parts : MonthParts month) : ℕ :=
  (parts.cuts.map fun cut => (fraction method cut.1 cut.2.dayBefore).1).sum

theorem countedDays_eq (partial' : method ≠ .fullMonth) (parts : MonthParts month) :
    countedDays method parts =
      methodDays month method + if method = .thirty360 ∧ ∃ cut ∈ parts.cuts, cut.1.day = 31 then 1 else 0 := by
  have counted := counted_sum partial' parts
  have cast : ((countedDays method parts : ℕ) : ℤ) =
      methodDays month method + if method = .thirty360 ∧ ∃ cut ∈ parts.cuts, cut.1.day = 31 then 1 else 0 := by
    rw [countedDays, Nat.cast_list_sum, map_map]
    exact counted
  split at cast <;> rename_i extra
  · rw [if_pos extra]
    omega
  · rw [if_neg extra]
    omega

theorem MonthParts.length_le (parts : MonthParts month) : parts.cuts.length ≤ 31 := by
  have inDays : ProrationMethod.calendarDays ≠ .fullMonth := nofun
  have notThirty : ¬ (ProrationMethod.calendarDays = .thirty360 ∧ ∃ cut ∈ parts.cuts, cut.1.day = 31) :=
    fun both => nomatch both.1
  have counted := countedDays_eq inDays parts
  have bounds := methodDays_bounds month inDays
  rw [if_neg notThirty, countedDays] at counted
  have shorter : (parts.cuts.map fun cut => (fraction .calendarDays cut.1 cut.2.dayBefore).1).length ≤
      (parts.cuts.map fun cut => (fraction .calendarDays cut.1 cut.2.dayBefore).1).sum := by
    apply length_le_sum_of_one_le
    intro days member
    obtain ⟨cut, -, rfl⟩ := mem_map.mp member
    exact Nat.le_add_left 1 _
  rw [length_map, counted] at shorter
  omega

theorem counted_amount (method : ProrationMethod) (parts : MonthParts month) (amount : Decimal) (base : ℕ) :
    (parts.cuts.map fun cut => amount * (fraction method cut.1 cut.2.dayBefore).1 / (base : ℚ)).sum =
      amount * countedDays method parts / base := by
  simp only [mul_div_right_comm amount]
  rw [sum_map_mul_left, countedDays, Nat.cast_list_sum, map_map]
  rfl

theorem exactTotal_near (small : |amount| < 10 ^ 12) (partial' : method ≠ .fullMonth) (parts : MonthParts month) :
    |((parts.cuts.map fun cut => segmentOf method (cut.1, cut.2.dayBefore, amount)).map Segment.exact).sum -
      amount * countedDays method parts / methodDays month method| ≤ 2 / 10 ^ 7 := by
  have bounds := methodDays_bounds month partial'
  have most : countedDays method parts ≤ 32 := by
    rw [countedDays_eq partial']
    split <;> omega
  have each : ∀ cut ∈ parts.cuts, |(segmentOf method (cut.1, cut.2.dayBefore, amount)).exact -
      amount * (fraction method cut.1 cut.2.dayBefore).1 / methodDays month method| ≤ 6 / 10 ^ 9 := by
    intro cut member
    have isBase := (fraction_cut partial' parts cut member).1
    have few : (fraction method cut.1 cut.2.dayBefore).1 ≤ 32 := by
      refine le_trans ?_ most
      exact single_le_sum (fun _ _ => Nat.zero_le _) _ (mem_map_of_mem member)
    have near := exact_near small few bounds.1
    rw [← isBase] at near ⊢
    exact near
  have within := sums_within each
  rw [counted_amount] at within
  rw [map_map]
  refine within.trans ?_
  have few : (parts.cuts.length : ℚ) ≤ 31 := by exact_mod_cast parts.length_le
  linarith

theorem fifteen_exact (fifteen : amount = 15 / 100 ∨ amount = -15 / 100) {days : ℕ} (few : days < 33) :
    q8 (contextRound (amount * days / (30 : ℕ))) = amount * days / (30 : ℕ) := by
  have all : ∀ days < 33, q8 (contextRound ((15 / 100 : ℚ) * (days : ℕ) / (30 : ℕ))) = 15 / 100 * (days : ℕ) / (30 : ℕ) ∧
      q8 (contextRound ((-15 / 100 : ℚ) * (days : ℕ) / (30 : ℕ))) = -15 / 100 * (days : ℕ) / (30 : ℕ) := by
    decide +kernel
  rcases fifteen with rfl | rfl
  · exact (all days few).1
  · exact (all days few).2

theorem exactTotal_fifteen (fifteen : amount = 15 / 100 ∨ amount = -15 / 100) (parts : MonthParts month) :
    ((parts.cuts.map fun cut => segmentOf .thirty360 (cut.1, cut.2.dayBefore, amount)).map Segment.exact).sum =
      amount * countedDays .thirty360 parts / (30 : ℕ) := by
  have partial' : ProrationMethod.thirty360 ≠ .fullMonth := nofun
  have most : countedDays .thirty360 parts < 33 := by
    have bounds := methodDays_bounds month partial'
    rw [countedDays_eq partial']
    split <;> omega
  rw [map_map, ← counted_amount]
  congr 1
  apply map_congr_left
  intro cut member
  have few : (fraction .thirty360 cut.1 cut.2.dayBefore).1 < 33 := by
    refine lt_of_le_of_lt ?_ most
    exact single_le_sum (fun _ _ => Nat.zero_le _) _ (mem_map_of_mem member)
  exact fifteen_exact fifteen few

theorem extraDay_rounds (isCents : IsCents amount) (near : |total - amount * 31 / 30| ≤ 2 / 10 ^ 7)
    (fifteen : amount = 15 / 100 ∨ amount = -15 / 100 → total = amount * 31 / 30) :
    roundCents total = amount ↔ |amount| < 15 / 100 := by
  obtain ⟨cents, isAmount⟩ := isCents_iff_int.mp isCents
  have apart : |amount / 30| - |total - amount * 31 / 30| ≤ |total - amount| := by
    have parts : amount / 30 = (total - amount) - (total - amount * 31 / 30) := by ring
    rw [parts]
    have triangle := abs_sub (total - amount) (total - amount * 31 / 30)
    linarith
  rw [abs_div, abs_of_pos (show (0 : ℚ) < 30 by norm_num)] at apart
  constructor
  · intro rounds
    by_contra large
    have error := roundCents_error total
    rw [rounds, abs_sub_comm] at error
    rcases eq_or_lt_of_le (not_lt.mp large) with same | more
    · have isFifteen : amount = 15 / 100 ∨ amount = -15 / 100 := by
        rcases abs_choice amount with positive | negative
        · left
          rw [← positive, ← same]
        · right
          rw [negative] at same
          linarith
      rw [fifteen isFifteen] at rounds
      rcases isFifteen with rfl | rfl
      · exact absurd rounds (by decide +kernel)
      · exact absurd rounds (by decide +kernel)
    · have sixteen : (16 : ℚ) / 100 ≤ |amount| := by
        rw [isAmount, abs_div, ← Int.cast_abs] at more ⊢
        norm_num at more ⊢
        have whole : (15 : ℚ) < (|cents| : ℤ) := by
          rw [Int.cast_abs]
          linarith
        have next : 16 ≤ |cents| := by exact_mod_cast whole
        have nextCast : (16 : ℚ) ≤ (|cents| : ℤ) := by exact_mod_cast next
        rw [Int.cast_abs] at nextCast
        linarith
      linarith
  · intro small
    apply roundCents_eq isCents
    have fourteen : |amount| ≤ 14 / 100 := by
      rw [isAmount, abs_div, ← Int.cast_abs] at small ⊢
      norm_num at small ⊢
      have whole : ((|cents| : ℤ) : ℚ) < 15 := by
        rw [Int.cast_abs]
        linarith
      have next : |cents| ≤ 14 := by
        have less : |cents| < 15 := by exact_mod_cast whole
        omega
      have nextCast : ((|cents| : ℤ) : ℚ) ≤ 14 := by exact_mod_cast next
      rw [Int.cast_abs] at nextCast
      linarith
    have parts : amount - total = -(amount / 30) - (total - amount * 31 / 30) := by ring
    rw [parts]
    have triangle := abs_sub (-(amount / 30)) (total - amount * 31 / 30)
    rw [abs_neg, abs_div, abs_of_pos (show (0 : ℚ) < 30 by norm_num)] at triangle
    linarith

/-- A month of parts that all have one amount is charged it exactly, unless a part of the method 30/360 starts on the
31st; the listed amounts add up to the total in any case. -/
theorem prorateMonth_parts (month : Date) (method : ProrationMethod) (amount : Decimal) (isCents : IsCents amount)
    (small : |amount| < 10 ^ 12) (parts : MonthParts month) (periods : List Validity)
    (perm : periods.Perm (parts.validities amount)) (contractStart : Date) (started : contractStart ≤ monthFirst month)
    (contractEnd : Option Date) (runs : ∀ last ∈ contractEnd, monthLast month ≤ last) :
    let result := prorateMonth month method periods contractStart contractEnd
    ((listed method result).map ListedSegment.rounded).sum = result.total ∧
      (result.total = amount ↔
        ¬ (method = .thirty360 ∧ ∃ cut ∈ parts.cuts, cut.1.day = 31) ∨ |amount| < 15 / 100) := by
  refine ⟨listed_sum month method periods contractStart contractEnd, ?_⟩
  have isLower : max (monthFirst month) contractStart = monthFirst month := max_eq_left started
  have isUpper : (contractEnd.map fun last => min (monthLast month) last).getD (monthLast month) = monthLast month := by
    cases contractEnd with
    | none => rfl
    | some last => exact min_eq_left (runs last rfl)
  have isCut := cutPeriods_parts perm isLower isUpper
  unfold prorateMonth
  dsimp only
  rw [isCut]
  obtain ⟨current, isLast⟩ : ∃ current, parts.cuts.getLast? = some current :=
    ⟨_, List.getLast?_eq_getLast_of_ne_nil parts.cuts_ne_nil⟩
  rw [List.getLast?_map, isLast, Option.map_some]
  dsimp only
  by_cases full : method = .fullMonth
  · rw [if_pos full]
    have notThirty : ¬ (method = .thirty360 ∧ ∃ cut ∈ parts.cuts, cut.1.day = 31) := by
      rw [full]
      exact fun both => nomatch both.1
    exact iff_of_true (roundCents_isCents isCents) (Or.inl notThirty)
  · rw [if_neg full, map_map]
    have near := exactTotal_near small full parts
    by_cases extra : method = .thirty360 ∧ ∃ cut ∈ parts.cuts, cut.1.day = 31
    · have counted := countedDays_eq full parts
      have isBase : methodDays month method = 30 := by
        rw [extra.1]
        rfl
      rw [if_pos extra, isBase] at counted
      rw [counted, isBase] at near
      have rounds := extraDay_rounds isCents near fun fifteen => by
        have exactly := exactTotal_fifteen fifteen parts
        rw [← extra.1, counted] at exactly
        exact exactly
      exact rounds.trans ⟨Or.inr, fun either => either.resolve_left (not_not.mpr extra)⟩
    · have counted := countedDays_eq full parts
      rw [if_neg extra, Nat.add_zero] at counted
      have base : (methodDays month method : ℚ) ≠ 0 := by
        have bounds := methodDays_bounds month full
        have positive : methodDays month method ≠ 0 := by omega
        exact_mod_cast positive
      rw [counted, mul_div_assoc, div_self base, mul_one] at near
      refine iff_of_true ?_ (Or.inl extra)
      apply roundCents_eq isCents
      rw [abs_sub_comm]
      refine lt_of_le_of_lt near ?_
      norm_num

/-- March without its last day, and the 31st. -/
def marchParts : MonthParts (.ofYmd 2026 3 1) where
  stops := [.ofYmd 2026 3 31, .ofYmd 2026 4 1]
  ascending := by decide
  whole := by decide

theorem march_parts_charged :
    ((listed .calendarDays (prorateMonth (.ofYmd 2026 3 1) .calendarDays (marchParts.validities 300) (.ofYmd 2020 1 1)
        none)).map ListedSegment.rounded).sum = 300 := by
  have charged := prorateMonth_parts (.ofYmd 2026 3 1) .calendarDays 300 (by decide +kernel) (by norm_num) marchParts
    (marchParts.validities 300) (List.Perm.refl _) (.ofYmd 2020 1 1) (by decide) none nofun
  exact charged.1.trans (charged.2.mpr (Or.inl fun both => nomatch both.1))

/-- The 31st counts as a day of its own beside the 30 days before. -/
theorem thirty_first_charged_extra :
    (prorateMonth (.ofYmd 2026 3 1) .thirty360 (marchParts.validities 300) (.ofYmd 2020 1 1) none).total = 310 := by
  decide +kernel

end Mhvp.Receivables
