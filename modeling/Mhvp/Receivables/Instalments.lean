import Mathlib.Tactic.LinearCombination
import Mhvp.Receivables.MonthParts

namespace Mhvp.Receivables

open Core Lib.Calendar Lib.Rounding List

variable {month anchor : Date} {interval : PaymentInterval} {method : ProrationMethod} {amount : Decimal}
  {periods : List Validity}

/-- First month of the block of a month. -/
def blockStart (anchor month : Date) (interval : PaymentInterval) : ℤ :=
  monthIndex anchor + ((monthIndex month : ℤ) - monthIndex anchor) / (intervalMonths interval : ℕ) * (intervalMonths interval : ℕ)

/-- The block lies in the calendar: it starts in the year 1 at the earliest. The source has no dates before. -/
def InCalendar (anchor month : Date) (interval : PaymentInterval) : Prop := 12 ≤ blockStart anchor month interval

theorem monthIndex_monthFirst (day : Date) : monthIndex (monthFirst day) = monthIndex day := by
  rw [monthFirst_eq, monthIndex_firstOfMonth (late_monthIndex day)]

theorem monthsBetween_eq (start last : Date) : monthsBetween start last = (monthIndex last : ℤ) - monthIndex start := by
  have first := month_pos start
  have second := month_pos last
  unfold monthsBetween monthIndex
  omega

theorem addMonths_eq (day : Date) (months : ℤ) : addMonths day months = firstOfMonth (monthIndex day + months).toNat := rfl

theorem monthLast_firstOfMonth (late : 12 ≤ index) : monthLast (firstOfMonth index) = lastOfMonth index := by
  rw [monthLast_eq, monthIndex_firstOfMonth late]

theorem intervalMonths_pos (interval : PaymentInterval) : 1 ≤ intervalMonths interval := by
  cases interval <;> decide

theorem instalmentPeriod_eq (inCalendar : InCalendar anchor month interval) :
    instalmentPeriod anchor interval month =
      (firstOfMonth (blockStart anchor month interval).toNat,
        lastOfMonth ((blockStart anchor month interval).toNat + intervalMonths interval - 1),
        firstOfMonth (blockStart anchor month interval).toNat,
        firstOfMonth ((blockStart anchor month interval).toNat + intervalMonths interval - 1)) := by
  have positive := intervalMonths_pos interval
  have isStart : addMonths (monthFirst anchor) (monthsBetween (monthFirst anchor) (monthFirst month) /
      (intervalMonths interval : ℕ) * (intervalMonths interval : ℕ)) =
      firstOfMonth (blockStart anchor month interval).toNat := by
    rw [addMonths_eq, monthsBetween_eq, monthIndex_monthFirst, monthIndex_monthFirst, blockStart]
  have late : 12 ≤ (blockStart anchor month interval).toNat := by
    unfold InCalendar at inCalendar
    omega
  have isLast : addMonths (firstOfMonth (blockStart anchor month interval).toNat) ((intervalMonths interval : ℕ) - 1) =
      firstOfMonth ((blockStart anchor month interval).toNat + intervalMonths interval - 1) := by
    rw [addMonths_eq, monthIndex_firstOfMonth late]
    congr 1
    omega
  have lateEnd : 12 ≤ (blockStart anchor month interval).toNat + intervalMonths interval - 1 := by omega
  unfold instalmentPeriod
  dsimp only
  rw [isStart, isLast, monthLast_firstOfMonth lateEnd]

theorem blockStart_iff (anchor month other : Date) (interval : PaymentInterval) :
    blockStart anchor other interval = blockStart anchor month interval ↔
      blockStart anchor month interval ≤ monthIndex other ∧
        (monthIndex other : ℤ) < blockStart anchor month interval + (intervalMonths interval : ℕ) := by
  unfold blockStart
  cases interval <;> simp only [intervalMonths] <;> omega

theorem firstOfMonth_le_iff (late : 12 ≤ first) (lateSecond : 12 ≤ second) :
    firstOfMonth first ≤ firstOfMonth second ↔ first ≤ second := by
  constructor
  · intro order
    by_contra before
    have reached := lastOfMonth_lt_firstOfMonth lateSecond (not_le.mp before)
    exact absurd (lt_of_le_of_lt (firstOfMonth_le_lastOfMonth second) reached) (not_lt.mpr order)
  · intro order
    rcases Nat.lt_or_eq_of_le order with before | same
    · exact ((firstOfMonth_le_lastOfMonth first).trans_lt (lastOfMonth_lt_firstOfMonth late before)).le
    · rw [same]

theorem lastOfMonth_le (late : 12 ≤ first) (order : first ≤ second) :
    lastOfMonth first ≤ lastOfMonth second := by
  rcases Nat.lt_or_eq_of_le order with before | same
  · exact ((lastOfMonth_lt_firstOfMonth late before).trans_le (firstOfMonth_le_lastOfMonth second)).le
  · rw [same]

section

variable (inCalendar : InCalendar anchor month interval)
include inCalendar

theorem exists_block : ∃ start : ℕ, 12 ≤ start ∧
    blockStart anchor month interval = start ∧ start ≤ monthIndex month ∧
      monthIndex month < start + intervalMonths interval ∧
      instalmentPeriod anchor interval month =
        (firstOfMonth start, lastOfMonth (start + intervalMonths interval - 1), firstOfMonth start,
          firstOfMonth (start + intervalMonths interval - 1)) := by
  have isPeriod := instalmentPeriod_eq inCalendar
  obtain ⟨after, before⟩ := (blockStart_iff anchor month month interval).mp rfl
  unfold InCalendar at inCalendar
  obtain ⟨start, isStart⟩ := Int.eq_ofNat_of_zero_le (show 0 ≤ blockStart anchor month interval by omega)
  rw [isStart] at isPeriod after before inCalendar
  refine ⟨start, by omega, isStart, by omega, by omega, ?_⟩
  rw [isPeriod]
  simp only [Int.toNat_natCast]

theorem block_contains :
    (instalmentPeriod anchor interval month).1 ≤ monthFirst month ∧
      monthLast month ≤ (instalmentPeriod anchor interval month).2.1 := by
  obtain ⟨start, late, -, after, before, isPeriod⟩ := exists_block inCalendar
  rw [isPeriod, monthFirst_eq, monthLast_eq]
  exact ⟨(firstOfMonth_le_iff late (late.trans after)).mpr after, lastOfMonth_le (late.trans after) (by omega)⟩

theorem block_apart (otherInCalendar : InCalendar anchor other interval) :
    instalmentPeriod anchor interval other = instalmentPeriod anchor interval month ∨
      (instalmentPeriod anchor interval other).2.1 < (instalmentPeriod anchor interval month).1 ∨
      (instalmentPeriod anchor interval month).2.1 < (instalmentPeriod anchor interval other).1 := by
  obtain ⟨start, late, isStart, after, before, isPeriod⟩ := exists_block inCalendar
  obtain ⟨otherStart, otherLate, isOtherStart, otherAfter, otherBefore, isOtherPeriod⟩ := exists_block otherInCalendar
  have positive := intervalMonths_pos interval
  have sameOrApart := blockStart_iff anchor month other interval
  have otherWay := blockStart_iff anchor other month interval
  rw [isStart, isOtherStart] at sameOrApart otherWay
  rw [isPeriod, isOtherPeriod]
  rcases lt_trichotomy otherStart start with earlier | same | later
  · right
    left
    apply lastOfMonth_lt_firstOfMonth (by omega)
    by_contra overlaps
    unfold blockStart at isStart isOtherStart
    cases interval <;> simp only [intervalMonths] at * <;> omega
  · left
    rw [same]
  · right
    right
    apply lastOfMonth_lt_firstOfMonth (by omega)
    by_contra overlaps
    unfold blockStart at isStart isOtherStart
    cases interval <;> simp only [intervalMonths] at * <;> omega

theorem block_next :
    (instalmentPeriod anchor interval ((instalmentPeriod anchor interval month).2.1.addDays 1)).1 =
      (instalmentPeriod anchor interval month).2.1.addDays 1 := by
  obtain ⟨start, late, isStart, after, before, isPeriod⟩ := exists_block inCalendar
  have positive := intervalMonths_pos interval
  have isNext : (instalmentPeriod anchor interval month).2.1.addDays 1 =
      firstOfMonth (start + intervalMonths interval) := by
    have next := firstOfMonth_succ (show 12 ≤ start + intervalMonths interval - 1 by omega)
    have index : start + intervalMonths interval - 1 + 1 = start + intervalMonths interval := by omega
    rw [index] at next
    rw [isPeriod]
    exact Date.ext next.symm
  have lateNext : 12 ≤ start + intervalMonths interval := by omega
  have nextStart : blockStart anchor (firstOfMonth (start + intervalMonths interval)) interval =
      (start + intervalMonths interval : ℕ) := by
    unfold blockStart at isStart ⊢
    rw [monthIndex_firstOfMonth lateNext]
    cases interval <;> simp only [intervalMonths] at * <;> omega
  have nextInCalendar : InCalendar anchor (firstOfMonth (start + intervalMonths interval)) interval := by
    unfold InCalendar
    rw [nextStart]
    omega
  rw [isNext, instalmentPeriod_eq nextInCalendar, nextStart, Int.toNat_natCast]

end

/-- Month of a block in which its instalment is due. -/
def dueMonth (paymentMode : PaymentMode) (period : Date × Date × Date × Date) : Date :=
  if paymentMode = .advance then period.2.2.1 else period.2.2.2

/-- Sum of the months of a block before it is rounded to cents. -/
def blockExact (interval : PaymentInterval) (firstMonth : Date) (amountBasis : AmountBasis) (method : ProrationMethod)
    (periods : List Validity) (contractStart : Date) (contractEnd : Option Date) : Decimal :=
  let divisor : Decimal := if amountBasis = .perMonth then 1 else intervalMonths interval
  let scaled := periods.map fun period => (period.1, period.2.1, q8 (contextRound (period.2.2 / divisor)))
  (((List.range (intervalMonths interval)).map fun offset : ℕ =>
    prorateMonth (addMonths firstMonth (offset : ℤ)) method scaled contractStart contractEnd).map
      MonthResult.exactTotal).sum

theorem instalmentForMonth_eq (month anchor : Date) (interval : PaymentInterval) (paymentMode : PaymentMode)
    (amountBasis : AmountBasis) (method : ProrationMethod) (periods : List Validity) (contractStart : Date)
    (contractEnd : Option Date) :
    instalmentForMonth month interval anchor paymentMode amountBasis method periods contractStart contractEnd =
      if dueMonth paymentMode (instalmentPeriod anchor interval month) ≠ monthFirst month then none
      else some
        { periodStart := (instalmentPeriod anchor interval month).1
          periodEnd := (instalmentPeriod anchor interval month).2.1
          total := roundCents (blockExact interval (instalmentPeriod anchor interval month).2.2.1 amountBasis method
            periods contractStart contractEnd) } :=
  rfl

theorem instalment_isSome_iff (paymentMode : PaymentMode) (amountBasis : AmountBasis) (method : ProrationMethod)
    (periods : List Validity) (contractStart : Date) (contractEnd : Option Date) :
    (instalmentForMonth month interval anchor paymentMode amountBasis method periods contractStart contractEnd).isSome ↔
      dueMonth paymentMode (instalmentPeriod anchor interval month) = monthFirst month := by
  rw [instalmentForMonth_eq]
  split
  · rename_i other
    exact iff_of_false (fun isSome => by cases isSome) other
  · rename_i same
    exact iff_of_true rfl (not_not.mp same)

theorem block_due (inCalendar : InCalendar anchor month interval) (paymentMode : PaymentMode) (amountBasis : AmountBasis)
    (method : ProrationMethod) (periods : List Validity) (contractStart : Date) (contractEnd : Option Date) :
    ∃! due : Date, monthFirst due = due ∧ (instalmentPeriod anchor interval month).1 ≤ due ∧
      due ≤ (instalmentPeriod anchor interval month).2.1 ∧
      (instalmentForMonth due interval anchor paymentMode amountBasis method periods contractStart contractEnd).isSome := by
  obtain ⟨start, late, isStart, after, before, isPeriod⟩ := exists_block inCalendar
  have positive := intervalMonths_pos interval
  have sameBlock : ∀ index, start ≤ index → index < start + intervalMonths interval →
      instalmentPeriod anchor interval (firstOfMonth index) = instalmentPeriod anchor interval month := by
    intro index first last
    have lateIndex := late.trans first
    have same : blockStart anchor (firstOfMonth index) interval = blockStart anchor month interval := by
      rw [blockStart_iff, monthIndex_firstOfMonth lateIndex, isStart]
      omega
    have sameCalendar : InCalendar anchor (firstOfMonth index) interval := by
      unfold InCalendar
      rw [same]
      exact inCalendar
    rw [instalmentPeriod_eq sameCalendar, instalmentPeriod_eq inCalendar, same]
  have isFirst : ∀ index, 12 ≤ index → monthFirst (firstOfMonth index) = firstOfMonth index := by
    intro index lateIndex
    rw [monthFirst_eq, monthIndex_firstOfMonth lateIndex]
  obtain ⟨index, first, last, isDue⟩ : ∃ index, start ≤ index ∧ index < start + intervalMonths interval ∧
      dueMonth paymentMode (instalmentPeriod anchor interval month) = firstOfMonth index := by
    unfold dueMonth
    rw [isPeriod]
    split
    · exact ⟨start, le_refl _, by omega, rfl⟩
    · exact ⟨start + intervalMonths interval - 1, by omega, by omega, rfl⟩
  refine ⟨firstOfMonth index, ⟨isFirst index (late.trans first), ?_, ?_, ?_⟩, ?_⟩
  · rw [isPeriod]
    exact (firstOfMonth_le_iff late (late.trans first)).mpr first
  · rw [isPeriod]
    exact (firstOfMonth_le_lastOfMonth index).trans (lastOfMonth_le (late.trans first) (by omega))
  · rw [instalment_isSome_iff, sameBlock index first last, isDue, isFirst index (late.trans first)]
  · rintro due ⟨isMonth, afterStart, beforeEnd, isSome⟩
    rw [instalment_isSome_iff, isMonth] at isSome
    have lateDue := late_monthIndex due
    rw [monthFirst_eq] at isMonth
    rw [isPeriod, ← isMonth] at afterStart beforeEnd
    have firstDue := (firstOfMonth_le_iff late lateDue).mp afterStart
    have lastDue : monthIndex due < start + intervalMonths interval := by
      by_contra beyond
      have later := lastOfMonth_lt_firstOfMonth (show 12 ≤ start + intervalMonths interval - 1 by omega)
        (show start + intervalMonths interval - 1 < monthIndex due by omega)
      exact absurd beforeEnd (not_le.mpr later)
    rw [← isMonth] at isSome
    rw [sameBlock _ firstDue lastDue, isDue] at isSome
    rw [← isMonth, isSome]

/-- The period is valid on the day. -/
def ValidOn (day : Date) (period : Validity) : Prop := period.1 ≤ day ∧ ∀ last ∈ period.2.1, day ≤ last

instance {day : Date} {period : Validity} : Decidable (ValidOn day period) := inferInstanceAs (Decidable (_ ∧ _))

/-- On every day of the span exactly one period is valid, with the amount. -/
def Unchanged (first last : Date) (amount : Decimal) (periods : List Validity) : Prop :=
  ∀ day, first ≤ day → day ≤ last → ∃ period, periods.filter (fun period => ValidOn day period) = [period] ∧ period.2.2 = amount

theorem Unchanged.within (unchanged : Unchanged first last amount periods)
    (after : first ≤ lower) (upTo : upper ≤ last) : Unchanged lower upper amount periods :=
  fun day from' ends => unchanged day (after.trans from') (ends.trans upTo)

theorem Unchanged.scaled (unchanged : Unchanged first last amount periods) (scale : Decimal → Decimal) :
    Unchanged first last (scale amount) (periods.map fun period => (period.1, period.2.1, scale period.2.2)) := by
  intro day after upTo
  obtain ⟨period, only, isAmount⟩ := unchanged day after upTo
  refine ⟨(period.1, period.2.1, scale period.2.2), ?_, congrArg scale isAmount⟩
  have same : ((fun period => decide (ValidOn day period)) ∘ fun period : Validity =>
      (period.1, period.2.1, scale period.2.2)) = fun period => decide (ValidOn day period) := rfl
  rw [filter_map, same, only, map_singleton]

/-- The part of a period within two days. -/
def clipped (lower upper : Date) (period : Validity) : Option (Date × Date × Decimal) :=
  let start := max period.1 lower
  let last := (period.2.1.map fun validTo => min validTo upper).getD upper
  if start ≤ last then some (start, last, period.2.2) else none

/-- Parts that follow one another up to the last day, all with the amount. -/
def Consecutive (amount : Decimal) (upper : Date) : Date → List (Date × Date × Decimal) → Prop
  | cursor, [] => cursor = upper.addDays 1
  | cursor, part :: rest => part.1 = cursor ∧ part.1 ≤ part.2.1 ∧ part.2.2 = amount ∧
      Consecutive amount upper (part.2.1.addDays 1) rest

theorem clipped_some :
    clipped lower upper period = some part ↔
      part.1 = max period.1 lower ∧ part.2.1 = (period.2.1.map fun validTo => min validTo upper).getD upper ∧
        part.2.2 = period.2.2 ∧ part.1 ≤ part.2.1 := by
  unfold clipped
  dsimp only
  constructor
  · intro isSome
    split at isSome
    · rename_i nonempty
      cases isSome
      exact ⟨rfl, rfl, rfl, nonempty⟩
    · cases isSome
  · rintro ⟨isStart, isLast, isAmount, nonempty⟩
    rw [← isStart, ← isLast, ← isAmount, if_pos nonempty]

theorem validOn_iff (period : Validity) (after : lower ≤ day) (upTo : day ≤ upper) :
    ValidOn day period ↔
      max period.1 lower ≤ day ∧ day ≤ (period.2.1.map fun validTo => min validTo upper).getD upper := by
  unfold ValidOn
  rw [max_le_iff, and_iff_left after]
  cases period.2.1 with
  | none => simp [upTo]
  | some last => simp [upTo]

theorem le_addDays_iff {first second : Date} : first < second.addDays 1 ↔ first ≤ second := by
  rw [Date.lt_def, Date.le_def]
  simp only [Date.addDays]
  omega

theorem addDays_le_iff {first second : Date} : first.addDays 1 ≤ second ↔ first < second := by
  rw [Date.lt_def, Date.le_def]
  simp only [Date.addDays]
  omega

/-- Periods in order of their start, one of which is valid on each day that is left, follow one another. -/
theorem consecutive_of_unchanged {lower upper cursor : Date} (ordered : List Validity)
    (sorted : ordered.Pairwise fun first second => first.1 ≤ second.1) (after : lower ≤ cursor)
    (upTo : cursor ≤ upper.addDays 1) (unchanged : Unchanged cursor upper amount ordered)
    (done : ∀ day, lower ≤ day → day < cursor → day ≤ upper → ordered.filter (fun period => ValidOn day period) = []) :
    Consecutive amount upper cursor (ordered.filterMap (clipped lower upper)) := by
  induction ordered generalizing cursor with
  | nil =>
    rw [filterMap_nil, Consecutive]
    refine le_antisymm upTo (addDays_le_iff.mpr ?_)
    by_contra left
    obtain ⟨period, none, -⟩ := unchanged cursor (le_refl _) (not_lt.mp left)
    cases none
  | cons first rest ih =>
    obtain ⟨earliest, restSorted⟩ := pairwise_cons.mp sorted
    cases isClipped : clipped lower upper first with
    | none =>
      have never : ∀ day, lower ≤ day → day ≤ upper → ¬ ValidOn day first := by
        intro day from' ends valid
        obtain ⟨starts, stops⟩ := (validOn_iff first from' ends).mp valid
        have isSome : clipped lower upper first = some (max first.1 lower,
            (first.2.1.map fun validTo => min validTo upper).getD upper, first.2.2) :=
          clipped_some.mpr ⟨rfl, rfl, rfl, starts.trans stops⟩
        rw [isClipped] at isSome
        cases isSome
      have skipped : ∀ day, lower ≤ day → day ≤ upper →
          (first :: rest).filter (fun period => ValidOn day period) = rest.filter fun period => ValidOn day period := by
        intro day from' ends
        exact filter_cons_of_neg (by simpa using never day from' ends)
      rw [filterMap_cons_none isClipped]
      apply ih restSorted after upTo
      · intro day from' ends
        rw [← skipped day (after.trans from') ends]
        exact unchanged day from' ends
      · intro day from' before ends
        rw [← skipped day from' ends]
        exact done day from' before ends
    | some part =>
      obtain ⟨isStart, isLast, isAmount, nonempty⟩ := clipped_some.mp isClipped
      have lastUpTo : part.2.1 ≤ upper := by
        rw [isLast]
        cases first.2.1 with
        | none => exact le_refl _
        | some last => exact min_le_right _ _
      have startAfter : lower ≤ part.1 := isStart ▸ le_max_right _ _
      have valid : ∀ day, part.1 ≤ day → day ≤ part.2.1 → ValidOn day first := by
        intro day from' ends
        rw [validOn_iff first (startAfter.trans from') (ends.trans lastUpTo), ← isStart, ← isLast]
        exact ⟨from', ends⟩
      have notBefore : cursor ≤ part.1 := by
        by_contra before
        have none := done part.1 startAfter (not_le.mp before) (nonempty.trans lastUpTo)
        rw [filter_cons_of_pos (by simpa using valid part.1 (le_refl _) nonempty)] at none
        cases none
      have isCursor : part.1 = cursor := by
        refine le_antisymm ?_ notBefore
        by_contra later
        have gap : cursor < part.1 := not_le.mp later
        obtain ⟨period, only, -⟩ := unchanged cursor (le_refl _) (gap.le.trans (nonempty.trans lastUpTo))
        have isValid : period ∈ (first :: rest).filter fun period => ValidOn cursor period := by
          rw [only]
          exact mem_singleton_self _
        obtain ⟨member, validCursor⟩ := mem_filter.mp isValid
        have started : period.1 ≤ cursor := (of_decide_eq_true validCursor).1
        have startsLate : cursor < first.1 := by
          rcases max_choice first.1 lower with isFirst | isLower
          · rw [isStart, isFirst] at gap
            exact gap
          · rw [isStart, isLower] at gap
            exact absurd after (not_le.mpr gap)
        rcases mem_cons.mp member with rfl | isRest
        · exact absurd started (not_le.mpr startsLate)
        · exact absurd (startsLate.trans_le (earliest period isRest)) (not_lt.mpr started)
      have ownAmount : part.2.2 = amount := by
        obtain ⟨period, only, isPeriod⟩ := unchanged cursor (le_refl _) (isCursor ▸ nonempty.trans lastUpTo)
        rw [filter_cons_of_pos (by simpa using valid cursor isCursor.le (isCursor ▸ nonempty))] at only
        rw [isAmount, (List.cons.inj only).1, isPeriod]
      rw [filterMap_cons_some isClipped]
      refine ⟨isCursor, nonempty, ownAmount, ?_⟩
      apply ih restSorted ((startAfter.trans nonempty).trans (Date.lt_addDays_one _).le)
      · exact addDays_le_iff.mpr (le_addDays_iff.mpr lastUpTo)
      · intro day from' ends
        have past : ¬ ValidOn day first := by
          intro validDay
          have inSpan : lower ≤ day := (startAfter.trans nonempty).trans ((Date.lt_addDays_one _).le.trans from')
          have stops := ((validOn_iff first inSpan ends).mp validDay).2
          rw [← isLast] at stops
          exact absurd (addDays_le_iff.mp from') (not_lt.mpr stops)
        have reached : cursor ≤ day := (isCursor ▸ nonempty).trans ((Date.lt_addDays_one _).le.trans from')
        obtain ⟨period, only, isPeriod⟩ := unchanged day reached ends
        rw [filter_cons_of_neg (by simpa using past)] at only
        exact ⟨period, only, isPeriod⟩
      · intro day from' before ends
        rcases lt_or_ge day cursor with early | inPart
        · have none := done day from' early ends
          by_cases validDay : ValidOn day first
          · rw [filter_cons_of_pos (by simpa using validDay)] at none
            cases none
          · rwa [filter_cons_of_neg (by simpa using validDay)] at none
        · obtain ⟨period, only, -⟩ := unchanged day inPart ends
          have validDay := valid day (isCursor ▸ inPart) (le_addDays_iff.mp before)
          rw [filter_cons_of_pos (by simpa using validDay)] at only
          exact (List.cons.inj only).2

theorem stops_of_consecutive {upper cursor : Date} {cut : List (Date × Date × Decimal)} (consecutive : Consecutive amount upper cursor cut) :
    ∃ stops : List Date, (cursor :: stops).Pairwise (fun first second => first < second) ∧
      (cursor :: stops).getLast (cons_ne_nil _ _) = upper.addDays 1 ∧
      cut = ((cursor :: stops).zip stops).map fun part => (part.1, part.2.dayBefore, amount) := by
  induction cut generalizing cursor with
  | nil => exact ⟨[], pairwise_singleton _ _, consecutive, rfl⟩
  | cons part rest ih =>
    obtain ⟨isCursor, nonempty, isAmount, later⟩ := consecutive
    obtain ⟨stops, ascending, whole, isRest⟩ := ih later
    have before : cursor < part.2.1.addDays 1 := le_addDays_iff.mpr (isCursor ▸ nonempty)
    have isPart : part = (cursor, (part.2.1.addDays 1).dayBefore, amount) := by
      rw [← isCursor, ← isAmount]
      rfl
    refine ⟨part.2.1.addDays 1 :: stops, ?_, ?_, ?_⟩
    · apply pairwise_cons.mpr
      constructor
      · intro stop member
        rcases mem_cons.mp member with rfl | further
        · exact before
        · exact before.trans ((pairwise_cons.mp ascending).1 stop further)
      · exact ascending
    · rw [getLast_cons (cons_ne_nil _ _), whole]
    · rw [zip_cons_cons, map_cons, ← isRest, ← isPart]

theorem exists_parts (unchanged : Unchanged (monthFirst month) (monthLast month) amount periods) :
    ∃ parts : MonthParts month,
      cutPeriods (monthFirst month) (monthLast month) periods =
        parts.cuts.map fun cut => (cut.1, cut.2.dayBefore, amount) := by
  have perm := perm_insertionSort (fun first second : Validity => first.1 ≤ second.1) periods
  have sameDays : Unchanged (monthFirst month) (monthLast month) amount
      (periods.insertionSort fun first second => first.1 ≤ second.1) := by
    intro day after upTo
    obtain ⟨period, only, isAmount⟩ := unchanged day after upTo
    refine ⟨period, ?_, isAmount⟩
    apply perm_singleton.mp
    rw [← only]
    exact perm.filter _
  have upTo : monthFirst month ≤ (monthLast month).addDays 1 := by
    obtain ⟨-, isEnd, least, -⟩ := monthDays_eq month
    rw [Date.le_def]
    simp only [Date.addDays]
    omega
  have consecutive := consecutive_of_unchanged _ (pairwise_insertionSort ..) (le_refl _) upTo sameDays
    fun day after before _ => absurd after (not_le.mpr before)
  obtain ⟨stops, ascending, whole, isCut⟩ := stops_of_consecutive consecutive
  exact ⟨⟨stops, ascending, whole⟩, isCut⟩

/-- A period in force starts on the 31st of the month. -/
def StartsOnExtra (month : Date) (periods : List Validity) : Prop :=
  ∃ period ∈ periods, (monthFirst month ≤ period.1 ∧ period.1 ≤ monthLast month) ∧ period.1.day = 31 ∧
    ValidOn period.1 period

instance {month : Date} {periods : List Validity} : Decidable (StartsOnExtra month periods) :=
  inferInstanceAs (Decidable (∃ period ∈ periods, _ ∧ _))

theorem day_monthFirst (month : Date) : (monthFirst month).day = 1 := by
  obtain ⟨-, -, least, -⟩ := monthDays_eq month
  exact (day_ofMonth month (show 0 < monthDays month by omega)).1

theorem part_startsOnExtra {parts : MonthParts month}
    (isCut : cutPeriods (monthFirst month) (monthLast month) periods =
      parts.cuts.map fun cut => (cut.1, cut.2.dayBefore, amount)) :
    (∃ cut ∈ parts.cuts, cut.1.day = 31) ↔ StartsOnExtra month periods := by
  have starts : (∃ cut ∈ parts.cuts, cut.1.day = 31) ↔
      ∃ part ∈ cutPeriods (monthFirst month) (monthLast month) periods, part.1.day = 31 := by
    rw [isCut]
    simp only [mem_map, exists_exists_and_eq_and]
  have members : ∀ part, part ∈ cutPeriods (monthFirst month) (monthLast month) periods ↔
      ∃ period ∈ periods, clipped (monthFirst month) (monthLast month) period = some part := by
    intro part
    refine mem_filterMap.trans ?_
    simp only [mem_insertionSort]
    rfl
  rw [starts]
  constructor
  · rintro ⟨part, member, isExtra⟩
    obtain ⟨period, isPeriod, isSome⟩ := (members part).mp member
    obtain ⟨isStart, isLast, -, nonempty⟩ := clipped_some.mp isSome
    have startsInside : part.1 = period.1 := by
      rcases max_choice period.1 (monthFirst month) with own | first
      · rw [isStart, own]
      · rw [isStart, first, day_monthFirst] at isExtra
        cases isExtra
    have after : monthFirst month ≤ period.1 := by
      rw [← startsInside, isStart]
      exact le_max_right _ _
    have upTo : period.1 ≤ monthLast month := by
      rw [← startsInside]
      refine nonempty.trans ?_
      rw [isLast]
      cases period.2.1 with
      | none => exact le_refl _
      | some last => exact min_le_right _ _
    refine ⟨period, isPeriod, ⟨after, upTo⟩, startsInside ▸ isExtra, ?_⟩
    rw [validOn_iff period after upTo, ← isStart, ← isLast, ← startsInside]
    exact ⟨le_refl _, nonempty⟩
  · rintro ⟨period, isPeriod, ⟨after, upTo⟩, isExtra, valid⟩
    obtain ⟨starts, stops⟩ := (validOn_iff period after upTo).mp valid
    refine ⟨(max period.1 (monthFirst month),
      (period.2.1.map fun validTo => min validTo (monthLast month)).getD (monthLast month), period.2.2), ?_, ?_⟩
    · rw [members]
      exact ⟨period, isPeriod, clipped_some.mpr ⟨rfl, rfl, rfl, starts.trans stops⟩⟩
    · rw [max_eq_left after]
      exact isExtra

/-- The thirty-first day a month is charged beside its thirty. -/
def extraShare (method : ProrationMethod) (month : Date) (periods : List Validity) : ℕ :=
  if method = .thirty360 ∧ StartsOnExtra month periods then 1 else 0

/-- A month with one amount is charged it, and a thirtieth more where a part of the method 30/360 starts on the 31st. -/
theorem exactTotal_month (small : |amount| < 10 ^ 12) (method : ProrationMethod)
    (unchanged : Unchanged (monthFirst month) (monthLast month) amount periods) {contractStart : Date}
    (started : contractStart ≤ monthFirst month) {contractEnd : Option Date}
    (runs : ∀ last ∈ contractEnd, monthLast month ≤ last) :
    |(prorateMonth month method periods contractStart contractEnd).exactTotal -
      (amount + amount / 30 * extraShare method month periods)| ≤ 2 / 10 ^ 7 := by
  obtain ⟨parts, isCut⟩ := exists_parts unchanged
  have isExtra := part_startsOnExtra isCut
  have isLower : max (monthFirst month) contractStart = monthFirst month := max_eq_left started
  have isUpper : (contractEnd.map fun last => min (monthLast month) last).getD (monthLast month) = monthLast month := by
    cases contractEnd with
    | none => rfl
    | some last => exact min_eq_left (runs last rfl)
  obtain ⟨current, isLast⟩ : ∃ current, parts.cuts.getLast? = some current :=
    ⟨_, List.getLast?_eq_getLast_of_ne_nil parts.cuts_ne_nil⟩
  unfold prorateMonth extraShare
  dsimp only
  rw [isLower, isUpper, isCut, List.getLast?_map, isLast, Option.map_some]
  dsimp only
  by_cases full : method = .fullMonth
  · have notThirty : ¬ (method = .thirty360 ∧ StartsOnExtra month periods) := by
      rw [full]
      exact fun both => nomatch both.1
    rw [if_pos full, if_neg notThirty, Nat.cast_zero, mul_zero, add_zero]
    refine (q8_error amount).trans ?_
    norm_num
  · have near := exactTotal_near small full parts
    have base : (methodDays month method : ℚ) ≠ 0 := by
      have bounds := methodDays_bounds month full
      have positive : methodDays month method ≠ 0 := by omega
      exact_mod_cast positive
    rw [countedDays_eq full] at near
    simp only [isExtra] at near
    rw [if_neg full, map_map]
    by_cases extra : method = .thirty360 ∧ StartsOnExtra month periods
    · have isBase : methodDays month method = 30 := by
        rw [extra.1]
        rfl
      have total : amount * (31 : ℕ) / (30 : ℕ) = amount + amount / 30 * (1 : ℕ) := by
        push_cast
        ring
      rw [if_pos extra, isBase, total] at near
      rw [if_pos extra]
      exact near
    · have total : amount * (methodDays month method : ℕ) / (methodDays month method : ℕ) =
          amount + amount / 30 * (0 : ℕ) := by
        rw [mul_div_assoc, div_self base, mul_one, Nat.cast_zero, mul_zero, add_zero]
      rw [if_neg extra, Nat.add_zero, total] at near
      rw [if_neg extra]
      exact near

/-- What the instalments of a block are agreed to be: the amount itself, or the amount for each of its months. -/
def fullAmount (interval : PaymentInterval) (amountBasis : AmountBasis) (amount : Decimal) : Decimal :=
  if amountBasis = .perMonth then intervalMonths interval * amount else amount

/-- The part of it that falls to one month. -/
def monthlyShare (interval : PaymentInterval) (amountBasis : AmountBasis) (amount : Decimal) : Decimal :=
  fullAmount interval amountBasis amount / intervalMonths interval

/-- Months of the block that are charged a thirty-first day beside their thirty. -/
def extraMonths (method : ProrationMethod) (interval : PaymentInterval) (firstMonth : Date) (periods : List Validity) : ℕ :=
  ((List.range (intervalMonths interval)).map fun offset : ℕ =>
    extraShare method (addMonths firstMonth (offset : ℤ)) periods).sum

theorem intervalMonths_cast (interval : PaymentInterval) :
    (1 : ℚ) ≤ intervalMonths interval ∧ (intervalMonths interval : ℚ) ≤ 12 := by
  have most : intervalMonths interval ≤ 12 := by cases interval <;> decide
  exact ⟨by exact_mod_cast intervalMonths_pos interval, by exact_mod_cast most⟩

theorem monthlyShare_eq (interval : PaymentInterval) (amountBasis : AmountBasis) (amount : Decimal) :
    monthlyShare interval amountBasis amount =
      amount / (if amountBasis = .perMonth then 1 else (intervalMonths interval : Decimal)) := by
  have bounds := intervalMonths_cast interval
  have positive : (intervalMonths interval : ℚ) ≠ 0 := by linarith
  unfold monthlyShare fullAmount
  split
  · rw [mul_div_cancel_left₀ _ positive, div_one]
  · rfl

theorem monthlyShare_mul (interval : PaymentInterval) (amountBasis : AmountBasis) (amount : Decimal) :
    intervalMonths interval * monthlyShare interval amountBasis amount = fullAmount interval amountBasis amount := by
  have bounds := intervalMonths_cast interval
  have positive : (intervalMonths interval : ℚ) ≠ 0 := by linarith
  exact mul_div_cancel₀ _ positive

theorem monthlyShare_abs_le (interval : PaymentInterval) (amountBasis : AmountBasis) (amount : Decimal) :
    |monthlyShare interval amountBasis amount| ≤ |amount| := by
  have bounds := intervalMonths_cast interval
  rw [monthlyShare_eq]
  split
  · rw [div_one]
  · rw [abs_div, Nat.abs_cast, div_le_iff₀ (by linarith)]
    have more : |amount| * 1 ≤ |amount| * intervalMonths interval :=
      mul_le_mul_of_nonneg_left bounds.1 (abs_nonneg amount)
    linarith

theorem extraShare_scaled (method : ProrationMethod) (month : Date) (periods : List Validity) (scale : Decimal → Decimal) :
    extraShare method month (periods.map fun period => (period.1, period.2.1, scale period.2.2)) =
      extraShare method month periods := by
  have same : StartsOnExtra month (periods.map fun period => (period.1, period.2.1, scale period.2.2)) ↔
      StartsOnExtra month periods := by
    unfold StartsOnExtra
    simp only [mem_map, exists_exists_and_eq_and]
    rfl
  unfold extraShare
  simp only [same]

theorem extraShare_le (method : ProrationMethod) (month : Date) (periods : List Validity) :
    extraShare method month periods ≤ 1 := by
  unfold extraShare
  split
  · exact le_refl _
  · exact Nat.zero_le _

theorem extraMonths_le (method : ProrationMethod) (interval : PaymentInterval) (firstMonth : Date)
    (periods : List Validity) : extraMonths method interval firstMonth periods ≤ intervalMonths interval := by
  have most := sum_le_card_nsmul ((List.range (intervalMonths interval)).map fun offset : ℕ =>
    extraShare method (addMonths firstMonth (offset : ℤ)) periods) 1 (by
      intro share member
      obtain ⟨offset, -, rfl⟩ := mem_map.mp member
      exact extraShare_le ..)
  rw [length_map, length_range, nsmul_eq_mul, mul_one, Nat.cast_id] at most
  exact most

/-- The months of a block with one amount sum up to the full amount, and a thirtieth of a month for each extra day. -/
theorem blockExact_near (inCalendar : InCalendar anchor month interval) (amountBasis : AmountBasis)
    (method : ProrationMethod) (isCents : IsCents amount) (small : |amount| < 10 ^ 12)
    (unchanged : Unchanged (instalmentPeriod anchor interval month).1 (instalmentPeriod anchor interval month).2.1 amount
      periods)
    (started : contractStart ≤ (instalmentPeriod anchor interval month).1)
    (runs : ∀ last ∈ contractEnd, (instalmentPeriod anchor interval month).2.1 ≤ last) :
    let firstMonth := (instalmentPeriod anchor interval month).2.2.1
    |blockExact interval firstMonth amountBasis method periods contractStart contractEnd -
      (fullAmount interval amountBasis amount + monthlyShare interval amountBasis amount / 30 *
        extraMonths method interval firstMonth periods)| ≤ 3 / 10 ^ 6 := by
  obtain ⟨start, late, isStart, after, before, isPeriod⟩ := exists_block inCalendar
  rw [isPeriod] at unchanged started runs ⊢
  dsimp only at unchanged started runs ⊢
  have bounds := intervalMonths_cast interval
  have least : |amount| ≤ 10 ^ 12 - 1 / 100 := abs_le_of_isCents isCents (by decide +kernel) small
  generalize isShare : monthlyShare interval amountBasis amount = share
  have smallShare : |share| ≤ 10 ^ 12 - 1 / 100 := by
    rw [← isShare]
    exact (monthlyShare_abs_le interval amountBasis amount).trans least
  have isFull := monthlyShare_mul interval amountBasis amount
  rw [isShare] at isFull
  generalize isStored : q8 (contextRound share) = stored
  have storedNear : |stored - share| ≤ 6 / 10 ^ 9 := by
    have near : |q8 (contextRound (share * (30 : ℕ) / (30 : ℕ))) - share * (30 : ℕ) / (30 : ℕ)| ≤ 6 / 10 ^ 9 :=
      exact_near (by linarith) (by norm_num) (by norm_num)
    have same : share * (30 : ℕ) / (30 : ℕ) = share := mul_div_cancel_right₀ share (by norm_num)
    rw [same, isStored] at near
    exact near
  have smallStored : |stored| < 10 ^ 12 := by
    have triangle := abs_sub_abs_le_abs_sub stored share
    norm_num at *
    linarith
  have each : ∀ offset ∈ List.range (intervalMonths interval),
      |(prorateMonth (addMonths (firstOfMonth start) (offset : ℕ)) method
        (periods.map fun period => (period.1, period.2.1, q8 (contextRound (period.2.2 /
          if amountBasis = .perMonth then 1 else (intervalMonths interval : Decimal))))) contractStart
            contractEnd).exactTotal -
        (stored + stored / 30 * extraShare method (addMonths (firstOfMonth start) (offset : ℕ)) periods)| ≤
          2 / 10 ^ 7 := by
    intro offset member
    have inBlock := mem_range.mp member
    have isMonth : addMonths (firstOfMonth start) (offset : ℕ) = firstOfMonth (start + offset) := by
      rw [addMonths_eq, monthIndex_firstOfMonth late]
      rfl
    have lateMonth : 12 ≤ start + offset := late.trans (Nat.le_add_right _ _)
    have isFirst : monthFirst (firstOfMonth (start + offset)) = firstOfMonth (start + offset) := by
      rw [monthFirst_eq, monthIndex_firstOfMonth lateMonth]
    have afterStart : firstOfMonth start ≤ monthFirst (firstOfMonth (start + offset)) := by
      rw [isFirst]
      exact (firstOfMonth_le_iff late lateMonth).mpr (Nat.le_add_right _ _)
    have beforeEnd : monthLast (firstOfMonth (start + offset)) ≤ lastOfMonth (start + intervalMonths interval - 1) := by
      rw [monthLast_firstOfMonth lateMonth]
      exact lastOfMonth_le lateMonth (by omega)
    rw [isMonth, ← extraShare_scaled method _ periods fun value => q8 (contextRound (value /
      if amountBasis = .perMonth then 1 else (intervalMonths interval : Decimal)))]
    have scaled := unchanged.scaled fun value => q8 (contextRound (value /
      if amountBasis = .perMonth then 1 else (intervalMonths interval : Decimal)))
    rw [← monthlyShare_eq, isShare, isStored] at scaled
    exact exactTotal_month smallStored method (scaled.within afterStart beforeEnd) (started.trans afterStart)
      fun last isLast => beforeEnd.trans (runs last isLast)
  have within := sums_within each
  have total : ((List.range (intervalMonths interval)).map fun offset : ℕ =>
      stored + stored / 30 * extraShare method (addMonths (firstOfMonth start) (offset : ℤ)) periods).sum =
      intervalMonths interval * stored + stored / 30 * extraMonths method interval (firstOfMonth start) periods := by
    rw [sum_map_add, sum_map_mul_left, extraMonths, Nat.cast_list_sum, map_map, map_const',
      sum_replicate, length_range, nsmul_eq_mul]
    rfl
  rw [total, length_range] at within
  have isExact : blockExact interval (firstOfMonth start) amountBasis method periods contractStart contractEnd =
      ((List.range (intervalMonths interval)).map fun offset : ℕ =>
        (prorateMonth (addMonths (firstOfMonth start) (offset : ℤ)) method
          (periods.map fun period => (period.1, period.2.1, q8 (contextRound (period.2.2 /
            if amountBasis = .perMonth then 1 else (intervalMonths interval : Decimal))))) contractStart
              contractEnd).exactTotal).sum := by
    unfold blockExact
    dsimp only
    rw [map_map]
    rfl
  rw [← isExact] at within
  have extra : (extraMonths method interval (firstOfMonth start) periods : ℚ) ≤ 12 := by
    refine le_trans ?_ bounds.2
    exact_mod_cast extraMonths_le method interval (firstOfMonth start) periods
  have rounding : intervalMonths interval * stored + stored / 30 * extraMonths method interval (firstOfMonth start) periods -
      (fullAmount interval amountBasis amount + share / 30 * extraMonths method interval (firstOfMonth start) periods) =
      (stored - share) * (intervalMonths interval + extraMonths method interval (firstOfMonth start) periods / 30) := by
    rw [← isFull]
    ring
  have factor : |(stored - share) * (intervalMonths interval + extraMonths method interval (firstOfMonth start) periods / 30)| ≤
      6 / 10 ^ 9 * (12 + 12 / 30) := by
    rw [abs_mul]
    refine mul_le_mul storedNear ?_ (abs_nonneg _) (by norm_num)
    rw [abs_of_nonneg (by positivity)]
    linarith
  have triangle := abs_sub_le (blockExact interval (firstOfMonth start) amountBasis method periods contractStart contractEnd)
    (intervalMonths interval * stored + stored / 30 * extraMonths method interval (firstOfMonth start) periods)
    (fullAmount interval amountBasis amount + share / 30 * extraMonths method interval (firstOfMonth start) periods)
  rw [rounding] at triangle
  have bound : (intervalMonths interval : ℚ) * (2 / 10 ^ 7) ≤ 12 * (2 / 10 ^ 7) :=
    mul_le_mul_of_nonneg_right bounds.2 (by norm_num)
  norm_num at *
  linarith

/-- The total rounds to the full amount exactly while the extra days come to less than half a cent. -/
theorem rounds_iff {full share total : ℚ} {months extra : ℕ} (isCents : IsCents full) (isFull : months * share = full)
    (least : (1 : ℚ) ≤ months) (most : (months : ℚ) ≤ 12) (near : |total - (full + share / 30 * extra)| ≤ 3 / 10 ^ 6)
    (apart : extra * |share| ≠ 15 / 100) : roundCents total = full ↔ extra * |share| < 15 / 100 := by
  obtain ⟨cents, isAmount⟩ := isCents_iff_int.mp isCents
  have positive : (0 : ℚ) < 100 * months := by linarith
  have isShare : extra * |share| = ((extra * |cents| : ℤ) : ℚ) / (100 * months) := by
    have size : months * |share| = |(cents : ℚ)| / 100 := by
      rw [← Nat.abs_cast months, ← abs_mul, isFull, isAmount, abs_div, abs_of_pos (show (0 : ℚ) < 100 by norm_num)]
    rw [eq_div_iff positive.ne']
    push_cast
    linear_combination (100 * extra : ℚ) * size
  have isLimit : (15 : ℚ) / 100 = ((15 * months : ℤ) : ℚ) / (100 * months) := by
    rw [eq_div_iff positive.ne']
    push_cast
    ring
  have step : (1 : ℚ) / 1200 ≤ 1 / (100 * months) := one_div_le_one_div_of_le positive (by linarith)
  have size : |share / 30 * extra| = extra * |share| / 30 := by
    rw [abs_mul, abs_div, Nat.abs_cast, abs_of_pos (show (0 : ℚ) < 30 by norm_num)]
    ring
  have parts : total - full = (total - (full + share / 30 * extra)) + share / 30 * extra := by ring
  constructor
  · intro rounds
    by_contra large
    have more : (15 * months : ℤ) < extra * |cents| := by
      have less : (15 : ℚ) / 100 < extra * |share| := lt_of_le_of_ne (not_lt.mp large) apart.symm
      rw [isLimit, isShare, div_lt_div_iff_of_pos_right positive] at less
      exact_mod_cast less
    have next : (15 : ℚ) / 100 + 1 / (100 * months) ≤ extra * |share| := by
      rw [isLimit, isShare, ← add_div, div_le_div_iff_of_pos_right positive]
      exact_mod_cast more
    have error := roundCents_error total
    rw [rounds, abs_sub_comm] at error
    have back : share / 30 * extra = (total - full) - (total - (full + share / 30 * extra)) := by ring
    have triangle := abs_sub (total - full) (total - (full + share / 30 * extra))
    rw [← back, size] at triangle
    norm_num at near
    linarith
  · intro fewer
    apply roundCents_eq isCents
    have less : extra * |cents| < (15 * months : ℤ) := by
      rw [isLimit, isShare, div_lt_div_iff_of_pos_right positive] at fewer
      exact_mod_cast fewer
    have next : extra * |share| + 1 / (100 * months) ≤ (15 : ℚ) / 100 := by
      rw [isLimit, isShare, ← add_div, div_le_div_iff_of_pos_right positive]
      exact_mod_cast less
    have triangle := abs_add_le (total - (full + share / 30 * extra)) (share / 30 * extra)
    rw [← parts, size] at triangle
    rw [abs_sub_comm]
    norm_num at near
    linarith

theorem isCents_fullAmount (interval : PaymentInterval) (amountBasis : AmountBasis) (isCents : IsCents amount) :
    IsCents (fullAmount interval amountBasis amount) := by
  obtain ⟨cents, isAmount⟩ := isCents_iff_int.mp isCents
  unfold fullAmount
  split
  · rw [isCents_iff_int, isAmount]
    refine ⟨intervalMonths interval * cents, ?_⟩
    push_cast
    ring
  · exact isCents

/-- Blocks follow one another without gaps, each has one month with an instalment, and an amount that does not change over
the block is charged in full, unless the days charged beyond thirty a month come to half a cent. -/
theorem instalment_blocks (anchor month : Date) (interval : PaymentInterval) (inCalendar : InCalendar anchor month interval)
    (paymentMode : PaymentMode) (amountBasis : AmountBasis) (method : ProrationMethod) (periods : List Validity)
    (contractStart : Date) (contractEnd : Option Date) :
    let block := instalmentPeriod anchor interval month
    let extra := extraMonths method interval block.2.2.1 periods
    (block.1 ≤ monthFirst month ∧ monthLast month ≤ block.2.1) ∧
      (∀ other, InCalendar anchor other interval → instalmentPeriod anchor interval other = block ∨
        (instalmentPeriod anchor interval other).2.1 < block.1 ∨
        block.2.1 < (instalmentPeriod anchor interval other).1) ∧
      (instalmentPeriod anchor interval (block.2.1.addDays 1)).1 = block.2.1.addDays 1 ∧
      (∃! due : Date, monthFirst due = due ∧ block.1 ≤ due ∧ due ≤ block.2.1 ∧
        (instalmentForMonth due interval anchor paymentMode amountBasis method periods contractStart
          contractEnd).isSome) ∧
      ∀ instalment, instalmentForMonth month interval anchor paymentMode amountBasis method periods contractStart
          contractEnd = some instalment →
        ∀ amount, IsCents amount → |amount| < 10 ^ 12 → Unchanged block.1 block.2.1 amount periods →
          contractStart ≤ block.1 → (∀ last ∈ contractEnd, block.2.1 ≤ last) →
          extra * |monthlyShare interval amountBasis amount| ≠ 15 / 100 →
          (instalment.total = fullAmount interval amountBasis amount ↔
            extra * |monthlyShare interval amountBasis amount| < 15 / 100) := by
  refine ⟨block_contains inCalendar, fun other => block_apart inCalendar, block_next inCalendar,
    block_due inCalendar paymentMode amountBasis method periods contractStart contractEnd, ?_⟩
  intro instalment isSome amount isCents small unchanged started runs apart
  rw [instalmentForMonth_eq] at isSome
  split at isSome
  · cases isSome
  · cases isSome
    have bounds := intervalMonths_cast interval
    have near := blockExact_near inCalendar amountBasis method isCents small unchanged started runs
    exact rounds_iff (isCents_fullAmount interval amountBasis isCents) (monthlyShare_mul interval amountBasis amount)
      bounds.1 bounds.2 near apart

/-- The rows of an amount that was entered again from the 31st of October. -/
def rentRows : List Validity := [(.ofYmd 2020 1 1, some (.ofYmd 2025 10 30), 900), (.ofYmd 2025 10 31, none, 900)]

theorem rentRows_unchanged : Unchanged (.ofYmd 2025 10 1) (.ofYmd 2025 12 31) 900 rentRows := by
  intro day after _
  have started : Date.ofYmd 2020 1 1 ≤ day := le_trans (by decide) after
  rcases lt_or_ge day (.ofYmd 2025 10 31) with early | late
  · have old : day ≤ .ofYmd 2025 10 30 := le_addDays_iff.mp early
    refine ⟨(.ofYmd 2020 1 1, some (.ofYmd 2025 10 30), 900), ?_, rfl⟩
    rw [rentRows, filter_cons_of_pos, filter_cons_of_neg, filter_nil]
    · simpa [ValidOn] using early
    · simpa [ValidOn] using ⟨started, old⟩
  · have ended : ¬ day ≤ .ofYmd 2025 10 30 := not_le.mpr (lt_of_lt_of_le (by decide) late)
    refine ⟨(.ofYmd 2025 10 31, none, 900), ?_, rfl⟩
    rw [rentRows, filter_cons_of_neg, filter_cons_of_pos, filter_nil]
    · simpa [ValidOn] using late
    · simpa [ValidOn] using fun _ => not_le.mp ended

/-- A quarter before the anchor, by calendar days. -/
theorem quarter_before_anchor :
    (instalmentForMonth (.ofYmd 2025 10 1) .quarterly (.ofYmd 2026 4 1) .advance .perInstalment .calendarDays rentRows
      (.ofYmd 2020 1 1) none).map Instalment.total = some 900 := by
  have isSome : (instalmentForMonth (.ofYmd 2025 10 1) .quarterly (.ofYmd 2026 4 1) .advance .perInstalment .calendarDays
      rentRows (.ofYmd 2020 1 1) none).isSome := by
    decide +kernel
  obtain ⟨instalment, isInstalment⟩ := Option.isSome_iff_exists.mp isSome
  have inCalendar : InCalendar (.ofYmd 2026 4 1) (.ofYmd 2025 10 1) .quarterly := by
    unfold InCalendar
    decide +kernel
  have noExtra : extraMonths .calendarDays .quarterly
      (instalmentPeriod (.ofYmd 2026 4 1) .quarterly (.ofYmd 2025 10 1)).2.2.1 rentRows = 0 := by
    decide +kernel
  have charged := (instalment_blocks (.ofYmd 2026 4 1) (.ofYmd 2025 10 1) .quarterly inCalendar .advance
    .perInstalment .calendarDays rentRows (.ofYmd 2020 1 1) none).2.2.2.2 instalment isInstalment 900 (by decide +kernel)
    (by norm_num) rentRows_unchanged (by decide +kernel) nofun
  rw [noExtra, Nat.cast_zero, zero_mul] at charged
  rw [isInstalment]
  exact congrArg some ((charged (by norm_num)).mpr (by norm_num))

/-- The same quarter counted by thirty days a month: the 31st is charged beside them. -/
theorem quarter_charged_extra : Unchanged (.ofYmd 2025 10 1) (.ofYmd 2025 12 31) 900 rentRows ∧
    (instalmentForMonth (.ofYmd 2025 10 1) .quarterly (.ofYmd 2026 4 1) .advance .perInstalment .thirty360 rentRows
      (.ofYmd 2020 1 1) none).map Instalment.total = some 910 :=
  ⟨rentRows_unchanged, by decide +kernel⟩

end Mhvp.Receivables
