import Mhvp.Billing.RentStatements
import Mhvp.Lib.Months

namespace Mhvp.Billing.RentStatements

open Core Lib.Calendar

/-- `calc.deadline`; no date lies after the year 9999. -/
def calcDeadline (periodTo : Date) : Option Date := if periodTo.year < 9999 then some (deadline periodTo) else none

/-- From the first day of a month to the day before that day one year later. -/
def FullYear (periodFrom periodTo : Date) : Prop :=
  periodFrom.day = 1 ∧ periodTo.addDays 1 = firstOfMonth (monthIndex periodFrom + 12)

theorem checkPeriod_ok : checkPeriod periodFrom periodTo false purpose = .ok () ↔
    periodFrom ≤ periodTo ∧ twelveMonths periodFrom periodTo = true := by
  simp only [checkPeriod, bind_ok, require_ok, exists_unit]
  constructor
  · rintro ⟨order, -, twelve | interim⟩
    · exact ⟨order, twelve⟩
    · cases interim
  · rintro ⟨order, twelve⟩
    exact ⟨order, by simp [twelve], Or.inl twelve⟩

/-- Twelve months in a row have 365 days, or 366 with a 29 February. -/
theorem firstOfMonth_next_year (late : 12 ≤ index) :
    (firstOfMonth (index + 12)).ordinal = (firstOfMonth index).ordinal + 365 ∨
      (firstOfMonth (index + 12)).ordinal = (firstOfMonth index).ordinal + 366 := by
  have positive : 1 ≤ index / 12 := by omega
  have isYear : (index + 12) / 12 = index / 12 + 1 := by omega
  have next := daysBeforeYear_next positive
  have apart : ¬ (Date.isLeap (index / 12) = true ∧ Date.isLeap (index / 12 + 1) = true) := by
    simp only [Date.isLeap, decide_eq_true_eq]
    omega
  simp only [firstOfMonth, Date.ofYmd, Nat.add_mod_right, isYear, next, Date.daysBeforeMonth, daysOfYear]
  cases leap : Date.isLeap (index / 12) with
  | true =>
    have plain : Date.isLeap (index / 12 + 1) = false := by simpa [leap] using apart
    simp only [plain, Bool.false_eq_true, and_false, and_true, if_true, if_false]
    split <;> omega
  | false =>
    simp only [Bool.false_eq_true, and_false, if_false]
    split <;> omega

variable {periodFrom periodTo : Date}

theorem firstOfMonth_monthIndex (real : 1 ≤ periodFrom.ordinal) (isFirst : periodFrom.day = 1) :
    firstOfMonth (monthIndex periodFrom) = periodFrom := by
  obtain ⟨isYear, isMonth⟩ := monthIndex_div periodFrom
  rw [firstOfMonth, isYear, isMonth, ← isFirst]
  exact ofYmd_year_month_day periodFrom real

theorem month_of_index {day : Date} (late : 12 ≤ index)
    (inMonth : place < Date.monthLength (index / 12) (index % 12 + 1))
    (isDay : day.ordinal = (firstOfMonth index).ordinal + place) : day.month = index % 12 + 1 := by
  have same : day = ⟨(firstOfMonth index).ordinal + place⟩ := Date.ext isDay
  rw [same]
  exact (read_ofMonth late inMonth).2.1

/-- The last two days before a month lie in the month before. -/
theorem month_before {day : Date} (late : 12 ≤ index) (back : day.ordinal + 1 = (firstOfMonth (index + 1)).ordinal ∨
    day.ordinal + 2 = (firstOfMonth (index + 1)).ordinal) : day.month = index % 12 + 1 := by
  have bound : index % 12 + 1 ≤ 12 := Nat.mod_lt _ (by decide)
  have length := (monthLength_bounds (index / 12) (Nat.le_add_left 1 (index % 12)) bound).1
  have ends := firstOfMonth_succ late
  have last := lastOfMonth_ordinal index
  obtain ⟨place, isPlace⟩ := Nat.exists_eq_add_of_le (show (firstOfMonth index).ordinal ≤ day.ordinal by omega)
  exact month_of_index late (by omega) isPlace

theorem deadline_eq (periodTo : Date) : deadline periodTo = lastOfMonth (monthIndex periodTo + 12) := by
  obtain ⟨isYear, isMonth⟩ := monthIndex_div periodTo
  have nextYear : (monthIndex periodTo + 12) / 12 = periodTo.year + 1 := by omega
  rw [deadline, lastOfMonth, nextYear, Nat.add_mod_right, isMonth]

theorem deadline_isEnd :
    calcDeadline periodTo = some (lastOfMonth (monthIndex periodTo + 12)) ↔ periodTo.year < 9999 := by
  rw [← deadline_eq, calcDeadline]
  split <;> simp_all

/-- A period is accepted as twelve months exactly where it covers them, and its deadline is the end of the same month a
year later, unless the last of 366 days is missing or the year of the deadline has no date. -/
theorem yearly_period (periodFrom periodTo : Date) (real : 1 ≤ periodFrom.ordinal) (purpose : Option String) :
    ((checkPeriod periodFrom periodTo false purpose = .ok () ↔ FullYear periodFrom periodTo) ∧
      calcDeadline periodTo = some (lastOfMonth (monthIndex periodTo + 12))) ↔
    ¬ (periodFrom.day = 1 ∧ periodFrom.ordinal + 364 = periodTo.ordinal ∧
      periodTo.addDays 2 = firstOfMonth (monthIndex periodFrom + 12)) ∧ periodTo.year < 9999 := by
  have late := late_monthIndex periodFrom
  have isMonth := (monthIndex_div periodFrom).2
  rw [checkPeriod_ok, deadline_isEnd, and_congr_left_iff]
  intro hasDate
  by_cases isFirst : periodFrom.day = 1
  · have starts := congrArg Date.ordinal (firstOfMonth_monthIndex real isFirst)
    have ends := firstOfMonth_next_year late
    have full : FullYear periodFrom periodTo ↔
        periodTo.ordinal + 1 = (firstOfMonth (monthIndex periodFrom + 12)).ordinal := by
      simp [FullYear, isFirst, Date.ext_iff, Date.addDays]
    have short : periodTo.addDays 2 = firstOfMonth (monthIndex periodFrom + 12) ↔
        periodTo.ordinal + 2 = (firstOfMonth (monthIndex periodFrom + 12)).ordinal := by
      simp [Date.ext_iff, Date.addDays]
    rw [full, short]
    simp only [twelveMonths, isFirst, List.mem_cons, List.not_mem_nil, or_false, true_and, decide_eq_true_eq,
      Date.le_def, ← isMonth]
    have near : periodTo.ordinal + 1 = (firstOfMonth (monthIndex periodFrom + 12)).ordinal ∨
        periodTo.ordinal + 2 = (firstOfMonth (monthIndex periodFrom + 12)).ordinal →
        periodTo.month = (monthIndex periodFrom + 11) % 12 + 1 := month_before (by omega)
    have after : periodTo.ordinal = (firstOfMonth (monthIndex periodFrom + 12)).ordinal →
        periodTo.month = (monthIndex periodFrom + 12) % 12 + 1 := by
      intro same
      have length := (monthLength_bounds ((monthIndex periodFrom + 12) / 12) (Nat.le_add_left 1 _)
        (Nat.mod_lt (monthIndex periodFrom + 12) (by decide) : _ < 12)).1
      exact month_of_index (by omega) (by omega) (show periodTo.ordinal = _ + 0 from same)
    omega
  · simp [FullYear, twelveMonths, isFirst]

theorem march_to_february :
    (checkPeriod (.ofYmd 2023 3 1) (.ofYmd 2024 2 29) false none = .ok () ↔
      FullYear (.ofYmd 2023 3 1) (.ofYmd 2024 2 29)) ∧
    calcDeadline (.ofYmd 2024 2 29) = some (lastOfMonth (monthIndex (.ofYmd 2024 2 29) + 12)) :=
  (yearly_period _ _ (by decide) none).mpr ⟨by decide, by decide⟩

/-- March 2023 to 28 February 2024 counts as twelve months: 29 February is in no statement. -/
theorem leap_day_left_out : ¬ ∀ (periodFrom periodTo : Date) (purpose : Option String), 1 ≤ periodFrom.ordinal →
    (checkPeriod periodFrom periodTo false purpose = .ok () ↔ FullYear periodFrom periodTo) ∧
      calcDeadline periodTo = some (lastOfMonth (monthIndex periodTo + 12)) := by
  intro claimed
  have covered := (claimed (.ofYmd 2023 3 1) (.ofYmd 2024 2 28) none (by decide)).1.mp
    (checkPeriod_ok.mpr ⟨by decide, by decide⟩)
  exact absurd covered.2 (by decide)

end Mhvp.Billing.RentStatements
