import Mathlib.Tactic.IntervalCases
import Mathlib.Tactic.Linarith
import Mhvp.Lib.Calendar

/-! Months in a row, counted from year 0, and the blocks of whole months that a calendar is divided into. -/

namespace Mhvp.Lib.Calendar

open Date List

/-- Number of the month a day lies in. -/
def monthIndex (day : Date) : ℕ := day.year * 12 + (day.month - 1)

def firstOfMonth (index : ℕ) : Date := .ofYmd (index / 12) (index % 12 + 1) 1

def lastOfMonth (index : ℕ) : Date :=
  .ofYmd (index / 12) (index % 12 + 1) (monthLength (index / 12) (index % 12 + 1))

theorem daysBeforeYear_succ {year : ℕ} (positive : 1 ≤ year) :
    daysBeforeYear (year + 1) = daysBeforeYear year + 365 + if isLeap year then 1 else 0 := by
  obtain ⟨before, rfl⟩ : ∃ before, year = before + 1 := ⟨year - 1, by omega⟩
  have rare : before / 100 ≤ before / 4 := Nat.div_le_div_left (by decide) (by decide)
  have leap : isLeap (before + 1) = true ↔ 4 ∣ before + 1 ∧ (¬ 100 ∣ before + 1 ∨ 400 ∣ before + 1) := by
    simp [isLeap, Nat.dvd_iff_mod_eq_zero]
  unfold daysBeforeYear
  simp only [Nat.add_sub_cancel, Nat.succ_div, leap]
  by_cases fourth : 4 ∣ before + 1
  · by_cases century : 100 ∣ before + 1
    · by_cases cycle : 400 ∣ before + 1
      · simp only [fourth, century, cycle, if_true, not_true, true_and, or_true]
        omega
      · simp only [fourth, century, cycle, if_true, if_false, not_true, true_and, or_self]
        omega
    · have cycle : ¬ 400 ∣ before + 1 := fun whole => century (Dvd.dvd.trans (by decide) whole)
      simp only [fourth, century, cycle, if_true, if_false, not_false_iff, true_and, true_or]
      omega
  · have century : ¬ 100 ∣ before + 1 := fun whole => fourth (Dvd.dvd.trans (by decide) whole)
    have cycle : ¬ 400 ∣ before + 1 := fun whole => fourth (Dvd.dvd.trans (by decide) whole)
    simp only [fourth, century, cycle, if_false, false_and]
    omega

/-- The month after the last of a month starts the next one, also over the end of a year. -/
theorem firstOfMonth_succ (late : 12 ≤ index) :
    (firstOfMonth (index + 1)).ordinal = (lastOfMonth index).ordinal + 1 := by
  have positive : 1 ≤ index / 12 := by omega
  have bound : index % 12 < 12 := Nat.mod_lt _ (by decide)
  by_cases december : index % 12 = 11
  · have next : (index + 1) / 12 = index / 12 + 1 := by omega
    have january : (index + 1) % 12 = 0 := by omega
    unfold firstOfMonth lastOfMonth ofYmd monthLength daysBeforeMonth
    rw [next, january, december, daysBeforeYear_succ positive]
    cases isLeap (index / 12) <;> simp [daysBeforeMonthTable]
  · have same : (index + 1) / 12 = index / 12 := by omega
    have next : (index + 1) % 12 = index % 12 + 1 := by omega
    have early : index % 12 + 1 ≠ 12 := by omega
    unfold firstOfMonth lastOfMonth ofYmd monthLength daysBeforeMonth
    rw [same, next, if_neg early]
    generalize index % 12 = month at *
    interval_cases month <;> cases isLeap (index / 12) <;> simp [daysBeforeMonthTable] <;> omega

theorem firstOfMonth_le_lastOfMonth (index : ℕ) : firstOfMonth index ≤ lastOfMonth index := by
  have bound : index % 12 < 12 := Nat.mod_lt _ (by decide)
  rw [le_def]
  unfold firstOfMonth lastOfMonth ofYmd monthLength daysBeforeMonth
  generalize index % 12 = month at *
  interval_cases month <;> cases isLeap (index / 12) <;> simp [daysBeforeMonthTable]

theorem lastOfMonth_lt_firstOfMonth (late : 12 ≤ first) (before : first < second) :
    lastOfMonth first < firstOfMonth second := by
  obtain ⟨between, rfl⟩ := Nat.exists_eq_add_of_lt before
  induction between with
  | zero =>
    have next := firstOfMonth_succ late
    rw [lt_def, Nat.add_zero]
    omega
  | succ between ih =>
    have reached := ih (by omega)
    have within := firstOfMonth_le_lastOfMonth (first + between + 1)
    have lateNext : 12 ≤ first + between + 1 := by omega
    have next := firstOfMonth_succ lateNext
    rw [lt_def] at reached ⊢
    rw [le_def] at within
    have sameIndex : first + (between + 1) + 1 = first + between + 1 + 1 := by omega
    rw [sameIndex]
    omega

private theorem digit (quotient : ℕ) (small : rest < size) :
    (quotient * size + rest) / size = quotient ∧ (quotient * size + rest) % size = rest := by
  constructor
  · rw [Nat.mul_comm, Nat.mul_add_div (by omega), Nat.div_eq_of_lt small, Nat.add_zero]
  · rw [Nat.mul_comm, Nat.mul_add_mod, Nat.mod_eq_of_lt small]

private theorem yearDigits (years : ℕ) : ∃ n400 n100 n4 n1, n100 < 4 ∧ n4 < 25 ∧ n1 < 4 ∧
    years = n400 * 400 + n100 * 100 + n4 * 4 + n1 :=
  ⟨years / 400, years % 400 / 100, years % 100 / 4, years % 4, by omega, by omega, by omega, by omega⟩

private theorem daysOfDigits (few100 : n100 < 4) (few4 : n4 < 25) (few1 : n1 < 4) :
    daysBeforeYear (n400 * 400 + n100 * 100 + n4 * 4 + n1 + 1) =
      n400 * 146097 + (n100 * 36524 + (n4 * 1461 + n1 * 365)) := by
  have fourths : (n400 * 400 + n100 * 100 + n4 * 4 + n1) / 4 = n400 * 100 + n100 * 25 + n4 := by omega
  have centuries : (n400 * 400 + n100 * 100 + n4 * 4 + n1) / 100 = n400 * 4 + n100 := by omega
  have cycles : (n400 * 400 + n100 * 100 + n4 * 4 + n1) / 400 = n400 := by omega
  unfold daysBeforeYear
  rw [Nat.add_sub_cancel, fourths, centuries, cycles]
  omega

/-- A day of a year is found again: the last day of a leap year is the one that needs a rule of its own. -/
theorem yearAndDay_ofYmd {year day : ℕ} (positive : 1 ≤ year) (inYear : day < 365 ∨ day = 365 ∧ isLeap year = true) :
    yearAndDay ⟨daysBeforeYear year + (day + 1)⟩ = (year, day) := by
  obtain ⟨before, rfl⟩ : ∃ before, year = before + 1 := ⟨year - 1, by omega⟩
  obtain ⟨n400, n100, n4, n1, few100, few4, few1, rfl⟩ := yearDigits before
  rw [daysOfDigits few100 few4 few1]
  have days : n400 * 146097 + (n100 * 36524 + (n4 * 1461 + n1 * 365)) + (day + 1) - 1 =
      n400 * 146097 + (n100 * 36524 + (n4 * 1461 + (n1 * 365 + day))) := by omega
  unfold yearAndDay
  dsimp only
  rw [days]
  rcases inYear with early | ⟨last, leap⟩
  · have small4 : n1 * 365 + day < 1460 := by linarith
    have small100 : n4 * 1461 + (n1 * 365 + day) < 36524 := by linarith
    have small400 : n100 * 36524 + (n4 * 1461 + (n1 * 365 + day)) < 146097 := by linarith
    have single : ¬ (n1 = 4 ∨ n100 = 4) := by omega
    rw [(digit n400 small400).1, (digit n400 small400).2, (digit n100 small100).1, (digit n100 small100).2,
      (digit n4 (small4.trans (by decide))).1, (digit n4 (small4.trans (by decide))).2, (digit n1 early).1,
      (digit n1 early).2, if_neg single]
  · subst last
    have ends : n1 = 3 ∧ (n4 = 24 → n100 = 3) := by
      simp only [isLeap, decide_eq_true_eq] at leap
      constructor
      · omega
      · intro century
        omega
    obtain ⟨rfl, fourth⟩ := ends
    by_cases century : n4 = 24
    · have last100 := fourth century
      subst century last100
      have small400 : 3 * 36524 + (24 * 1461 + (3 * 365 + 365)) < 146097 := by decide
      rw [(digit n400 small400).1, (digit n400 small400).2]
      simp
    · have few : n4 ≤ 23 := by omega
      have small100 : n4 * 1461 + (3 * 365 + 365) < 36524 := by linarith
      have small400 : n100 * 36524 + (n4 * 1461 + (3 * 365 + 365)) < 146097 := by linarith
      have small4 : 3 * 365 + 365 < 1461 := by decide
      rw [(digit n400 small400).1, (digit n400 small400).2, (digit n100 small100).1, (digit n100 small100).2,
        (digit n4 small4).1, (digit n4 small4).2]
      simp

theorem year_pos (date : Date) : 1 ≤ date.year := by
  unfold year yearAndDay
  dsimp only
  split
  · rename_i last
    have few100 : (date.ordinal - 1) % 146097 / 36524 ≤ 4 := by omega
    rcases last with fourth | fourth <;> rw [fourth] <;> dsimp only <;> omega
  · dsimp only
    omega

theorem month_le (date : Date) : date.month ≤ 12 :=
  (length_filter_le _ _).trans (by decide)

theorem late_monthIndex (date : Date) : 12 ≤ monthIndex date := by
  have positive := year_pos date
  unfold monthIndex
  omega

private theorem monthOfTable (leap : Bool) (month : ℕ) (bound : month < 12) :
    ((List.range' 1 12).filter fun m => daysBeforeMonthTable m + (if 2 < m ∧ leap then 1 else 0) ≤
      daysBeforeMonthTable (month + 1) + if 2 < month + 1 ∧ leap then 1 else 0).length = month + 1 := by
  cases leap <;> interval_cases month <;> decide

@[simp] theorem monthIndex_firstOfMonth (late : 12 ≤ index) : monthIndex (firstOfMonth index) = index := by
  have positive : 1 ≤ index / 12 := by omega
  have bound : index % 12 < 12 := Nat.mod_lt _ (by decide)
  have short : daysBeforeMonth (index / 12) (index % 12 + 1) < 365 := by
    unfold daysBeforeMonth
    generalize index % 12 = month at *
    interval_cases month <;> cases isLeap (index / 12) <;> simp [daysBeforeMonthTable]
  have read : yearAndDay (firstOfMonth index) = (index / 12, daysBeforeMonth (index / 12) (index % 12 + 1)) := by
    have known := yearAndDay_ofYmd positive (Or.inl short)
    unfold firstOfMonth ofYmd
    rwa [Nat.add_assoc]
  have isYear : (firstOfMonth index).year = index / 12 := by rw [year, read]
  have isMonth : (firstOfMonth index).month = index % 12 + 1 := by
    unfold month
    rw [isYear, read]
    exact monthOfTable _ _ bound
  unfold monthIndex
  rw [isYear, isMonth]
  omega

theorem daysBeforeMonth_mono (year : ℕ) (order : first ≤ second) (bound : second ≤ 12) :
    daysBeforeMonth year first ≤ daysBeforeMonth year second := by
  unfold daysBeforeMonth
  interval_cases second <;> interval_cases first <;> cases isLeap year <;> decide

theorem daysBeforeMonth_next (year : ℕ) {month : ℕ} (bound : month < 12) :
    daysBeforeMonth year (month + 1) = daysBeforeMonth year month + monthLength year month := by
  have order := daysBeforeMonth_mono year (Nat.le_succ month) bound
  have early : month ≠ 12 := by omega
  rw [monthLength, if_neg early, Nat.add_sub_of_le order]

theorem monthLength_bounds (year : ℕ) {month : ℕ} (positive : 1 ≤ month) (bound : month ≤ 12) :
    28 ≤ monthLength year month ∧ monthLength year month ≤ 31 := by
  unfold monthLength daysBeforeMonth
  interval_cases month <;> cases isLeap year <;> decide

private theorem monthsUpTo (year : ℕ) {month day : ℕ} (positive : 1 ≤ month) (bound : month ≤ 12)
    (inMonth : day < monthLength year month) :
    ((List.range' 1 12).filter fun other => daysBeforeMonth year other ≤ daysBeforeMonth year month + day).length = month := by
  have same : (List.range' 1 12).filter (fun other => daysBeforeMonth year other ≤ daysBeforeMonth year month + day) =
      (List.range' 1 12).filter fun other => other ≤ month := by
    apply filter_congr
    intro other member
    obtain ⟨-, before⟩ := mem_range'_1.mp member
    rw [decide_eq_decide]
    constructor
    · intro starts
      by_contra later
      have next := daysBeforeMonth_next year (show month < 12 by omega)
      have reached := daysBeforeMonth_mono year (show month + 1 ≤ other by omega) (by omega)
      omega
    · exact fun early => (daysBeforeMonth_mono year early bound).trans (Nat.le_add_right _ _)
  rw [same]
  interval_cases month <;> decide

theorem read_ofMonth {index day : ℕ} (late : 12 ≤ index) (inMonth : day < monthLength (index / 12) (index % 12 + 1)) :
    let date : Date := ⟨(firstOfMonth index).ordinal + day⟩
    date.year = index / 12 ∧ date.month = index % 12 + 1 ∧ date.day = day + 1 := by
  have positive : 1 ≤ index / 12 := by omega
  have bound : index % 12 + 1 ≤ 12 := Nat.mod_lt _ (by decide)
  have inYear : daysBeforeMonth (index / 12) (index % 12 + 1) + day < 365 ∨
      daysBeforeMonth (index / 12) (index % 12 + 1) + day = 365 ∧ isLeap (index / 12) = true := by
    unfold monthLength at inMonth
    unfold daysBeforeMonth at *
    generalize index % 12 = month at *
    have small : month < 12 := bound
    cases leap : isLeap (index / 12) <;> rw [leap] at inMonth <;> interval_cases month <;>
      simp [daysBeforeMonthTable] at inMonth ⊢ <;> omega
  have isDate : (⟨(firstOfMonth index).ordinal + day⟩ : Date) =
      ⟨daysBeforeYear (index / 12) + (daysBeforeMonth (index / 12) (index % 12 + 1) + day + 1)⟩ := by
    apply Date.ext
    unfold firstOfMonth ofYmd
    dsimp only
    omega
  have read : yearAndDay ⟨(firstOfMonth index).ordinal + day⟩ =
      (index / 12, daysBeforeMonth (index / 12) (index % 12 + 1) + day) := by
    rw [isDate]
    exact yearAndDay_ofYmd positive inYear
  have isYear : (⟨(firstOfMonth index).ordinal + day⟩ : Date).year = index / 12 := by rw [year, read]
  have isMonth : (⟨(firstOfMonth index).ordinal + day⟩ : Date).month = index % 12 + 1 := by
    rw [month, isYear, read]
    exact monthsUpTo (index / 12) (Nat.le_add_left 1 _) bound inMonth
  refine ⟨isYear, isMonth, ?_⟩
  rw [Date.day, isYear, isMonth, read, Nat.add_sub_cancel_left]

theorem month_pos (date : Date) : 1 ≤ date.month := by
  apply length_pos_of_mem (a := 1)
  apply mem_filter.mpr
  exact ⟨by decide, decide_eq_true (Nat.zero_le _)⟩

theorem lastOfMonth_ordinal (index : ℕ) : (lastOfMonth index).ordinal + 1 =
    (firstOfMonth index).ordinal + monthLength (index / 12) (index % 12 + 1) := by
  have bound : index % 12 + 1 ≤ 12 := Nat.mod_lt _ (by decide)
  have days := (monthLength_bounds (index / 12) (Nat.le_add_left 1 (index % 12)) bound).1
  unfold lastOfMonth firstOfMonth ofYmd
  dsimp only
  omega

theorem monthIndex_div (date : Date) : monthIndex date / 12 = date.year ∧ monthIndex date % 12 + 1 = date.month := by
  have positive := month_pos date
  have bound := month_le date
  unfold monthIndex
  omega

/-- First month of the block of `months` months that a month lies in. -/
def blockOf (months index : ℕ) : ℕ := index / months * months

theorem blockOf_blockOf (positive : 0 < months) : blockOf months (blockOf months index) = blockOf months index := by
  unfold blockOf
  rw [Nat.mul_div_cancel _ positive]

theorem blockOf_apart (before : blockOf months first < blockOf months second) :
    blockOf months first + months ≤ blockOf months second := by
  unfold blockOf at *
  have less := Nat.lt_of_mul_lt_mul_right before
  calc first / months * months + months = (first / months + 1) * months := (Nat.succ_mul ..).symm
    _ ≤ second / months * months := Nat.mul_le_mul_right _ less

theorem late_blockOf (divides : months ∣ 12) (late : 12 ≤ index) : 12 ≤ blockOf months index := by
  obtain ⟨parts, total⟩ := divides
  have positive : 0 < months := by
    apply Nat.pos_of_ne_zero
    rintro rfl
    omega
  have parted : parts ≤ index / months := by
    rw [Nat.le_div_iff_mul_le positive, Nat.mul_comm]
    omega
  calc 12 = parts * months := by rw [total, Nat.mul_comm]
    _ ≤ index / months * months := Nat.mul_le_mul_right _ parted

example : firstOfMonth (blockOf 3 (monthIndex (.ofYmd 2026 5 17))) = .ofYmd 2026 4 1 := by decide

/-- The first of January. -/
def newYear (year : ℕ) : Date := .ofYmd year 1 1

def daysOfYear (year : ℕ) : ℕ := if isLeap year then 366 else 365

theorem newYear_ordinal (year : ℕ) : (newYear year).ordinal = daysBeforeYear year + 1 := by
  simp [newYear, ofYmd, daysBeforeMonth, daysBeforeMonthTable]

theorem daysBeforeYear_next {year : ℕ} (positive : 1 ≤ year) :
    daysBeforeYear (year + 1) = daysBeforeYear year + daysOfYear year := by
  rw [daysBeforeYear_succ positive, daysOfYear]
  split <;> omega

theorem daysOfYear_pos (year : ℕ) : 0 < daysOfYear year := by
  unfold daysOfYear
  split <;> decide

theorem daysBeforeYear_le {first second : ℕ} (positive : 1 ≤ first) (order : first ≤ second) :
    daysBeforeYear first ≤ daysBeforeYear second := by
  induction second, order using Nat.le_induction with
  | base => exact le_refl _
  | succ second order ih =>
    rw [daysBeforeYear_next (positive.trans order)]
    exact ih.trans (Nat.le_add_right _ _)

theorem year_of_between {year number : ℕ} (positive : 1 ≤ year) (after : daysBeforeYear year < number)
    (upTo : number ≤ daysBeforeYear (year + 1)) : (⟨number⟩ : Date).year = year := by
  obtain ⟨day, rfl⟩ := Nat.exists_eq_add_of_lt after
  rw [daysBeforeYear_next positive] at upTo
  have inYear : day < 365 ∨ day = 365 ∧ isLeap year = true := by
    unfold daysOfYear at upTo
    split at upTo
    · rename_i leap
      by_cases early : day < 365
      · exact Or.inl early
      · exact Or.inr ⟨by omega, leap⟩
    · exact Or.inl (by omega)
  rw [Date.year, Nat.add_assoc, yearAndDay_ofYmd positive inYear]

theorem exists_year (number : ℕ) :
    ∃ year, 1 ≤ year ∧ daysBeforeYear year < number + 1 ∧ number + 1 ≤ daysBeforeYear (year + 1) := by
  induction number with
  | zero => exact ⟨1, le_refl 1, by decide, by decide⟩
  | succ number ih =>
    obtain ⟨year, positive, after, upTo⟩ := ih
    by_cases same : number + 1 + 1 ≤ daysBeforeYear (year + 1)
    · exact ⟨year, positive, by omega, same⟩
    · refine ⟨year + 1, by omega, by omega, ?_⟩
      have days := daysOfYear_pos (year + 1)
      rw [daysBeforeYear_next (by omega)]
      omega

theorem year_bounds (date : Date) (real : 1 ≤ date.ordinal) :
    daysBeforeYear date.year < date.ordinal ∧ date.ordinal ≤ daysBeforeYear (date.year + 1) := by
  obtain ⟨number, isNumber⟩ := Nat.exists_eq_add_of_le' real
  obtain ⟨year, positive, after, upTo⟩ := exists_year number
  have isDate : date = ⟨number + 1⟩ := Date.ext isNumber
  rw [isDate, year_of_between positive after upTo]
  exact ⟨after, upTo⟩

theorem year_zero : (⟨0⟩ : Date).year = 1 := by decide

theorem lt_newYear_iff {year : ℕ} (date : Date) (positive : 1 ≤ year) :
    date < newYear (year + 1) ↔ date.year ≤ year := by
  rw [lt_def, newYear_ordinal]
  rcases Nat.eq_zero_or_pos date.ordinal with zero | real
  · have isZero : date = ⟨0⟩ := Date.ext zero
    rw [isZero, year_zero]
    exact iff_of_true (Nat.zero_lt_succ _) positive
  · obtain ⟨after, upTo⟩ := year_bounds date real
    constructor
    · intro before
      by_contra later
      have reached : daysBeforeYear (year + 1) ≤ daysBeforeYear date.year :=
        daysBeforeYear_le (Nat.succ_le_succ (Nat.zero_le year)) (Nat.lt_of_not_le later)
      omega
    · intro early
      have within : daysBeforeYear (date.year + 1) ≤ daysBeforeYear (year + 1) :=
        daysBeforeYear_le (Nat.succ_le_succ (Nat.zero_le date.year)) (Nat.add_le_add_right early 1)
      omega

theorem lt_nextNewYear (date : Date) : date < newYear (date.year + 1) :=
  (lt_newYear_iff date (year_pos date)).mpr (le_refl _)

theorem newYear_year {year : ℕ} (positive : 1 ≤ year) : (newYear year).year = year := by
  have days := daysOfYear_pos year
  have next := daysBeforeYear_next positive
  have isDate : newYear year = ⟨daysBeforeYear year + 1⟩ := Date.ext (newYear_ordinal year)
  rw [isDate]
  exact year_of_between positive (Nat.lt_succ_self _) (by omega)

theorem year_mono {first second : Date} (order : first ≤ second) : first.year ≤ second.year :=
  (lt_newYear_iff first (year_pos second)).mp (lt_of_le_of_lt order (lt_nextNewYear second))

theorem year_eq {first second : Date} (order : first ≤ second) (before : second < newYear (first.year + 1)) :
    second.year = first.year :=
  le_antisymm ((lt_newYear_iff second (year_pos first)).mp before) (year_mono order)

theorem ofYmd_year_month_day (date : Date) (real : 1 ≤ date.ordinal) : ofYmd date.year date.month date.day = date := by
  obtain ⟨after, upTo⟩ := year_bounds date real
  obtain ⟨dayOfYear, isDay⟩ := Nat.exists_eq_add_of_lt after
  have positive := year_pos date
  have inYear : dayOfYear < 365 ∨ dayOfYear = 365 ∧ isLeap date.year = true := by
    rw [daysBeforeYear_next positive] at upTo
    unfold daysOfYear at upTo
    split at upTo
    · rename_i leap
      by_cases early : dayOfYear < 365
      · exact Or.inl early
      · exact Or.inr ⟨by omega, leap⟩
    · exact Or.inl (by omega)
  have read : date.yearAndDay.2 = dayOfYear := by
    have known := yearAndDay_ofYmd positive inYear
    have isDate : date = ⟨daysBeforeYear date.year + (dayOfYear + 1)⟩ := Date.ext (by dsimp only; omega)
    rw [← isDate] at known
    rw [known]
  -- the month starts on or before the day
  have started : daysBeforeMonth date.year date.month ≤ date.yearAndDay.2 := by
    by_contra later
    have bound := month_le date
    have within : ∀ other ∈ (List.range' 1 12).filter (fun m => daysBeforeMonth date.year m ≤ date.yearAndDay.2),
        other ∈ List.range' 1 (date.month - 1) := by
      intro other member
      obtain ⟨inRange, starts⟩ := mem_filter.mp member
      obtain ⟨least, most⟩ := mem_range'_1.mp inRange
      have begun := of_decide_eq_true starts
      rw [mem_range'_1]
      by_contra beyond
      have order := daysBeforeMonth_mono date.year (show date.month ≤ other by omega) (by omega)
      omega
    have distinct : ((List.range' 1 12).filter fun m => daysBeforeMonth date.year m ≤ date.yearAndDay.2).Nodup :=
      filter_sublist.nodup nodup_range'
    have few := (subperm_of_subset distinct within).length_le
    rw [length_range'] at few
    have isMonth : ((List.range' 1 12).filter fun m => daysBeforeMonth date.year m ≤ date.yearAndDay.2).length =
        date.month := rfl
    have atLeast := month_pos date
    omega
  apply Date.ext
  unfold ofYmd day
  dsimp only
  omega

end Mhvp.Lib.Calendar
