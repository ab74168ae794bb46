import Mathlib.Algebra.BigOperators.Ring.List
import Mathlib.Algebra.Order.BigOperators.Group.List
import Mathlib.Algebra.Order.Ring.Defs
import Mathlib.Tactic.Abel

/-!
Calendar days of the proleptic Gregorian calendar as day numbers (day 1 is 0001-01-01), with the usual conversions
between a day number and year, month and day of month.
-/

namespace Mhvp.Lib.Calendar

open List

/-- A calendar day, carried by its day number. -/
@[ext]
structure Date where
  ordinal : ℕ
  deriving DecidableEq, Inhabited

namespace Date

instance : LinearOrder Date :=
  LinearOrder.lift' Date.ordinal fun _ _ same => Date.ext same

theorem le_def {first second : Date} : first ≤ second ↔ first.ordinal ≤ second.ordinal := Iff.rfl

theorem lt_def {first second : Date} : first < second ↔ first.ordinal < second.ordinal := Iff.rfl

def isLeap (year : ℕ) : Bool := year % 4 = 0 ∧ (year % 100 ≠ 0 ∨ year % 400 = 0)

/-- Days before 1 January of `year`. -/
def daysBeforeYear (year : ℕ) : ℕ :=
  (year - 1) * 365 + (year - 1) / 4 - (year - 1) / 100 + (year - 1) / 400

/-- Days before the first of `month`, in a year that is not a leap year. -/
def daysBeforeMonthTable (month : ℕ) : ℕ :=
  [0, 0, 31, 59, 90, 120, 151, 181, 212, 243, 273, 304, 334].getD month 0

def daysBeforeMonth (year month : ℕ) : ℕ :=
  daysBeforeMonthTable month + if 2 < month ∧ isLeap year then 1 else 0

def monthLength (year month : ℕ) : ℕ :=
  if month = 12 then 31 else daysBeforeMonth year (month + 1) - daysBeforeMonth year month

def ofYmd (year month day : ℕ) : Date := ⟨daysBeforeYear year + daysBeforeMonth year month + day⟩

/-- Year, and the day of the year counted from zero. -/
def yearAndDay (date : Date) : ℕ × ℕ :=
  let days := date.ordinal - 1
  let n400 := days / 146097
  let n100 := days % 146097 / 36524
  let n4 := days % 146097 % 36524 / 1461
  let n1 := days % 146097 % 36524 % 1461 / 365
  let year := n400 * 400 + n100 * 100 + n4 * 4 + n1 + 1
  if n1 = 4 ∨ n100 = 4 then (year - 1, 365) else (year, days % 146097 % 36524 % 1461 % 365)

def year (date : Date) : ℕ := date.yearAndDay.1

/-- The month is the number of months of the year that start on or before the day. -/
def month (date : Date) : ℕ :=
  ((List.range' 1 12).filter fun m => daysBeforeMonth date.year m ≤ date.yearAndDay.2).length

def day (date : Date) : ℕ := date.yearAndDay.2 - daysBeforeMonth date.year date.month + 1

def addDays (date : Date) (days : ℕ) : Date := ⟨date.ordinal + days⟩

def dayBefore (date : Date) : Date := ⟨date.ordinal - 1⟩

theorem lt_addDays_one (date : Date) : date < date.addDays 1 := by
  rw [lt_def]; exact Nat.lt_succ_self _

example : (ofYmd 2026 10 4).year = 2026 ∧ (ofYmd 2026 10 4).month = 10 ∧ (ofYmd 2026 10 4).day = 4 := by
  decide

example : ofYmd 2024 12 31 = ⟨739251⟩ ∧ (ofYmd 2024 12 31).addDays 1 = ofYmd 2025 1 1 := by decide

end Date

/-- A day lies within an optional cut-off day; no cut-off admits every day. -/
def Within (cutOff : Option Date) (date : Date) : Prop := ∀ last ∈ cutOff, date ≤ last

instance : Decidable (Within cutOff date) := by
  unfold Within; infer_instance

@[simp] theorem within_none : Within none date := by simp [Within]

@[simp] theorem within_some : Within (some last) date ↔ date ≤ last := by simp [Within]

theorem Within.mono (within : Within cutOff later) (before : date ≤ later) : Within cutOff date :=
  fun last present => before.trans (within last present)

universe u

variable {Number : Type u} [Semiring Number] {share other : Date → Number} {start middle last : Date}

/-- The sum over the days of a span, without its last day. -/
def daySum (share : Date → Number) (start last : Date) : Number :=
  ((List.range' start.ordinal (last.ordinal - start.ordinal)).map fun day => share ⟨day⟩).sum

theorem daySum_add (share : Date → Number) (first : start ≤ middle) (second : middle ≤ last) :
    daySum share start middle + daySum share middle last = daySum share start last := by
  rw [Date.le_def] at first second
  obtain ⟨days, isMiddle⟩ := Nat.exists_eq_add_of_le first
  obtain ⟨more, isLast⟩ := Nat.exists_eq_add_of_le second
  unfold daySum
  rw [isLast, isMiddle, Nat.add_sub_cancel_left, Nat.add_sub_cancel_left, Nat.add_assoc, Nat.add_sub_cancel_left,
    ← List.range'_append_1, map_append, sum_append]

theorem daySum_empty (share : Date → Number) (past : last ≤ start) : daySum share start last = 0 := by
  unfold daySum
  rw [Nat.sub_eq_zero_of_le (Date.le_def.mp past)]
  rfl

theorem daySum_congr (same : ∀ day, start ≤ day → day < last → share day = other day) :
    daySum share start last = daySum other start last := by
  unfold daySum
  congr 1
  apply map_congr_left
  intro day member
  obtain ⟨after, before⟩ := mem_range'_1.mp member
  have inSpan : day < last.ordinal := by omega
  exact same ⟨day⟩ (Date.le_def.mpr after) (Date.lt_def.mpr inSpan)

theorem daySum_mul_left (factor : Number) (share : Date → Number) (start last : Date) :
    daySum (fun day => factor * share day) start last = factor * daySum share start last :=
  sum_map_mul_left ..

theorem daySum_const (same : ∀ day, start ≤ day → day < last → share day = value) :
    daySum share start last = (last.ordinal - start.ordinal : ℕ) * value := by
  rw [daySum_congr same]
  unfold daySum
  rw [map_const', sum_replicate, length_range', nsmul_eq_mul]

theorem daySum_nonneg [PartialOrder Number] [IsOrderedRing Number] (nonneg : ∀ day, 0 ≤ share day) (start last : Date) :
    0 ≤ daySum share start last := by
  apply sum_nonneg
  intro value member
  obtain ⟨day, -, rfl⟩ := mem_map.mp member
  exact nonneg ⟨day⟩

theorem neighbours {days : List Date} (ascending : days.Pairwise fun first second => first < second) :
    ∀ cut ∈ days.zip days.tail, cut.1 ∈ days ∧ cut.2 ∈ days ∧ cut.1 < cut.2 ∧
      ∀ day ∈ days, day ≤ cut.1 ∨ cut.2 ≤ day := by
  induction days with
  | nil => exact fun _ none => absurd none not_mem_nil
  | cons first rest ih =>
    cases rest with
    | nil => exact fun _ none => absurd none not_mem_nil
    | cons second others =>
      intro cut member
      obtain ⟨before, later⟩ := pairwise_cons.mp ascending
      rw [tail_cons, zip_cons_cons] at member
      rcases mem_cons.mp member with rfl | isLater
      · refine ⟨mem_cons_self, mem_cons_of_mem _ mem_cons_self, before second mem_cons_self, ?_⟩
        intro day isDay
        rcases mem_cons.mp isDay with rfl | isRest
        · exact Or.inl (le_refl _)
        · rcases mem_cons.mp isRest with rfl | isOther
          · exact Or.inr (le_refl _)
          · exact Or.inr ((pairwise_cons.mp later).1 day isOther).le
      · obtain ⟨isFirst, isSecond, order, apart⟩ := ih later cut isLater
        refine ⟨mem_cons_of_mem _ isFirst, mem_cons_of_mem _ isSecond, order, ?_⟩
        intro day isDay
        rcases mem_cons.mp isDay with rfl | isRest
        · exact Or.inl (before cut.1 isFirst).le
        · exact apart day isRest

theorem starts_sublist (days stops : List Date) : ((days.zip stops).map Prod.fst).Sublist days := by
  induction days generalizing stops with
  | nil => exact List.Sublist.refl []
  | cons day rest ih =>
    cases stops with
    | nil => exact nil_sublist _
    | cons stop others =>
      rw [zip_cons_cons, map_cons]
      exact (ih others).cons_cons day

theorem exists_neighbours (first : Date) (rest : List Date) (after : first ≤ day)
    (before : day < (first :: rest).getLast (cons_ne_nil _ _)) :
    ∃ cut ∈ (first :: rest).zip rest, cut.1 ≤ day ∧ day < cut.2 := by
  induction rest generalizing first with
  | nil =>
    rw [getLast_singleton] at before
    exact absurd before (not_lt.mpr after)
  | cons second others ih =>
    rw [zip_cons_cons]
    rw [getLast_cons (cons_ne_nil second others)] at before
    rcases lt_or_ge day second with early | late
    · exact ⟨(first, second), mem_cons_self, after, early⟩
    · obtain ⟨cut, member, within⟩ := ih second late before
      exact ⟨cut, mem_cons_of_mem _ member, within⟩

theorem neighbours_telescope [AddCommGroup Value] (value : Date → Value) (first : Date) (rest : List Date) :
    (((first :: rest).zip rest).map fun cut => value cut.2 - value cut.1).sum =
      value ((first :: rest).getLast (cons_ne_nil _ _)) - value first := by
  induction rest generalizing first with
  | nil => simp
  | cons second others ih =>
    rw [zip_cons_cons, map_cons, sum_cons, ih second, getLast_cons (cons_ne_nil second others)]
    abel

theorem daySum_neighbours (share : Date → Number) (first : Date) (rest : List Date)
    (ascending : (first :: rest).Pairwise fun first second => first < second) :
    (((first :: rest).zip rest).map fun cut => daySum share cut.1 cut.2).sum =
      daySum share first ((first :: rest).getLast (cons_ne_nil _ _)) := by
  induction rest generalizing first with
  | nil =>
    rw [getLast_singleton, daySum_empty share (le_refl first)]
    rfl
  | cons second others ih =>
    obtain ⟨before, later⟩ := pairwise_cons.mp ascending
    have reaches : second ≤ (second :: others).getLast (cons_ne_nil _ _) := by
      rcases mem_cons.mp (getLast_mem (cons_ne_nil second others)) with same | isOther
      · exact same.ge
      · exact ((pairwise_cons.mp later).1 _ isOther).le
    rw [zip_cons_cons, map_cons, sum_cons, ih second later,
      getLast_cons (cons_ne_nil second others)]
    exact daySum_add share (before second mem_cons_self).le reaches

end Mhvp.Lib.Calendar
