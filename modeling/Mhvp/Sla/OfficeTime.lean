import Mhvp.Sla.BusinessTime

namespace Mhvp.Sla

open List

variable {calendar : WorkCalendar} {reading result day daysLeft minutes ticks rest : ℕ}

/-- Length of an office window. -/
def WorkCalendar.window (calendar : WorkCalendar) : ℕ := calendar.closesAt - calendar.opensAt

def officeOn (calendar : WorkCalendar) (day : ℕ) : ℕ :=
  if calendar.isWorkingDay day then calendar.window else 0

/-- Office time of the days before `day`. -/
def officeBefore (calendar : WorkCalendar) (day : ℕ) : ℕ := ((List.range day).map (officeOn calendar)).sum

/-- Office time up to a reading of the wall clock. -/
def officeUpTo (calendar : WorkCalendar) (reading : ℕ) : ℕ :=
  officeBefore calendar (dayOf reading) +
    if calendar.isWorkingDay (dayOf reading) then
      min (calendar.closing (dayOf reading)) reading - calendar.opening (dayOf reading)
    else 0

/-- What is left of the window of the day. -/
def room (calendar : WorkCalendar) (reading : ℕ) : ℕ :=
  if calendar.isWorkingDay (dayOf reading) then
    calendar.closing (dayOf reading) - max reading (calendar.opening (dayOf reading))
  else 0

/-- Parts of a minute at the ends of the windows that adding `minutes` runs over. -/
def lost (calendar : WorkCalendar) (reading : ℕ) (minutes : ℕ) : ℕ :=
  let available := room calendar reading / minute
  if minutes ≤ available then 0
  else room calendar reading % minute +
    (minutes - available - 1) / (calendar.window / minute) * (calendar.window % minute)

/-- The reading lies in an office window. -/
structure InWindow (calendar : WorkCalendar) (reading : ℕ) : Prop where
  working : calendar.isWorkingDay (dayOf reading)
  opened : calendar.opening (dayOf reading) ≤ reading
  notClosed : reading ≤ calendar.closing (dayOf reading)

theorem dayOf_add (within : rest < dayLength) : dayOf (day * dayLength + rest) = day := by
  unfold dayOf
  rw [Nat.mul_comm, Nat.mul_add_div (by decide), Nat.div_eq_of_lt within, Nat.add_zero]

theorem dayOf_opening (calendar : WorkCalendar) (day : ℕ) : dayOf (calendar.opening day) = day :=
  dayOf_add calendar.opens_lt

theorem day_le (reading : ℕ) : dayOf reading * dayLength ≤ reading := Nat.div_mul_le_self ..

theorem lt_nextDay (reading : ℕ) : reading < (dayOf reading + 1) * dayLength := by
  rw [Nat.mul_comm]
  exact Nat.lt_mul_div_succ reading (by decide)

/-- One turn of the loop: the minutes fit into what is left of the window, or it goes on at the next opening. -/
theorem addOnDays_succ : addOnDays calendar (daysLeft + 1) reading minutes =
    if minutes ≤ room calendar reading / minute ∧ 0 < room calendar reading then
      some (max reading (calendar.opening (dayOf reading)) + minutes * minute)
    else addOnDays calendar daysLeft (calendar.opening (dayOf reading + 1))
      (minutes - room calendar reading / minute) := by
  rw [addOnDays]
  unfold room
  dsimp only
  split
  · split
    · rename_i closed
      have nothing : calendar.closing (dayOf reading) - max reading (calendar.opening (dayOf reading)) = 0 := by omega
      simp [nothing]
    · rename_i notClosed
      have something : 0 < calendar.closing (dayOf reading) - max reading (calendar.opening (dayOf reading)) := by omega
      simp [something]
  · simp

/-- The minutes fit into the window the reading lies in. -/
structure Fits (calendar : WorkCalendar) (reading : ℕ) (minutes : ℕ) : Prop where
  opened : calendar.opening (dayOf reading) ≤ reading
  notClosed : 0 < room calendar reading
  enough : minutes ≤ room calendar reading / minute

section

variable (added : addBusinessMinutesLocal calendar reading minutes = some result)
include added

end

variable {zone : Zone} {start stop days : ℕ}

/-- Office time of one day up to a reading. -/
def passedOn (calendar : WorkCalendar) (reading day : ℕ) : ℕ :=
  if calendar.isWorkingDay day then min (calendar.closing day) reading - calendar.opening day else 0

/-- Office time of one day between two readings. -/
def ticksOnDay (calendar : WorkCalendar) (cursor stop day : ℕ) : ℕ :=
  if calendar.isWorkingDay day then
    let lo := if day = dayOf cursor then max (calendar.opening day) cursor else calendar.opening day
    let hi := if day = dayOf stop then min (calendar.closing day) stop else calendar.closing day
    hi - lo
  else 0

theorem minutesOnDay_eq : minutesOnDay calendar start stop day = ticksOnDay calendar start stop day / minute := by
  unfold minutesOnDay ticksOnDay
  split
  · rfl
  · exact (Nat.zero_div _).symm

theorem closing_lt_of_lt (before : day < dayOf reading) : calendar.closing day < reading := by
  have nextDay : (day + 1) * dayLength ≤ dayOf reading * dayLength := Nat.mul_le_mul_right _ before
  have closes := calendar.closes_lt
  have began := day_le reading
  unfold WorkCalendar.closing
  rw [Nat.add_mul, Nat.one_mul] at nextDay
  omega

theorem lt_opening_of_lt (after : dayOf reading < day) : reading < calendar.opening day := by
  have nextDay : (dayOf reading + 1) * dayLength ≤ day * dayLength := Nat.mul_le_mul_right _ after
  have ended := lt_nextDay reading
  unfold WorkCalendar.opening
  omega

theorem passedOn_add (order : start ≤ stop) (first : dayOf start ≤ day) (last : day ≤ dayOf stop) :
    passedOn calendar stop day = passedOn calendar start day + ticksOnDay calendar start stop day := by
  have before : day ≠ dayOf stop → calendar.closing day < stop :=
    fun apart => closing_lt_of_lt (Nat.lt_of_le_of_ne last apart)
  have after : day ≠ dayOf start → start < calendar.opening day :=
    fun apart => lt_opening_of_lt (Nat.lt_of_le_of_ne first (Ne.symm apart))
  unfold passedOn ticksOnDay
  generalize calendar.opening day = opens at *
  generalize calendar.closing day = closes at *
  split
  · dsimp only
    split <;> split <;> omega
  · rfl

end Mhvp.Sla
