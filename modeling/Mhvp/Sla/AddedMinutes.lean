import Mhvp.Sla.OfficeTime

namespace Mhvp.Sla

variable {calendar : WorkCalendar} {reading later start stop result other day minutes others daysLeft daysLater : ℕ}

/-- `business_minutes_between` on the wall clock. -/
def minutesBetweenLocal (calendar : WorkCalendar) (cursor stop : ℕ) : ℕ :=
  ((List.range' (dayOf cursor) (dayOf stop + 1 - dayOf cursor)).map (minutesOnDay calendar cursor stop)).sum

/-- Office time up to the last day. -/
def officeLeft (calendar : WorkCalendar) : ℕ → ℕ → ℕ
  | 0, _ => 0
  | daysLeft + 1, reading =>
    room calendar reading + officeLeft calendar daysLeft (calendar.opening (dayOf reading + 1))

/-- Whole minutes of the windows up to the last day. -/
def minutesLeft (calendar : WorkCalendar) : ℕ → ℕ → ℕ
  | 0, _ => 0
  | daysLeft + 1, reading =>
    room calendar reading / minute + minutesLeft calendar daysLeft (calendar.opening (dayOf reading + 1))

theorem officeLeft_pos (some : 0 < minutesLeft calendar daysLeft reading) : 0 < officeLeft calendar daysLeft reading := by
  induction daysLeft generalizing reading with
  | zero => cases some
  | succ daysLeft ih =>
    rw [minutesLeft] at some
    rw [officeLeft]
    rcases Nat.eq_zero_or_pos (room calendar reading) with closed | notClosed
    · rw [closed, Nat.zero_div, Nat.zero_add] at some
      have rest := ih some
      omega
    · omega

/-- Minutes can be added exactly if an office window comes and the windows up to the last day hold them. -/
theorem addOnDays_isSome : (addOnDays calendar daysLeft reading minutes).isSome ↔
    0 < officeLeft calendar daysLeft reading ∧ minutes ≤ minutesLeft calendar daysLeft reading := by
  induction daysLeft generalizing reading minutes with
  | zero => simp [addOnDays, officeLeft]
  | succ daysLeft ih =>
    rw [addOnDays_succ, officeLeft, minutesLeft]
    split
    · rename_i fits
      simp only [Option.isSome_some, true_iff]
      omega
    · rename_i past
      rw [ih]
      have rest : 0 < minutesLeft calendar daysLeft (calendar.opening (dayOf reading + 1)) →
          0 < officeLeft calendar daysLeft (calendar.opening (dayOf reading + 1)) := officeLeft_pos
      have none : room calendar reading = 0 → room calendar reading / minute = 0 := fun none => by rw [none]; rfl
      omega

/-- No office hour lies between two readings. -/
def Closed (calendar : WorkCalendar) (first last : ℕ) : Prop :=
  ∀ reading, first ≤ reading → reading ≤ last → ¬ InWindow calendar reading

variable {zone : Zone} {due : ℕ}

/-- No office hour is skipped or repeated when the clock of the zone is changed. -/
structure Zone.Undisturbed (zone : Zone) (calendar : WorkCalendar) : Prop where
  reads : ∀ reading, InWindow calendar reading → zone.toLocal (zone.toUtc reading) = reading
  forward : ∀ first second, first ≤ second → zone.toLocal second < zone.toLocal first →
    Closed calendar (zone.toLocal second) (zone.toLocal first)

/-- Office time comes before the last day, and enough of it. -/
def EnoughTime (zone : Zone) (calendar : WorkCalendar) (start minutes : ℕ) : Prop :=
  let reading := zone.toLocal start
  0 < officeLeft calendar (lastDay + 1 - dayOf reading) reading ∧
    minutes ≤ minutesLeft calendar (lastDay + 1 - dayOf reading) reading

theorem addBusinessMinutes_isSome :
    (∃ due, addBusinessMinutes zone calendar start minutes = some due) ↔ EnoughTime zone calendar start minutes := by
  rw [← Option.isSome_iff_exists, addBusinessMinutes, Option.isSome_map, addBusinessMinutesLocal, addOnDays_isSome]
  exact Iff.rfl

namespace Zone.Undisturbed

section

variable (undisturbed : zone.Undisturbed calendar)
include undisturbed

theorem ahead (inWindow : InWindow calendar reading)
    (later : zone.toLocal start < reading) : start < zone.toUtc reading := by
  by_contra before
  have isRead := undisturbed.reads reading inWindow
  have closed := undisturbed.forward (zone.toUtc reading) start (Nat.le_of_not_lt before)
  rw [isRead] at closed
  exact closed later reading (Nat.le_of_lt later) (le_refl _) inWindow

end

end Zone.Undisturbed

end Mhvp.Sla
