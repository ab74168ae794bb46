import Mhvp.Core.Problem
import Mhvp.Sla.AddedMinutes

namespace Mhvp.Sla

open Core

/-- A time of day, in microseconds. -/
abbrev TimeOfDay := { ticks : ℕ // ticks < dayLength }

/-- Body of `put_calendar`. -/
structure CalendarIn where
  weekdays : List ℤ := [0, 1, 2, 3, 4]
  opensAt : String := "08:00"
  closesAt : String := "16:30"
  timezone : String := "Europe/Berlin"
  holidays : List String := []

/-- A row of `sla_work_calendar`. -/
structure StoredCalendar extends WorkCalendar where
  timezone : String := "Europe/Berlin"

/-- `put_calendar`, with `time.fromisoformat` and the length of the column. -/
def putCalendar (fromIso : String → Option TimeOfDay) (body : CalendarIn) : Result StoredCalendar := do
  let opens ← orRefuse (fromIso body.opensAt) .validation "Uhrzeit im Format HH:MM erwartet."
  let closes ← orRefuse (fromIso body.closesAt) .validation "Uhrzeit im Format HH:MM erwartet."
  require (∀ day ∈ body.weekdays, 0 ≤ day ∧ day ≤ 6) .validation "Wochentage 0 (Montag) bis 6 (Sonntag)."
  require (body.timezone.length ≤ 64) .databaseRefused
  pure {
    weekdays := body.weekdays.map Int.toNat, opensAt := opens.val, closesAt := closes.val, holidays := body.holidays
    timezone := body.timezone, opens_lt := opens.property, closes_lt := closes.property }

/-- `calendar.timezone or "Europe/Berlin"` -/
def StoredCalendar.zoneName (calendar : StoredCalendar) : String :=
  if calendar.timezone = "" then "Europe/Berlin" else calendar.timezone

/-- `add_business_minutes` on a stored calendar: a zone that the database does not know is an error. -/
def StoredCalendar.addMinutes (zoneInfo : String → Option Zone) (calendar : StoredCalendar) (start minutes : ℕ) :
    Option ℕ := do
  let zone ← zoneInfo calendar.zoneName
  addBusinessMinutes zone calendar.toWorkCalendar start minutes

/-- What a day has left of its window after a reading. -/
def openOn (calendar : WorkCalendar) (reading day : ℕ) : ℕ :=
  if calendar.isWorkingDay day then calendar.closing day - max reading (calendar.opening day) else 0

/-- The days that are left from the day of a reading on. -/
def daysFrom (reading : ℕ) : List ℕ := List.range' (dayOf reading) (lastDay + 1 - dayOf reading)

variable {calendar : WorkCalendar} {stored : StoredCalendar} {body : CalendarIn} {fromIso : String → Option TimeOfDay}
  {zoneInfo : String → Option Zone} {zone : Zone} {reading later day days start minutes : ℕ}

theorem openOn_opening (after : dayOf reading < day) :
    openOn calendar (calendar.opening (dayOf reading + 1)) day = openOn calendar reading day := by
  have opens : calendar.opening (dayOf reading + 1) ≤ calendar.opening day :=
    Nat.add_le_add_right (Nat.mul_le_mul_right _ after) _
  unfold openOn
  rw [max_eq_right opens, max_eq_right (Nat.le_of_lt (lt_opening_of_lt after))]

theorem sum_openOn_succ (part : ℕ → ℕ) (calendar : WorkCalendar) (reading days : ℕ) :
    ((List.range' (dayOf reading) (days + 1)).map fun day => part (openOn calendar reading day)).sum =
      part (room calendar reading) + ((List.range' (dayOf reading + 1) days).map fun day =>
        part (openOn calendar (calendar.opening (dayOf reading + 1)) day)).sum := by
  rw [List.range'_succ, List.map_cons, List.sum_cons]
  congr 2
  apply List.map_congr_left
  intro day member
  rw [openOn_opening (List.mem_range'_1.mp member).1]

theorem officeLeft_sum : officeLeft calendar days reading =
    ((List.range' (dayOf reading) days).map fun day => openOn calendar reading day).sum := by
  induction days generalizing reading with
  | zero => rfl
  | succ days ih =>
    rw [sum_openOn_succ fun left => left, officeLeft, ih, dayOf_opening]

theorem minutesLeft_sum : minutesLeft calendar days reading =
    ((List.range' (dayOf reading) days).map fun day => openOn calendar reading day / minute).sum := by
  induction days generalizing reading with
  | zero => rfl
  | succ days ih =>
    rw [sum_openOn_succ fun left => left / minute, minutesLeft, ih, dayOf_opening]

/-- A window is left on one of the days, and the windows of the days hold the minutes. -/
structure HoldsMinutes (calendar : WorkCalendar) (reading minutes : ℕ) : Prop where
  opens : ∃ day ∈ daysFrom reading, 0 < openOn calendar reading day
  enough : minutes ≤ ((daysFrom reading).map fun day => openOn calendar reading day / minute).sum

theorem enoughTime_iff : EnoughTime zone calendar start minutes ↔ HoldsMinutes calendar (zone.toLocal start) minutes := by
  unfold EnoughTime
  dsimp only
  rw [officeLeft_sum, minutesLeft_sum]
  have positive : 0 < ((daysFrom (zone.toLocal start)).map fun day => openOn calendar (zone.toLocal start) day).sum ↔
      ∃ day ∈ daysFrom (zone.toLocal start), 0 < openOn calendar (zone.toLocal start) day := by
    rw [Nat.pos_iff_ne_zero, Ne, List.sum_eq_zero_iff]
    simp only [List.mem_map, forall_exists_index, and_imp, forall_apply_eq_imp_iff₂]
    push Not
    simp only [Nat.pos_iff_ne_zero]
  constructor
  · intro enough
    exact ⟨positive.mp enough.1, enough.2⟩
  · intro holds
    exact ⟨positive.mpr holds.opens, holds.enough⟩

theorem HoldsMinutes.working (holds : HoldsMinutes calendar reading minutes) :
    ∃ day, calendar.isWorkingDay day ∧ calendar.opensAt < calendar.closesAt := by
  obtain ⟨day, -, left⟩ := holds.opens
  unfold openOn WorkCalendar.opening WorkCalendar.closing at left
  split at left
  · rename_i working
    exact ⟨day, working, by omega⟩
  · exact absurd left (Nat.lt_irrefl 0)

namespace StoredCalendar

theorem addMinutes_iff (stored : StoredCalendar) (zoneInfo : String → Option Zone) (start minutes : ℕ) :
    (∃ due, stored.addMinutes zoneInfo start minutes = some due) ↔
      ∃ zone, zoneInfo stored.zoneName = some zone ∧
        HoldsMinutes stored.toWorkCalendar (zone.toLocal start) minutes := by
  unfold addMinutes
  constructor
  · intro found
    obtain ⟨due, isDue⟩ := found
    obtain ⟨zone, isZone, added⟩ := Option.bind_eq_some_iff.mp isDue
    exact ⟨zone, isZone, enoughTime_iff.mp (addBusinessMinutes_isSome.mp ⟨due, added⟩)⟩
  · intro found
    obtain ⟨zone, isZone, holds⟩ := found
    obtain ⟨due, added⟩ := addBusinessMinutes_isSome.mpr (enoughTime_iff.mpr holds)
    exact ⟨due, Option.bind_eq_some_iff.mpr ⟨zone, isZone, added⟩⟩

/-- Without weekdays, or where the office closes no later than it opens, no time is ever due. -/
theorem addMinutes_never (never : stored.weekdays = [] ∨ stored.closesAt ≤ stored.opensAt)
    (zoneInfo : String → Option Zone) (start minutes : ℕ) : stored.addMinutes zoneInfo start minutes = none := by
  by_contra found
  obtain ⟨zone, -, holds⟩ := (stored.addMinutes_iff zoneInfo start minutes).mp (Option.ne_none_iff_exists'.mp found)
  obtain ⟨day, working, opensFirst⟩ := holds.working
  rcases never with noDays | reversed
  · unfold WorkCalendar.isWorkingDay at working
    rw [noDays, decide_eq_true_eq] at working
    exact absurd working.1 List.not_mem_nil
  · exact absurd opensFirst (not_lt.mpr reversed)

end StoredCalendar

/-- A stored calendar gives a due time exactly where its zone is known and the days up to the last one of the calendar have
a window left, and windows for the minutes. The endpoint also stores calendars that never do. -/
theorem put_calendar_due_iff (accepted : putCalendar fromIso body = .ok stored) (zoneInfo : String → Option Zone) :
    (∀ start minutes, (∃ due, stored.addMinutes zoneInfo start minutes = some due) ↔
      ∃ zone, zoneInfo stored.zoneName = some zone ∧
        HoldsMinutes stored.toWorkCalendar (zone.toLocal start) minutes) ∧
      ((body.weekdays = [] ∨ ∃ opens ∈ fromIso body.opensAt, ∃ closes ∈ fromIso body.closesAt, closes ≤ opens) →
        ∀ start minutes, stored.addMinutes zoneInfo start minutes = none) := by
  refine ⟨stored.addMinutes_iff zoneInfo, ?_⟩
  intro never
  apply StoredCalendar.addMinutes_never
  unfold putCalendar at accepted
  simp only [bind_ok, orRefuse_ok, require_ok, exists_unit, pure_ok] at accepted
  obtain ⟨opens, isOpens, closes, isCloses, -, -, rfl⟩ := accepted
  rcases never with noDays | reversed
  · left
    dsimp only
    rw [noDays]
    rfl
  · right
    obtain ⟨first, isFirst, last, isLast, order⟩ := reversed
    rw [isOpens, Option.mem_some_iff] at isFirst
    rw [isCloses, Option.mem_some_iff] at isLast
    rw [← isFirst, ← isLast] at order
    exact order

/-- Times in the format the endpoint asks for. -/
def hourMinute (text : String) : Option TimeOfDay :=
  match text.toList.map fun digit => digit.toNat - '0'.toNat with
  | [tens, ones, _, sixths, units] =>
    let ticks := ((tens * 10 + ones) * 60 + sixths * 10 + units) * minute
    if within' : ticks < dayLength then some ⟨ticks, within'⟩ else none
  | _ => none

/-- Monday to Friday, as the endpoint stores it by default. -/
def storedDefault : StoredCalendar where
  holidays := []

theorem storedDefault_holds : HoldsMinutes storedDefault.toWorkCalendar (739884 * dayLength + 960 * minute) 600 := by
  have accepted : putCalendar hourMinute {} = .ok storedDefault := by rfl
  have due := ((put_calendar_due_iff accepted fun _ => some (Zone.ahead (120 * minute))).1
    (739884 * dayLength + 840 * minute) 600).mp ⟨739888 * dayLength + 420 * minute, by decide +kernel⟩
  obtain ⟨zone, isZone, holds⟩ := due
  cases isZone
  exact holds

/-- A calendar without weekdays, and one that opens at six in the evening and closes at eight in the morning. -/
theorem no_window_stored :
    (∃ stored, putCalendar hourMinute { weekdays := [] } = .ok stored ∧
      ∀ zoneInfo start minutes, stored.addMinutes zoneInfo start minutes = none) ∧
    ∃ stored, putCalendar hourMinute { opensAt := "18:00", closesAt := "08:00" } = .ok stored ∧
      ∀ zoneInfo start minutes, stored.addMinutes zoneInfo start minutes = none := by
  constructor
  · exact ⟨_, rfl, StoredCalendar.addMinutes_never (.inl rfl)⟩
  · exact ⟨_, rfl, StoredCalendar.addMinutes_never (.inr (by decide))⟩

end Mhvp.Sla
