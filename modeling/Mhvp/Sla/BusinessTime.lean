import Mhvp.Core.Decimal

/-! Office hours of a tenant. -/

namespace Mhvp.Sla

open Core Lib.Calendar

def minute : ℕ := 60000000
def dayLength : ℕ := 1440 * minute

/-- `date.max`; a day after it raises `OverflowError`. -/
def lastDay : ℕ := 3652059

/-- A zone of the time zone database: `astimezone` to it, and back to UTC. -/
structure Zone where
  toLocal : ℕ → ℕ
  toUtc : ℕ → ℕ

/-- A zone whose clock is never changed, `lead` ahead of UTC. -/
def Zone.ahead (lead : ℕ) : Zone where
  toLocal moment := moment + lead
  toUtc reading := reading - lead

theorem morning_lt : 8 * 60 * minute < dayLength := by decide

theorem afternoon_lt : (16 * 60 + 30) * minute < dayLength := by decide

structure WorkCalendar where
  /-- 0 is Monday. -/
  weekdays : List ℕ := [0, 1, 2, 3, 4]
  opensAt : ℕ := 8 * 60 * minute
  closesAt : ℕ := (16 * 60 + 30) * minute
  /-- `date.isoformat()` -/
  holidays : List String := []
  opens_lt : opensAt < dayLength := by first | exact morning_lt | decide
  closes_lt : closesAt < dayLength := by first | exact afternoon_lt | decide

def isoText (day : Date) : String :=
  padded 4 day.year ++ "-" ++ padded 2 day.month ++ "-" ++ padded 2 day.day

def weekday (day : ℕ) : ℕ := (day + 6) % 7

def dayOf (reading : ℕ) : ℕ := reading / dayLength

namespace WorkCalendar

/-- `_is_working_day` -/
def isWorkingDay (calendar : WorkCalendar) (day : ℕ) : Bool :=
  weekday day ∈ calendar.weekdays ∧ isoText ⟨day⟩ ∉ calendar.holidays

/-- Start of `_window`: `datetime.combine(day, calendar.opens_at)`. -/
def opening (calendar : WorkCalendar) (day : ℕ) : ℕ := day * dayLength + calendar.opensAt

/-- End of `_window`. -/
def closing (calendar : WorkCalendar) (day : ℕ) : ℕ := day * dayLength + calendar.closesAt

end WorkCalendar

/-- The loop of `add_business_minutes`, with the days left; none when they run out. -/
def addOnDays (calendar : WorkCalendar) : ℕ → ℕ → ℕ → Option ℕ
  | 0, _, _ => none
  | daysLeft + 1, cursor, remaining =>
    let day := dayOf cursor
    let nextOpening := calendar.opening (day + 1)
    if calendar.isWorkingDay day then
      let start := max cursor (calendar.opening day)
      if calendar.closing day ≤ start then addOnDays calendar daysLeft nextOpening remaining
      else
        let available := (calendar.closing day - start) / minute
        if remaining ≤ available then some (start + remaining * minute)
        else addOnDays calendar daysLeft nextOpening (remaining - available)
    else addOnDays calendar daysLeft nextOpening remaining

/-- `add_business_minutes` on the wall clock. -/
def addBusinessMinutesLocal (calendar : WorkCalendar) (start : ℕ) (minutes : ℕ) : Option ℕ :=
  addOnDays calendar (lastDay + 1 - dayOf start) start minutes

def addBusinessMinutes (zone : Zone) (calendar : WorkCalendar) (start : ℕ) (minutes : ℕ) : Option ℕ :=
  (addBusinessMinutesLocal calendar (zone.toLocal start) minutes).map zone.toUtc

/-- Whole minutes of the window of one day that lie between two readings. -/
def minutesOnDay (calendar : WorkCalendar) (cursor stop : ℕ) (day : ℕ) : ℕ :=
  if calendar.isWorkingDay day then
    let lo := if day = dayOf cursor then max (calendar.opening day) cursor else calendar.opening day
    let hi := if day = dayOf stop then min (calendar.closing day) stop else calendar.closing day
    (hi - lo) / minute
  else 0

def businessMinutesBetween (zone : Zone) (calendar : WorkCalendar) (start stop : ℕ) : ℕ :=
  if stop ≤ start then 0
  else
    let cursor := zone.toLocal start
    let last := zone.toLocal stop
    ((List.range' (dayOf cursor) (dayOf last + 1 - dayOf cursor)).map (minutesOnDay calendar cursor last)).sum

inductive ClockType
  | business
  | calendar
  deriving DecidableEq

inductive ClockState
  | running
  | paused
  | breached
  | done
  deriving DecidableEq

structure SlaRule where
  responseMinutes : ℕ
  resolutionMinutes : ℕ
  clockType : ClockType := .business
  deriving DecidableEq

structure SlaClock where
  rule : Option SlaRule
  startedAt : ℕ
  pausedAt : Option ℕ := none
  pausedMinutesTotal : ℕ := 0
  dueResponseAt : Option ℕ := none
  dueResolutionAt : Option ℕ := none
  state : ClockState := .running
  /-- Events of its log. -/
  log : List String := []
  deriving DecidableEq

/-- `_due_at`; none past the last day of the calendar. -/
def dueAt (zone : Zone) (calendar : WorkCalendar) (start minutes : ℕ) : ClockType → Option ℕ
  | .calendar => some (start + minutes * minute)
  | .business => addBusinessMinutes zone calendar start minutes

/-- The clock of a new ticket; without a rule it has no deadlines. -/
def startClock (zone : Zone) (calendar : WorkCalendar) (rule : Option SlaRule) (now : ℕ) : Option SlaClock :=
  match rule with
  | none => some { rule := none, startedAt := now, log := ["started"] }
  | some rule => do
      let response ← dueAt zone calendar now rule.responseMinutes rule.clockType
      let resolution ← dueAt zone calendar now rule.resolutionMinutes rule.clockType
      return { rule, startedAt := now, dueResponseAt := response, dueResolutionAt := resolution, log := ["started"] }

end Mhvp.Sla
