import Mhvp.Sla.OfficeTime

namespace Mhvp.Sla

variable {zone : Zone} {calendar : WorkCalendar} {clock after : SlaClock} {rule : SlaRule} {due paused resumed : ℕ}

/-- Time left to the deadline, negative past it. -/
def remaining (zone : Zone) (calendar : WorkCalendar) (now due : ℕ) : ClockType → ℤ
  | .calendar => due - now
  | .business => officeUpTo calendar (zone.toLocal due) - officeUpTo calendar (zone.toLocal now)

section

variable (running : clock.state = .running) (ofRule : clock.rule = some rule) (isDue : clock.dueResolutionAt = some due)
include running ofRule isDue

end

/-- An hour of the wall clock, by the day counted from Monday 2026-09-21. -/
def sampleMoment (day hour : ℕ) : ℕ := (739880 + day) * dayLength + hour * 60 * minute - 120 * minute

end Mhvp.Sla
