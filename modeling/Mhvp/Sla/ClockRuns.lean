import Mhvp.Sla.Colors

namespace Mhvp.Sla

variable {zone : Zone} {calendar : WorkCalendar} {clock next : ColoredClock} {reading minutes others daysLeft : ℕ}

/-- The deadline after a pause of so many minutes, as resuming the clock sets it. -/
def moved (zone : Zone) (calendar : WorkCalendar) (due minutes : ℕ) : Option ℕ :=
  dueAt zone calendar due minutes (if minutes = 0 then .calendar else .business)

end Mhvp.Sla
