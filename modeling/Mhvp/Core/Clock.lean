import Mhvp.Lib.Calendar

namespace Mhvp.Core

open Lib.Calendar

/-- Seconds of UTC since the day before 0001-01-01. -/
abbrev Instant := ℕ

def secondsPerDay : ℕ := 86400

namespace Instant

def utcDate (moment : Instant) : Date := ⟨moment / secondsPerDay⟩

/-- `datetime.combine(date, datetime.min.time(), tzinfo=UTC)` -/
def startOfUtcDay (date : Date) : Instant := date.ordinal * secondsPerDay

end Instant

/-- A time zone of the database of time zones: the local day of every moment. -/
structure TimeZone where
  localDate : Instant → Date
  mono : Monotone localDate

/-- A zone with a fixed lead over UTC, as Berlin in winter. -/
def TimeZone.ahead (seconds : ℕ) : TimeZone where
  localDate moment := Instant.utcDate (moment + seconds)
  mono first second before := by
    rw [Date.le_def]
    exact Nat.div_le_div_right (Nat.add_le_add_right before seconds)

end Mhvp.Core
