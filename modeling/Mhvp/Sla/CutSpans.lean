import Mhvp.Sla.AddedMinutes
import Mhvp.Sla.Pauses

namespace Mhvp.Sla

open List

variable {zone : Zone} {calendar : WorkCalendar} {start middle stop : ℕ}

theorem ticksOnDay_split (order : start ≤ middle) (further : middle ≤ stop) :
    ticksOnDay calendar start stop (dayOf middle) =
      ticksOnDay calendar start middle (dayOf middle) + ticksOnDay calendar middle stop (dayOf middle) := by
  have begun : dayOf start ≤ dayOf middle := Nat.div_le_div_right order
  have ended : dayOf middle ≤ dayOf stop := Nat.div_le_div_right further
  have whole : passedOn calendar stop (dayOf middle) = _ := passedOn_add (order.trans further) begun ended
  have first : passedOn calendar middle (dayOf middle) = _ := passedOn_add order begun (le_refl _)
  have second : passedOn calendar stop (dayOf middle) = _ := passedOn_add further (le_refl _) ended
  omega

/-- A minute where the parts of minutes that a span cut at `middle` leaves on that day make up one. -/
def cutMinute (calendar : WorkCalendar) (start middle stop : ℕ) : ℕ :=
  if minute ≤ ticksOnDay calendar start middle (dayOf middle) % minute + ticksOnDay calendar middle stop (dayOf middle) % minute
  then 1 else 0

theorem minutesBetweenLocal_split (order : start ≤ middle) (further : middle ≤ stop) :
    minutesBetweenLocal calendar start stop = minutesBetweenLocal calendar start middle +
      minutesBetweenLocal calendar middle stop + cutMinute calendar start middle stop := by
  obtain ⟨early, isEarly⟩ := Nat.exists_eq_add_of_le (show dayOf start ≤ dayOf middle from Nat.div_le_div_right order)
  obtain ⟨late, isLate⟩ := Nat.exists_eq_add_of_le (show dayOf middle ≤ dayOf stop from Nat.div_le_div_right further)
  have sameEarly : (range' (dayOf start) early).map (minutesOnDay calendar start stop) =
      (range' (dayOf start) early).map (minutesOnDay calendar start middle) := by
    apply map_congr_left
    intro day member
    have inside := mem_range'_1.mp member
    unfold minutesOnDay
    rw [if_neg (show day ≠ dayOf stop by omega), if_neg (show day ≠ dayOf middle by omega)]
  have sameLate : (range' (dayOf middle + 1) late).map (minutesOnDay calendar start stop) =
      (range' (dayOf middle + 1) late).map (minutesOnDay calendar middle stop) := by
    apply map_congr_left
    intro day member
    have inside := mem_range'_1.mp member
    unfold minutesOnDay
    rw [if_neg (show day ≠ dayOf start by omega), if_neg (show day ≠ dayOf middle by omega)]
  have onDay := Nat.add_div (a := ticksOnDay calendar start middle (dayOf middle))
    (b := ticksOnDay calendar middle stop (dayOf middle)) (show 0 < minute by decide)
  rw [← ticksOnDay_split order further, ← minutesOnDay_eq, ← minutesOnDay_eq, ← minutesOnDay_eq] at onDay
  have all : range' (dayOf start) (dayOf stop + 1 - dayOf start) =
      range' (dayOf start) early ++ dayOf middle :: range' (dayOf middle + 1) late := by
    rw [show dayOf stop + 1 - dayOf start = early + (late + 1) by omega, ← range'_append_1, ← isEarly, range'_succ]
  have upTo : range' (dayOf start) (dayOf middle + 1 - dayOf start) = range' (dayOf start) early ++ [dayOf middle] := by
    rw [show dayOf middle + 1 - dayOf start = early + 1 by omega, ← range'_append_1, ← isEarly, range'_one]
  have from' : range' (dayOf middle) (dayOf stop + 1 - dayOf middle) = dayOf middle :: range' (dayOf middle + 1) late := by
    rw [show dayOf stop + 1 - dayOf middle = late + 1 by omega, range'_succ]
  unfold minutesBetweenLocal
  rw [all, upTo, from']
  simp only [map_append, map_cons, map_nil, sum_append, sum_cons, sum_nil, sameEarly, sameLate, onDay]
  unfold cutMinute
  omega

/-- Office minutes counted in two parts are those of the whole, but for a minute lost to the cut. -/
theorem businessMinutesBetween_split (before : start < middle) (after : middle < stop)
    (order : zone.toLocal start ≤ zone.toLocal middle) (further : zone.toLocal middle ≤ zone.toLocal stop) :
    businessMinutesBetween zone calendar start stop =
      businessMinutesBetween zone calendar start middle + businessMinutesBetween zone calendar middle stop +
        cutMinute calendar (zone.toLocal start) (zone.toLocal middle) (zone.toLocal stop) := by
  unfold businessMinutesBetween
  rw [if_neg (by omega), if_neg (by omega), if_neg (by omega)]
  exact minutesBetweenLocal_split order further

theorem half_minutes_split : businessMinutesBetween (Zone.ahead (120 * minute)) {} (sampleMoment 0 14)
    (sampleMoment 0 14 + minute) = 0 + 0 + 1 :=
  (businessMinutesBetween_split (show _ < sampleMoment 0 14 + minute / 2 by decide) (by decide) (by decide)
    (by decide)).trans (by decide +kernel)

end Mhvp.Sla
