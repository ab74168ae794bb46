import Mhvp.Core.Floats
import Mhvp.Sla.AddedMinutes

namespace Mhvp.Sla

open Core List

inductive SlaColor
  | green
  | yellow
  | red
  deriving DecidableEq

def SlaColor.rankValue : SlaColor → ℕ
  | .green => 0
  | .yellow => 1
  | .red => 2

structure ColoredClock extends SlaClock where
  firstResponseAt : Option ℕ := none
  resolvedAt : Option ℕ := none
  color : SlaColor := .green

def warnPercent : ℕ := 50

/-- `business_minutes_between(...) or 1` -/
def elapsedTarget (zone : Zone) (calendar : WorkCalendar) (started due : ℕ) : ℕ :=
  let minutes := businessMinutesBetween zone calendar started due
  if minutes = 0 then 1 else minutes

def elapsedNow (zone : Zone) (calendar : WorkCalendar) (started now due : ℕ) : ℕ :=
  businessMinutesBetween zone calendar started (min now due)

/-- `(elapsed_now / elapsed_target) * 100 >= WARN_PERCENT` -/
def warns (zone : Zone) (calendar : WorkCalendar) (started now due : ℕ) : Bool :=
  Binary64.reachesPercent (elapsedNow zone calendar started now due) (elapsedTarget zone calendar started due) warnPercent

def deadlineColor (zone : Zone) (calendar : WorkCalendar) (started now due : ℕ) : SlaColor :=
  if due ≤ now then .red else if warns zone calendar started now due then .yellow else .green

def SlaColor.worse (worst color : SlaColor) : SlaColor := if worst.rankValue < color.rankValue then color else worst

/-- The two deadlines, as far as they are set and not met. -/
def ColoredClock.openDeadlines (clock : ColoredClock) : List ℕ :=
  (if clock.firstResponseAt = none then clock.dueResponseAt.toList else []) ++
    if clock.resolvedAt = none then clock.dueResolutionAt.toList else []

/-- `recompute_color` -/
def recomputeColor (zone : Zone) (calendar : WorkCalendar) (now : ℕ) (clock : ColoredClock) : ColoredClock :=
  if clock.state = .done then { clock with color := .green }
  else
    let worst := (clock.openDeadlines.map (deadlineColor zone calendar clock.startedAt now)).foldl SlaColor.worse .green
    { clock with
      color := worst
      state := if worst = .red ∧ clock.state = .running then .breached else clock.state }

/-- Time type of the rule of the clock. -/
def ColoredClock.ownType (clock : ColoredClock) : ClockType := (clock.rule.map SlaRule.clockType).getD .business

/-- Time from one moment to another, in the time type: wall time or office minutes. -/
def passedTime (zone : Zone) (calendar : WorkCalendar) (started stop : ℕ) : ClockType → ℕ
  | .calendar => stop - started
  | .business => businessMinutesBetween zone calendar started stop

/-- The warning share of the time to the deadline has passed; a deadline without any time has one unit. -/
def ShareElapsed (zone : Zone) (calendar : WorkCalendar) (type : ClockType) (started now due : ℕ) : Prop :=
  warnPercent * max 1 (passedTime zone calendar started due type) ≤
    100 * passedTime zone calendar started (min now due) type

/-- The open deadlines of a clock that is not done. -/
def ColoredClock.pending (clock : ColoredClock) : List ℕ := if clock.state = .done then [] else clock.openDeadlines

def ColoredClock.Passed (clock : ColoredClock) (now : ℕ) : Prop := ∃ due ∈ clock.pending, due ≤ now

def ColoredClock.Warned (zone : Zone) (calendar : WorkCalendar) (clock : ColoredClock) (now : ℕ) : Prop :=
  ∃ due ∈ clock.pending, warns zone calendar clock.startedAt now due

/-- Red where a deadline has passed; yellow where none has, but the warning share of one in the own time of the clock. -/
structure ColorRight (zone : Zone) (calendar : WorkCalendar) (clock : ColoredClock) (now : ℕ) (color : SlaColor) : Prop where
  red : color = .red ↔ clock.Passed now
  yellow : color = .yellow ↔ ¬ clock.Passed now ∧
    ∃ due ∈ clock.pending, ShareElapsed zone calendar clock.ownType clock.startedAt now due

variable {zone laterZone : Zone} {calendar laterCalendar : WorkCalendar} {clock : ColoredClock} {colors : List SlaColor}
  {worst : SlaColor} {started now later due start stop reading : ℕ}

theorem foldl_worse (colors : List SlaColor) (worst : SlaColor) :
    colors.foldl SlaColor.worse worst ∈ worst :: colors ∧
      ∀ color ∈ worst :: colors, color.rankValue ≤ (colors.foldl SlaColor.worse worst).rankValue := by
  induction colors generalizing worst with
  | nil =>
    refine ⟨mem_cons_self, ?_⟩
    intro color member
    rw [mem_singleton.mp member]
    exact le_refl _
  | cons color rest ih =>
    rw [foldl_cons]
    obtain ⟨isOne, most⟩ := ih (worst.worse color)
    have ofBoth : worst.worse color = worst ∨ worst.worse color = color := by
      unfold SlaColor.worse
      split
      · exact .inr rfl
      · exact .inl rfl
    have noLess : worst.rankValue ≤ (worst.worse color).rankValue ∧ color.rankValue ≤ (worst.worse color).rankValue := by
      unfold SlaColor.worse
      split <;> omega
    have reached := most _ mem_cons_self
    constructor
    · rcases mem_cons.mp isOne with isFirst | isRest
      · rcases ofBoth with same | same
        · rw [isFirst, same]
          exact mem_cons_self
        · rw [isFirst, same]
          exact mem_cons_of_mem _ mem_cons_self
      · exact mem_cons_of_mem _ (mem_cons_of_mem _ isRest)
    · intro other member
      rcases mem_cons.mp member with rfl | isRest
      · exact noLess.1.trans reached
      · rcases mem_cons.mp isRest with rfl | isLater
        · exact noLess.2.trans reached
        · exact most other (mem_cons_of_mem _ isLater)

theorem worst_red : colors.foldl SlaColor.worse .green = .red ↔ .red ∈ colors := by
  obtain ⟨isOne, most⟩ := foldl_worse colors .green
  constructor
  · intro isRed
    rw [isRed] at isOne
    exact (mem_cons.mp isOne).resolve_left (by decide)
  · intro member
    have reached := most .red (mem_cons_of_mem _ member)
    cases isWorst : colors.foldl SlaColor.worse .green with
    | red => rfl
    | yellow | green =>
      rw [isWorst] at reached
      exact absurd reached (by decide)

theorem worst_yellow : colors.foldl SlaColor.worse .green = .yellow ↔ .red ∉ colors ∧ .yellow ∈ colors := by
  obtain ⟨isOne, most⟩ := foldl_worse colors .green
  constructor
  · intro isYellow
    refine ⟨fun isRed => ?_, ?_⟩
    · rw [worst_red.mpr isRed] at isYellow
      cases isYellow
    · rw [isYellow] at isOne
      exact (mem_cons.mp isOne).resolve_left (by decide)
  · intro found
    have reached := most .yellow (mem_cons_of_mem _ found.2)
    cases isWorst : colors.foldl SlaColor.worse .green with
    | red => exact absurd (worst_red.mp isWorst) found.1
    | yellow => rfl
    | green =>
      rw [isWorst] at reached
      exact absurd reached (by decide)

theorem recomputeColor_color : (recomputeColor zone calendar now clock).color =
    (clock.pending.map (deadlineColor zone calendar clock.startedAt now)).foldl SlaColor.worse .green := by
  unfold recomputeColor ColoredClock.pending
  split <;> rfl

theorem recomputeColor_pending : (recomputeColor zone calendar now clock).pending = clock.pending := by
  unfold recomputeColor ColoredClock.pending
  by_cases isDone : clock.state = .done
  · rw [if_pos isDone]
    dsimp only
    rw [if_pos isDone, if_pos isDone]
  · rw [if_neg isDone, if_neg isDone]
    dsimp only
    rw [if_neg]
    · rfl
    · split
      · exact fun breached => nomatch breached
      · exact isDone

theorem recomputeColor_startedAt : (recomputeColor zone calendar now clock).startedAt = clock.startedAt := by
  unfold recomputeColor
  split <;> rfl

theorem deadlineColor_red : deadlineColor zone calendar started now due = .red ↔ due ≤ now := by
  unfold deadlineColor
  by_cases passed : due ≤ now
  · simp [passed]
  · rw [if_neg passed]
    split <;> simp [passed]

theorem deadlineColor_yellow :
    deadlineColor zone calendar started now due = .yellow ↔ ¬ due ≤ now ∧ warns zone calendar started now due := by
  unfold deadlineColor
  by_cases passed : due ≤ now
  · simp [passed]
  · rw [if_neg passed]
    split <;> simp_all

theorem color_red : (recomputeColor zone calendar now clock).color = .red ↔ clock.Passed now := by
  rw [recomputeColor_color, worst_red, mem_map]
  constructor
  · intro found
    obtain ⟨due, member, isRed⟩ := found
    exact ⟨due, member, deadlineColor_red.mp isRed⟩
  · intro found
    obtain ⟨due, member, passed⟩ := found
    exact ⟨due, member, deadlineColor_red.mpr passed⟩

theorem color_yellow : (recomputeColor zone calendar now clock).color = .yellow ↔
    ¬ clock.Passed now ∧ clock.Warned zone calendar now := by
  rw [← color_red, recomputeColor_color, worst_yellow, worst_red]
  apply and_congr_right
  intro notRed
  rw [mem_map]
  constructor
  · intro found
    obtain ⟨due, member, isYellow⟩ := found
    exact ⟨due, member, (deadlineColor_yellow.mp isYellow).2⟩
  · intro found
    obtain ⟨due, member, isWarned⟩ := found
    refine ⟨due, member, deadlineColor_yellow.mpr ⟨fun passed => ?_, isWarned⟩⟩
    exact notRed (mem_map.mpr ⟨due, member, deadlineColor_red.mpr passed⟩)

/-- The code counts office minutes: the colour is right where a deadline has passed or that makes no difference. -/
theorem colorRight_iff : ColorRight zone calendar clock now (recomputeColor zone calendar now clock).color ↔
    clock.Passed now ∨ (clock.Warned zone calendar now ↔
      ∃ due ∈ clock.pending, ShareElapsed zone calendar clock.ownType clock.startedAt now due) := by
  constructor
  · intro right
    by_cases passed : clock.Passed now
    · exact .inl passed
    · have sameYellow := color_yellow.symm.trans right.yellow
      simp only [passed, not_false_eq_true, true_and] at sameYellow
      exact .inr sameYellow
  · intro condition
    refine ⟨color_red, color_yellow.trans ?_⟩
    apply and_congr_right
    intro notPassed
    exact condition.resolve_left notPassed

theorem ColoredClock.Passed.mono (order : now ≤ later) (passed : clock.Passed now) : clock.Passed later := by
  obtain ⟨due, member, isPassed⟩ := passed
  exact ⟨due, member, isPassed.trans order⟩

theorem recomputeColor_passed : (recomputeColor zone calendar now clock).Passed later ↔ clock.Passed later := by
  unfold ColoredClock.Passed
  rw [recomputeColor_pending]

theorem recomputeColor_warned : (recomputeColor zone calendar now clock).Warned laterZone laterCalendar later ↔
    clock.Warned laterZone laterCalendar later := by
  unfold ColoredClock.Warned
  rw [recomputeColor_pending, recomputeColor_startedAt]

theorem rankValue_le {first second : SlaColor} : first.rankValue ≤ second.rankValue ↔
    (first = .red → second = .red) ∧ (first = .yellow → second = .red ∨ second = .yellow) := by
  cases first <;> cases second <;> decide

theorem notBetter_iff (order : now ≤ later) :
    (recomputeColor zone calendar now clock).color.rankValue ≤
        (recomputeColor laterZone laterCalendar later (recomputeColor zone calendar now clock)).color.rankValue ↔
      (clock.Warned zone calendar now → clock.Passed later ∨ clock.Warned laterZone laterCalendar later) := by
  have still : clock.Passed now → clock.Passed later := ColoredClock.Passed.mono order
  rw [rankValue_le, color_red, color_red, color_yellow, color_yellow, recomputeColor_passed, recomputeColor_warned]
  constructor
  · intro noBetter isWarned
    by_cases passed : clock.Passed now
    · exact .inl (still passed)
    · rcases noBetter.2 ⟨passed, isWarned⟩ with isPassed | found
      · exact .inl isPassed
      · exact .inr found.2
  · intro stands
    refine ⟨still, fun found => ?_⟩
    by_cases passedLater : clock.Passed later
    · exact .inl passedLater
    · exact .inr ⟨passedLater, (stands found.2).resolve_left passedLater⟩

theorem ticksOnDay_mono (calendar : WorkCalendar) (order : stop ≤ reading) (start : ℕ)
    (reached : day ≤ dayOf stop) : ticksOnDay calendar start stop day ≤ ticksOnDay calendar start reading day := by
  have dayOrder : dayOf stop ≤ dayOf reading := Nat.div_le_div_right order
  have closes : (if day = dayOf stop then min (calendar.closing day) stop else calendar.closing day) ≤
      if day = dayOf reading then min (calendar.closing day) reading else calendar.closing day := by
    by_cases isLast : day = dayOf reading
    · rw [if_pos isLast, if_pos (by omega)]
      exact min_le_min_left _ order
    · rw [if_neg isLast]
      split
      · exact min_le_left _ _
      · exact le_refl _
  unfold ticksOnDay
  split
  · exact Nat.sub_le_sub_right closes _
  · exact le_refl _

theorem minutesBetweenLocal_mono (calendar : WorkCalendar) (start : ℕ) (order : stop ≤ reading) :
    minutesBetweenLocal calendar start stop ≤ minutesBetweenLocal calendar start reading := by
  have dayOrder : dayOf stop ≤ dayOf reading := Nat.div_le_div_right order
  unfold minutesBetweenLocal
  by_cases begun : dayOf start ≤ dayOf stop
  · obtain ⟨more, isMore⟩ := Nat.exists_eq_add_of_le (show dayOf stop + 1 - dayOf start ≤ dayOf reading + 1 - dayOf start by
      omega)
    rw [isMore, ← List.range'_append_1, map_append, sum_append]
    refine le_trans (sum_le_sum ?_) (Nat.le_add_right _ _)
    intro day member
    have reached := (mem_range'_1.mp member).2
    rw [minutesOnDay_eq, minutesOnDay_eq]
    exact Nat.div_le_div_right (ticksOnDay_mono calendar order start (by omega))
  · rw [Nat.sub_eq_zero_of_le (by omega)]
    exact Nat.zero_le _

theorem businessMinutesBetween_mono (calendar : WorkCalendar) (started : ℕ) (order : now ≤ later)
    (forward : zone.toLocal now ≤ zone.toLocal later) :
    businessMinutesBetween zone calendar started now ≤ businessMinutesBetween zone calendar started later := by
  unfold businessMinutesBetween
  by_cases notBegun : now ≤ started
  · rw [if_pos notBegun]
    exact Nat.zero_le _
  · rw [if_neg notBegun, if_neg (by omega)]
    exact minutesBetweenLocal_mono calendar _ forward

theorem minutesOnDay_le_day (calendar : WorkCalendar) (start stop day : ℕ) : minutesOnDay calendar start stop day ≤ 1440 := by
  have short : ticksOnDay calendar start stop day ≤ 1440 * minute := by
    have closes := calendar.closes_lt
    have isDay : dayLength = 1440 * minute := rfl
    unfold ticksOnDay
    split
    · have opensLater : calendar.opening day ≤
          if day = dayOf start then max (calendar.opening day) start else calendar.opening day := by
        split
        · exact le_max_left _ _
        · exact le_refl _
      have closesBefore : (if day = dayOf stop then min (calendar.closing day) stop else calendar.closing day) ≤
          calendar.closing day := by
        split
        · exact min_le_left _ _
        · exact le_refl _
      have window : calendar.closing day - calendar.opening day ≤ 1440 * minute := by
        unfold WorkCalendar.closing WorkCalendar.opening
        omega
      exact (tsub_le_tsub closesBefore opensLater).trans window
    · exact Nat.zero_le _
  rw [minutesOnDay_eq]
  exact Nat.div_le_of_le_mul (by rw [Nat.mul_comm]; exact short)

theorem businessMinutesBetween_few (dated : dayOf (zone.toLocal due) ≤ lastDay) :
    businessMinutesBetween zone calendar started due ≤ 2 ^ 53 := by
  unfold businessMinutesBetween
  split
  · exact Nat.zero_le _
  · have bounded := sum_le_card_nsmul ((List.range' (dayOf (zone.toLocal started))
      (dayOf (zone.toLocal due) + 1 - dayOf (zone.toLocal started))).map
        (minutesOnDay calendar (zone.toLocal started) (zone.toLocal due))) 1440 (by
      intro minutes member
      obtain ⟨day, -, rfl⟩ := mem_map.mp member
      exact minutesOnDay_le_day calendar _ _ day)
    rw [length_map, length_range', nsmul_eq_mul, Nat.cast_id] at bounded
    unfold lastDay at dated
    dsimp only
    omega

theorem warns_iff (dated : dayOf (zone.toLocal due) ≤ lastDay) :
    warns zone calendar started now due = true ↔ ShareElapsed zone calendar .business started now due := by
  have isTarget : elapsedTarget zone calendar started due = max 1 (businessMinutesBetween zone calendar started due) := by
    unfold elapsedTarget
    dsimp only
    split <;> omega
  have few : businessMinutesBetween zone calendar started due ≤ 2 ^ 53 := businessMinutesBetween_few dated
  unfold warns warnPercent
  rw [Binary64.reachesPercent_half (by omega) (by omega), isTarget]
  unfold ShareElapsed passedTime warnPercent elapsedNow
  dsimp only
  omega

/-- With office minutes, on one calendar and while the clock of the zone is not set back, a warning stands. -/
theorem warned_stands (dated : ∀ due ∈ clock.pending, dayOf (zone.toLocal due) ≤ lastDay) (order : now ≤ later)
    (forward : zone.toLocal now ≤ zone.toLocal later) (isWarned : clock.Warned zone calendar now) :
    clock.Passed later ∨ clock.Warned zone calendar later := by
  obtain ⟨due, member, warns⟩ := isWarned
  by_cases passed : due ≤ later
  · exact .inl ⟨due, member, passed⟩
  · right
    refine ⟨due, member, (warns_iff (dated due member)).mpr ?_⟩
    have share := (warns_iff (dated due member)).mp warns
    have goesOn := businessMinutesBetween_mono calendar clock.startedAt order forward
    unfold ShareElapsed passedTime at share ⊢
    rw [min_eq_left (by omega)] at share ⊢
    dsimp only at share ⊢
    omega

/-- A colour is right, and gets no better, exactly where a deadline has passed or the office minutes and the own time of the
clock warn alike, and a warning stands until a deadline passes. Clocks in office minutes are right on every calendar. -/
theorem colors_right_iff (clock : ColoredClock) (zone laterZone : Zone) (calendar laterCalendar : WorkCalendar)
    (now later : ℕ) (order : now ≤ later) :
    ((ColorRight zone calendar clock now (recomputeColor zone calendar now clock).color ∧
        (recomputeColor zone calendar now clock).color.rankValue ≤
          (recomputeColor laterZone laterCalendar later (recomputeColor zone calendar now clock)).color.rankValue) ↔
      (clock.Passed now ∨ (clock.Warned zone calendar now ↔
        ∃ due ∈ clock.pending, ShareElapsed zone calendar clock.ownType clock.startedAt now due)) ∧
      (clock.Warned zone calendar now → clock.Passed later ∨ clock.Warned laterZone laterCalendar later)) ∧
    (clock.ownType = .business → (∀ due ∈ clock.pending, dayOf (zone.toLocal due) ≤ lastDay) →
      (clock.Warned zone calendar now ↔
        ∃ due ∈ clock.pending, ShareElapsed zone calendar clock.ownType clock.startedAt now due) ∧
      (zone.toLocal now ≤ zone.toLocal later → clock.Warned zone calendar now →
        clock.Passed later ∨ clock.Warned zone calendar later)) := by
  refine ⟨and_congr colorRight_iff (notBetter_iff order), ?_⟩
  intro business dated
  constructor
  · rw [business]
    constructor
    · intro isWarned
      obtain ⟨due, member, warns⟩ := isWarned
      exact ⟨due, member, (warns_iff (dated due member)).mp warns⟩
    · intro elapsed
      obtain ⟨due, member, share⟩ := elapsed
      exact ⟨due, member, (warns_iff (dated due member)).mpr share⟩
  · intro forward isWarned
    exact warned_stands dated order forward isWarned

/-- Saturday 2026-09-26, in summer time. -/
def saturday : ℕ := 739885 * dayLength

def sampleColored (clockType : ClockType) : ColoredClock where
  rule := some { responseMinutes := 2880, resolutionMinutes := 2880, clockType }
  startedAt := saturday
  dueResponseAt := some (saturday + 2880 * minute)
  dueResolutionAt := some (saturday + 2880 * minute)
  log := ["started"]

theorem sampleColored_warned : (sampleColored .business).Warned (Zone.ahead (120 * minute)) {} (saturday + 2160 * minute) ↔
    ∃ due ∈ (sampleColored .business).pending, ShareElapsed (Zone.ahead (120 * minute)) {}
      (sampleColored .business).ownType (sampleColored .business).startedAt (saturday + 2160 * minute) due :=
  ((colors_right_iff (sampleColored .business) (Zone.ahead (120 * minute)) (Zone.ahead (120 * minute)) {} {}
    (saturday + 2160 * minute) (saturday + 2400 * minute) (by decide)).2 rfl (by decide +kernel)).1

/-- A clock in wall time over a weekend is green on Sunday noon, three quarters of the way to its deadline. -/
theorem weekend_green :
    startClock (Zone.ahead (120 * minute)) {} (sampleColored .calendar).rule saturday =
        some (sampleColored .calendar).toSlaClock ∧
      (recomputeColor (Zone.ahead (120 * minute)) {} (saturday + 2160 * minute) (sampleColored .calendar)).color = .green ∧
      ¬ ColorRight (Zone.ahead (120 * minute)) {} (sampleColored .calendar) (saturday + 2160 * minute)
        (recomputeColor (Zone.ahead (120 * minute)) {} (saturday + 2160 * minute) (sampleColored .calendar)).color := by
  have isGreen : (recomputeColor (Zone.ahead (120 * minute)) {} (saturday + 2160 * minute)
      (sampleColored .calendar)).color = .green := by
    decide +kernel
  refine ⟨by decide +kernel, isGreen, ?_⟩
  intro right
  have notYellow := right.yellow
  rw [isGreen] at notYellow
  have passed : ¬ (sampleColored .calendar).Passed (saturday + 2160 * minute) := by
    unfold ColoredClock.Passed
    decide
  have elapsed : ShareElapsed (Zone.ahead (120 * minute)) {} .calendar saturday (saturday + 2160 * minute)
      (saturday + 2880 * minute) := by
    unfold ShareElapsed
    decide
  cases notYellow.mpr ⟨passed, _, mem_cons_self, elapsed⟩

end Mhvp.Sla
