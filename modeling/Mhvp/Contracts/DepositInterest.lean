import Mathlib.Algebra.BigOperators.Ring.Finset
import Mathlib.Data.List.Find
import Mathlib.Data.Prod.Lex
import Mhvp.Contracts.DepositSettlement
import Mhvp.Core.Cents

namespace Mhvp.Contracts.Deposit

open Core Lib.Calendar Lib.Dictionary Lib.Rounding List

variable {changes others : List BalanceChange} {until' day : Date} {steps history : List (Date × Decimal)} {year : ℕ}

/-- The movements of a day. -/
def onDay (changes : List BalanceChange) (day : Date) : List Decimal :=
  (changes.filter fun change => change.on = day).map BalanceChange.amount

/-- The same days have movements, and on each of them the movements have one sum. -/
def SameDays (changes others : List BalanceChange) : Prop :=
  ∀ day, (onDay changes day = [] ↔ onDay others day = []) ∧ (onDay changes day).sum = (onDay others day).sum

theorem onDay_empty : onDay changes day = [] ↔ day ∉ changes.map BalanceChange.on := by
  rw [onDay, map_eq_nil_iff, filter_eq_nil_iff, mem_map]
  simp

theorem byDay_append (changes : List BalanceChange) (change : BalanceChange) :
    byDay (changes ++ [change]) = alter change.on (fun old => old.getD 0 + change.amount) (byDay changes) := by
  rw [byDay, foldl_append]
  rfl

theorem nodup_byDay (changes : List BalanceChange) : ((byDay changes).map Prod.fst).Nodup := by
  induction changes using List.reverseRecOn with
  | nil => exact nodup_nil
  | append_singleton changes change ih =>
    rw [byDay_append]
    exact nodup_alter ih

theorem mem_byDay (changes : List BalanceChange) (day : Date) :
    day ∈ (byDay changes).map Prod.fst ↔ day ∈ changes.map BalanceChange.on := by
  induction changes using List.reverseRecOn with
  | nil => exact Iff.rfl
  | append_singleton changes change ih =>
    rw [byDay_append, keys_alter, map_append, mem_append]
    split
    · rename_i known
      rw [ih]
      constructor
      · exact Or.inl
      · rintro (old | new)
        · exact old
        · rw [map_singleton, mem_singleton] at new
          subst new
          exact ih.mp known
    · rw [mem_append, ih]
      rfl

theorem lookup_byDay (changes : List BalanceChange) (day : Date) :
    ((byDay changes).lookup day).getD 0 = (onDay changes day).sum := by
  induction changes using List.reverseRecOn with
  | nil => rfl
  | append_singleton changes change ih =>
    rw [byDay_append, lookup_alter, onDay, filter_append, map_append, sum_append, ← onDay]
    by_cases same : day = change.on
    · subst same
      simp [ih]
    · have other : ¬ change.on = day := fun equal => same equal.symm
      simp [same, other, ih]

theorem changeDays_ascending (changes : List BalanceChange) (until' : Date) :
    (changeDays changes until').Pairwise fun first second => first < second := by
  have sorted : (changeDays changes until').Pairwise fun first second => first ≤ second :=
    pairwise_insertionSort ..
  have distinct : (changeDays changes until').Nodup :=
    (perm_insertionSort _ _).nodup_iff.mpr ((nodup_byDay changes).filter _)
  exact (pairwise_and_iff.mpr ⟨sorted, distinct⟩).imp fun both => lt_of_le_of_ne both.1 both.2

theorem mem_changeDays : day ∈ changeDays changes until' ↔ day ∈ changes.map BalanceChange.on ∧ day ≤ until' := by
  rw [changeDays, (perm_insertionSort _ _).mem_iff, mem_filter, mem_byDay, decide_eq_true_iff]

section

variable (same : SameDays changes others)
include same

theorem SameDays.mem_iff (day : Date) :
    day ∈ changes.map BalanceChange.on ↔ day ∈ others.map BalanceChange.on := by
  have emptyIff := (same day).1
  rw [onDay_empty, onDay_empty] at emptyIff
  exact not_iff_not.mp emptyIff

theorem SameDays.changeDays_eq (until' : Date) :
    changeDays changes until' = changeDays others until' := by
  have members : ∀ day, day ∈ changeDays changes until' ↔ day ∈ changeDays others until' := by
    intro day
    rw [mem_changeDays, mem_changeDays, same.mem_iff]
  have distinct := (changeDays_ascending changes until').imp fun order => ne_of_lt order
  have distinctOthers := (changeDays_ascending others until').imp fun order => ne_of_lt order
  have perm := (perm_ext_iff_of_nodup distinct distinctOthers).mpr members
  refine perm.eq_of_pairwise ?_ (changeDays_ascending changes until') (changeDays_ascending others until')
  exact fun first second _ _ before after => absurd after before.not_gt

theorem SameDays.balanceIntervals_eq (until' : Date) :
    balanceIntervals changes until' = balanceIntervals others until' := by
  have amounts : (fun day => ((byDay changes).lookup day).getD 0) = fun day => ((byDay others).lookup day).getD 0 := by
    funext day
    rw [lookup_byDay, lookup_byDay, (same day).2]
  rw [balanceIntervals, balanceIntervals, amounts, same.changeDays_eq]

end

theorem firstChange_iff :
    ((changes.map BalanceChange.on).filter fun day => day ≤ until').min? = some first ↔
      first ∈ changeDays changes until' ∧ ∀ day ∈ changeDays changes until', first ≤ day := by
  rw [List.min?_eq_some_iff]
  simp only [mem_filter, mem_changeDays, decide_eq_true_iff]

section

variable (same : SameDays changes others)
include same

theorem SameDays.yearSpan_eq (until' : Date) :
    yearSpan changes until' = yearSpan others until' := by
  have firsts : ((changes.map BalanceChange.on).filter fun day => day ≤ until').min? =
      ((others.map BalanceChange.on).filter fun day => day ≤ until').min? := by
    apply Option.ext
    intro first
    rw [firstChange_iff, firstChange_iff, same.changeDays_eq]
  rw [yearSpan, yearSpan, firsts]

theorem SameDays.yearParts_eq (until' : Date) :
    yearParts changes until' = yearParts others until' := by
  funext year
  rw [yearParts, yearParts, same.balanceIntervals_eq]

theorem SameDays.reference_eq (rates : List (ℕ × Decimal)) (until' : Date) :
    interestByReferenceRate changes rates until' = interestByReferenceRate others rates until' := by
  rw [interestByReferenceRate, interestByReferenceRate, same.yearSpan_eq, same.yearParts_eq]

theorem SameDays.history_eq (history : List (Date × Decimal)) (until' : Date)
    (years : Option (List ℕ)) :
    interestByRateHistory changes history until' years = interestByRateHistory others history until' years := by
  rw [interestByRateHistory, interestByRateHistory, same.yearSpan_eq, same.yearParts_eq]

end

variable {part : Interval} {parts : List Interval}

/-- A day of an interval. -/
def Interval.On (interval : Interval) (day : Date) : Prop := interval.start ≤ day ∧ day < interval.stop

theorem mem_cuts : day ∈ cuts steps part ↔
    day = part.start ∨ day = part.stop ∨ day ∈ steps.map Prod.fst ∧ part.start < day ∧ day < part.stop := by
  rw [cuts, (perm_insertionSort _ _).mem_iff, mem_dedup, mem_cons, mem_cons, mem_filter,
    decide_eq_true_iff]

theorem cuts_ascending (steps : List (Date × Decimal)) (part : Interval) :
    (cuts steps part).Pairwise fun first second => first < second := by
  have sorted : (cuts steps part).Pairwise fun first second => first ≤ second := pairwise_insertionSort ..
  have distinct : (cuts steps part).Nodup := (perm_insertionSort _ _).nodup_iff.mpr (nodup_dedup _)
  exact (pairwise_and_iff.mpr ⟨sorted, distinct⟩).imp fun both => lt_of_le_of_ne both.1 both.2

theorem cuts_within (order : part.start < part.stop) (isCut : day ∈ cuts steps part) :
    part.start ≤ day ∧ day ≤ part.stop := by
  rcases mem_cuts.mp isCut with rfl | rfl | ⟨-, after, before⟩
  · exact ⟨le_refl _, order.le⟩
  · exact ⟨order.le, le_refl _⟩
  · exact ⟨after.le, before.le⟩

theorem cuts_ends (steps : List (Date × Decimal)) (order : part.start < part.stop) :
    ∃ rest, cuts steps part = part.start :: rest ∧ (part.start :: rest).getLast (cons_ne_nil _ _) = part.stop := by
  have ascending := cuts_ascending steps part
  have starts : part.start ∈ cuts steps part := mem_cuts.mpr (Or.inl rfl)
  have stops : part.stop ∈ cuts steps part := mem_cuts.mpr (Or.inr (Or.inl rfl))
  have within : ∀ day ∈ cuts steps part, part.start ≤ day ∧ day ≤ part.stop := fun day isCut => cuts_within order isCut
  cases isList : cuts steps part with
  | nil =>
    rw [isList] at starts
    exact absurd starts not_mem_nil
  | cons first rest =>
    rw [isList] at ascending starts stops within
    have isStart : first = part.start := by
      rcases mem_cons.mp starts with same | later
      · exact same.symm
      · exact absurd ((pairwise_cons.mp ascending).1 _ later) (not_lt.mpr (within first mem_cons_self).1)
    have isStop : (first :: rest).getLast (cons_ne_nil _ _) = part.stop := by
      have upTo := (within _ (getLast_mem (cons_ne_nil first rest))).2
      rw [← dropLast_append_getLast (cons_ne_nil first rest)] at stops ascending
      rcases mem_append.mp stops with early | isLast
      · have before := (pairwise_append.mp ascending).2.2 _ early _ (mem_singleton_self _)
        exact absurd before (not_lt.mpr upTo)
      · exact (mem_singleton.mp isLast).symm
    subst isStart
    exact ⟨rest, rfl, isStop⟩

theorem segments_daySum (share : Date → ℚ) (steps : List (Date × Decimal)) (order : part.start < part.stop) :
    ((segments steps part).map fun segment => daySum share segment.start segment.stop).sum =
      daySum share part.start part.stop := by
  obtain ⟨rest, isCuts, isStop⟩ := cuts_ends steps order
  have ascending := cuts_ascending steps part
  rw [isCuts] at ascending
  have summed := daySum_neighbours share part.start rest ascending
  rw [isStop] at summed
  unfold segments
  rw [map_map, isCuts]
  exact summed

theorem mem_segments (order : part.start < part.stop) {segment : Interval} (member : segment ∈ segments steps part) :
    segment.balance = part.balance ∧ segment.start < segment.stop ∧ part.start ≤ segment.start ∧
      segment.stop ≤ part.stop ∧ ∀ step ∈ steps, step.1 ≤ segment.start ∨ segment.stop ≤ step.1 := by
  obtain ⟨cut, isCut, rfl⟩ := mem_map.mp member
  obtain ⟨isFirst, isSecond, before, apart⟩ := neighbours (cuts_ascending steps part) cut isCut
  have after := (cuts_within order isFirst).1
  have upTo := (cuts_within order isSecond).2
  refine ⟨rfl, before, after, upTo, ?_⟩
  intro step isStep
  by_contra inside
  obtain ⟨later, earlier⟩ := not_or.mp inside
  have isDay : step.1 ∈ cuts steps part := by
    apply mem_cuts.mpr
    refine Or.inr (Or.inr ⟨mem_map_of_mem isStep, ?_, ?_⟩)
    · exact lt_of_le_of_lt after (not_le.mp later)
    · exact lt_of_lt_of_le (not_le.mp earlier) upTo
  rcases apart step.1 isDay with early | late
  · exact later early
  · exact earlier late

theorem rateOn_segment {segment : Interval} (apart : ∀ step ∈ steps, step.1 ≤ segment.start ∨ segment.stop ≤ step.1)
    (on : segment.On day) : rateOn steps day = rateOn steps segment.start := by
  unfold rateOn
  congr 1
  apply List.find?_congr
  intro step member
  rw [decide_eq_decide]
  constructor
  · intro valid
    exact (apart step (mem_reverse.mp member)).resolve_right fun late => absurd on.2 (not_lt.mpr (late.trans valid))
  · exact fun valid => valid.trans on.1

theorem segments_cover (steps : List (Date × Decimal)) (on : part.On day) :
    ∃ segment ∈ segments steps part, segment.On day := by
  obtain ⟨rest, isCuts, isStop⟩ := cuts_ends steps (lt_of_le_of_lt on.1 on.2)
  have before : day < (part.start :: rest).getLast (cons_ne_nil _ _) := by
    rw [isStop]
    exact on.2
  obtain ⟨cut, isCut, within⟩ := exists_neighbours part.start rest on.1 before
  refine ⟨⟨cut.1, cut.2, part.balance⟩, ?_, within⟩
  unfold segments
  rw [isCuts]
  exact mem_map_of_mem isCut

theorem mapM_rated (segments : List Interval) :
    (∃ detail, segments.mapM (rated steps) = .error detail ∧ ∃ segment ∈ segments, rateOn steps segment.start = none) ∨
      segments.mapM (rated steps) = .ok (segments.map fun segment => (segment, (rateOn steps segment.start).getD 0)) ∧
        ∀ segment ∈ segments, (rateOn steps segment.start).isSome := by
  induction segments with
  | nil => exact Or.inr ⟨rfl, fun _ none => absurd none not_mem_nil⟩
  | cons segment rest ih =>
    rw [mapM_cons]
    cases isRate : rateOn steps segment.start with
    | none =>
      obtain ⟨detail, isRated⟩ : ∃ detail, rated steps segment = .error detail := by
        simp only [rated, isRate]
        exact ⟨_, rfl⟩
      rw [isRated]
      exact Or.inl ⟨detail, rfl, segment, mem_cons_self, isRate⟩
    | some rate =>
      have isRated : rated steps segment = .ok (segment, rate) := by simp only [rated, isRate]
      rw [isRated]
      rcases ih with ⟨detail, failed, other, member, none⟩ | ⟨done, all⟩
      · refine Or.inl ⟨detail, ?_, other, mem_cons_of_mem _ member, none⟩
        rw [failed]
        rfl
      · refine Or.inr ⟨?_, ?_⟩
        · rw [done, map_cons, isRate]
          rfl
        · intro other member
          rcases mem_cons.mp member with rfl | later
          · rw [isRate]
            rfl
          · exact all other later

theorem onlyRate_iff :
    onlyRate used = some rate ↔ used ≠ [] ∧ ∀ other ∈ used, other = rate := by
  have members : ∀ other, other ∈ used.dedup ↔ other ∈ used := fun _ => mem_dedup
  have distinct := nodup_dedup used
  have emptyIff : used.dedup = [] ↔ used = [] := dedup_eq_nil used
  unfold onlyRate
  generalize used.dedup = rates at *
  rw [ne_eq, ← emptyIff]
  simp only [← members]
  match rates with
  | [] => simp
  | [only] =>
    simp
  | first :: second :: rest =>
    have apart : first ≠ second := fun same => (nodup_cons.mp distinct).1 (same ▸ mem_cons_self)
    constructor
    · exact nofun
    · rintro ⟨-, all⟩
      have isFirst := all first mem_cons_self
      have isSecond := all second (mem_cons_of_mem _ mem_cons_self)
      exact absurd (isFirst.trans isSecond.symm) apart

theorem onlyRate_congr {used others : List Decimal} (same : ∀ rate, rate ∈ used ↔ rate ∈ others) :
    onlyRate used = onlyRate others := by
  have empty : used = [] ↔ others = [] := by
    rw [eq_nil_iff_forall_not_mem, eq_nil_iff_forall_not_mem]
    exact forall_congr' fun rate => not_iff_not.mpr (same rate)
  apply Option.ext
  intro rate
  rw [onlyRate_iff, onlyRate_iff, ne_eq, ne_eq, empty]
  simp only [same]

/-- Interest of a year before any rounding, day by day. -/
def exactInterest (rate : Date → ℚ) (year : ℕ) (parts : List Interval) : ℚ :=
  (parts.map fun part => part.balance * daySum (fun day => rate day / 100 / daysOfYear year) part.start part.stop).sum

/-- The same with the sizes of balances and rates. -/
def interestSize (rate : Date → ℚ) (year : ℕ) (parts : List Interval) : ℚ :=
  (parts.map fun part => |part.balance| * daySum (fun day => |rate day| / 100 / daysOfYear year) part.start part.stop).sum

/-- The rate of a day; without one the computation is refused. -/
def rateAt (steps : List (Date × Decimal)) (day : Date) : ℚ := (rateOn steps day).getD 0

theorem segments_sum (weight : Decimal → ℚ) (share : Date → ℚ) (steps : List (Date × Decimal))
    (order : ∀ part ∈ parts, part.start < part.stop) :
    ((parts.flatMap (segments steps)).map fun segment =>
      weight segment.balance * daySum share segment.start segment.stop).sum =
    (parts.map fun part => weight part.balance * daySum share part.start part.stop).sum := by
  induction parts with
  | nil => rfl
  | cons part rest ih =>
    have first := order part mem_cons_self
    have own : ((segments steps part).map fun segment =>
        weight segment.balance * daySum share segment.start segment.stop).sum =
        weight part.balance * daySum share part.start part.stop := by
      rw [← segments_daySum share steps first, ← sum_map_mul_left]
      congr 1
      apply map_congr_left
      intro segment member
      rw [(mem_segments first member).1]
    rw [flatMap_cons, map_append, sum_append, own,
      ih fun other member => order other (mem_cons_of_mem _ member), map_cons, sum_cons]

theorem days_daySum (interval : Interval) :
    (interval.days : ℚ) = (1 : ℚ) * daySum (fun _ => 1) interval.start interval.stop := by
  rw [daySum_const fun _ _ _ => rfl, Interval.days]
  ring

theorem segments_days (steps : List (Date × Decimal)) (order : ∀ part ∈ parts, part.start < part.stop) :
    ((parts.flatMap (segments steps)).map Interval.days).sum = (parts.map Interval.days).sum := by
  have counted := segments_sum (fun _ => 1) (fun _ => 1) steps order
  simp only [← days_daySum] at counted
  have whole : (((parts.flatMap (segments steps)).map Interval.days).sum : ℚ) = ((parts.map Interval.days).sum : ℕ) := by
    rw [Nat.cast_list_sum, Nat.cast_list_sum, map_map, map_map]
    exact counted
  exact_mod_cast whole

theorem interestTerm_close (balance rate : Decimal) (days basis : ℕ) :
    Close contextError 4 (interestTerm balance rate days basis) (balance * rate / 100 * days / basis) := by
  have product := (Close.refl contextError (balance * rate)).rounded contextRound_accurate
  have percent := (product.scale (100 : ℚ)⁻¹).rounded contextRound_accurate
  have counted := (percent.scale (days : ℚ)).rounded contextRound_accurate
  have divided := (counted.scale (basis : ℚ)⁻¹).rounded contextRound_accurate
  simp only [← div_eq_mul_inv] at divided
  exact divided

/-- What the roundings before the last one amount to, for a number of days. -/
def tolerance (rate : Date → ℚ) (year : ℕ) (parts : List Interval) (days : ℕ) : ℚ :=
  ((1 + contextError) ^ (days + 4) - 1) * interestSize rate year parts

theorem interestSize_nonneg (rate : Date → ℚ) (year : ℕ) (parts : List Interval) : 0 ≤ interestSize rate year parts := by
  apply sum_nonneg
  intro value member
  obtain ⟨part, -, rfl⟩ := mem_map.mp member
  refine mul_nonneg (abs_nonneg _) (daySum_nonneg (fun day => ?_) _ _)
  exact div_nonneg (div_nonneg (abs_nonneg _) (by norm_num)) (Nat.cast_nonneg _)

/-- The sum of the terms of a year is near the exact interest, whatever segments the rates make. -/
theorem terms_near (steps : List (Date × Decimal)) (year : ℕ) (order : ∀ part ∈ parts, part.start < part.stop) :
    |roundedSum contextRound ((parts.flatMap (segments steps)).map fun segment =>
      interestTerm segment.balance (rateAt steps segment.start) segment.days (daysOfYear year)) -
    exactInterest (rateAt steps) year parts| ≤
    tolerance (rateAt steps) year parts (parts.map Interval.days).sum := by
  have inSegment : ∀ segment ∈ parts.flatMap (segments steps), ∀ day, segment.start ≤ day → day < segment.stop →
      rateAt steps day = rateAt steps segment.start := by
    intro segment member day after before
    obtain ⟨part, isPart, isSegment⟩ := mem_flatMap.mp member
    rw [rateAt, rateOn_segment (mem_segments (order part isPart) isSegment).2.2.2.2 ⟨after, before⟩, rateAt]
  have exactTerm : ∀ segment ∈ parts.flatMap (segments steps),
      segment.balance * rateAt steps segment.start / 100 * segment.days / daysOfYear year =
        segment.balance * daySum (fun day => rateAt steps day / 100 / daysOfYear year) segment.start segment.stop := by
    intro segment member
    have oneRate : ∀ day, segment.start ≤ day → day < segment.stop →
        rateAt steps day / 100 / (daysOfYear year : ℚ) = rateAt steps segment.start / 100 / daysOfYear year :=
      fun day after before => by rw [inSegment segment member day after before]
    rw [daySum_const oneRate, Interval.days]
    ring
  have exactSize : ∀ segment ∈ parts.flatMap (segments steps),
      |segment.balance * rateAt steps segment.start / 100 * segment.days / daysOfYear year| =
        |segment.balance| * daySum (fun day => |rateAt steps day| / 100 / daysOfYear year) segment.start segment.stop := by
    intro segment member
    have oneRate : ∀ day, segment.start ≤ day → day < segment.stop →
        |rateAt steps day| / 100 / (daysOfYear year : ℚ) = |rateAt steps segment.start| / 100 / daysOfYear year :=
      fun day after before => by rw [inSegment segment member day after before]
    rw [daySum_const oneRate, ← Interval.days, abs_div, abs_mul, abs_div, abs_mul, Nat.abs_cast, Nat.abs_cast]
    norm_num
    ring
  have fewer : (parts.flatMap (segments steps)).length ≤ (parts.map Interval.days).sum := by
    rw [← segments_days steps order, ← length_map Interval.days]
    apply length_le_sum_of_one_le
    intro days member
    obtain ⟨segment, isSegment, rfl⟩ := mem_map.mp member
    obtain ⟨part, isPart, inPart⟩ := mem_flatMap.mp isSegment
    have before := Date.lt_def.mp (mem_segments (order part isPart) inPart).2.1
    unfold Interval.days
    omega
  have close := roundedSum_close contextRound_accurate fun segment (_ : segment ∈ parts.flatMap (segments steps)) =>
    interestTerm_close segment.balance (rateAt steps segment.start) segment.days (daysOfYear year)
  have exactSum : ((parts.flatMap (segments steps)).map fun segment => segment.balance *
      daySum (fun day => rateAt steps day / 100 / daysOfYear year) segment.start segment.stop).sum =
      exactInterest (rateAt steps) year parts := segments_sum (fun balance => balance) _ steps order
  rw [map_congr_left exactTerm, map_congr_left exactSize, exactSum,
    segments_sum (fun balance => |balance|) _ steps order] at close
  have isFactor : (1 + contextError) ^ (parts.flatMap (segments steps)).length * (1 + ((1 + contextError) ^ 4 - 1)) - 1 =
      (1 + contextError) ^ ((parts.flatMap (segments steps)).length + 4) - 1 := by ring
  rw [isFactor] at close
  have one : (1 : ℚ) ≤ 1 + contextError := le_add_of_nonneg_right contextRound_accurate.nonneg
  have power := pow_le_pow_right₀ one (Nat.add_le_add_right fewer 4)
  refine close.trans (mul_le_mul_of_nonneg_right ?_ (interestSize_nonneg _ year parts))
  linarith

/-- Interest of a year from two histories: the amounts are the same, or the exact interest is as near to a half cent as
the roundings before the last one reach. -/
structure Agrees (rateOf : Date → ℚ) (parts : ℕ → List Interval) (first second : YearInterest) : Prop where
  year : first.year = second.year
  rate : first.rate = second.rate
  days : first.days = second.days
  near : |first.amount - exactInterest rateOf first.year (parts first.year)| ≤
    1 / 200 + tolerance rateOf first.year (parts first.year) first.days
  amount : first.amount = second.amount ∨
    ∃ cents : ℤ, |exactInterest rateOf first.year (parts first.year) - (2 * cents + 1) / 200| ≤
      tolerance rateOf first.year (parts first.year) first.days

/-- Two results that are both refused, or related. -/
def Both {First Second : Type} (related : First → Second → Prop) : Settled First → Settled Second → Prop
  | .ok first, .ok second => related first second
  | .error _, .error _ => True
  | _, _ => False

theorem Both.mapM (years : List ℕ) (each : ∀ year ∈ years, Both related (first year) (second year)) :
    Both (List.Forall₂ related) (years.mapM first) (years.mapM second) := by
  induction years with
  | nil => exact List.Forall₂.nil
  | cons year rest ih =>
    have own := each year mem_cons_self
    have others := ih fun other member => each other (mem_cons_of_mem _ member)
    rw [mapM_cons, mapM_cons]
    cases isFirst : first year with
    | error detail =>
      rw [isFirst] at own
      cases isSecond : second year with
      | error _ => exact trivial
      | ok _ =>
        rw [isSecond] at own
        exact own.elim
    | ok interest =>
      rw [isFirst] at own
      cases isSecond : second year with
      | error _ =>
        rw [isSecond] at own
        exact own.elim
      | ok other =>
        rw [isSecond] at own
        cases restFirst : rest.mapM first with
        | error _ =>
          rw [restFirst] at others
          cases restSecond : rest.mapM second with
          | error _ => exact trivial
          | ok _ =>
            rw [restSecond] at others
            exact others.elim
        | ok interests =>
          rw [restFirst] at others
          cases restSecond : rest.mapM second with
          | error _ =>
            rw [restSecond] at others
            exact others.elim
          | ok _ =>
            rw [restSecond] at others
            exact List.Forall₂.cons own others

theorem mem_used (read : Option Decimal → Value) (steps : List (Date × Decimal))
    (order : ∀ part ∈ parts, part.start < part.stop) (value : Value) :
    value ∈ (parts.flatMap (segments steps)).map (fun segment => read (rateOn steps segment.start)) ↔
      ∃ part ∈ parts, ∃ day, part.On day ∧ read (rateOn steps day) = value := by
  constructor
  · intro member
    obtain ⟨segment, isSegment, rfl⟩ := mem_map.mp member
    obtain ⟨part, isPart, inPart⟩ := mem_flatMap.mp isSegment
    obtain ⟨-, before, after, upTo, -⟩ := mem_segments (order part isPart) inPart
    exact ⟨part, isPart, segment.start, ⟨after, lt_of_lt_of_le before upTo⟩, rfl⟩
  · rintro ⟨part, isPart, day, on, rfl⟩
    obtain ⟨segment, isSegment, inSegment⟩ := segments_cover steps on
    refine mem_map.mpr ⟨segment, mem_flatMap.mpr ⟨part, isPart, isSegment⟩, ?_⟩
    rw [rateOn_segment (mem_segments (order part isPart) isSegment).2.2.2.2 inSegment]

theorem historyYear_cases (steps : List (Date × Decimal)) (year : ℕ) (order : ∀ part ∈ parts, part.start < part.stop) :
    (∃ detail, historyYear steps parts year = .error detail ∧
      ∃ part ∈ parts, ∃ day, part.On day ∧ rateOn steps day = none) ∨
    historyYear steps parts year = .ok
      { year
        rate := onlyRate ((parts.flatMap (segments steps)).map fun segment => rateAt steps segment.start)
        days := (parts.map Interval.days).sum
        amount := roundCents (roundedSum contextRound ((parts.flatMap (segments steps)).map fun segment =>
          interestTerm segment.balance (rateAt steps segment.start) segment.days (daysOfYear year))) } ∧
      ∀ part ∈ parts, ∀ day, part.On day → (rateOn steps day).isSome := by
  unfold historyYear
  rcases @mapM_rated steps (parts.flatMap (segments steps)) with
    ⟨detail, failed, segment, member, isNone⟩ | ⟨done, all⟩
  · left
    rw [failed]
    exact ⟨detail, rfl, (mem_used id steps order none).mp (mem_map.mpr ⟨segment, member, isNone⟩)⟩
  · right
    rw [done, ← segments_days steps order]
    constructor
    · change Except.ok _ = Except.ok _
      simp only [map_map]
      rfl
    · intro part isPart day on
      obtain ⟨segment, isSegment, inSegment⟩ := segments_cover steps on
      rw [rateOn_segment (mem_segments (order part isPart) isSegment).2.2.2.2 inSegment]
      exact all segment (mem_flatMap.mpr ⟨part, isPart, isSegment⟩)

theorem historyYear_agrees {first second : List (Date × Decimal)} (year : ℕ) (parts : ℕ → List Interval)
    (order : ∀ part ∈ parts year, part.start < part.stop)
    (same : ∀ part ∈ parts year, ∀ day, part.On day → rateOn first day = rateOn second day) :
    Both (Agrees (rateAt first) parts) (historyYear first (parts year) year) (historyYear second (parts year) year) := by
  rcases historyYear_cases first year order with ⟨detail, failed, part, isPart, day, on, none⟩ | ⟨done, all⟩
  · rcases historyYear_cases second year order with ⟨other, failedOther, -⟩ | ⟨-, all⟩
    · rw [failed, failedOther]
      exact trivial
    · have some := all part isPart day on
      rw [← same part isPart day on, none] at some
      cases some
  · rcases historyYear_cases second year order with ⟨other, -, part, isPart, day, on, none⟩ | ⟨doneOther, -⟩
    · have some := all part isPart day on
      rw [same part isPart day on, none] at some
      cases some
    · rw [done, doneOther]
      have near := terms_near first year order
      have nearOther := terms_near second year order
      have sameRates : ∀ part ∈ parts year, ∀ day, part.start ≤ day → day < part.stop →
          rateAt first day = rateAt second day := by
        intro part isPart day after before
        rw [rateAt, same part isPart day ⟨after, before⟩, rateAt]
      obtain ⟨sameExact, sameSize⟩ :
          exactInterest (rateAt first) year (parts year) = exactInterest (rateAt second) year (parts year) ∧
          interestSize (rateAt first) year (parts year) = interestSize (rateAt second) year (parts year) := by
        unfold exactInterest interestSize
        constructor
        all_goals
          congr 1
          apply map_congr_left
          intro part isPart
          congr 1
          exact daySum_congr fun day after before => by rw [sameRates part isPart day after before]
      have sameTolerance : tolerance (rateAt first) year (parts year) = tolerance (rateAt second) year (parts year) := by
        funext days
        rw [tolerance, tolerance, sameSize]
      rw [← sameExact, ← sameTolerance] at nearOther
      refine ⟨rfl, ?_, rfl, ?_, ?_⟩
      · apply onlyRate_congr
        intro rate
        have used := mem_used (fun rate => rate.getD 0) first order rate
        have usedOther := mem_used (fun rate => rate.getD 0) second order rate
        unfold rateAt
        rw [used, usedOther]
        constructor
        · rintro ⟨part, isPart, day, on, isRate⟩
          rw [same part isPart day on] at isRate
          exact ⟨part, isPart, day, on, isRate⟩
        · rintro ⟨part, isPart, day, on, isRate⟩
          rw [← same part isPart day on] at isRate
          exact ⟨part, isPart, day, on, isRate⟩
      · have rounded := roundCents_error (roundedSum contextRound (((parts year).flatMap (segments first)).map
          fun segment => interestTerm segment.balance (rateAt first segment.start) segment.days (daysOfYear year)))
        refine le_trans ?_ (add_le_add rounded near)
        refine le_trans (le_of_eq ?_) (abs_add_le _ _)
        rw [sub_add_sub_cancel]
      · exact roundCents_eq_or_half near nearOther

variable {interval : Interval}

theorem mem_intervalsFrom
    (upTo : ∀ day ∈ days, day ≤ until') (member : interval ∈ intervalsFrom change until' balance days) :
    interval.start ∈ days ∧ interval.stop ≤ until'.addDays 1 := by
  induction days generalizing balance with
  | nil => exact absurd member not_mem_nil
  | cons day rest ih =>
    have later : ∀ other ∈ rest, other ≤ until' := fun other isRest => upTo other (mem_cons_of_mem _ isRest)
    have inRest : interval ∈ intervalsFrom change until' (balance + change day) rest →
        interval.start ∈ day :: rest ∧ interval.stop ≤ until'.addDays 1 := by
      intro isLater
      obtain ⟨starts, stops⟩ := ih later isLater
      exact ⟨mem_cons_of_mem _ starts, stops⟩
    rw [intervalsFrom] at member
    split at member
    · rcases mem_cons.mp member with rfl | isLater
      · refine ⟨mem_cons_self, ?_⟩
        cases rest with
        | nil => exact le_refl _
        | cons next others => exact (later next mem_cons_self).trans (Date.lt_addDays_one until').le
      · exact inRest isLater
    · exact inRest member

theorem intervalsFrom_cover (days : List Date) (balance : Decimal)
    (ascending : days.Pairwise fun first second => first < second) (upTo : ∀ day ∈ days, day ≤ until')
    (began : ∃ first ∈ days, first ≤ day) (within : day ≤ until') :
    ∃ interval ∈ intervalsFrom change until' balance days, interval.On day := by
  induction days generalizing balance with
  | nil =>
    obtain ⟨first, none, -⟩ := began
    exact absurd none not_mem_nil
  | cons first rest ih =>
    obtain ⟨before, later⟩ := pairwise_cons.mp ascending
    have stops : first < rest.head?.getD (until'.addDays 1) := by
      cases rest with
      | nil => exact lt_of_le_of_lt (upTo first mem_cons_self) (Date.lt_addDays_one until')
      | cons next others => exact before next mem_cons_self
    rw [intervalsFrom, if_pos stops]
    by_cases inRest : ∃ other ∈ rest, other ≤ day
    · obtain ⟨interval, member, on⟩ :=
        ih (balance + change first) later (fun other isRest => upTo other (mem_cons_of_mem _ isRest)) inRest
      exact ⟨interval, mem_cons_of_mem _ member, on⟩
    · push Not at inRest
      refine ⟨_, mem_cons_self, ?_, ?_⟩
      · obtain ⟨other, isOther, early⟩ := began
        rcases mem_cons.mp isOther with rfl | isRest
        · exact early
        · exact absurd early (not_le.mpr (inRest other isRest))
      · cases rest with
        | nil => exact lt_of_le_of_lt within (Date.lt_addDays_one until')
        | cons next others => exact inRest next mem_cons_self

theorem mem_yearParts (member : part ∈ yearParts changes until' year) :
    part.start < part.stop ∧ newYear year ≤ part.start ∧ part.stop ≤ newYear (year + 1) ∧
      part.stop ≤ until'.addDays 1 ∧ ∃ change ∈ changes, change.on ≤ part.start := by
  obtain ⟨interval, isInterval, isPart⟩ := mem_filterMap.mp member
  unfold Interval.inYear at isPart
  dsimp only at isPart
  split at isPart
  · rename_i order
    cases isPart
    obtain ⟨starts, stops⟩ := mem_intervalsFrom (fun day isDay => (mem_changeDays.mp isDay).2) isInterval
    obtain ⟨change, isChange, isDay⟩ := mem_map.mp (mem_changeDays.mp starts).1
    refine ⟨order, le_max_right _ _, min_le_right _ _, (min_le_left _ _).trans stops, change, isChange, ?_⟩
    rw [isDay]
    exact le_max_left _ _
  · cases isPart

theorem yearParts_nonempty (real : newYear 1 ≤ until') (inSpan : year ∈ yearSpan changes until') :
    yearParts changes until' year ≠ [] := by
  unfold yearSpan at inSpan
  cases isFirst : ((changes.map BalanceChange.on).filter fun day => day ≤ until').min? with
  | none =>
    rw [isFirst] at inSpan
    exact absurd inSpan not_mem_nil
  | some first =>
    rw [isFirst] at inSpan
    obtain ⟨after, before⟩ := mem_range'_1.mp inSpan
    obtain ⟨isDay, -⟩ := firstChange_iff.mp isFirst
    have positive : 1 ≤ year := (year_pos first).trans after
    have upTo : year ≤ until'.year := by omega
    have starts : newYear year ≤ until' := by
      by_contra late
      obtain ⟨previous, rfl⟩ := Nat.exists_eq_add_of_le' positive
      rcases Nat.eq_zero_or_pos previous with rfl | later
      · exact late real
      · have early := (lt_newYear_iff until' later).mp (not_le.mp late)
        omega
    have inside : max first (newYear year) < newYear (year + 1) := by
      apply max_lt ((lt_newYear_iff first positive).mpr after)
      rw [lt_newYear_iff _ positive, newYear_year positive]
    have covered : ∃ interval ∈ balanceIntervals changes until', interval.On (max first (newYear year)) :=
      intervalsFrom_cover (changeDays changes until') 0 (changeDays_ascending changes until')
        (fun day isDay => (mem_changeDays.mp isDay).2) ⟨first, isDay, le_max_left _ _⟩
        (max_le (mem_changeDays.mp isDay).2 starts)
    obtain ⟨interval, isInterval, on⟩ := covered
    have order : max interval.start (newYear year) < min interval.stop (newYear (year + 1)) := by
      apply lt_of_le_of_lt (max_le on.1 (le_max_right _ _))
      exact lt_min on.2 inside
    have isPart : interval.inYear year = some ⟨max interval.start (newYear year),
        min interval.stop (newYear (year + 1)), interval.balance⟩ := by
      unfold Interval.inYear
      rw [if_pos order]
    exact ne_nil_of_mem (mem_filterMap.mpr ⟨interval, isInterval, isPart⟩)

/-- A history with an entry on each first of January. -/
def yearly (table : List (ℕ × Decimal)) : List (Date × Decimal) := table.map fun row => (newYear row.1, row.2)

theorem before_iff : Before first second ↔ toLex first ≤ toLex second := by
  rw [Prod.Lex.toLex_le_toLex]
  exact Iff.rfl

instance : Std.Total Before where
  total first second := by
    rw [before_iff, before_iff]
    exact le_total _ _

instance : IsTrans (Date × Decimal) Before where
  trans first second third := by
    rw [before_iff, before_iff, before_iff]
    exact le_trans

theorem rateOn_latest (sorted : steps.Pairwise Before) (isStep : step ∈ steps)
    (valid : step.1 ≤ day) (latest : ∀ other ∈ steps, other.1 ≤ day → other = step ∨ other.1 < step.1) :
    rateOn steps day = some step.2 := by
  unfold rateOn
  cases isFound : steps.reverse.find? fun other => other.1 ≤ day with
  | none =>
    have absent := List.find?_eq_none.mp isFound step (mem_reverse.mpr isStep)
    exact absurd (decide_eq_true valid) absent
  | some found =>
    obtain ⟨foundValid, later, earlier, isList, notValid⟩ := List.find?_eq_some_iff_append.mp isFound
    have isMember : found ∈ steps := by
      rw [← mem_reverse, isList]
      exact mem_append_right _ mem_cons_self
    rcases latest found isMember (of_decide_eq_true foundValid) with rfl | less
    · rfl
    · have reversed := pairwise_reverse.mpr sorted
      have inList : step ∈ later ++ found :: earlier := by
        rw [← isList]
        exact mem_reverse.mpr isStep
      rw [isList] at reversed
      rcases mem_append.mp inList with isLater | isRest
      · have no := notValid step isLater
        rw [decide_eq_true valid] at no
        cases no
      · rcases mem_cons.mp isRest with rfl | isEarlier
        · rfl
        · have order := (pairwise_cons.mp (pairwise_append.mp reversed).2.1).1 step isEarlier
          rcases order with before | ⟨sameDay, -⟩
          · exact absurd before less.not_gt
          · exact absurd sameDay less.ne'

theorem newYear_lt_iff (positive : 1 ≤ first) (positiveSecond : 1 ≤ second) :
    newYear first < newYear second ↔ first < second := by
  obtain ⟨previous, rfl⟩ := Nat.exists_eq_add_of_le' positiveSecond
  rcases Nat.eq_zero_or_pos previous with rfl | later
  · rw [Date.lt_def, newYear_ordinal, newYear_ordinal]
    have reached : Date.daysBeforeYear (0 + 1) ≤ Date.daysBeforeYear first := daysBeforeYear_le (le_refl 1) positive
    omega
  · rw [lt_newYear_iff _ later, newYear_year positive]
    omega

theorem yearly_part (unique : (table.map Prod.fst).Nodup)
    (real : ∀ row ∈ table, 1 ≤ row.1) (isRow : (year, rate) ∈ table)
    (member : part ∈ yearParts changes until' year) :
    segments ((yearly table).insertionSort Before) part = [part] ∧
      rateOn ((yearly table).insertionSort Before) part.start = some rate := by
  obtain ⟨order, after, upTo, -⟩ := mem_yearParts member
  have positive := real _ isRow
  have perm := perm_insertionSort Before (yearly table)
  have isStep : ∀ step ∈ (yearly table).insertionSort Before, ∃ row ∈ table, step = (newYear row.1, row.2) := by
    intro step isStep
    obtain ⟨row, member, rfl⟩ := mem_map.mp (perm.mem_iff.mp isStep)
    exact ⟨row, member, rfl⟩
  constructor
  · have isCuts : cuts ((yearly table).insertionSort Before) part = [part.start, part.stop] := by
      have none : (((yearly table).insertionSort Before).map Prod.fst).filter (fun day => part.start < day ∧ day < part.stop) =
          [] := by
        rw [filter_eq_nil_iff]
        intro day isDay inside
        obtain ⟨step, member, rfl⟩ := mem_map.mp isDay
        obtain ⟨row, isRow, rfl⟩ := isStep step member
        obtain ⟨starts, stops⟩ := of_decide_eq_true inside
        have later := (newYear_lt_iff positive (real row isRow)).mp (lt_of_le_of_lt after starts)
        have sooner := (newYear_lt_iff (real row isRow) (Nat.le_add_left 1 year)).mp (lt_of_lt_of_le stops upTo)
        omega
      have distinct : [part.start, part.stop].dedup = [part.start, part.stop] :=
        List.Nodup.dedup (by simp [order.ne])
      unfold cuts
      rw [none, distinct]
      simp [order.le]
    unfold segments
    rw [isCuts]
    rfl
  · have sorted : ((yearly table).insertionSort Before).Pairwise Before := pairwise_insertionSort ..
    have isOwn : (newYear year, rate) ∈ (yearly table).insertionSort Before :=
      perm.mem_iff.mpr (mem_map.mpr ⟨(year, rate), isRow, rfl⟩)
    apply rateOn_latest sorted isOwn after
    intro other member early
    obtain ⟨row, isOther, rfl⟩ := isStep other member
    rcases lt_trichotomy row.1 year with less | same | more
    · exact Or.inr ((newYear_lt_iff (real row isOther) positive).mpr less)
    · left
      have isSame : row = (year, rate) := inj_on_of_nodup_map unique isOther isRow same
      rw [isSame]
    · have next : newYear (year + 1) ≤ newYear row.1 := by
        rcases Nat.lt_or_eq_of_le (Nat.succ_le_of_lt more) with before | same
        · exact ((newYear_lt_iff (Nat.le_add_left 1 year) (real row isOther)).mpr before).le
        · exact le_of_eq (congrArg newYear same)
      exact absurd (lt_of_lt_of_le order (upTo.trans (next.trans early))) (lt_irrefl _)

theorem lookup_unique {table : List (ℕ × Decimal)} (unique : (table.map Prod.fst).Nodup) {rate : Decimal}
    (isRow : (year, rate) ∈ table) : table.lookup year = some rate := by
  induction table with
  | nil => exact absurd isRow not_mem_nil
  | cons row rest ih =>
    obtain ⟨isNew, distinct⟩ := nodup_cons.mp unique
    rw [lookup_cons]
    rcases mem_cons.mp isRow with rfl | isRest
    · simp
    · have differs : (year == row.1) = false := by
        apply beq_false_of_ne
        rintro rfl
        exact isNew (mem_map.mpr ⟨_, isRest, rfl⟩)
      rw [differs]
      exact ih distinct isRest

theorem historyYear_yearly (unique : (table.map Prod.fst).Nodup)
    (real : ∀ row ∈ table, 1 ≤ row.1) (isRow : (year, rate) ∈ table)
    (nonempty : yearParts changes until' year ≠ []) :
    historyYear ((yearly table).insertionSort Before) (yearParts changes until' year) year =
      .ok { year, rate := some rate, days := ((yearParts changes until' year).map Interval.days).sum
            amount := roundCents (roundedSum contextRound ((yearParts changes until' year).map fun part =>
              interestTerm part.balance rate part.days (daysOfYear year))) } := by
  have order : ∀ part ∈ yearParts changes until' year, part.start < part.stop := fun _ member => (mem_yearParts member).1
  have whole : (yearParts changes until' year).flatMap (segments ((yearly table).insertionSort Before)) =
      yearParts changes until' year := by
    have single : (yearParts changes until' year).flatMap (fun part => [part]) = yearParts changes until' year := by simp
    rw [flatMap_congr fun part member => (yearly_part unique real isRow member).1, single]
  have rates : ∀ part ∈ yearParts changes until' year,
      rateAt ((yearly table).insertionSort Before) part.start = rate := by
    intro part member
    rw [rateAt, (yearly_part unique real isRow member).2]
    rfl
  rcases historyYear_cases ((yearly table).insertionSort Before) year order with
    ⟨detail, -, part, isPart, day, on, none⟩ | ⟨done, -⟩
  · exfalso
    have own : segments ((yearly table).insertionSort Before) part = [part] := (yearly_part unique real isRow isPart).1
    obtain ⟨segment, isSegment, inSegment⟩ := segments_cover ((yearly table).insertionSort Before) on
    have rated := rateOn_segment (mem_segments (order part isPart) isSegment).2.2.2.2 inSegment
    rw [own, mem_singleton] at isSegment
    rw [isSegment, (yearly_part unique real isRow isPart).2, none] at rated
    cases rated
  · rw [done, whole]
    have terms : ((yearParts changes until' year).map fun part => interestTerm part.balance
        (rateAt ((yearly table).insertionSort Before) part.start) part.days (daysOfYear year)) =
        (yearParts changes until' year).map fun part => interestTerm part.balance rate part.days (daysOfYear year) :=
      map_congr_left fun part member => by rw [rates part member]
    have only : onlyRate ((yearParts changes until' year).map fun part =>
        rateAt ((yearly table).insertionSort Before) part.start) = some rate := by
      rw [onlyRate_iff]
      refine ⟨fun none => nonempty (map_eq_nil_iff.mp none), ?_⟩
      intro other member
      obtain ⟨part, isPart, rfl⟩ := mem_map.mp member
      exact rates part isPart
    rw [terms, only]

theorem mapM_ok {First Second : Type} {step : First → Settled Second} {value : First → Second} (items : List First)
    (each : ∀ item ∈ items, step item = .ok (value item)) : items.mapM step = .ok (items.map value) := by
  induction items with
  | nil => rfl
  | cons item rest ih =>
    rw [mapM_cons, each item mem_cons_self, ih fun other member => each other (mem_cons_of_mem _ member)]
    rfl

/-- With an entry on each first of January the history gives the interest of the yearly rates. -/
theorem history_yearly {table : List (ℕ × Decimal)} (unique : (table.map Prod.fst).Nodup)
    (real : ∀ row ∈ table, 1 ≤ row.1) (realDay : newYear 1 ≤ until')
    (each : ∀ year ∈ yearSpan changes until', year ∈ table.map Prod.fst) :
    interestByRateHistory changes (yearly table) until' = interestByReferenceRate changes table until' := by
  have rows : ∀ year ∈ yearSpan changes until', ∃ rate, (year, rate) ∈ table ∧ table.lookup year = some rate := by
    intro year inSpan
    obtain ⟨row, isRow, rfl⟩ := mem_map.mp (each year inSpan)
    exact ⟨row.2, isRow, lookup_unique unique isRow⟩
  have noneMissing : ((yearSpan changes until').filter fun year => (table.lookup year).isNone) = [] := by
    rw [filter_eq_nil_iff]
    intro year inSpan missing
    obtain ⟨rate, -, found⟩ := rows year inSpan
    rw [found] at missing
    cases missing
  unfold interestByRateHistory interestByReferenceRate
  rw [if_neg (not_not.mpr noneMissing)]
  apply mapM_ok
  intro year inSpan
  obtain ⟨rate, isRow, found⟩ := rows year inSpan
  rw [historyYear_yearly unique real isRow (yearParts_nonempty realDay inSpan), found]
  rfl

/-- The same rate on every day of the deposit. -/
def SameRates (changes : List BalanceChange) (until' : Date) (history other : List (Date × Decimal)) : Prop :=
  ∀ day, (∃ change ∈ changes, change.on ≤ day) → day ≤ until' →
    rateOn (history.insertionSort Before) day = rateOn (other.insertionSort Before) day

theorem history_agrees (same : SameRates changes until' history other)
    (years : Option (List ℕ)) :
    Both (List.Forall₂ (Agrees (rateAt (history.insertionSort Before)) (yearParts changes until')))
      (interestByRateHistory changes history until' years) (interestByRateHistory changes other until' years) := by
  unfold interestByRateHistory
  apply Both.mapM
  intro year _
  apply historyYear_agrees year (yearParts changes until') fun part member => (mem_yearParts member).1
  intro part member day on
  obtain ⟨-, -, -, upTo, change, isChange, began⟩ := mem_yearParts member
  apply same day ⟨change, isChange, began.trans on.1⟩
  have before := Date.lt_def.mp (lt_of_lt_of_le on.2 upTo)
  rw [Date.le_def]
  simp only [Date.addDays] at before
  omega

theorem reference_congr (same : ∀ year ∈ yearSpan changes until', rates.lookup year = table.lookup year) :
    interestByReferenceRate changes rates until' = interestByReferenceRate changes table until' := by
  have missing : ((yearSpan changes until').filter fun year => (rates.lookup year).isNone) =
      (yearSpan changes until').filter fun year => (table.lookup year).isNone :=
    filter_congr fun year inSpan => by rw [same year inSpan]
  unfold interestByReferenceRate
  dsimp only
  rw [missing]
  split
  · rfl
  · congr 1
    apply map_congr_left
    intro year inSpan
    rw [same year inSpan]

theorem settlement_adds_up (settled : computeSettlement settlementDate mode movements deductions input = .ok result) :
    result.payoutAmount + result.deductionsTotal =
        (movements.payments.map Prod.snd).sum - (movements.offsets.map Prod.snd).sum -
          (movements.payouts.map Prod.snd).sum + result.interestTotal ∧
      0 ≤ result.payoutAmount ∧
      interestYears movements.changes mode input settlementDate = .ok result.years ∧ result.deductions = deductions := by
  unfold computeSettlement at settled
  split at settled
  · cases settled
  · split at settled
    · cases settled
    · cases isYears : interestYears movements.changes mode input settlementDate with
      | error detail =>
        rw [isYears] at settled
        cases settled
      | ok years =>
        rw [isYears] at settled
        dsimp only at settled
        split at settled
        · cases settled
        · split at settled
          · cases settled
          · rename_i covered
            cases settled
            exact ⟨sub_add_cancel _ _, not_lt.mp covered, rfl, rfl⟩

/-- For every deposit: entries on each first of January give the interest of the yearly rates, only the sum of the
movements of a day and the rate of a day count, up to the roundings before the last one, and a settlement pays out what
is not retained, which is never negative. -/
theorem deposit_settled (changes : List BalanceChange) (until' : Date) (realDay : newYear 1 ≤ until') :
    (∀ table : List (ℕ × Decimal), (table.map Prod.fst).Nodup → (∀ row ∈ table, 1 ≤ row.1) →
      (∀ year ∈ yearSpan changes until', year ∈ table.map Prod.fst) →
      interestByRateHistory changes (yearly table) until' = interestByReferenceRate changes table until') ∧
    (∀ others, SameDays changes others →
      (∀ rates, interestByReferenceRate changes rates until' = interestByReferenceRate others rates until') ∧
      ∀ history years, interestByRateHistory changes history until' years =
        interestByRateHistory others history until' years) ∧
    (∀ rates table : List (ℕ × Decimal), (∀ year ∈ yearSpan changes until', rates.lookup year = table.lookup year) →
      interestByReferenceRate changes rates until' = interestByReferenceRate changes table until') ∧
    (∀ history other, SameRates changes until' history other → ∀ years,
      Both (List.Forall₂ (Agrees (rateAt (history.insertionSort Before)) (yearParts changes until')))
        (interestByRateHistory changes history until' years) (interestByRateHistory changes other until' years)) ∧
    ∀ mode movements deductions input result,
      computeSettlement until' mode movements deductions input = .ok result →
      result.payoutAmount + result.deductionsTotal =
          (movements.payments.map Prod.snd).sum - (movements.offsets.map Prod.snd).sum -
            (movements.payouts.map Prod.snd).sum + result.interestTotal ∧
        0 ≤ result.payoutAmount ∧
        interestYears movements.changes mode input until' = .ok result.years ∧ result.deductions = deductions := by
  refine ⟨fun table unique real each => history_yearly unique real realDay each, ?_, fun rates table => reference_congr,
    fun history other same years => history_agrees same years, fun mode movements deductions input result => settlement_adds_up⟩
  exact fun others same => ⟨fun rates => same.reference_eq rates until', fun history years =>
    same.history_eq history until' years⟩

theorem deposit_settled_2024 :
    interestByRateHistory [⟨.ofYmd 2024 3 1, 900⟩, ⟨.ofYmd 2024 9 1, 300⟩] [(newYear 2024, 2), (newYear 2025, 1)]
        (.ofYmd 2025 6 30) =
      interestByReferenceRate [⟨.ofYmd 2024 3 1, 900⟩, ⟨.ofYmd 2024 9 1, 300⟩] [(2024, 2), (2025, 1)] (.ofYmd 2025 6 30) :=
  (deposit_settled [⟨.ofYmd 2024 3 1, 900⟩, ⟨.ofYmd 2024 9 1, 300⟩] (.ofYmd 2025 6 30) (by decide)).1
    [(2024, 2), (2025, 1)] (by decide) (by decide) (by decide)

/-- Half a euro at one percent for a year is half a cent; cut by entries of the same rate it is less. -/
theorem redundant_rates_lose_a_cent :
    SameRates [⟨newYear 2025, 1 / 2⟩] (.ofYmd 2025 12 31) [(newYear 2025, 1)]
      [(newYear 2025, 1), (.ofYmd 2025 1 3, 1), (.ofYmd 2025 3 19, 1)] ∧
    (interestByRateHistory [⟨newYear 2025, 1 / 2⟩] [(newYear 2025, 1)] (.ofYmd 2025 12 31)).toOption =
      some [⟨2025, some 1, 365, 1 / 100⟩] ∧
    (interestByRateHistory [⟨newYear 2025, 1 / 2⟩]
      [(newYear 2025, 1), (.ofYmd 2025 1 3, 1), (.ofYmd 2025 3 19, 1)] (.ofYmd 2025 12 31)).toOption =
      some [⟨2025, some 1, 365, 0⟩] := by
  refine ⟨?_, by decide +kernel, by decide +kernel⟩
  rintro day ⟨change, isChange, began⟩ -
  rw [mem_singleton.mp isChange] at began
  have sorted : [(newYear 2025, (1 : Decimal)), (.ofYmd 2025 1 3, 1), (.ofYmd 2025 3 19, 1)].insertionSort Before =
      [(newYear 2025, 1), (.ofYmd 2025 1 3, 1), (.ofYmd 2025 3 19, 1)] := by
    decide +kernel
  rw [sorted]
  by_cases march : Date.ofYmd 2025 3 19 ≤ day <;> by_cases january : Date.ofYmd 2025 1 3 ≤ day <;>
    simp [rateOn, began, march, january]

end Mhvp.Contracts.Deposit
