import Mathlib.Algebra.Order.Ring.Nat
import Mathlib.Data.List.Pairwise
import Mhvp.Lib.Calendar
import Mhvp.Lib.Table

/-! Rows that are valid from a first day to an optional last day. -/

namespace Mhvp.Lib.Validity

open Lib.Calendar
open List hiding count

universe u v w

/-- `daterange(valid_from, valid_to, '[]')` -/
structure Period where
  validFrom : Date
  validTo : Option Date := none

namespace Period

def Ordered (period : Period) : Prop := Within period.validTo period.validFrom

def Covers (period : Period) (day : Date) : Prop := period.validFrom ≤ day ∧ Within period.validTo day

def Overlaps (first second : Period) : Prop :=
  Within first.validTo second.validFrom ∧ Within second.validTo first.validFrom

instance : DecidablePred Ordered := fun _ => by unfold Ordered; infer_instance
instance : DecidableRel Covers := fun _ _ => by unfold Covers; infer_instance
instance : DecidableRel Overlaps := fun _ _ => by unfold Overlaps; infer_instance

theorem overlaps_of_covers {first second : Period} {day : Date} (covers : first.Covers day)
    (coversToo : second.Covers day) : first.Overlaps second :=
  ⟨covers.2.mono coversToo.1, coversToo.2.mono covers.1⟩

theorem le_dayBefore {first second : Date} (before : first < second) : first ≤ second.dayBefore := by
  rw [Date.lt_def] at before
  rw [Date.le_def]
  exact Nat.le_sub_one_of_lt before

theorem lt_of_le_dayBefore {first begun second : Date} (starts : begun < second) (before : first ≤ second.dayBefore) :
    first < second := by
  rw [Date.lt_def] at starts ⊢
  rw [Date.le_def, Date.dayBefore] at before
  dsimp only at before
  omega

theorem covers_ended {period : Period} {last on : Date} (reaches : Within period.validTo last) :
    Covers ⟨period.validFrom, some last⟩ on ↔ on ≤ last ∧ period.Covers on := by
  unfold Covers
  rw [within_some]
  constructor
  · exact fun covers => ⟨covers.2, covers.1, reaches.mono covers.2⟩
  · exact fun covers => ⟨covers.2.1, covers.1⟩

theorem covers_cut {period : Period} {last on : Date} (before : on ≤ last) (reaches : Within period.validTo last) :
    Covers ⟨period.validFrom, some last⟩ on ↔ period.Covers on :=
  (covers_ended reaches).trans (and_iff_right before)

theorem covers_rest {period : Period} {first on : Date} (started : period.validFrom ≤ first) :
    Covers ⟨first, period.validTo⟩ on ↔ first ≤ on ∧ period.Covers on := by
  unfold Covers
  constructor
  · exact fun covers => ⟨covers.1, started.trans covers.1, covers.2⟩
  · exact fun covers => ⟨covers.1, covers.2.2⟩

end Period

section Days

variable {Number : Type u} [Semiring Number] {start first stop last : Date}

theorem daySum_add_shares (share other : Date → Number) (start last : Date) :
    daySum (fun day => share day + other day) start last = daySum share start last + daySum other start last :=
  sum_map_add

theorem daySum_span (value : Number) (after : start ≤ first) (ordered : first ≤ stop) (before : stop ≤ last) :
    daySum (fun day => if first ≤ day ∧ day ≤ stop then value else 0) start (last.addDays 1) =
      (stop.ordinal - first.ordinal + 1 : ℕ) * value := by
  have upTo : first ≤ stop.addDays 1 := ordered.trans (Date.lt_addDays_one stop).le
  have rest : stop.addDays 1 ≤ last.addDays 1 := Nat.succ_le_succ (Date.le_def.mp before)
  have early : ∀ day, start ≤ day → day < first → (if first ≤ day ∧ day ≤ stop then value else 0) = 0 := by
    intro day _ notBegun
    rw [if_neg fun inside => absurd inside.1 (not_le.mpr notBegun)]
  have late : ∀ day, stop.addDays 1 ≤ day → day < last.addDays 1 →
      (if first ≤ day ∧ day ≤ stop then value else 0) = 0 := by
    intro day isOver _
    rw [if_neg fun inside => absurd ((Date.lt_addDays_one stop).trans_le isOver) (not_lt.mpr inside.2)]
  have inside : ∀ day, first ≤ day → day < stop.addDays 1 →
      (if first ≤ day ∧ day ≤ stop then value else 0) = value := by
    intro day begun notOver
    rw [if_pos ⟨begun, Nat.le_of_lt_succ (Date.lt_def.mp notOver)⟩]
  have length : (stop.addDays 1).ordinal - first.ordinal = stop.ordinal - first.ordinal + 1 :=
    Nat.succ_sub (Date.le_def.mp ordered)
  rw [← daySum_add _ after (upTo.trans rest), ← daySum_add _ upTo rest, daySum_const early, daySum_const inside,
    daySum_const late, mul_zero, mul_zero, zero_add, add_zero, length]

/-- A count per day of one at most adds up to the days exactly where it is one on all of them. -/
theorem daySum_eq_days_iff (most : ∀ day, count day ≤ 1) (start last : Date) :
    daySum count start last = last.ordinal - start.ordinal ↔ ∀ day, start ≤ day → day < last → count day = 1 := by
  have eachDay : ∀ days : List ℕ,
      (days.map fun day => count ⟨day⟩).sum ≤ days.length ∧
        ((days.map fun day => count ⟨day⟩).sum = days.length ↔ ∀ day ∈ days, count ⟨day⟩ = 1) := by
    intro days
    induction days with
    | nil => simp
    | cons day rest ih =>
      have one := most ⟨day⟩
      obtain ⟨few, all⟩ := ih
      simp only [map_cons, sum_cons, length_cons, forall_mem_cons]
      constructor
      · omega
      · rw [← all]
        omega
  unfold daySum
  have sameLength := (eachDay (List.range' start.ordinal (last.ordinal - start.ordinal))).2
  rw [length_range'] at sameLength
  rw [sameLength]
  constructor
  · intro each day after before
    apply each day.ordinal
    have inSpan := Date.lt_def.mp before
    have begun := Date.le_def.mp after
    exact mem_range'_1.mpr ⟨begun, by omega⟩
  · intro each day member
    obtain ⟨after, before⟩ := mem_range'_1.mp member
    have inSpan : day < last.ordinal := by omega
    exact each ⟨day⟩ after inSpan

theorem daySum_eq_zero_iff :
    daySum count start last = 0 ↔ ∀ day, start ≤ day → day < last → count day = 0 := by
  unfold daySum
  rw [sum_eq_zero_iff]
  constructor
  · intro none day after before
    have inSpan := Date.lt_def.mp before
    have begun := Date.le_def.mp after
    exact none _ (mem_map_of_mem (mem_range'_1.mpr ⟨begun, by omega⟩))
  · intro none value member
    obtain ⟨day, isDay, rfl⟩ := mem_map.mp member
    obtain ⟨after, before⟩ := mem_range'_1.mp isDay
    have inSpan : day < last.ordinal := by omega
    exact none ⟨day⟩ after inSpan

end Days

section Groups

variable {Row : Type u} {Group : Type v} {group : Row → Group} {period : Row → Period} {rows : List Row}
  {row other : Row} {first second : ℕ}

/-- The rows of a group do not overlap. -/
def Exclusive (group : Row → Group) (period : Row → Period) (rows : List Row) : Prop :=
  (∀ row ∈ rows, (period row).Ordered) ∧
    rows.Pairwise fun first second => group first = group second → ¬ (period first).Overlaps (period second)

instance [DecidableEq Group] (rows : List Row) : Decidable (Exclusive group period rows) := by
  unfold Exclusive; infer_instance

/-- Rows of one group that cover a day. -/
def Standing (group : Row → Group) (period : Row → Period) (wanted : Group) (day : Date) (row : Row) : Prop :=
  group row = wanted ∧ (period row).Covers day

instance [DecidableEq Group] (wanted : Group) (day : Date) (row : Row) :
    Decidable (Standing group period wanted day row) := by
  unfold Standing; infer_instance

theorem Exclusive.same_place (exclusive : Exclusive group period rows) {wanted : Group} {day : Date}
    (found : rows[first]? = some row) (foundOther : rows[second]? = some other)
    (stands : Standing group period wanted day row) (standsOther : Standing group period wanted day other) :
    first = second := by
  have apart := pairwise_iff_getElem.mp exclusive.2
  obtain ⟨inside, rfl⟩ := List.getElem?_eq_some_iff.mp found
  obtain ⟨insideOther, rfl⟩ := List.getElem?_eq_some_iff.mp foundOther
  rcases lt_trichotomy first second with before | same | after
  · exact absurd (Period.overlaps_of_covers stands.2 standsOther.2)
      (apart first second inside insideOther before (stands.1.trans standsOther.1.symm))
  · exact same
  · exact absurd (Period.overlaps_of_covers standsOther.2 stands.2)
      (apart second first insideOther inside after (standsOther.1.trans stands.1.symm))

variable [DecidableEq Group]

theorem Exclusive.standing_le_one (exclusive : Exclusive group period rows) (wanted : Group) (day : Date) :
    (rows.filter fun row => Standing group period wanted day row).length ≤ 1 := by
  apply Table.filter_length_le_one
  intro first second row other found foundOther selected selectedOther
  exact exclusive.same_place found foundOther (of_decide_eq_true selected) (of_decide_eq_true selectedOther)

end Groups

theorem eq_of_mem_iff {Content : Type w} {found other : List Content} (once : found.length ≤ 1)
    (onceOther : other.length ≤ 1) (same : ∀ content, content ∈ found ↔ content ∈ other) : found = other := by
  cases found with
  | nil => exact (eq_nil_iff_forall_not_mem.mpr fun content member => nomatch (same content).mpr member).symm
  | cons content rest =>
    rw [Table.eq_singleton_of_mem onceOther ((same content).mp mem_cons_self)]
    exact Table.eq_singleton_of_mem once mem_cons_self

/-- What an owner holds under a key for a period. -/
structure Held (Owner : Type u) (Key : Type v) (Content : Type w) extends Period where
  owner : Owner
  key : Key
  content : Content

namespace Held

variable {Owner : Type u} {Key : Type v} {Content : Type w} {rows added : List (Held Owner Key Content)}
  {row : Held Owner Key Content} {owner new other : Owner} {key wanted : Key} {day last on : Date} {content : Content}

def group (row : Held Owner Key Content) : Owner × Key := (row.owner, row.key)

/-- The row gives its owner the content under the key on the day. -/
structure At (row : Held Owner Key Content) (owner : Owner) (key : Key) (day : Date) (content : Content) : Prop where
  owner : row.owner = owner
  key : row.key = key
  covers : row.Covers day
  content : row.content = content

def On (rows : List (Held Owner Key Content)) (owner : Owner) (key : Key) (day : Date) (content : Content) : Prop :=
  ∃ row ∈ rows, row.At owner key day content

theorem At.standing (stands : row.At owner key day content) :
    Standing group Held.toPeriod (owner, key) day row :=
  ⟨Prod.ext stands.owner stands.key, stands.covers⟩

theorem on_append : On (rows ++ added) owner key day content ↔
    On rows owner key day content ∨ On added owner key day content := by
  simp only [On, mem_append, or_and_right, exists_or]

theorem on_map (same : ∀ row ∈ rows, (change row).At owner key day content ↔ row.At owner key day content) :
    On (rows.map change) owner key day content ↔ On rows owner key day content := by
  constructor
  · rintro ⟨_, member, stands⟩
    obtain ⟨row, isRow, rfl⟩ := mem_map.mp member
    exact ⟨row, isRow, (same row isRow).mp stands⟩
  · rintro ⟨row, isRow, stands⟩
    exact ⟨change row, mem_map_of_mem isRow, (same row isRow).mpr stands⟩

variable [DecidableEq Owner] [DecidableEq Key]

theorem found_standing (found : (rows.find? fun row => Standing group Held.toPeriod (owner, key) day row) = some row) :
    row ∈ rows ∧ row.owner = owner ∧ row.key = key ∧ row.Covers day := by
  have stands : Standing group Held.toPeriod (owner, key) day row := by simpa using List.find?_some found
  exact ⟨mem_of_find?_eq_some found, congrArg Prod.fst stands.1, congrArg Prod.snd stands.1, stands.2⟩

/-- What the owner holds under the key on the day. -/
def contents (rows : List (Held Owner Key Content)) (owner : Owner) (key : Key) (day : Date) : List Content :=
  (rows.filter fun row => Standing group Held.toPeriod (owner, key) day row).map Held.content

theorem mem_contents : content ∈ contents rows owner key day ↔ On rows owner key day content := by
  simp only [contents, mem_map, mem_filter, decide_eq_true_eq]
  constructor
  · rintro ⟨row, ⟨member, same, covers⟩, isContent⟩
    exact ⟨row, member, congrArg Prod.fst same, congrArg Prod.snd same, covers, isContent⟩
  · rintro ⟨row, member, stands⟩
    exact ⟨row, ⟨member, stands.standing⟩, stands.content⟩

theorem contents_le_one (exclusive : Exclusive group Held.toPeriod rows) (owner : Owner) (key : Key) (day : Date) :
    (contents rows owner key day).length ≤ 1 := by
  rw [contents, length_map]
  exact exclusive.standing_le_one (owner, key) day

theorem contents_eq (exclusive : Exclusive group Held.toPeriod rows) (member : row ∈ rows)
    (stands : row.At owner key day content) : contents rows owner key day = [content] :=
  Table.eq_singleton_of_mem (contents_le_one exclusive owner key day) (mem_contents.mpr ⟨row, member, stands⟩)

theorem contents_congr {other : List (Held Owner Key Content)} (exclusive : Exclusive group Held.toPeriod rows)
    (exclusiveOther : Exclusive group Held.toPeriod other)
    (same : ∀ content, On rows owner key day content ↔ On other owner key day content) :
    contents rows owner key day = contents other owner key day := by
  apply eq_of_mem_iff (contents_le_one exclusive owner key day) (contents_le_one exclusiveOther owner key day)
  intro content
  rw [mem_contents, mem_contents, same]

/-- End the open row of the owner and key that started before the day, on the day before. -/
def closeOpen (owner : Owner) (key : Key) (day : Date) (row : Held Owner Key Content) : Held Owner Key Content :=
  if row.owner = owner ∧ row.key = key ∧ row.validTo = none ∧ row.validFrom < day then
    { row with validTo := some day.dayBefore }
  else row

/-- End the rows of the owner that last longer than the day. -/
def endAt (owner : Owner) (last : Date) (row : Held Owner Key Content) : Held Owner Key Content :=
  if row.owner = owner ∧ ∀ stop ∈ row.validTo, last < stop then { row with validTo := some last } else row

/-- A row of the owner that reaches the day goes over to another owner, or ends before the day if it started before. -/
def handOver (owner new : Owner) (day : Date) (row : Held Owner Key Content) : Held Owner Key Content :=
  if row.owner = owner ∧ Within row.validTo day then
    if day ≤ row.validFrom then { row with owner := new } else { row with validTo := some day.dayBefore }
  else row

/-- The rest of a row from a day on, for another owner. -/
def continued (new : Owner) (day : Date) (row : Held Owner Key Content) : Held Owner Key Content :=
  { row with owner := new, validFrom := day }

/-- The rows of the owner that reach the day go over to another owner; those that started before are split there. -/
def moveFrom (owner new : Owner) (day : Date) (rows : List (Held Owner Key Content)) : List (Held Owner Key Content) :=
  rows.map (handOver owner new day) ++
    (rows.filter fun row => row.owner = owner ∧ Within row.validTo day ∧ row.validFrom < day).map (continued new day)

theorem closeOpen_at (elsewhere : on < day ∨ (owner, key) ≠ (other, wanted)) :
    (closeOpen other wanted day row).At owner key on content ↔ row.At owner key on content := by
  unfold closeOpen
  split
  · rename_i closes
    obtain ⟨isOwner, isKey, isOpen, -⟩ := closes
    rcases elsewhere with before | differs
    · have covers := Period.covers_cut (Period.le_dayBefore before) (show Within row.validTo _ by simp [isOpen])
      constructor
      · exact fun stands => ⟨stands.owner, stands.key, covers.mp stands.covers, stands.content⟩
      · exact fun stands => ⟨stands.owner, stands.key, covers.mpr stands.covers, stands.content⟩
    · constructor
      · exact fun stands => absurd (Prod.ext (stands.owner.symm.trans isOwner) (stands.key.symm.trans isKey)) differs
      · exact fun stands => absurd (Prod.ext (stands.owner.symm.trans isOwner) (stands.key.symm.trans isKey)) differs
  · exact Iff.rfl

theorem closeOpen_eq_self (untouched : (row.owner, row.key) ≠ (owner, key) ∨ day ≤ row.validFrom) :
    closeOpen owner key day row = row := by
  unfold closeOpen
  apply if_neg
  rintro ⟨isOwner, isKey, -, before⟩
  rcases untouched with differs | late
  · exact differs (Prod.ext isOwner isKey)
  · exact absurd before (not_lt.mpr late)

theorem mem_closed (member : row ∈ rows) (untouched : (row.owner, row.key) ≠ (owner, key) ∨ day ≤ row.validFrom) :
    row ∈ rows.map (closeOpen owner key day) :=
  mem_map.mpr ⟨row, member, closeOpen_eq_self untouched⟩

/-- A new row that follows the open one is found on none of the days before and under no other key. -/
theorem on_inserted {added : Held Owner Key Content}
    (elsewhere : on < added.validFrom ∨ (owner, key) ≠ (added.owner, added.key)) :
    On (rows.map (closeOpen added.owner added.key added.validFrom) ++ [added]) owner key on content ↔
      On rows owner key on content := by
  rw [on_append, on_map fun row _ => closeOpen_at elsewhere]
  constructor
  · rintro (old | ⟨row, member, stands⟩)
    · exact old
    · obtain rfl := mem_singleton.mp member
      rcases elsewhere with before | differs
      · exact absurd (stands.covers.1.trans_lt before) (lt_irrefl _)
      · exact absurd (Prod.ext stands.owner.symm stands.key.symm) differs
  · exact Or.inl

omit [DecidableEq Key] in
theorem endAt_at (kept : on ≤ last ∨ owner ≠ other) :
    (endAt other last row).At owner key on content ↔ row.At owner key on content := by
  unfold endAt
  split
  · rename_i ends
    obtain ⟨isOwner, longer⟩ := ends
    rcases kept with before | differs
    · have reaches : Within row.validTo last := fun stop isStop => (longer stop isStop).le
      have covers := Period.covers_cut before reaches
      constructor
      · exact fun stands => ⟨stands.owner, stands.key, covers.mp stands.covers, stands.content⟩
      · exact fun stands => ⟨stands.owner, stands.key, covers.mpr stands.covers, stands.content⟩
    · constructor
      · exact fun stands => absurd (stands.owner.symm.trans isOwner) differs
      · exact fun stands => absurd (stands.owner.symm.trans isOwner) differs
  · exact Iff.rfl

omit [DecidableEq Key] in
theorem handOver_at (notNew : owner ≠ new) (kept : on < day ∨ owner ≠ other) :
    (handOver other new day row).At owner key on content ↔ row.At owner key on content := by
  unfold handOver
  split
  · rename_i reaches
    obtain ⟨isOwner, reaches⟩ := reaches
    rcases kept with before | differs
    · split
      · rename_i starts
        constructor
        · exact fun stands => absurd stands.owner (Ne.symm notNew)
        · exact fun stands => absurd (stands.covers.1.trans_lt before) (not_lt.mpr starts)
      · rename_i starts
        have covers := Period.covers_cut (Period.le_dayBefore before) (reaches.mono (Nat.sub_le _ _))
        constructor
        · exact fun stands => ⟨stands.owner, stands.key, covers.mp stands.covers, stands.content⟩
        · exact fun stands => ⟨stands.owner, stands.key, covers.mpr stands.covers, stands.content⟩
    · have notOwner : ¬ row.At owner key on content := fun stands => differs (stands.owner.symm.trans isOwner)
      split
      · exact ⟨fun stands => absurd stands.owner (Ne.symm notNew), fun stands => absurd stands notOwner⟩
      · exact ⟨fun stands => absurd (stands.owner.symm.trans isOwner) differs, fun stands => absurd stands notOwner⟩
  · exact Iff.rfl

omit [DecidableEq Key] in
theorem moveFrom_kept (notNew : owner ≠ new) (kept : on < day ∨ owner ≠ other) :
    On (moveFrom other new day rows) owner key on content ↔ On rows owner key on content := by
  unfold moveFrom
  rw [on_append, on_map fun row _ => handOver_at notNew kept]
  constructor
  · rintro (old | ⟨row, member, stands⟩)
    · exact old
    · obtain ⟨held, -, rfl⟩ := mem_map.mp member
      exact absurd stands.owner (Ne.symm notNew)
  · exact Or.inl

omit [DecidableEq Key] in
theorem moveFrom_from (noNew : ∀ row ∈ rows, row.owner ≠ new) (after : day ≤ on) :
    On (moveFrom owner new day rows) new key on content ↔ On rows owner key on content := by
  unfold moveFrom
  rw [on_append]
  constructor
  · rintro (⟨_, member, stands⟩ | ⟨_, member, stands⟩)
    · obtain ⟨row, isRow, rfl⟩ := mem_map.mp member
      unfold handOver at stands
      split at stands
      · rename_i reaches
        split at stands
        · exact ⟨row, isRow, reaches.1, stands.key, stands.covers, stands.content⟩
        · exact absurd stands.owner (noNew row isRow)
      · exact absurd stands.owner (noNew row isRow)
    · obtain ⟨row, isRow, rfl⟩ := mem_map.mp member
      rw [mem_filter, decide_eq_true_eq] at isRow
      obtain ⟨isRow, isOwner, -, started⟩ := isRow
      exact ⟨row, isRow, isOwner, stands.key, ⟨started.le.trans after, stands.covers.2⟩, stands.content⟩
  · rintro ⟨row, isRow, stands⟩
    have reaches : Within row.validTo day := stands.covers.2.mono after
    by_cases starts : day ≤ row.validFrom
    · left
      refine ⟨_, mem_map_of_mem isRow, ?_⟩
      rw [handOver, if_pos ⟨stands.owner, reaches⟩, if_pos starts]
      exact ⟨rfl, stands.key, stands.covers, stands.content⟩
    · right
      have selected : row ∈ rows.filter fun row => row.owner = owner ∧ Within row.validTo day ∧ row.validFrom < day :=
        mem_filter.mpr ⟨isRow, decide_eq_true ⟨stands.owner, reaches, not_le.mp starts⟩⟩
      exact ⟨_, mem_map_of_mem selected, rfl, stands.key, ⟨after, stands.covers.2⟩, stands.content⟩

end Held

end Mhvp.Lib.Validity
