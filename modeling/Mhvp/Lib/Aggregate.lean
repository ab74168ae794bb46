import Mathlib.Algebra.Order.BigOperators.Group.List
import Mathlib.Algebra.Order.Group.Defs
import Mathlib.Tactic.Abel

/-!
Aggregates over the rows of a table: the sum of a column over the rows a condition selects, how it follows an appended
row and a replaced row, and when it is bounded.
-/

namespace Mhvp.Lib.Aggregate

open List

universe u v

variable {Row : Type u} {Amount : Type v}

/-- `SELECT sum(column) FROM rows WHERE selects`. -/
def sumWhere [AddMonoid Amount] (selects : Row → Prop) [DecidablePred selects]
    (column : Row → Amount) (rows : List Row) : Amount :=
  ((rows.filter selects).map column).sum

section Monoid

variable [AddMonoid Amount] {selects : Row → Prop} [DecidablePred selects] {column : Row → Amount}

@[simp] theorem sumWhere_nil : sumWhere selects column [] = 0 := rfl

theorem sumWhere_cons (row : Row) (rows : List Row) :
    sumWhere selects column (row :: rows) =
      (if selects row then column row else 0) + sumWhere selects column rows := by
  by_cases selected : selects row <;> simp [sumWhere, selected]

@[simp] theorem sumWhere_append (first second : List Row) :
    sumWhere selects column (first ++ second) =
      sumWhere selects column first + sumWhere selects column second := by
  simp [sumWhere]

theorem sumWhere_singleton (row : Row) :
    sumWhere selects column [row] = if selects row then column row else 0 := by
  rw [sumWhere_cons]; simp

theorem sumWhere_congr [DecidablePred others]
    (same : ∀ row ∈ rows, selects row ↔ others row)
    (agree : ∀ row ∈ rows, selects row → column row = values row) :
    sumWhere selects column rows = sumWhere others values rows := by
  induction rows with
  | nil => rfl
  | cons row rest ih =>
    rw [sumWhere_cons, sumWhere_cons, ih (fun r member => same r (by simp [member]))
      (fun r member => agree r (by simp [member]))]
    congr 1
    by_cases selected : selects row
    · rw [if_pos selected, if_pos ((same row (by simp)).mp selected), agree row (by simp) selected]
    · rw [if_neg selected, if_neg (mt (same row (by simp)).mpr selected)]

theorem sumWhere_eq_zero (none : ∀ row ∈ rows, selects row → column row = 0) :
    sumWhere selects column rows = 0 := by
  induction rows with
  | nil => rfl
  | cons row rest ih =>
    rw [sumWhere_cons, ih fun r member => none r (by simp [member])]
    by_cases selected : selects row
    · simp [selected, none row (by simp) selected]
    · simp [selected]

theorem sumWhere_map [DecidablePred selects]
    (change : Other → Row) (rows : List Other) :
    sumWhere selects column (rows.map change) =
      sumWhere (fun row => selects (change row)) (fun row => column (change row)) rows := by
  induction rows with
  | nil => rfl
  | cons row rest ih => rw [map_cons, sumWhere_cons, sumWhere_cons, ih]

theorem sumWhere_filter (kept : Row → Prop) [DecidablePred kept] (rows : List Row) :
    sumWhere selects column (rows.filter kept) =
      sumWhere (fun row => selects row ∧ kept row) column rows := by
  simp [sumWhere, filter_filter, Bool.decide_and]

theorem sumWhere_and (part : Row → Prop) [DecidablePred part] (rows : List Row) :
    sumWhere (fun row => selects row ∧ part row) column rows =
      sumWhere selects (fun row => if part row then column row else 0) rows := by
  induction rows with
  | nil => rfl
  | cons row rest ih =>
    rw [sumWhere_cons, sumWhere_cons, ih]
    by_cases selected : selects row <;> simp [selected]

theorem sumWhere_key {Value : Type*} [DecidableEq Value] {key : Row → Value} {rows : List Row}
    (distinct : (rows.map key).Nodup) (member : row ∈ rows) :
    sumWhere (fun other => key other = key row) column rows = column row := by
  induction rows with
  | nil => cases member
  | cons first rest ih =>
    rw [map_cons, nodup_cons] at distinct
    rw [sumWhere_cons]
    rcases mem_cons.mp member with rfl | later
    · rw [if_pos rfl, sumWhere_eq_zero, add_zero]
      intro other present same
      exact absurd (same ▸ mem_map_of_mem present) distinct.1
    · have different : key first ≠ key row := by
        intro same
        rw [same] at distinct
        exact distinct.1 (mem_map_of_mem later)
      rw [if_neg different, zero_add, ih distinct.2 later]

theorem sumWhere_flatMap (inner : Outer → List Row) (rows : List Outer) :
    sumWhere selects column (rows.flatMap inner) =
      (rows.map fun row => sumWhere selects column (inner row)).sum := by
  induction rows with
  | nil => rfl
  | cons row rest ih => rw [flatMap_cons, sumWhere_append, ih, map_cons, sum_cons]

theorem sumWhere_zipIdx (rows : List Row) (index start : ℕ) (column : Row × ℕ → Amount) :
    sumWhere (fun row => row.2 = start + index) column (rows.zipIdx start) =
      ((rows[index]?).map fun row => column (row, start + index)).getD 0 := by
  induction rows generalizing index start with
  | nil => simp
  | cons row rest ih =>
    rw [zipIdx_cons, sumWhere_cons]
    cases index with
    | zero =>
      have later : sumWhere (fun row => row.2 = start) column (rest.zipIdx (start + 1)) = 0 :=
        sumWhere_eq_zero fun found member same => by
          have := le_snd_of_mem_zipIdx member
          omega
      simp [later]
    | succ index =>
      have shift : start + (index + 1) = start + 1 + index := by omega
      rw [shift, ih, if_neg (by simp; omega)]
      simp

end Monoid

section Group

variable [AddCommGroup Amount] {selects : Row → Prop} [DecidablePred selects] {column : Row → Amount}

theorem sumWhere_set (found : rows[index]? = some old) :
    sumWhere selects column (rows.set index new) =
      sumWhere selects column rows - (if selects old then column old else 0) +
        (if selects new then column new else 0) := by
  induction rows generalizing index with
  | nil => simp at found
  | cons row rest ih =>
    cases index with
    | zero =>
      obtain rfl : row = old := by simpa using found
      simp only [set_cons_zero, sumWhere_cons]
      abel
    | succ index =>
      rw [set_cons_succ, sumWhere_cons, sumWhere_cons, ih (by simpa using found)]
      abel

theorem sumWhere_neg (rows : List Row) :
    sumWhere selects (fun row => -column row) rows = -sumWhere selects column rows := by
  induction rows with
  | nil => simp
  | cons row rest ih =>
    rw [sumWhere_cons, sumWhere_cons, ih]
    by_cases selected : selects row <;> simp [selected, neg_add_rev, add_comm]

theorem sumWhere_add (other : Row → Amount) (rows : List Row) :
    sumWhere selects (fun row => column row + other row) rows =
      sumWhere selects column rows + sumWhere selects other rows := by
  induction rows with
  | nil => simp
  | cons row rest ih =>
    rw [sumWhere_cons, sumWhere_cons, sumWhere_cons, ih]
    by_cases selected : selects row
    · simp only [if_pos selected]; abel
    · simp [selected]

theorem sumWhere_sub (other : Row → Amount) (rows : List Row) :
    sumWhere selects (fun row => column row - other row) rows =
      sumWhere selects column rows - sumWhere selects other rows := by
  simp only [sub_eq_add_neg, sumWhere_add, sumWhere_neg]

theorem sumWhere_references (picks : Parent → Prop) [DecidablePred picks]
    (reference : Row → ℕ) (parents : List Parent) (rows : List Row) :
    sumWhere (fun found : Parent × ℕ => picks found.1)
        (fun found => sumWhere (fun row => reference row = found.2) column rows) parents.zipIdx =
      sumWhere (fun row => ∃ parent ∈ parents[reference row]?, picks parent) column rows := by
  induction rows with
  | nil => exact sumWhere_eq_zero fun found _ _ => rfl
  | cons row rest ih =>
    simp only [sumWhere_cons]
    rw [sumWhere_add, ih]
    congr 1
    have byPlace := sumWhere_zipIdx parents (reference row) 0 fun found =>
      if picks found.1 then column row else 0
    rw [← sumWhere_and] at byPlace
    rw [← sumWhere_and]
    have swapped : sumWhere (fun found : Parent × ℕ => picks found.1 ∧ reference row = found.2)
        (fun _ => column row) parents.zipIdx =
        sumWhere (fun found : Parent × ℕ => found.2 = 0 + reference row ∧ picks found.1)
          (fun _ => column row) parents.zipIdx :=
      sumWhere_congr (fun found _ => by rw [Nat.zero_add, and_comm, eq_comm]) fun _ _ _ => rfl
    rw [swapped, byPlace]
    cases parents[reference row]? <;> simp

theorem sumWhere_split (part : Row → Prop) [DecidablePred part] (rows : List Row) :
    sumWhere selects column rows =
      sumWhere (fun row => selects row ∧ part row) column rows +
        sumWhere (fun row => selects row ∧ ¬ part row) column rows := by
  induction rows with
  | nil => simp
  | cons row rest ih =>
    rw [sumWhere_cons, sumWhere_cons, sumWhere_cons, ih]
    by_cases selected : selects row <;> by_cases inPart : part row <;>
      simp [selected, inPart, add_assoc, add_left_comm]

end Group

section Ordered

variable [AddCommGroup Amount] [PartialOrder Amount] [IsOrderedAddMonoid Amount]
  {selects : Row → Prop} [DecidablePred selects] {column : Row → Amount}

theorem sumWhere_nonneg (nonneg : ∀ row ∈ rows, selects row → 0 ≤ column row) :
    0 ≤ sumWhere selects column rows := by
  induction rows with
  | nil => simp
  | cons row rest ih =>
    rw [sumWhere_cons]
    refine add_nonneg ?_ (ih fun r member => nonneg r (by simp [member]))
    by_cases selected : selects row
    · rw [if_pos selected]; exact nonneg row (by simp) selected
    · rw [if_neg selected]

theorem sumWhere_mono [DecidablePred wider]
    (widens : ∀ row ∈ rows, selects row → wider row)
    (nonneg : ∀ row ∈ rows, wider row → 0 ≤ column row) :
    sumWhere selects column rows ≤ sumWhere wider column rows := by
  induction rows with
  | nil => simp
  | cons row rest ih =>
    rw [sumWhere_cons, sumWhere_cons]
    refine add_le_add ?_ (ih (fun r member => widens r (by simp [member]))
      (fun r member => nonneg r (by simp [member])))
    by_cases selected : selects row
    · rw [if_pos selected, if_pos (widens row (by simp) selected)]
    · rw [if_neg selected]
      by_cases inWider : wider row
      · rw [if_pos inWider]; exact nonneg row (by simp) inWider
      · rw [if_neg inWider]

theorem sumWhere_single_le (nonneg : ∀ row ∈ rows, selects row → 0 ≤ column row)
    (member : row ∈ rows) (selected : selects row) : column row ≤ sumWhere selects column rows := by
  induction rows with
  | nil => cases member
  | cons first rest ih =>
    have restNonneg : ∀ other ∈ rest, selects other → 0 ≤ column other :=
      fun other present => nonneg other (mem_cons_of_mem _ present)
    rw [sumWhere_cons]
    rcases mem_cons.mp member with rfl | later
    · rw [if_pos selected]
      exact le_add_of_nonneg_right (sumWhere_nonneg restNonneg)
    · refine (ih restNonneg later).trans (le_add_of_nonneg_left ?_)
      split
      · rename_i also
        exact nonneg first mem_cons_self also
      · exact le_rfl

/-- A table selects no more than another if each selected row is selected in the same place of the other. -/
theorem sumWhere_places_le {selects picks : Row × ℕ → Prop} [DecidablePred selects] [DecidablePred picks]
    {column : Row × ℕ → Amount} {rows others : List Row} {start : ℕ}
    (each : ∀ (index : ℕ) (row : Row), rows[index]? = some row → selects (row, start + index) →
      ∃ other, others[index]? = some other ∧ picks (other, start + index) ∧
        column (row, start + index) ≤ column (other, start + index))
    (nonneg : ∀ found ∈ others.zipIdx start, picks found → 0 ≤ column found) :
    sumWhere selects column (rows.zipIdx start) ≤ sumWhere picks column (others.zipIdx start) := by
  induction rows generalizing others start with
  | nil => exact sumWhere_nonneg nonneg
  | cons row rest ih =>
    cases others with
    | nil =>
      apply le_of_eq
      apply sumWhere_eq_zero
      intro found member selected
      obtain ⟨before, inside, same⟩ := mem_zipIdx member
      obtain ⟨_, absent, _⟩ := each (found.2 - start) found.1
        (by rw [List.getElem?_eq_getElem (by omega), same]) (by
          rw [Nat.add_sub_cancel' before]
          exact selected)
      simp at absent
    | cons other more =>
      rw [zipIdx_cons, zipIdx_cons, sumWhere_cons, sumWhere_cons]
      refine add_le_add ?_ (ih ?_ fun found member => nonneg found (mem_cons_of_mem _ member))
      · by_cases selected : selects (row, start)
        · obtain ⟨_, isOther, picked, le⟩ := each 0 row rfl selected
          cases isOther
          rw [Nat.add_zero] at picked le
          rw [if_pos selected, if_pos picked]
          exact le
        · rw [if_neg selected]
          split
          · rename_i picked
            exact nonneg (other, start) mem_cons_self picked
          · exact le_rfl
      · intro index later found selected
        have shift : start + 1 + index = start + (index + 1) := by omega
        rw [shift] at selected ⊢
        exact each (index + 1) later found selected

omit [IsOrderedAddMonoid Amount] in
theorem sumWhere_le_of_unique (unique : (rows.map key).Nodup) (fixed : ∀ row ∈ rows, selects row → key row = value)
    (bound : ∀ row ∈ rows, selects row → column row ≤ limit) (nonneg : 0 ≤ limit) :
    sumWhere selects column rows ≤ limit := by
  induction rows with
  | nil => exact nonneg
  | cons row rest ih =>
    rw [map_cons, nodup_cons] at unique
    rw [sumWhere_cons]
    by_cases selected : selects row
    · have others : sumWhere selects column rest = 0 := by
        apply sumWhere_eq_zero
        intro other member also
        have same : key other = key row :=
          (fixed other (by simp [member]) also).trans (fixed row (by simp) selected).symm
        exact absurd (mem_map.mpr ⟨other, member, same⟩) unique.1
      rw [if_pos selected, others, add_zero]
      exact bound row (by simp) selected
    · rw [if_neg selected, zero_add]
      exact ih unique.2 (fun r member => fixed r (by simp [member])) fun r member => bound r (by simp [member])

end Ordered

end Mhvp.Lib.Aggregate

namespace Mhvp.Lib.Tally

open Lib.Aggregate

universe u v

variable {Key : Type u} {Amount : Type v} [DecidableEq Key]

/-- `tally[key] = tally.get(key, 0) + amount` -/
def add [Add Amount] : List (Key × Amount) → Key × Amount → List (Key × Amount)
  | [], entry => [entry]
  | (held, sum) :: rest, entry =>
    if held = entry.1 then (held, sum + entry.2) :: rest else (held, sum) :: add rest entry

/-- Every entry added, one after the other. -/
def addAll [Add Amount] (tally entries : List (Key × Amount)) : List (Key × Amount) := entries.foldl add tally

variable {Number : Type*} [AddCommMonoid Amount] [AddCommMonoid Number] {tally entries : List (Key × Amount)}

theorem sumWhere_add (selects : Key → Prop) [DecidablePred selects] (column : Amount →+ Number)
    (tally : List (Key × Amount)) (entry : Key × Amount) :
    sumWhere (fun held => selects held.1) (fun held => column held.2) (add tally entry) =
      sumWhere (fun held => selects held.1) (fun held => column held.2) tally +
        if selects entry.1 then column entry.2 else 0 := by
  induction tally with
  | nil => rw [add, sumWhere_singleton, sumWhere_nil, zero_add]
  | cons held rest ih =>
    rw [add]
    split
    · rename_i same
      rw [sumWhere_cons, sumWhere_cons]
      dsimp only
      rw [← same]
      by_cases selected : selects held.1
      · simp only [if_pos selected, map_add]
        abel
      · simp only [if_neg selected, add_zero]
    · rw [sumWhere_cons, sumWhere_cons, ih, add_assoc]

theorem sumWhere_addAll (selects : Key → Prop) [DecidablePred selects] (column : Amount →+ Number)
    (tally entries : List (Key × Amount)) :
    sumWhere (fun held => selects held.1) (fun held => column held.2) (addAll tally entries) =
      sumWhere (fun held => selects held.1) (fun held => column held.2) tally +
        sumWhere (fun held => selects held.1) (fun held => column held.2) entries := by
  unfold addAll
  induction entries generalizing tally with
  | nil => simp
  | cons entry rest ih => rw [List.foldl_cons, ih, sumWhere_add, sumWhere_cons, add_assoc]

theorem mem_keys_add (tally : List (Key × Amount)) (entry : Key × Amount) (key : Key) :
    key ∈ (add tally entry).map Prod.fst ↔ key ∈ tally.map Prod.fst ∨ key = entry.1 := by
  induction tally with
  | nil => simp [add]
  | cons held rest ih =>
    rw [add]
    split
    · rename_i same
      simp only [List.map_cons, List.mem_cons, ← same]
      tauto
    · simp only [List.map_cons, List.mem_cons, ih]
      tauto

theorem nodup_add (unique : (tally.map Prod.fst).Nodup) (entry : Key × Amount) :
    ((add tally entry).map Prod.fst).Nodup := by
  induction tally with
  | nil => simp [add]
  | cons held rest ih =>
    rw [List.map_cons, List.nodup_cons] at unique
    rw [add]
    split
    · rw [List.map_cons, List.nodup_cons]
      exact unique
    · rename_i other
      rw [List.map_cons, List.nodup_cons]
      refine ⟨?_, ih unique.2⟩
      rw [mem_keys_add]
      rintro (held' | same)
      · exact unique.1 held'
      · exact other same

theorem nodup_addAll (unique : (tally.map Prod.fst).Nodup) (entries : List (Key × Amount)) :
    ((addAll tally entries).map Prod.fst).Nodup := by
  unfold addAll
  induction entries generalizing tally with
  | nil => exact unique
  | cons entry rest ih => exact ih (nodup_add unique entry)

omit [DecidableEq Key] [AddCommMonoid Amount] in
theorem sum_column (column : Amount → Number) (tally : List (Key × Amount)) :
    (tally.map fun held => column held.2).sum = sumWhere (fun _ => True) (fun held => column held.2) tally := by
  simp [sumWhere]

end Mhvp.Lib.Tally
