import Mathlib.Data.List.Perm.Basic
import Mathlib.Data.Nat.Basic

/-!
Tables whose row ids are positions: looking a row up after a row was appended or replaced, and selecting a column of
the rows after such a change.
-/

namespace Mhvp.Lib.Table

open List

universe u v

variable {Row : Type u} {Value : Type v} {Value' : Type*} {index place : ℕ} {row : Row}

theorem found_lt {rows : List Row} (found : rows[index]? = some row) : index < rows.length :=
  (List.getElem?_eq_some_iff.mp found).1

theorem found_append_one {rows : List Row} {added : Row} :
    (rows ++ [added])[index]? = some row ↔
      rows[index]? = some row ∨ (index = rows.length ∧ row = added) := by
  rcases lt_trichotomy index rows.length with before | rfl | after
  · rw [List.getElem?_append_left before]
    exact ⟨Or.inl, fun found => found.resolve_right fun last => absurd last.1 (Nat.ne_of_lt before)⟩
  · simp [eq_comm]
  · rw [List.getElem?_eq_none (by simp; omega)]
    constructor
    · simp
    · rintro (found | ⟨rfl, -⟩)
      · exact absurd (found_lt found) (by omega)
      · omega

theorem found_append {rows added : List Row} (found : rows[index]? = some row) :
    (rows ++ added)[index]? = some row := by
  rw [List.getElem?_append_left (found_lt found), found]

theorem found_append_cases {rows added : List Row} (found : (rows ++ added)[index]? = some row) :
    rows[index]? = some row ∨ (rows.length ≤ index ∧ row ∈ added) := by
  by_cases before : index < rows.length
  · rw [List.getElem?_append_left before] at found
    exact Or.inl found
  · rw [List.getElem?_append_right (by omega)] at found
    exact Or.inr ⟨by omega, mem_of_getElem? found⟩

theorem found_set {rows : List Row} {old new : Row} (present : rows[place]? = some old) :
    (rows.set place new)[index]? = some row ↔
      (index = place ∧ row = new) ∨ (index ≠ place ∧ rows[index]? = some row) := by
  by_cases same : place = index
  · subst same
    simp [List.getElem?_set_self (found_lt present), eq_comm]
  · rw [List.getElem?_set_ne same]
    simp [Ne.symm same]

theorem modify_append_last (rows : List Row) (added : Row) (change : Row → Row) :
    (rows ++ [added]).modify rows.length change = rows ++ [change added] := by
  induction rows with
  | nil => rfl
  | cons row rest ih => simpa using ih

theorem modify_append_found {rows added : List Row} (found : rows[index]? = some row)
    (change : Row → Row) : (rows ++ added).modify index change = rows.set index (change row) ++ added := by
  induction rows generalizing index with
  | nil => simp at found
  | cons first rest ih =>
    cases index with
    | zero =>
      obtain rfl : first = row := by simpa using found
      rfl
    | succ index => simpa using ih (by simpa using found)

theorem filterMap_set_perm {rows : List Row} {select : Row → Option Value}
    (found : rows[index]? = some old) (unselected : select old = none) (selected : select new = some value) :
    ((rows.set index new).filterMap select).Perm (value :: rows.filterMap select) := by
  induction rows generalizing index with
  | nil => simp at found
  | cons first rest ih =>
    cases index with
    | zero =>
      obtain rfl : first = old := by simpa using found
      simp [unselected, selected]
    | succ index =>
      rw [set_cons_succ, filterMap_cons, filterMap_cons]
      cases select first with
      | none => exact ih (by simpa using found)
      | some other => exact ((ih (by simpa using found)).cons other).trans (List.Perm.swap ..)

theorem filterMap_set_same {rows : List Row} {select : Row → Option Value}
    (found : rows[index]? = some old) (same : select new = select old) :
    (rows.set index new).filterMap select = rows.filterMap select := by
  induction rows generalizing index with
  | nil => simp at found
  | cons first rest ih =>
    cases index with
    | zero =>
      obtain rfl : first = old := by simpa using found
      rw [set_cons_zero, filterMap_cons, filterMap_cons, same]
    | succ index =>
      rw [set_cons_succ, filterMap_cons, filterMap_cons, ih (by simpa using found)]

theorem filterMap_set_none {rows : List Row} {select : Row → Option Value} (unselected : select new = none)
    (index : ℕ) : ((rows.set index new).filterMap select).Sublist (rows.filterMap select) := by
  induction rows generalizing index with
  | nil => simp
  | cons first rest ih =>
    cases index with
    | zero =>
      rw [set_cons_zero, filterMap_cons_none unselected]
      exact (sublist_cons_self first rest).filterMap select
    | succ index =>
      rw [set_cons_succ, filterMap_cons, filterMap_cons]
      cases select first with
      | none => exact ih index
      | some value => exact (ih index).cons_cons value

theorem countP_set {rows : List Row} {old new : Row} (selects : Row → Bool) (found : rows[index]? = some old) :
    (rows.set index new).countP selects + (if selects old then 1 else 0) =
      rows.countP selects + if selects new then 1 else 0 := by
  induction rows generalizing index with
  | nil => simp at found
  | cons first rest ih =>
    cases index with
    | zero =>
      obtain rfl : first = old := by simpa using found
      simp only [set_cons_zero, countP_cons]
      omega
    | succ index =>
      have later : rest[index]? = some old := by simpa using found
      have tail := ih later
      simp only [set_cons_succ, countP_cons]
      omega

theorem filter_set_unselected {rows : List Row} {selects : Row → Bool} (found : rows[index]? = some old)
    (oldOut : selects old = false) (newOut : selects new = false) :
    (rows.set index new).filter selects = rows.filter selects := by
  rw [← filterMap_eq_filter]
  apply filterMap_set_same found
  rw [Option.guard_eq_none_iff.mpr newOut, Option.guard_eq_none_iff.mpr oldOut]

theorem place_of_key {rows : List Row} {key : Row → Value} (distinct : (rows.map key).Nodup)
    (found : rows[index]? = some row) (foundOther : rows[place]? = some other) (same : key row = key other) :
    index = place := by
  have inside : index < (rows.map key).length := by
    rw [length_map]
    exact found_lt found
  apply (List.getElem?_inj inside distinct).mp
  rw [List.getElem?_map, List.getElem?_map, found, foundOther, Option.map_some, Option.map_some, same]

theorem filter_length_le_one {rows : List Row} {selects : Row → Bool}
    (once : ∀ (first second : ℕ) (row other : Row), rows[first]? = some row → rows[second]? = some other →
      selects row = true → selects other = true → first = second) : (rows.filter selects).length ≤ 1 := by
  induction rows with
  | nil => simp
  | cons first rest ih =>
    have onceRest := ih fun place second row other found foundOther selected selectedOther =>
      Nat.succ.inj (once (place + 1) (second + 1) row other found foundOther selected selectedOther)
    cases selected : selects first with
    | false => rwa [filter_cons_of_neg (by simp [selected])]
    | true =>
      have noOther : rest.filter selects = [] := by
        apply filter_eq_nil_iff.mpr
        intro row member isSelected
        obtain ⟨place, found⟩ := mem_iff_getElem?.mp member
        exact absurd (once 0 (place + 1) first row rfl found selected isSelected) (by omega)
      rw [filter_cons_of_pos selected, noOther]
      simp

theorem eq_singleton_of_mem (once : rows.length ≤ 1) (member : row ∈ rows) : rows = [row] := by
  cases rows with
  | nil => cases member
  | cons first rest =>
    obtain rfl : rest = [] := length_eq_zero_iff.mp (by simpa using once)
    rw [mem_singleton.mp member]

theorem filter_map_sublist {rows : List Row} {selects : Row → Bool} {change : Row → Row}
    (same : ∀ row ∈ rows, selects (change row) = true → change row = row) :
    ((rows.map change).filter selects).Sublist (rows.filter selects) := by
  induction rows with
  | nil => exact List.Sublist.refl _
  | cons first rest ih =>
    have later := ih fun row member => same row (mem_cons_of_mem _ member)
    rw [map_cons, filter_cons, filter_cons]
    by_cases selected : selects (change first) = true
    · have unchanged := same first mem_cons_self selected
      rw [unchanged] at selected ⊢
      rw [if_pos selected, if_pos selected]
      exact later.cons_cons _
    · rw [if_neg selected]
      split
      · exact later.cons _
      · exact later

theorem map_set_same {rows : List Row} {column : Row → Value} (found : rows[index]? = some old)
    (same : column new = column old) : (rows.set index new).map column = rows.map column := by
  induction rows generalizing index with
  | nil => simp at found
  | cons first rest ih =>
    cases index with
    | zero =>
      obtain rfl : first = old := by simpa using found
      rw [set_cons_zero, map_cons, map_cons, same]
    | succ index =>
      rw [set_cons_succ, map_cons, map_cons, ih (by simpa using found)]

theorem map_modify_same {rows : List Row} {column : Row → Value} {change : Row → Row}
    (same : ∀ row, column (change row) = column row) : (rows.modify index change).map column = rows.map column := by
  apply ext_getElem?
  intro place
  rw [List.getElem?_map, List.getElem?_map, List.getElem?_modify]
  cases rows[place]? with
  | none => rfl
  | some row =>
    by_cases here : index = place
    · simp [here, same]
    · simp [here]

def Onward (Post : Row → Row → Prop) (rows later : List Row) : Prop :=
  ∀ (place : ℕ) (row : Row), rows[place]? = some row → ∃ next, later[place]? = some next ∧ Post row next

namespace Onward

variable {Post : Row → Row → Prop} {rows later last : List Row}

theorem refl (same : ∀ row, Post row row) (rows : List Row) : Onward Post rows rows :=
  fun _ row found => ⟨row, found, same row⟩

theorem trans (chain : ∀ first second third, Post first second → Post second third → Post first third)
    (early : Onward Post rows later) (late : Onward Post later last) : Onward Post rows last := by
  intro place row found
  obtain ⟨next, foundNext, changed⟩ := early place row found
  obtain ⟨end', foundEnd, changedAgain⟩ := late place next foundNext
  exact ⟨end', foundEnd, chain row next end' changed changedAgain⟩

section

variable (same : ∀ row, Post row row)
include same

theorem append (rows added : List Row) : Onward Post rows (rows ++ added) :=
  fun _ row found => ⟨row, found_append found, same row⟩

theorem set (found : rows[index]? = some old) (changed : Post old new) :
    Onward Post rows (rows.set index new) := by
  intro place row foundRow
  by_cases here : place = index
  · subst here
    obtain rfl : old = row := Option.mem_unique found foundRow
    exact ⟨new, List.getElem?_set_self (found_lt found), changed⟩
  · exact ⟨row, (List.getElem?_set_ne (Ne.symm here)).trans foundRow, same row⟩

theorem modify (changed : ∀ row ∈ rows, Post row (change row)) : Onward Post rows (rows.modify index change) := by
  intro place row found
  rw [List.getElem?_modify, found]
  by_cases here : index = place
  · exact ⟨change row, by simp [here], changed row (mem_of_getElem? found)⟩
  · exact ⟨row, by simp [here], same row⟩

end

end Onward

theorem mem_modify {rows : List Row} {change : Row → Row} (member : row ∈ rows.modify index change) :
    row ∈ rows ∨ ∃ old ∈ rows, row = change old := by
  obtain ⟨place, found⟩ := mem_iff_getElem?.mp member
  rw [List.getElem?_modify, Option.map_eq_map, Option.map_eq_some_iff] at found
  obtain ⟨old, foundOld, rfl⟩ := found
  have isOld := mem_of_getElem? foundOld
  split
  · exact Or.inr ⟨old, isOld, rfl⟩
  · exact Or.inl isOld

section Indexed

variable {select : Row × ℕ → Option Value} {start : ℕ}

theorem indexed_set_same {rows : List Row} (found : rows[index]? = some old)
    (same : select (new, start + index) = select (old, start + index)) :
    ((rows.set index new).zipIdx start).filterMap select = (rows.zipIdx start).filterMap select := by
  induction rows generalizing index start with
  | nil => simp at found
  | cons first rest ih =>
    cases index with
    | zero =>
      obtain rfl : first = old := by simpa using found
      rw [set_cons_zero, zipIdx_cons, zipIdx_cons, filterMap_cons, filterMap_cons]
      rw [Nat.add_zero] at same
      rw [same]
    | succ index =>
      have shift : start + (index + 1) = start + 1 + index := by omega
      rw [shift] at same
      rw [set_cons_succ, zipIdx_cons, zipIdx_cons, filterMap_cons, filterMap_cons,
        ih (by simpa using found) same]

private theorem indexed_none {rows : List Row} (unselected : ∀ row ∈ rows, ∀ index, start ≤ index →
    select (row, index) = none) : (rows.zipIdx start).filterMap select = [] := by
  apply filterMap_eq_nil_iff.mpr
  intro found member
  exact unselected found.1 (fst_mem_of_mem_zipIdx member) found.2 (le_snd_of_mem_zipIdx member)

theorem indexed_append_unselected {rows added : List Row}
    (unselected : ∀ row ∈ added, ∀ index, rows.length ≤ index → select (row, index) = none) :
    (rows ++ added).zipIdx.filterMap select = rows.zipIdx.filterMap select := by
  have noneAdded : (added.zipIdx (0 + rows.length)).filterMap select = [] := by
    apply indexed_none
    intro row member index beyond
    exact unselected row member index (by omega)
  rw [zipIdx_append, filterMap_append, noneAdded, append_nil]

/-- A table that keeps a column of its first rows and gains unselected rows keeps its selection, when
the selection reads only the column. -/
theorem indexed_prefix {rows later : List Row} {column : Row → Value'}
    (kept : rows.map column <+: later.map column)
    (byColumn : ∀ row other index, column row = column other → select (row, index) = select (other, index))
    (absent : ∀ row index, start + rows.length ≤ index → select (row, index) = none) :
    (later.zipIdx start).filterMap select = (rows.zipIdx start).filterMap select := by
  induction rows generalizing later start with
  | nil =>
    rw [zipIdx_nil, filterMap_nil]
    apply indexed_none
    intro row _ index beyond
    exact absent row index beyond
  | cons first rest ih =>
    cases later with
    | nil => simp at kept
    | cons other more =>
      rw [map_cons, map_cons, cons_prefix_cons] at kept
      have restSame := @ih (start + 1) more kept.2 fun row index beyond =>
        absent row index (by rw [length_cons]; omega)
      rw [zipIdx_cons, zipIdx_cons, filterMap_cons, filterMap_cons, restSame,
        byColumn first other start kept.1]

private theorem indexed_nil {rows : List Row}
    (none : ∀ index, (rows[index]?).bind (fun row => select (row, start + index)) = none) :
    (rows.zipIdx start).filterMap select = [] := by
  rw [filterMap_eq_nil_iff]
  intro found member
  obtain ⟨beyond, foundRow⟩ := mk_mem_zipIdx_iff_le_and_getElem?_sub.mp (show (found.1, found.2) ∈ _ from member)
  have here := none (found.2 - start)
  rw [foundRow, Nat.add_sub_cancel' beyond] at here
  exact here

theorem indexed_pointwise {rows later : List Row} {selectLater : Row × ℕ → Option Value}
    (same : ∀ index, (later[index]?).bind (fun row => selectLater (row, start + index)) =
      (rows[index]?).bind fun row => select (row, start + index)) :
    (later.zipIdx start).filterMap selectLater = (rows.zipIdx start).filterMap select := by
  induction rows generalizing later start with
  | nil =>
    rw [zipIdx_nil, filterMap_nil]
    exact indexed_nil same
  | cons first rest ih =>
    cases later with
    | nil =>
      rw [zipIdx_nil, filterMap_nil]
      exact (indexed_nil fun index => (same index).symm).symm
    | cons other others =>
      have here := same 0
      have after : ∀ index, (others[index]?).bind (fun row => selectLater (row, start + 1 + index)) =
          (rest[index]?).bind fun row => select (row, start + 1 + index) := by
        intro index
        have shifted := same (index + 1)
        rw [List.getElem?_cons_succ, List.getElem?_cons_succ, Nat.add_comm index, ← Nat.add_assoc] at shifted
        exact shifted
      rw [List.getElem?_cons_zero, List.getElem?_cons_zero, Option.bind_some, Option.bind_some, Nat.add_zero] at here
      rw [zipIdx_cons, zipIdx_cons, filterMap_cons, filterMap_cons, ih after, here]

end Indexed

end Mhvp.Lib.Table

/-! Rows that point at each other. -/

namespace Mhvp.Lib.Pairing

open Lib.Table

universe u

variable {Row : Type u} {link : Row → Option ℕ} {Fits : Row → Row → Prop} {rows : List Row}

/-- Every link is returned by another row that fits. -/
structure Matching (link : Row → Option ℕ) (Fits : Row → Row → Prop) (rows : List Row) : Prop where
  returned : ∀ {place partner : ℕ} {row : Row}, rows[place]? = some row → link row = some partner →
    partner ≠ place ∧ ∃ other, rows[partner]? = some other ∧ link other = some place ∧ Fits row other

theorem Matching.unlinked (free : ∀ row ∈ rows, link row = none) : Matching link Fits rows := by
  constructor
  intro place partner row found linked
  rw [free row (List.mem_of_getElem? found)] at linked
  cases linked

theorem Matching.unique {first second : ℕ} (matching : Matching link Fits rows) (found : rows[first]? = some row)
    (foundOther : rows[second]? = some other) (linked : link row = some partner)
    (linkedOther : link other = some partner) : first = second := by
  obtain ⟨-, middle, foundMiddle, back, -⟩ := matching.returned found linked
  obtain ⟨-, same, foundSame, backOther, -⟩ := matching.returned foundOther linkedOther
  obtain rfl : middle = same := Option.mem_unique foundMiddle foundSame
  exact Option.mem_unique back backOther

theorem Matching.append (matching : Matching link Fits rows) (free : link added = none) :
    Matching link Fits (rows ++ [added]) := by
  constructor
  intro place partner row found linked
  rcases found_append_one.mp found with old | ⟨-, rfl⟩
  · obtain ⟨apart, other, foundOther, back, fits⟩ := matching.returned old linked
    exact ⟨apart, other, found_append foundOther, back, fits⟩
  · rw [free] at linked
    cases linked

theorem Matching.join (matching : Matching link Fits rows)
    (found : rows[chosen]? = some old) (free : link old = none) (linkedOld : link (change old) = some rows.length)
    (linkedNew : link added = some chosen) (fits : Fits (change old) added) (fitsBack : Fits added (change old)) :
    Matching link Fits (rows.modify chosen change ++ [added]) := by
  have before : chosen < rows.length := found_lt found
  have length : (rows.modify chosen change).length = rows.length := List.length_modify ..
  have isChanged : (rows.modify chosen change ++ [added])[chosen]? = some (change old) := by
    apply found_append
    rw [List.getElem?_modify_eq, found]
    rfl
  have isAdded : (rows.modify chosen change ++ [added])[rows.length]? = some added :=
    found_append_one.mpr (Or.inr ⟨length.symm, rfl⟩)
  constructor
  intro place partner row isRow linked
  rcases found_append_one.mp isRow with stored | ⟨rfl, rfl⟩
  · by_cases isChosen : chosen = place
    · subst isChosen
      obtain rfl := Option.mem_unique isRow isChanged
      obtain rfl := Option.mem_unique linked linkedOld
      exact ⟨Nat.ne_of_gt before, added, isAdded, linkedNew, fits⟩
    · rw [List.getElem?_modify_ne _ _ isChosen] at stored
      obtain ⟨apart, other, foundOther, back, fitsOther⟩ := matching.returned stored linked
      have other_apart : chosen ≠ partner := by
        rintro rfl
        obtain rfl := Option.mem_unique found foundOther
        rw [free] at back
        cases back
      refine ⟨apart, other, found_append ?_, back, fitsOther⟩
      rw [List.getElem?_modify_ne _ _ other_apart, foundOther]
  · obtain rfl := Option.mem_unique linked linkedNew
    rw [length]
    exact ⟨Nat.ne_of_lt before, change old, isChanged, linkedOld, fitsBack⟩

end Mhvp.Lib.Pairing
