import Mathlib.Data.List.Perm.Basic
import Mathlib.Data.List.Count

/-! Rows that arrive in batches, where a row is dropped if a stored row is the same. -/

namespace Mhvp.Lib.Deduplicate

open List

universe u

variable {Row : Type u} (same : Row → Row → Prop) [DecidableRel same]

/-- A stored row stands for the row. -/
def Known (stored : List Row) (row : Row) : Prop := ∃ known ∈ stored, same known row

instance : Decidable (Known same stored row) := by unfold Known; infer_instance

/-- The stored rows after a batch. -/
def absorb (stored : List Row) : List Row → List Row
  | [] => stored
  | row :: rest => if Known same stored row then absorb stored rest else absorb (stored ++ [row]) rest

variable {same} {stored batch : List Row}

omit [DecidableRel same] in
theorem known_append_one : Known same (stored ++ [row]) other ↔ Known same stored other ∨ same row other := by
  simp [Known, or_and_right, exists_or]

theorem prefix_absorb (stored batch : List Row) : stored <+: absorb same stored batch := by
  induction batch generalizing stored with
  | nil => exact prefix_rfl
  | cons row rest ih =>
    unfold absorb
    split
    · exact ih stored
    · exact (prefix_append stored [row]).trans (ih (stored ++ [row]))

theorem absorb_append (stored first second : List Row) :
    absorb same stored (first ++ second) = absorb same (absorb same stored first) second := by
  induction first generalizing stored with
  | nil => rfl
  | cons row rest ih =>
    rw [cons_append, absorb, absorb, ih, ih]
    split
    · rfl
    · rfl

theorem absorb_eq (apart : batch.Pairwise fun first second => ¬ same first second) :
    absorb same stored batch = stored ++ batch.filter fun row => ¬ Known same stored row := by
  induction batch generalizing stored with
  | nil => simp [absorb]
  | cons row rest ih =>
    rw [pairwise_cons] at apart
    unfold absorb
    split
    · rename_i known
      rw [ih apart.2, filter_cons_of_neg (by simpa using known)]
    · rename_i unknown
      have sameRest : (rest.filter fun other => ¬ Known same (stored ++ [row]) other) =
          rest.filter fun other => ¬ Known same stored other := by
        apply filter_congr
        intro other member
        rw [decide_eq_decide, known_append_one, or_iff_left (apart.1 other member)]
      rw [ih apart.2, sameRest, filter_cons_of_pos (by simpa using unknown), append_assoc]
      rfl

omit [DecidableRel same] in
theorem countP_dropped_le [DecidableEq Row] {dropped : List Row} {selects : Row → Bool}
    (unique : ∀ known first second, same known first → same known second → same first second)
    (apart : dropped.Pairwise fun first second => ¬ same first second)
    (stands : ∀ row ∈ dropped, selects row = true → ∃ known ∈ stored, same known row ∧ selects known = true) :
    dropped.countP selects ≤ stored.countP selects := by
  induction dropped generalizing stored with
  | nil => simp
  | cons row rest ih =>
    rw [pairwise_cons] at apart
    cases selected : selects row with
    | false =>
      rw [countP_cons_of_neg (by simp [selected])]
      exact ih apart.2 fun other member => stands other (mem_cons_of_mem _ member)
    | true =>
      obtain ⟨known, isStored, isSame, isSelected⟩ := stands row mem_cons_self selected
      have later := @ih (stored.erase known) apart.2 (by
        intro other member selectedOther
        obtain ⟨knownOther, storedOther, sameOther, selectedKnown⟩ :=
          stands other (mem_cons_of_mem _ member) selectedOther
        have differ : knownOther ≠ known := by
          rintro rfl
          exact apart.1 other member (unique _ _ _ isSame sameOther)
        exact ⟨knownOther, (mem_erase_of_ne differ).mpr storedOther, sameOther, selectedKnown⟩)
      rw [countP_cons_of_pos selected, (perm_cons_erase isStored).countP_eq selects,
        countP_cons_of_pos isSelected]
      exact Nat.succ_le_succ later

/-- No row of the batch is lost: those with a property are stored in at least the same number. -/
theorem countP_le_absorb [DecidableEq Row] {selects : Row → Bool}
    (unique : ∀ known first second, same known first → same known second → same first second)
    (apart : batch.Pairwise fun first second => ¬ same first second)
    (agree : ∀ known ∈ stored, ∀ row ∈ batch, same known row → selects row = true → selects known = true) :
    batch.countP selects ≤ (absorb same stored batch).countP selects := by
  rw [absorb_eq apart, countP_append]
  have split' : batch.countP selects =
      (batch.filter fun row => Known same stored row).countP selects +
        (batch.filter fun row => ¬ Known same stored row).countP selects := by
    simp only [countP_eq_length_filter, filter_filter]
    rw [← countP_eq_length_filter, ← countP_eq_length_filter, ← countP_eq_length_filter,
      countP_eq_countP_filter_add batch selects fun row => decide (Known same stored row)]
    simp [countP_filter]
  rw [split']
  apply Nat.add_le_add_right
  apply countP_dropped_le unique (apart.sublist filter_sublist)
  intro row member selected
  obtain ⟨inBatch, known⟩ := mem_filter.mp member
  obtain ⟨stands, isStored, isSame⟩ := of_decide_eq_true known
  exact ⟨stands, isStored, isSame, agree stands isStored row inBatch isSame selected⟩

end Mhvp.Lib.Deduplicate
