import Mathlib.Data.List.Sort
import Mathlib.Data.List.Pairwise

/-! Sorting where no two members of a list rank alike: the result does not depend on the order the members came in. -/

namespace Mhvp.Lib.Sorting

universe u

variable {Item : Type u} {le : Item → Item → Prop} [DecidableRel le] [Std.Total le] [IsTrans Item le]
  {items others : List Item}

theorem insertionSort_eq_of_perm (perm : items.Perm others)
    (apart : ∀ first ∈ items, ∀ second ∈ items, le first second → le second first → first = second) :
    items.insertionSort le = others.insertionSort le := by
  have sortedPerm : (items.insertionSort le).Perm (others.insertionSort le) :=
    (List.perm_insertionSort le items).trans (perm.trans (List.perm_insertionSort le others).symm)
  refine sortedPerm.eq_of_pairwise ?_ (List.pairwise_insertionSort le items) (List.pairwise_insertionSort le others)
  intro first second isFirst isSecond
  have inItems := (List.perm_insertionSort le items).mem_iff.mp isFirst
  have inOthers := perm.mem_iff.mpr ((List.perm_insertionSort le others).mem_iff.mp isSecond)
  exact apart first inItems second inOthers

omit [DecidableRel le] [Std.Total le] [IsTrans Item le] in
/-- In a sorted list a relation that holds from the front to the back holds from each member to all that rank after it. -/
theorem relates_later (sorted : items.Pairwise le)
    (forward : items.Pairwise related) (first : Item) (isFirst : first ∈ items) (second : Item) (isSecond : second ∈ items)
    (later : ¬ le second first) (refl : le first first) : related first second := by
  have oneWay : items.Pairwise fun first second => ¬ le second first → le first first → related first second :=
    forward.imp fun holds _ _ => holds
  have otherWay : items.Pairwise (flip fun first second => ¬ le second first → le first first → related first second) :=
    sorted.imp fun before notBefore _ => absurd before notBefore
  have each : ∀ item ∈ items, ¬ le item item → le item item → related item item :=
    fun item _ apart same => absurd same apart
  exact List.Pairwise.forall_of_forall_of_flip each oneWay otherWay isFirst isSecond later refl

end Mhvp.Lib.Sorting

/-! The first rows of a table in some order: `ORDER BY … LIMIT …`. -/

namespace Mhvp.Lib.Batch

open List

universe u

variable {α : Type u} (before : α → α → Prop) [DecidableRel before]

def firstOf (limit : ℕ) (rows : List α) : List α := (rows.insertionSort before).take limit

variable {before} {limit : ℕ} {rows : List α} {row newest : α}

theorem mem_of_mem_firstOf (chosen : row ∈ firstOf before limit rows) : row ∈ rows :=
  (mem_insertionSort before).mp (mem_of_mem_take chosen)

theorem countP_firstOf_le (selects : α → Bool) : (firstOf before limit rows).countP selects ≤ rows.countP selects := by
  have shorter := (take_sublist limit (rows.insertionSort before)).countP_le (p := selects)
  rwa [(perm_insertionSort before rows).countP_eq selects] at shorter

variable [Std.Total before] [IsTrans α before]

theorem left_out (present : row ∈ rows) (out : row ∉ firstOf before limit rows) :
    (firstOf before limit rows).length = limit ∧ ∀ chosen ∈ firstOf before limit rows, before chosen row := by
  have sorted := pairwise_insertionSort before rows
  rw [← take_append_drop limit (rows.insertionSort before), pairwise_append] at sorted
  have dropped : row ∈ (rows.insertionSort before).drop limit := by
    have inSorted := (mem_insertionSort before).mpr present
    rw [← take_append_drop limit (rows.insertionSort before)] at inSorted
    exact (mem_append.mp inSorted).resolve_left out
  have longer : limit < (rows.insertionSort before).length := by
    have some := length_pos_of_mem dropped
    rw [length_drop] at some
    exact Nat.lt_of_sub_pos some
  exact ⟨length_take_of_le longer.le, fun chosen isChosen => sorted.2.2 chosen isChosen row dropped⟩

theorem before_last (isLast : (firstOf before limit rows).getLast? = some newest) :
    ∀ chosen ∈ firstOf before limit rows, before chosen newest := by
  have sorted := (pairwise_insertionSort before rows).sublist (take_sublist limit _)
  obtain ⟨earlier, split⟩ := List.getLast?_eq_some_iff.mp isLast
  rw [firstOf] at split ⊢
  rw [split] at sorted ⊢
  intro chosen isChosen
  rcases mem_append.mp isChosen with inFront | isNewest
  · exact (pairwise_append.mp sorted).2.2 chosen inFront newest (mem_singleton_self newest)
  · rw [mem_singleton.mp isNewest]
    exact (Std.Total.total newest newest).elim id id

end Mhvp.Lib.Batch
