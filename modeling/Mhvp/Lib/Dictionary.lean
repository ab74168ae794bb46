import Mathlib.Data.List.Induction
import Mathlib.Data.List.Nodup

/-! Dictionaries that keep their keys in the order in which they were first set, and items collected under keys. -/

namespace Mhvp.Lib.Dictionary

open List

universe u v

variable {Key : Type u} {Content : Type v} [DecidableEq Key]

/-- Set the content of a key from the content it had. -/
def alter (key : Key) (change : Option Content → Content) : List (Key × Content) → List (Key × Content)
  | [] => [(key, change none)]
  | (held, content) :: rest =>
    if held = key then (held, change (some content)) :: rest else (held, content) :: alter key change rest

/-- Add one more item under a key. -/
def add (entries : List (Key × List Content)) (entry : Key × Content) : List (Key × List Content) :=
  alter entry.1 (fun items => items.getD [] ++ [entry.2]) entries

/-- Every key in the order of its first item, with its items in order. -/
def grouped (pairs : List (Key × Content)) : List (Key × List Content) :=
  (pairs.map Prod.fst).eraseDups.map fun key => (key, (pairs.filter fun pair => pair.1 = key).map Prod.snd)

variable {key : Key} {change : Option Content → Content} {entries : List (Key × Content)} {keys : List Key}
  {content : Key → Content}

theorem lookup_alter (key other : Key) (change : Option Content → Content) (entries : List (Key × Content)) :
    (alter key change entries).lookup other =
      if other = key then some (change (entries.lookup key)) else entries.lookup other := by
  induction entries with
  | nil =>
    by_cases same : other = key
    · simp [alter, same]
    · have differs : (other == key) = false := beq_false_of_ne same
      simp [alter, same, lookup_cons, differs]
  | cons entry rest ih =>
    obtain ⟨held, content⟩ := entry
    rw [alter]
    by_cases known : held = key
    · subst known
      by_cases same : other = held
      · simp [same]
      · have differs : (other == held) = false := beq_false_of_ne same
        simp [same, lookup_cons, differs]
    · rw [if_neg known, lookup_cons, lookup_cons, lookup_cons, ih]
      by_cases same : other = held
      · subst same
        simp [known]
      · have differs : (other == held) = false := beq_false_of_ne same
        have absent : (key == held) = false := beq_false_of_ne (Ne.symm known)
        rw [differs, absent]

theorem keys_alter (key : Key) (change : Option Content → Content) (entries : List (Key × Content)) :
    (alter key change entries).map Prod.fst =
      if key ∈ entries.map Prod.fst then entries.map Prod.fst else entries.map Prod.fst ++ [key] := by
  induction entries with
  | nil => simp [alter]
  | cons entry rest ih =>
    obtain ⟨held, content⟩ := entry
    rw [alter]
    by_cases known : held = key
    · simp [known]
    · rw [if_neg known, map_cons, ih]
      by_cases later : key ∈ rest.map Prod.fst
      · simp [later]
      · simp [later, Ne.symm known]

theorem nodup_alter (distinct : (entries.map Prod.fst).Nodup) :
    ((alter key change entries).map Prod.fst).Nodup := by
  rw [keys_alter]
  split
  · exact distinct
  · rename_i absent
    apply nodup_append.mpr
    refine ⟨distinct, nodup_singleton key, ?_⟩
    intro held isHeld new isNew same
    rw [mem_singleton.mp isNew] at same
    exact absent (same ▸ isHeld)

theorem mem_alter (member : entry ∈ alter key change entries) :
    entry ∈ entries ∨ ∃ held, entry = (key, change held) ∧ ∀ content ∈ held, (key, content) ∈ entries := by
  induction entries with
  | nil => exact Or.inr ⟨none, mem_singleton.mp member, nofun⟩
  | cons first rest ih =>
    obtain ⟨held, content⟩ := first
    rw [alter] at member
    split at member
    · rename_i same
      subst same
      rcases mem_cons.mp member with rfl | later
      · refine Or.inr ⟨some content, rfl, fun other isContent => ?_⟩
        rw [Option.mem_some.mp isContent]
        exact mem_cons_self
      · exact Or.inl (mem_cons_of_mem _ later)
    · rcases mem_cons.mp member with rfl | later
      · exact Or.inl mem_cons_self
      · rcases ih later with old | ⟨before, isEntry, present⟩
        · exact Or.inl (mem_cons_of_mem _ old)
        · exact Or.inr ⟨before, isEntry, fun other isContent => mem_cons_of_mem _ (present other isContent)⟩

theorem alter_absent (absent : key ∉ entries.map Prod.fst) :
    alter key change entries = entries ++ [(key, change none)] := by
  induction entries with
  | nil => rfl
  | cons entry rest ih =>
    obtain ⟨held, content⟩ := entry
    rw [map_cons, mem_cons, not_or] at absent
    rw [alter, if_neg (Ne.symm absent.1), ih absent.2, cons_append]

theorem alter_present (distinct : keys.Nodup) (present : key ∈ keys) :
    alter key change (keys.map fun held => (held, content held)) =
      keys.map fun held => (held, if held = key then change (some (content held)) else content held) := by
  induction keys with
  | nil => exact absurd present not_mem_nil
  | cons held rest ih =>
    obtain ⟨isNew, distinct⟩ := nodup_cons.mp distinct
    rw [map_cons, alter, map_cons]
    by_cases same : held = key
    · have others : ∀ other ∈ rest, other ≠ key := by
        intro other isOther isKey
        exact isNew (same ▸ isKey ▸ isOther)
      rw [if_pos same, if_pos same]
      congr 1
      apply map_congr_left
      intro other isOther
      rw [if_neg (others other isOther)]
    · rw [if_neg same, if_neg same, ih distinct ((mem_cons.mp present).resolve_left (Ne.symm same))]

theorem nodup_eraseDups (keys : List Key) : keys.eraseDups.Nodup := by
  induction keys using List.reverseRecOn with
  | nil => exact nodup_nil
  | append_singleton keys key ih =>
    rw [eraseDups_append]
    by_cases known : key ∈ keys
    · simpa [List.removeAll, known] using ih
    · have different : ∀ held ∈ keys, held ≠ key := fun held isHeld same => known (same ▸ isHeld)
      simpa [List.removeAll, known, nodup_append, eraseDups_cons] using ⟨ih, different⟩

theorem add_grouped (pairs : List (Key × Content)) (pair : Key × Content) :
    add (grouped pairs) pair = grouped (pairs ++ [pair]) := by
  obtain ⟨key, item⟩ := pair
  unfold add grouped
  rw [map_append, eraseDups_append]
  by_cases known : key ∈ pairs.map Prod.fst
  · rw [alter_present (nodup_eraseDups _) (mem_eraseDups.mpr known)]
    have nothing : ([key].removeAll (pairs.map Prod.fst)).eraseDups = [] := by
      simp [List.removeAll, known]
    simp only [map_cons, map_nil, nothing, append_nil]
    apply map_congr_left
    intro held _
    by_cases same : held = key
    · subst same
      simp
    · simp [same, Ne.symm same]
  · have isNew : key ∉ (pairs.map Prod.fst).eraseDups := fun held => known (mem_eraseDups.mp held)
    have one : ([key].removeAll (pairs.map Prod.fst)).eraseDups = [key] := by
      simp [List.removeAll, known, eraseDups_cons]
    have none : pairs.filter (fun pair => decide (pair.1 = key)) = [] := by
      apply filter_eq_nil_iff.mpr
      intro pair isPair same
      exact known (mem_map.mpr ⟨pair, isPair, of_decide_eq_true same⟩)
    rw [alter_absent (by simpa [Function.comp_def] using isNew)]
    simp only [map_cons, map_nil, one, map_append]
    congr 1
    · apply map_congr_left
      intro held isHeld
      have differs : key ≠ held := fun same => isNew (same ▸ isHeld)
      simp [differs]
    · simp [none]

theorem foldl_add (pairs : List (Key × Content)) : pairs.foldl add [] = grouped pairs := by
  induction pairs using List.reverseRecOn with
  | nil => rfl
  | append_singleton pairs pair ih => rw [foldl_append, ih, foldl_cons, foldl_nil, add_grouped]

theorem foldl_alter {pairs : List (Key × Content)} (distinct : (pairs.map Prod.fst).Nodup) :
    pairs.foldl (fun entries pair => alter pair.1 (fun _ => pair.2) entries) [] = pairs := by
  induction pairs using List.reverseRecOn with
  | nil => rfl
  | append_singleton pairs pair ih =>
    rw [map_append, nodup_append] at distinct
    have isNew : pair.1 ∉ pairs.map Prod.fst := fun held => distinct.2.2 pair.1 held pair.1 (by simp) rfl
    rw [foldl_append, ih distinct.1, foldl_cons, foldl_nil, alter_absent isNew]

end Mhvp.Lib.Dictionary

/-!
Numbers drawn from a counter of each series: with every number kept, a series has exactly the numbers from one on.
-/

namespace Mhvp.Lib.Series

universe u

variable {Key : Type u} [DecidableEq Key]

/-- The last number of a series; a missing counter stands at zero. -/
def drawn (counters : List (Key × ℕ)) (series : Key) : ℕ := (counters.lookup series).getD 0

def draw (counters : List (Key × ℕ)) (series : Key) : List (Key × ℕ) :=
  Dictionary.alter series (fun last => last.getD 0 + 1) counters

/-- Numbers of a series, in the order in which they were drawn. -/
def numbersOf (numbered : List (Key × ℕ)) (series : Key) : List ℕ :=
  (numbered.filter fun entry => entry.1 = series).map Prod.snd

def Consecutive (numbered counters : List (Key × ℕ)) : Prop :=
  ∀ series, numbersOf numbered series = List.range' 1 (drawn counters series)

theorem drawn_draw (counters : List (Key × ℕ)) (series other : Key) :
    drawn (draw counters series) other = if other = series then drawn counters series + 1 else drawn counters other := by
  rw [drawn, draw, Dictionary.lookup_alter]
  by_cases same : other = series
  · rw [if_pos same, if_pos same]
    rfl
  · rw [if_neg same, if_neg same]
    rfl

theorem Consecutive.nil : Consecutive ([] : List (Key × ℕ)) [] := fun _ => rfl

theorem Consecutive.draw (consecutive : Consecutive numbered counters)
    (series : Key) :
    Consecutive (numbered ++ [(series, drawn counters series + 1)]) (Series.draw counters series) := by
  intro other
  have before := consecutive other
  rw [numbersOf] at before
  rw [numbersOf, List.filter_append, List.map_append, before, drawn_draw]
  by_cases same : other = series
  · subst same
    rw [if_pos rfl, List.range'_1_concat, Nat.add_comm 1]
    simp
  · rw [if_neg same]
    simp [Ne.symm same]

end Mhvp.Lib.Series
