import Mhvp.Lib.Table

/-! Versions of a row: every version names the one it supersedes, and a version may be superseded more than once. -/

namespace Mhvp.Lib.Versions

universe u

variable {Party : Type u} {earlier added : List (Option ℕ)} {id prior one other : ℕ}

/-- The version a chain of superseded versions goes back to. -/
def firstVersion (earlier : List (Option ℕ)) : (fuel : ℕ) → ℕ → ℕ
  | 0, id => id
  | fuel + 1, id =>
    match earlier[id]?.join with
    | some prior => firstVersion earlier fuel prior
    | none => id

/-- A version is made after the one it supersedes. -/
def Ordered (earlier : List (Option ℕ)) : Prop :=
  ∀ id prior : ℕ, earlier[id]? = some (some prior) → prior < id

def SameRow (earlier : List (Option ℕ)) (one other : ℕ) : Prop :=
  firstVersion earlier one one = firstVersion earlier other other

instance : Decidable (SameRow earlier one other) := by unfold SameRow; infer_instance

theorem SameRow.symm (same : SameRow earlier one other) : SameRow earlier other one := Eq.symm same

theorem firstVersion_step (superseding : earlier[id]? = some (some prior)) (fuel : ℕ) :
    firstVersion earlier (fuel + 1) id = firstVersion earlier fuel prior := by
  simp [firstVersion, superseding]

theorem firstVersion_first (first : earlier[id]?.join = none) (fuel : ℕ) : firstVersion earlier fuel id = id := by
  cases fuel with
  | zero => rfl
  | succ fuel => simp [firstVersion, first]

section

variable (ordered : Ordered earlier)
include ordered

theorem firstVersion_append (added : List (Option ℕ)) (fuel : ℕ) :
    ∀ id, id < earlier.length → firstVersion (earlier ++ added) fuel id = firstVersion earlier fuel id := by
  induction fuel with
  | zero => exact fun _ _ => rfl
  | succ fuel ih =>
    intro id known
    have kept : (earlier ++ added)[id]? = earlier[id]? := List.getElem?_append_left known
    cases superseding : earlier[id]?.join with
    | none => rw [firstVersion_first superseding, firstVersion_first (by rw [kept]; exact superseding)]
    | some prior =>
      have superseding := Option.join_eq_some_iff.mp superseding
      rw [firstVersion_step superseding, firstVersion_step (kept.trans superseding)]
      exact ih prior (lt_trans (ordered id prior superseding) known)

theorem sameRow_append (added : List (Option ℕ)) (known : one < earlier.length)
    (knownOther : other < earlier.length) :
    SameRow (earlier ++ added) one other ↔ SameRow earlier one other := by
  unfold SameRow
  rw [firstVersion_append ordered added one one known, firstVersion_append ordered added other other knownOther]

theorem Ordered.append_one (before : ∀ prior ∈ supersedes, prior < earlier.length) :
    Ordered (earlier ++ [supersedes]) := by
  intro id prior superseding
  rcases Table.found_append_one.mp superseding with kept | ⟨rfl, rfl⟩
  · exact ordered id prior kept
  · exact before prior rfl

end

/-- The claims of a party belong to one version of a row. -/
def ClaimedOnce (earlier : List (Option ℕ)) (Claimed : ℕ → Party → Prop) : Prop :=
  ∀ party one other, Claimed one party → Claimed other party → SameRow earlier one other → one = other

variable {Claimed Later : ℕ → Party → Prop}

theorem ClaimedOnce.of_before (once : ClaimedOnce earlier Claimed) (before : ∀ id party, Later id party → Claimed id party) :
    ClaimedOnce earlier Later :=
  fun party one other claimed claimedOther same =>
    once party one other (before one party claimed) (before other party claimedOther) same

theorem ClaimedOnce.append (once : ClaimedOnce earlier Claimed) (ordered : Ordered earlier)
    (known : ∀ id party, Claimed id party → id < earlier.length) (added : List (Option ℕ)) :
    ClaimedOnce (earlier ++ added) Claimed := by
  intro party one other claimed claimedOther same
  apply once party one other claimed claimedOther
  exact (sameRow_append ordered added (known one party claimed) (known other party claimedOther)).mp same

end Mhvp.Lib.Versions
