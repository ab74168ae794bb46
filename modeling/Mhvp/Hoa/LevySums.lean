import Mhvp.Hoa.Levies
import Mhvp.Hoa.PlanSums

namespace Mhvp.Hoa.Levies

open Core Accounting Billing Hoa Lib.Calendar Lib.Aggregate List

variable {levy : SpecialLevy} {levyId : LevyId} {unit : LevyUnit} {units before : List LevyUnit}
  {parts : List (ShareKey × Decimal)} {amount : Decimal} {instalments : ℕ} {register : PropertyRegister}
  {propertyId : Option PropertyId} {snapshot : LevySnapshot}

theorem instalmentRates_sum (amount : Decimal) (instalments : ℕ) : (instalmentRates amount instalments).sum = amount := by
  unfold instalmentRates
  dsimp only
  rw [sum_append, sum_replicate, sum_singleton, nsmul_eq_mul]
  ring

section

variable (nonneg : 0 ≤ amount) (inRange : 1 ≤ instalments ∧ instalments ≤ 60)
include nonneg inRange

private theorem rounded_le :
    contextRound (amount / instalments) * ((instalments - 1 : ℕ) : Decimal) ≤ amount := by
  have positive : (0 : ℚ) < instalments := by exact_mod_cast inRange.1
  have count : (((instalments - 1 : ℕ) : ℚ)) = instalments - 1 := by
    rw [Nat.cast_sub inRange.1, Nat.cast_one]
  have most : (instalments : ℚ) ≤ 60 := by exact_mod_cast inRange.2
  have above := (contextRound_accurate.bounds (div_nonneg nonneg (le_of_lt positive))).2
  have lessNonneg : (0 : ℚ) ≤ instalments - 1 := by
    have least : (1 : ℚ) ≤ instalments := by exact_mod_cast inRange.1
    linarith
  have factor : (1 + contextError) * ((instalments : ℚ) - 1) ≤ instalments := by
    have small : contextError * ((instalments : ℚ) - 1) ≤ 1 := by
      have scaled := mul_le_mul_of_nonneg_left (show (instalments : ℚ) - 1 ≤ 60 by linarith) contextRound_accurate.nonneg
      norm_num [contextError] at scaled ⊢
      linarith
    linarith
  rw [count]
  calc contextRound (amount / instalments) * ((instalments : ℚ) - 1)
      ≤ (1 + contextError) * (amount / instalments) * ((instalments : ℚ) - 1) :=
        mul_le_mul_of_nonneg_right above lessNonneg
    _ = amount / instalments * ((1 + contextError) * ((instalments : ℚ) - 1)) := by ring
    _ ≤ amount / instalments * instalments :=
        mul_le_mul_of_nonneg_left factor (div_nonneg nonneg (le_of_lt positive))
    _ = amount := div_mul_cancel₀ amount (ne_of_gt positive)

theorem instalmentRates_nonneg :
    ∀ rate ∈ instalmentRates amount instalments, 0 ≤ rate := by
  have rounded : 0 ≤ contextRound (amount / instalments) :=
    contextRound_accurate.round_nonneg (div_nonneg nonneg (Nat.cast_nonneg _))
  have base := quantizeDown_nonneg rounded
  intro rate member
  unfold instalmentRates at member
  rcases mem_append.mp member with equal | last
  · rw [eq_of_mem_replicate equal]
    exact base
  · rw [mem_singleton.mp last, sub_nonneg]
    exact (mul_le_mul_of_nonneg_right (quantizeDown_le rounded) (Nat.cast_nonneg _)).trans (rounded_le nonneg inRange)

end

/-- What a charge adds for its unit: the instalments that are due at all, or the difference. -/
def LevyUnit.booked (unit : LevyUnit) : Decimal :=
  match unit.charge with
  | .instalments rates => ((rates.filter fun rate => 0 < rate.2).map Prod.snd).sum
  | .difference _ difference => difference

/-- The instalments of a unit add up to its amount, and none is negative. -/
def LevyUnit.Spread (unit : LevyUnit) : Prop :=
  match unit.charge with
  | .instalments rates => (rates.map Prod.snd).sum = unit.amount ∧ ∀ rate ∈ rates, 0 ≤ rate.2
  | .difference _ _ => True

def amountOf (units : List LevyUnit) (unitId : UnitId) : Decimal :=
  sumWhere (fun unit => unit.unitId = unitId) LevyUnit.amount units

def bookedOf (units : List LevyUnit) (unitId : UnitId) : Decimal :=
  sumWhere (fun unit => unit.unitId = unitId) LevyUnit.booked units

private theorem sum_positive {rates : List (Date × Decimal)} (nonneg : ∀ rate ∈ rates, 0 ≤ rate.2) :
    ((rates.filter fun rate => 0 < rate.2).map Prod.snd).sum = (rates.map Prod.snd).sum := by
  induction rates with
  | nil => rfl
  | cons rate rest ih =>
    have restSame := ih fun other member => nonneg other (mem_cons_of_mem _ member)
    by_cases positive : 0 < rate.2
    · rw [filter_cons_of_pos (by simpa using positive), map_cons, map_cons, sum_cons,
        sum_cons, restSame]
    · have zero : rate.2 = 0 := le_antisymm (le_of_not_gt positive) (nonneg rate mem_cons_self)
      rw [filter_cons_of_neg (by simpa using positive), map_cons, sum_cons, zero, zero_add, restSame]

theorem firstUnit_spread (part : ShareKey × Decimal) (nonneg : 0 ≤ part.2) : (firstUnit levy part).Spread := by
  unfold LevyUnit.Spread firstUnit
  dsimp only
  constructor
  · rw [map_map]
    have rates : (instalmentRates part.2 levy.instalments).zipIdx.map
        (Prod.snd ∘ fun rate => (month levy.firstDue rate.2, rate.1)) = instalmentRates part.2 levy.instalments :=
      zipIdx_map_fst 0 _
    rw [rates, instalmentRates_sum]
  · intro rate member
    obtain ⟨found, isRate, rfl⟩ := mem_map.mp member
    exact instalmentRates_nonneg nonneg levy.instalmentsInRange _ (fst_mem_of_mem_zipIdx isRate)

theorem firstUnit_booked (part : ShareKey × Decimal) (nonneg : 0 ≤ part.2) : (firstUnit levy part).booked = part.2 := by
  have spread : (firstUnit levy part).Spread := firstUnit_spread part nonneg
  unfold LevyUnit.Spread firstUnit at spread
  unfold LevyUnit.booked firstUnit
  dsimp only at spread ⊢
  rw [sum_positive spread.2, spread.1]

theorem amountBefore_eq (unique : (before.map LevyUnit.unitId).Nodup) (unitId : UnitId) :
    amountBefore before unitId = amountOf before unitId := by
  unfold amountBefore amountOf
  cases isUnit : before.find? fun unit => unit.unitId = unitId with
  | none =>
    have nothing : sumWhere (fun unit : LevyUnit => unit.unitId = unitId) LevyUnit.amount before = 0 :=
      sumWhere_eq_zero fun unit member same =>
        absurd (decide_eq_true same) (List.find?_eq_none.mp isUnit unit member)
    exact nothing.symm
  | some unit =>
    have isId : unit.unitId = unitId := by simpa using List.find?_some isUnit
    subst isId
    have single : sumWhere (fun other : LevyUnit => other.unitId = unit.unitId) LevyUnit.amount before =
        unit.amount :=
      sumWhere_key unique (mem_of_find?_eq_some isUnit)
    exact single.symm

theorem levyUnits_total (levy : SpecialLevy) (before : Option (List LevyUnit)) (parts : List (ShareKey × Decimal)) :
    ((levyUnits levy before parts).map LevyUnit.amount).sum = partsSum parts := by
  unfold levyUnits partsSum
  cases before with
  | none =>
    dsimp only
    rw [map_map]
    rfl
  | some before =>
    dsimp only
    have released : ((((before.filter fun unit => ∀ part ∈ parts, part.1.2 ≠ unit.unitId).map releasedUnit).map
        LevyUnit.amount)).sum = 0 := by
      apply sum_eq_zero
      intro amount member
      obtain ⟨unit, isUnit, rfl⟩ := mem_map.mp member
      obtain ⟨old, -, rfl⟩ := mem_map.mp isUnit
      rfl
    rw [map_append, sum_append, released, add_zero, map_map]
    rfl

theorem levyUnits_unique (levy : SpecialLevy) {before : Option (List LevyUnit)}
    (uniqueParts : (parts.map fun part => part.1.2).Nodup)
    (uniqueBefore : ∀ units ∈ before, (units.map LevyUnit.unitId).Nodup) :
    ((levyUnits levy before parts).map LevyUnit.unitId).Nodup := by
  unfold levyUnits
  cases before with
  | none =>
    dsimp only
    rw [map_map]
    exact uniqueParts
  | some before =>
    dsimp only
    have kept := (filter_sublist (p := fun unit => decide (∀ part ∈ parts, part.1.2 ≠ unit.unitId))
      (l := before)).map LevyUnit.unitId
    rw [map_append, map_map, map_map]
    apply List.Nodup.append uniqueParts (kept.nodup (uniqueBefore before rfl))
    intro unitId isPart isReleased
    obtain ⟨part, member, rfl⟩ := mem_map.mp isPart
    obtain ⟨unit, isUnit, same⟩ := mem_map.mp isReleased
    have absent := of_decide_eq_true (mem_filter.mp isUnit).2
    exact absent part member same.symm

theorem levyUnits_nonneg (levy : SpecialLevy) (before : Option (List LevyUnit)) (nonneg : ∀ part ∈ parts, 0 ≤ part.2) :
    ∀ unit ∈ levyUnits levy before parts, 0 ≤ unit.amount ∧ unit.Spread := by
  intro unit member
  unfold levyUnits at member
  cases before with
  | none =>
    obtain ⟨part, isPart, rfl⟩ := mem_map.mp member
    exact ⟨nonneg part isPart, firstUnit_spread part (nonneg part isPart)⟩
  | some before =>
    rcases mem_append.mp member with amended | released
    · obtain ⟨part, isPart, rfl⟩ := mem_map.mp amended
      exact ⟨nonneg part isPart, trivial⟩
    · obtain ⟨old, -, rfl⟩ := mem_map.mp released
      exact ⟨le_refl 0, trivial⟩

theorem firstUnits_booked (nonneg : ∀ part ∈ parts, 0 ≤ part.2) (unitId : UnitId) :
    bookedOf (levyUnits levy none parts) unitId = amountOf (levyUnits levy none parts) unitId := by
  unfold bookedOf amountOf levyUnits
  dsimp only
  rw [sumWhere_map, sumWhere_map]
  exact sumWhere_congr (fun _ _ => Iff.rfl) fun part member _ => firstUnit_booked part (nonneg part member)

/-- An amendment books what the amount of a unit is more than before, also for units that join or leave. -/
theorem amendedUnits_booked (uniqueParts : (parts.map fun part => part.1.2).Nodup)
    (uniqueBefore : (before.map LevyUnit.unitId).Nodup) (unitId : UnitId) :
    bookedOf (levyUnits levy (some before) parts) unitId =
      amountOf (levyUnits levy (some before) parts) unitId - amountOf before unitId := by
  unfold bookedOf levyUnits
  rw [amountOf]
  dsimp only
  rw [sumWhere_append, sumWhere_append, sumWhere_map, sumWhere_map, sumWhere_map, sumWhere_map]
  have noAmount : sumWhere (fun unit => (releasedUnit unit).unitId = unitId) (fun unit => (releasedUnit unit).amount)
      (before.filter fun unit => ∀ part ∈ parts, part.1.2 ≠ unit.unitId) = 0 :=
    sumWhere_eq_zero fun _ _ _ => rfl
  rw [noAmount, add_zero]
  by_cases present : ∃ part ∈ parts, part.1.2 = unitId
  · obtain ⟨part, isPart, rfl⟩ := present
    have booked : sumWhere (fun other => (amendedUnit before other).unitId = part.1.2)
        (fun other => (amendedUnit before other).booked) parts = (amendedUnit before part).booked :=
      sumWhere_key uniqueParts isPart
    have amounts : sumWhere (fun other => (amendedUnit before other).unitId = part.1.2)
        (fun other => (amendedUnit before other).amount) parts = (amendedUnit before part).amount :=
      sumWhere_key uniqueParts isPart
    have none : sumWhere (fun unit => (releasedUnit unit).unitId = part.1.2) (fun unit => (releasedUnit unit).booked)
        (before.filter fun unit => ∀ part ∈ parts, part.1.2 ≠ unit.unitId) = 0 := by
      apply sumWhere_eq_zero
      intro unit member same
      exact absurd same.symm (of_decide_eq_true (mem_filter.mp member).2 part isPart)
    rw [booked, amounts, none, add_zero, ← amountBefore_eq uniqueBefore]
    rfl
  · have absent : ∀ part ∈ parts, part.1.2 ≠ unitId := fun part isPart same => present ⟨part, isPart, same⟩
    have noBooked : sumWhere (fun part => (amendedUnit before part).unitId = unitId)
        (fun part => (amendedUnit before part).booked) parts = 0 :=
      sumWhere_eq_zero fun part member same => absurd same (absent part member)
    have noParts : sumWhere (fun part => (amendedUnit before part).unitId = unitId)
        (fun part => (amendedUnit before part).amount) parts = 0 :=
      sumWhere_eq_zero fun part member same => absurd same (absent part member)
    rw [noBooked, noParts, zero_add, zero_sub, sumWhere_filter]
    have kept : sumWhere (fun unit => (releasedUnit unit).unitId = unitId ∧ ∀ part ∈ parts, part.1.2 ≠ unit.unitId)
        (fun unit => (releasedUnit unit).booked) before =
        sumWhere (fun unit => unit.unitId = unitId) (fun unit => -unit.amount) before := by
      apply sumWhere_congr
      · intro unit _
        constructor
        · exact And.left
        · intro same
          refine ⟨same, ?_⟩
          rw [same]
          exact absent
      · exact fun _ _ _ => rfl
    rw [kept]
    unfold amountOf sumWhere
    rw [sum_neg, map_map]
    rfl

/-- Amount of a unit in the levy that is superseded. -/
def previousAmount (levies : List SpecialLevy) (levy : SpecialLevy) (unitId : UnitId) : Decimal :=
  match levy.supersedesId with
  | none => 0
  | some previousId => amountOf (((levies[previousId]?).map SpecialLevy.units).getD []) unitId

/-- What a calculation gives: amounts that add up to the levy, spread over instalments, and charges that bring each unit
from its amount before to its amount. -/
structure Calculated (levies : List SpecialLevy) (levy : SpecialLevy) (snapshot : LevySnapshot) : Prop where
  unique : (snapshot.units.map LevyUnit.unitId).Nodup
  total : (snapshot.units.map LevyUnit.amount).sum = levy.total
  spread : ∀ unit ∈ snapshot.units, 0 ≤ unit.amount ∧ unit.Spread
  booked : ∀ unitId,
    bookedOf snapshot.units unitId = amountOf snapshot.units unitId - previousAmount levies levy unitId

theorem affected_sublist (accepted : affected levy shares = .ok chosen) :
    chosen.Sublist shares := by
  unfold affected at accepted
  split at accepted
  · rw [pure_ok] at accepted
    rw [accepted]
  · simp only [bind_ok, exists_unit, require_ok, pure_ok] at accepted
    rw [← accepted.2]
    exact filter_sublist

/-- The parts of a levy: one for each unit, and over weights that are not negative none is negative and they add up. -/
theorem parts_ok
    (isWeighed : unitWeights register propertyId levy.allocationKeyId levy.firstDue levy.firstDue = .ok weighed)
    (isAffected : affected levy weighed = .ok shares) (isParts : distribute levy.total shares = some parts) :
    (parts.map fun part => part.1.2).Nodup ∧
      (NonnegKey register levy.allocationKeyId → (∀ part ∈ parts, 0 ≤ part.2) ∧ partsSum parts = levy.total) := by
  have isShares := (unitWeights_ok isWeighed).1
  have sub := affected_sublist isAffected
  have unique : ((weighed.map Share.key).map Prod.snd).Nodup := by
    rw [isShares]
    exact shares_unique ..
  have uniqueShares : ((shares.map Share.key).map Prod.snd).Nodup := ((sub.map Share.key).map Prod.snd).nodup unique
  constructor
  · have keys : (parts.map fun part => part.1.2) = ((ordered shares).map Share.key).map Prod.snd := by
      rw [← distribute_keys isParts, map_map]
      rfl
    rw [keys]
    exact (((ordered_perm shares).map Share.key).map Prod.snd).nodup_iff.mpr uniqueShares
  · intro nonneg
    have weights : ∀ share ∈ shares, 0 ≤ share.weight := by
      intro share member
      have among := sub.mem member
      rw [isShares] at among
      obtain ⟨found, -, isShare⟩ := mem_filterMap.mp among
      exact unitShare_nonneg nonneg isShare
    have few : shares.length ≤ shareLimit := by
      refine sub.length_le.trans ?_
      rw [isShares]
      exact (shares_few ..).trans nonneg.2
    exact ⟨distribute_nonneg weights (le_of_lt levy.positive) isParts,
      distribute_exact uniqueShares.of_map weights few levy.isMoney isParts⟩

private theorem amountOf_withOwners (office : Office) (levy : SpecialLevy) (units : List LevyUnit) (unitId : UnitId) :
    amountOf (units.map (withOwners office levy)) unitId = amountOf units unitId :=
  sumWhere_map ..

private theorem bookedOf_withOwners (office : Office) (levy : SpecialLevy) (units : List LevyUnit) (unitId : UnitId) :
    bookedOf (units.map (withOwners office levy)) unitId = bookedOf units unitId :=
  sumWhere_map ..

theorem snapshotOf_calculated (nonneg : NonnegKey state.office.register levy.allocationKeyId)
    (uniqueBefore : ∀ previousId previous, levy.supersedesId = some previousId →
      state.levies[previousId]? = some previous → (previous.units.map LevyUnit.unitId).Nodup)
    (accepted : snapshotOf state levy = .ok snapshot) : Calculated state.levies levy snapshot := by
  simp only [snapshotOf, bind_ok, orRefuse_ok, pure_ok] at accepted
  obtain ⟨ledger, -, weighed, isWeighed, shares, isAffected, parts, isParts, before, isBefore, rfl⟩ := accepted
  obtain ⟨uniqueParts, sound⟩ := parts_ok isWeighed isAffected isParts
  obtain ⟨partsNonneg, isTotal⟩ := sound nonneg
  have sorted := perm_insertionSort (fun first second : ShareKey × Decimal => KeyLe first.1 second.1) parts
  generalize List.insertionSort (fun first second : ShareKey × Decimal => KeyLe first.1 second.1) parts = inOrder at *
  have uniqueOrder : (inOrder.map fun part => part.1.2).Nodup :=
    (sorted.map fun part : ShareKey × Decimal => part.1.2).nodup_iff.mpr uniqueParts
  have orderNonneg : ∀ part ∈ inOrder, 0 ≤ part.2 := fun part member => partsNonneg part (sorted.mem_iff.mp member)
  have orderTotal : partsSum inOrder = levy.total := by
    rw [← isTotal]
    exact (sorted.map Prod.snd).sum_eq
  unfold unitsBefore at isBefore
  have unique : ∀ units ∈ before, (units.map LevyUnit.unitId).Nodup := by
    intro units member
    split at isBefore
    · cases isBefore
      cases member
    · rename_i previousId isPrevious
      simp only [levyOf, bind_ok, orRefuse_ok, pure_ok] at isBefore
      obtain ⟨previous, found, rfl⟩ := isBefore
      obtain rfl : previous.units = units := Option.some.inj member
      exact uniqueBefore previousId previous isPrevious found
  refine ⟨?_, ?_, ?_, fun unitId => ?_⟩
  · rw [map_map]
    exact levyUnits_unique levy uniqueOrder unique
  · rw [map_map]
    exact (levyUnits_total levy before inOrder).trans orderTotal
  · intro unit member
    obtain ⟨calculated, isUnit, rfl⟩ := mem_map.mp member
    exact levyUnits_nonneg levy before orderNonneg calculated isUnit
  · dsimp only
    rw [amountOf_withOwners, bookedOf_withOwners]
    unfold previousAmount
    cases isPrevious : levy.supersedesId with
    | none =>
      rw [isPrevious] at isBefore
      cases isBefore
      dsimp only
      rw [firstUnits_booked orderNonneg, sub_zero]
    | some previousId =>
      rw [isPrevious] at isBefore
      simp only [levyOf, bind_ok, orRefuse_ok, pure_ok] at isBefore
      obtain ⟨previous, found, rfl⟩ := isBefore
      dsimp only
      rw [found, amendedUnits_booked uniqueOrder (unique _ rfl)]
      rfl

end Mhvp.Hoa.Levies
