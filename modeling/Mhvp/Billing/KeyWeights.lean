import Mhvp.Billing.Occupants

namespace Mhvp.Billing

open Core Lib.Calendar Lib.Validity List
open Accounting (UnitId PropertyId)
open Hoa

/-- The share of one occupant: key value times days within the occupancy. -/
def keyWeight (register : PropertyRegister) (keyId : AllocationKeyId) (row : Occupant) :
    Result ((String × OccupantKey) × Decimal) := do
  require (covered register keyId row.first row.last row.unitId = days row.first row.last) .validation
    (some ("Schlüsselwert fehlt für Einheit " ++ row.unitNumber ++ " im Zeitraum."))
  let weight :=
    ((coveredSpans register keyId row.first row.last row.unitId).map fun span => span.1 * (span.2 : Decimal)).sum
  pure ((row.unitNumber, row.key), weight)

/-- `weights` -/
def weights (register : PropertyRegister) (keyId : AllocationKeyId) (rows : List Occupant) :
    Result (List ((String × OccupantKey) × Decimal)) :=
  rows.mapM (keyWeight register keyId)

def valueKey (value : UnitAllocationValue) : UnitId × AllocationKeyId := (value.unitId, value.allocationKeyId)

def valuePeriod (value : UnitAllocationValue) : Period := ⟨value.validFrom, value.validTo⟩

/-- The exclusion constraint of the table: periods of one unit and key never overlap. -/
def StoredValues (register : PropertyRegister) : Prop := Exclusive valueKey valuePeriod register.values

instance : DecidablePred StoredValues := fun _ => by unfold StoredValues; infer_instance

/-- Values of the key that the unit has on the day. -/
def valuesOn (register : PropertyRegister) (keyId : AllocationKeyId) (unitId : UnitId) (day : Date) : List Decimal :=
  (register.values.filter fun value => Lib.Validity.Standing valueKey valuePeriod (unitId, keyId) day value).map
    UnitAllocationValue.value

def OneValueEachDay (register : PropertyRegister) (keyId : AllocationKeyId) (unitId : UnitId) (start last : Date) : Prop :=
  ∀ day, start ≤ day → day ≤ last → ∃ value, valuesOn register keyId unitId day = [value]

def NoValue (register : PropertyRegister) (keyId : AllocationKeyId) (unitId : UnitId) (start last : Date) : Prop :=
  ∀ day, start ≤ day → day ≤ last → valuesOn register keyId unitId day = []

/-- The values added up day by day. -/
def valueDays (register : PropertyRegister) (keyId : AllocationKeyId) (unitId : UnitId) (start last : Date) : Decimal :=
  daySum (fun day => (valuesOn register keyId unitId day).sum) start (last.addDays 1)

/-- The mean of the values over the days of the span. -/
def meanValue (register : PropertyRegister) (keyId : AllocationKeyId) (unitId : UnitId) (start last : Date) : Decimal :=
  valueDays register keyId unitId start last / days start last

variable {register : PropertyRegister} {propertyId : Option PropertyId} {keyId : AllocationKeyId} {unitId : UnitId}
  {start last : Date} {rows : List Occupant} {row : Occupant} {unit : UnitRow × UnitId}
  {shares : List ((String × OccupantKey) × Decimal)} {unitShares : List Share}

theorem overlap_daySum [Semiring Number] (amount : Number) (start last : Date)
    (value : UnitAllocationValue) :
    ((overlap start last value.validFrom value.validTo).map fun span => (days span.1 span.2 : Number) * amount).getD 0 =
      daySum (fun day => if (valuePeriod value).Covers day then amount else 0) start (last.addDays 1) := by
  cases isSpan : overlap start last value.validFrom value.validTo with
  | none =>
    have never : ∀ day, start ≤ day → day < last.addDays 1 →
        (if (valuePeriod value).Covers day then amount else 0) = 0 := by
      intro day after before
      rw [if_neg]
      intro covers
      have notAfter : day ≤ last := Nat.le_of_lt_succ (Date.lt_def.mp before)
      have nonempty : max start value.validFrom ≤ min last (value.validTo.getD last) := by
        apply (max_le after covers.1).trans (le_min notAfter _)
        cases isLast : value.validTo with
        | none => exact notAfter
        | some stop => exact covers.2 stop isLast
      unfold overlap at isSpan
      rw [if_pos nonempty] at isSpan
      cases isSpan
    rw [daySum_const never, mul_zero]
    rfl
  | some span =>
    obtain ⟨isFirst, ordered, inSpan, reaches, ends⟩ := overlap_some isSpan
    have sameDays : ∀ day, start ≤ day → day < last.addDays 1 →
        (if (valuePeriod value).Covers day then amount else 0) =
          if span.1 ≤ day ∧ day ≤ span.2 then amount else 0 := by
      intro day after before
      have notAfter : day ≤ last := Nat.le_of_lt_succ (Date.lt_def.mp before)
      apply if_congr _ rfl rfl
      constructor
      · intro covers
        rw [isFirst]
        refine ⟨max_le after covers.1, ?_⟩
        rcases ends with isLast | isStop
        · rw [isLast]
          exact notAfter
        · exact covers.2 span.2 isStop
      · intro inside
        exact overlap_covers isSpan inside.1 inside.2
    rw [daySum_congr sameDays, daySum_span amount (isFirst ▸ le_max_left _ _) ordered inSpan]
    rfl

/-- The days of all values of the unit, each day with the amounts of the values that stand on it. -/
theorem coveredSpans_daySum [Semiring Number] (amount : Decimal → Number) (register : PropertyRegister)
    (keyId : AllocationKeyId) (start last : Date) (unitId : UnitId) :
    ((coveredSpans register keyId start last unitId).map fun span => (span.2 : Number) * amount span.1).sum =
      daySum (fun day => ((valuesOn register keyId unitId day).map amount).sum) start (last.addDays 1) := by
  unfold coveredSpans valuesOn
  induction register.values with
  | nil =>
    have none : ∀ day, start ≤ day → day < last.addDays 1 → (([] : List Decimal).map amount).sum = 0 :=
      fun _ _ _ => rfl
    exact (daySum_const none).trans (mul_zero _) |>.symm
  | cons value rest ih =>
    by_cases selected : value.unitId = unitId ∧ value.allocationKeyId = keyId
    · have isKey : valueKey value = (unitId, keyId) := Prod.ext selected.1 selected.2
      have eachDay : ∀ day, (((value :: rest).filter fun value =>
          Lib.Validity.Standing valueKey valuePeriod (unitId, keyId) day value).map UnitAllocationValue.value |>.map amount).sum =
            (if (valuePeriod value).Covers day then amount value.value else 0) +
              ((rest.filter fun value => Lib.Validity.Standing valueKey valuePeriod (unitId, keyId) day value).map
                UnitAllocationValue.value |>.map amount).sum := by
        intro day
        by_cases covers : (valuePeriod value).Covers day
        · have stands : Lib.Validity.Standing valueKey valuePeriod (unitId, keyId) day value := ⟨isKey, covers⟩
          rw [filter_cons_of_pos (by simpa using stands), if_pos covers]
          rfl
        · have notStands : ¬ Lib.Validity.Standing valueKey valuePeriod (unitId, keyId) day value := fun stands => covers stands.2
          rw [filter_cons_of_neg (by simpa using notStands), if_neg covers, zero_add]
      simp only [eachDay]
      rw [daySum_add_shares, ← ih, ← overlap_daySum, filter_cons_of_pos (by simpa using selected)]
      cases isSpan : overlap start last value.validFrom value.validTo with
      | none => rw [filterMap_cons_none (by rw [isSpan]; rfl), Option.map_none, Option.getD_none, zero_add]
      | some span =>
        rw [filterMap_cons_some (by rw [isSpan]; rfl), map_cons, sum_cons]
        rfl
    · have notStands : ∀ day, ¬ Lib.Validity.Standing valueKey valuePeriod (unitId, keyId) day value := by
        intro day stands
        exact selected ⟨congrArg Prod.fst stands.1, congrArg Prod.snd stands.1⟩
      have eachDay : ∀ day, ((value :: rest).filter fun value =>
          Lib.Validity.Standing valueKey valuePeriod (unitId, keyId) day value) =
            rest.filter fun value => Lib.Validity.Standing valueKey valuePeriod (unitId, keyId) day value :=
        fun day => filter_cons_of_neg (by simpa using notStands day)
      simp only [eachDay]
      rw [filter_cons_of_neg (by simpa using selected)]
      exact ih

theorem valuesOn_le_one (stored : StoredValues register) (keyId : AllocationKeyId) (unitId : UnitId) (day : Date) :
    (valuesOn register keyId unitId day).length ≤ 1 := by
  unfold valuesOn
  rw [length_map]
  exact stored.standing_le_one (unitId, keyId) day

theorem covered_daySum (register : PropertyRegister) (keyId : AllocationKeyId) (start last : Date) (unitId : UnitId) :
    covered register keyId start last unitId =
      daySum (fun day => (valuesOn register keyId unitId day).length) start (last.addDays 1) := by
  have counted := coveredSpans_daySum (fun _ => (1 : ℕ)) register keyId start last unitId
  simp only [mul_one, map_const', sum_replicate, nsmul_eq_mul, Nat.cast_id] at counted
  exact counted

theorem covered_eq_days_iff (stored : StoredValues register) (ordered : start ≤ last) :
    covered register keyId start last unitId = days start last ↔ OneValueEachDay register keyId unitId start last := by
  have isDays : days start last = (last.addDays 1).ordinal - start.ordinal :=
    (Nat.succ_sub (Date.le_def.mp ordered)).symm
  rw [covered_daySum, isDays, daySum_eq_days_iff (valuesOn_le_one stored keyId unitId)]
  constructor
  · intro each day after before
    exact length_eq_one_iff.mp (each day after (Nat.lt_succ_of_le (Date.le_def.mp before)))
  · intro each day after before
    exact length_eq_one_iff.mpr (each day after (Nat.le_of_lt_succ (Date.lt_def.mp before)))

theorem covered_eq_zero_iff :
    covered register keyId start last unitId = 0 ↔ NoValue register keyId unitId start last := by
  rw [covered_daySum, daySum_eq_zero_iff]
  constructor
  · intro each day after before
    exact length_eq_zero_iff.mp (each day after (Nat.lt_succ_of_le (Date.le_def.mp before)))
  · intro each day after before
    exact length_eq_zero_iff.mpr (each day after (Nat.le_of_lt_succ (Date.lt_def.mp before)))

theorem coveredSpans_valueDays (register : PropertyRegister) (keyId : AllocationKeyId) (start last : Date)
    (unitId : UnitId) :
    ((coveredSpans register keyId start last unitId).map fun span => span.1 * (span.2 : Decimal)).sum =
      valueDays register keyId unitId start last := by
  have summed := coveredSpans_daySum (fun value : Decimal => value) register keyId start last unitId
  simp only [map_id'] at summed
  simp only [mul_comm _ (Nat.cast _)]
  exact summed

theorem meanValue_mul_days (register : PropertyRegister) (keyId : AllocationKeyId) (unitId : UnitId) (start last : Date) :
    meanValue register keyId unitId start last * days start last = valueDays register keyId unitId start last := by
  have positive : (days start last : Decimal) ≠ 0 := Nat.cast_ne_zero.mpr (Nat.succ_ne_zero _)
  exact div_mul_cancel₀ _ positive

section

variable (stored : StoredValues register)
include stored

theorem keyWeight_ok (proper : row.first ≤ row.last) :
    keyWeight register keyId row = .ok share ↔
      OneValueEachDay register keyId row.unitId row.first row.last ∧
        share = ((row.unitNumber, row.key),
          meanValue register keyId row.unitId row.first row.last * days row.first row.last) := by
  unfold keyWeight
  simp only [bind_ok, require_ok, exists_unit, pure_ok]
  rw [covered_eq_days_iff stored proper, coveredSpans_valueDays, meanValue_mul_days]
  exact and_congr_right fun _ => eq_comm

theorem weights_ok (proper : ∀ row ∈ rows, row.first ≤ row.last) :
    weights register keyId rows = .ok shares ↔
      (∀ row ∈ rows, OneValueEachDay register keyId row.unitId row.first row.last) ∧
        shares = rows.map fun row => ((row.unitNumber, row.key),
          meanValue register keyId row.unitId row.first row.last * days row.first row.last) := by
  unfold weights
  rw [mapM_ok]
  induction rows generalizing shares with
  | nil =>
    rw [List.forall₂_nil_left_iff, map_nil]
    exact ⟨fun same => ⟨fun _ member => (nomatch member), same⟩, fun found => found.2⟩
  | cons row rest ih =>
    have properRest : ∀ row ∈ rest, row.first ≤ row.last := fun other member => proper other (mem_cons_of_mem _ member)
    rw [forall_mem_cons, map_cons]
    constructor
    · intro each
      cases each with
      | cons isShare isRest =>
        obtain ⟨one, rfl⟩ := (keyWeight_ok stored (proper row mem_cons_self)).mp isShare
        obtain ⟨others, rfl⟩ := (ih properRest).mp isRest
        exact ⟨⟨one, others⟩, rfl⟩
    · intro found
      obtain ⟨⟨one, others⟩, rfl⟩ := found
      exact .cons ((keyWeight_ok stored (proper row mem_cons_self)).mpr ⟨one, rfl⟩)
        ((ih properRest).mpr ⟨others, rfl⟩)

theorem unitShare_of_value (ordered : start ≤ last)
    (one : OneValueEachDay register keyId unit.2 start last) :
    unitShare register keyId start last unit =
      some { key := (unit.1.number, unit.2), weight := contextRound (meanValue register keyId unit.2 start last) } := by
  have full := (covered_eq_days_iff stored ordered).mpr one
  unfold unitShare
  rw [if_neg (full ▸ Nat.succ_ne_zero _), coveredSpans_valueDays]
  rfl

/-- `unit_weights` accepts a key where each unit has one value on every day or none on all days. -/
theorem unitWeights_values (ordered : start ≤ last)
    (accepted : unitWeights register propertyId keyId start last = .ok unitShares) :
    (∀ unit ∈ unitsOf register propertyId,
        OneValueEachDay register keyId unit.2 start last ∨ NoValue register keyId unit.2 start last) ∧
      ∀ share, share ∈ unitShares ↔ ∃ unit ∈ unitsOf register propertyId,
        OneValueEachDay register keyId unit.2 start last ∧
          share = { key := (unit.1.number, unit.2), weight := contextRound (meanValue register keyId unit.2 start last) } := by
  obtain ⟨isShares, -⟩ := unitWeights_ok accepted
  have each : ∀ unit ∈ unitsOf register propertyId,
      OneValueEachDay register keyId unit.2 start last ∨ NoValue register keyId unit.2 start last := by
    intro unit member
    unfold unitWeights at accepted
    dsimp only at accepted
    split at accepted
    · cases accepted
    · rename_i notPartly
      have notPart := List.find?_eq_none.mp notPartly unit member
      rw [decide_eq_true_eq, not_and_or, not_not, not_not] at notPart
      rcases notPart with none | full
      · exact .inr (covered_eq_zero_iff.mp none)
      · exact .inl ((covered_eq_days_iff stored ordered).mp full)
  refine ⟨each, fun share => ?_⟩
  rw [isShares, mem_filterMap]
  constructor
  · intro found
    obtain ⟨unit, member, isShare⟩ := found
    refine ⟨unit, member, ?_⟩
    rcases each unit member with one | none
    · rw [unitShare_of_value stored ordered one, Option.some_inj] at isShare
      exact ⟨one, isShare.symm⟩
    · unfold unitShare at isShare
      rw [if_pos (covered_eq_zero_iff.mpr none)] at isShare
      cases isShare
  · intro found
    obtain ⟨unit, member, one, rfl⟩ := found
    exact ⟨unit, member, unitShare_of_value stored ordered one⟩

end

/-- With key values as the table stores them, the shares of occupants are given out where every day of each occupancy has
one value, as the mean of the values times the days; the shares of units where each unit has one value on every day or
none at all, as the mean of those that have values. -/
theorem key_weights (stored : StoredValues register) (keyId : AllocationKeyId) :
    (∀ rows shares, (∀ row ∈ rows, row.first ≤ row.last) →
      (weights register keyId rows = .ok shares ↔
        (∀ row ∈ rows, OneValueEachDay register keyId row.unitId row.first row.last) ∧
          shares = rows.map fun row => ((row.unitNumber, row.key),
            meanValue register keyId row.unitId row.first row.last * days row.first row.last))) ∧
      ∀ propertyId start last unitShares, start ≤ last →
        unitWeights register propertyId keyId start last = .ok unitShares →
          (∀ unit ∈ unitsOf register propertyId,
            OneValueEachDay register keyId unit.2 start last ∨ NoValue register keyId unit.2 start last) ∧
          ∀ share, share ∈ unitShares ↔ ∃ unit ∈ unitsOf register propertyId,
            OneValueEachDay register keyId unit.2 start last ∧
              share = { key := (unit.1.number, unit.2),
                        weight := contextRound (meanValue register keyId unit.2 start last) } := by
  constructor
  · intro rows shares proper
    exact weights_ok stored proper
  · intro propertyId start last unitShares ordered accepted
    exact unitWeights_values stored ordered accepted

/-- Two units, of which the first has a value of 50 from 2025 on. -/
def sampleValues : PropertyRegister where
  units := [⟨0, "01"⟩, ⟨0, "02"⟩]
  values := [{ unitId := 0, allocationKeyId := 0, value := 50, validFrom := .ofYmd 2025 1 1 }]

def sampleOccupant : Occupant := ⟨0, "01", some 0, .ofYmd 2025 1 1, .ofYmd 2025 1 31⟩

theorem sampleValues_weighed :
    weights sampleValues 0 [sampleOccupant] = .ok [(("01", .contract 0), meanValue sampleValues 0 0 (.ofYmd 2025 1 1)
      (.ofYmd 2025 1 31) * days (.ofYmd 2025 1 1) (.ofYmd 2025 1 31))] := by
  have stored : StoredValues sampleValues := by decide
  have proper : ∀ row ∈ [sampleOccupant], row.first ≤ row.last := by decide
  apply ((key_weights stored 0).1 [sampleOccupant] _ proper).mpr
  refine ⟨?_, rfl⟩
  intro row member
  apply (covered_eq_days_iff stored (proper row member)).mp
  rw [mem_singleton.mp member]
  decide

/-- Two values for the same two days, which the table refuses. -/
def doubledValues : PropertyRegister where
  units := [⟨0, "01"⟩]
  values := [{ unitId := 0, allocationKeyId := 0, value := 50, validFrom := .ofYmd 2025 1 1, validTo := some (.ofYmd 2025 1 2) },
    { unitId := 0, allocationKeyId := 0, value := 60, validFrom := .ofYmd 2025 1 1, validTo := some (.ofYmd 2025 1 2) }]

/-- A key is accepted although a unit has no value; the weight of an occupant is no mean; and where values overlap, days
without a value are made up for by days with two. -/
theorem weights_by_days :
    (unitWeights sampleValues (some 0) 0 (.ofYmd 2025 1 1) (.ofYmd 2025 1 31) = .ok [{ key := ("01", 0), weight := 50 }] ∧
        ¬ OneValueEachDay sampleValues 0 1 (.ofYmd 2025 1 1) (.ofYmd 2025 1 31)) ∧
      (weights sampleValues 0 [sampleOccupant] = .ok [(("01", .contract 0), 1550)] ∧
        meanValue sampleValues 0 0 (.ofYmd 2025 1 1) (.ofYmd 2025 1 31) = 50) ∧
      (weights doubledValues 0 [⟨0, "01", some 0, .ofYmd 2025 1 1, .ofYmd 2025 1 4⟩] = .ok [(("01", .contract 0), 220)] ∧
        ¬ OneValueEachDay doubledValues 0 0 (.ofYmd 2025 1 1) (.ofYmd 2025 1 4)) := by
  refine ⟨⟨by decide +kernel, ?_⟩, ⟨by decide +kernel, by decide +kernel⟩, by decide +kernel, ?_⟩
  · intro each
    obtain ⟨value, isValue⟩ := each (.ofYmd 2025 1 1) (by decide) (by decide)
    cases isValue
  · intro each
    obtain ⟨value, isValue⟩ := each (.ofYmd 2025 1 4) (by decide) (by decide)
    cases isValue

end Mhvp.Billing
