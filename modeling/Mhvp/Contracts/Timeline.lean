import Mhvp.Contracts.Services

namespace Mhvp.Contracts

open Core Accounting Lib Lib.Calendar Lib.Validity List
open Hoa (AllocationKeyId)

variable {Key Content : Type} [DecidableEq Key]

/-- The contracts of the unit and kind that are valid on the day. -/
def versionOn (rows : ContractRows) (unitId : UnitId) (kind : ContractKind) (day : Date) : List ContractId :=
  (rows.contracts.zipIdx.filter fun row => Standing Contract.group Contract.period (unitId, kind) day row.1).map Prod.snd

def heldOnUnit (rows : ContractRows) (held : List (Held ContractId Key Content)) (unitId : UnitId) (kind : ContractKind)
    (key : Key) (day : Date) : List Content :=
  (versionOn rows unitId kind day).flatMap fun contractId => Held.contents held contractId key day

/-- Allocation values found through all versions of a contract number. -/
def valuesOfNumber (rows : ContractRows) (number : ℕ) (key : AllocationKeyId) (day : Date) : List Decimal :=
  (rows.contracts.zipIdx.filter fun row => row.1.number = number).flatMap fun row =>
    Held.contents rows.allocationValues row.2 key day

def ValidVersion (rows : ContractRows) (unitId : UnitId) (kind : ContractKind) (day : Date) (contractId : ContractId) :
    Prop :=
  ∃ contract, rows.contracts[contractId]? = some contract ∧
    Standing Contract.group Contract.period (unitId, kind) day contract

theorem mem_versionOn :
    contractId ∈ versionOn rows unitId kind day ↔ ValidVersion rows unitId kind day contractId := by
  simp only [versionOn, mem_map, mem_filter, decide_eq_true_eq, ValidVersion]
  constructor
  · rintro ⟨row, ⟨member, stands⟩, rfl⟩
    exact ⟨row.1, mem_zipIdx_iff_getElem?.mp member, stands⟩
  · rintro ⟨contract, found, stands⟩
    exact ⟨(contract, contractId), ⟨mk_mem_zipIdx_iff_getElem?.mpr found, stands⟩, rfl⟩

theorem mem_heldOnUnit {rows : ContractRows} {held : List (Held ContractId Key Content)} :
    content ∈ heldOnUnit rows held unitId kind key day ↔
      ∃ contractId, ValidVersion rows unitId kind day contractId ∧ Held.On held contractId key day content := by
  simp only [heldOnUnit, mem_flatMap, mem_versionOn, Held.mem_contents]

theorem versionOn_le_one (holds : Constraints rows) (unitId : UnitId) (kind : ContractKind)
    (day : Date) : (versionOn rows unitId kind day).length ≤ 1 := by
  rw [versionOn, length_map]
  apply Table.filter_length_le_one
  intro first second row other found foundOther stands standsOther
  rw [List.getElem?_zipIdx, Option.map_eq_some_iff] at found foundOther
  obtain ⟨contract, found, rfl⟩ := found
  obtain ⟨otherContract, foundOther, rfl⟩ := foundOther
  exact holds.periods.same_place found foundOther (of_decide_eq_true stands) (of_decide_eq_true standsOther)

theorem heldOnUnit_le_one (holds : Constraints rows)
    (rowsApart : HeldByContracts rows.contracts held) (unitId : UnitId) (kind : ContractKind) (key : Key)
    (day : Date) : (heldOnUnit rows held unitId kind key day).length ≤ 1 := by
  have once := versionOn_le_one holds unitId kind day
  unfold heldOnUnit
  cases versions : versionOn rows unitId kind day with
  | nil => simp
  | cons contractId rest =>
    rw [versions] at once
    obtain rfl : rest = [] := length_eq_zero_iff.mp (by simpa using once)
    rw [flatMap_singleton]
    exact Held.contents_le_one rowsApart.1 contractId key day

/-- A contract is ended on the day before, and a new row of its unit goes on with what is left of its period. -/
structure Succeeds (before after : ContractRows) (old new : ContractId) (day : Date) : Prop where
  last : new = before.contracts.length
  rows : ∃ held next, before.contracts[old]? = some held ∧ next.group = held.group ∧ next.startDate = day ∧
    next.endDate = held.endDate ∧ held.startDate < day ∧ Within held.endDate day ∧
    after.contracts = before.contracts.set old { held with endDate := some day.dayBefore } ++ [next]

variable {before after : ContractRows} {old new : ContractId} {day : Date}

section

variable (succeeds : Succeeds before after old new day)
include succeeds

theorem Succeeds.valid_iff :
    ValidVersion after unitId kind on contractId ↔
      (contractId = new ∧ day ≤ on ∧ ValidVersion before unitId kind on old) ∨
        ((contractId = old → on < day) ∧ ValidVersion before unitId kind on contractId) := by
  obtain ⟨held, next, found, sameGroup, starts, ends, began, reaches, contracts⟩ := succeeds.rows
  have inside := Table.found_lt found
  have endedCovers : Period.Covers ⟨held.startDate, some day.dayBefore⟩ on ↔ on ≤ day.dayBefore ∧ held.period.Covers on :=
    @Period.covers_ended held.period _ _ (reaches.mono (Nat.sub_le _ _))
  have restCovers : next.period.Covers on ↔ day ≤ on ∧ held.period.Covers on := by
    rw [Contract.period, starts, ends]
    exact @Period.covers_rest held.period _ _ began.le
  constructor
  · rintro ⟨contract, foundAfter, isGroup, covers⟩
    rw [contracts] at foundAfter
    rcases Table.found_append_one.mp foundAfter with kept | ⟨isLast, rfl⟩
    · right
      rcases (Table.found_set found).mp kept with ⟨rfl, rfl⟩ | ⟨differs, kept⟩
      · obtain ⟨early, before⟩ := endedCovers.mp covers
        exact ⟨fun _ => Period.lt_of_le_dayBefore began early, held, found, isGroup, before⟩
      · exact ⟨fun same => absurd same differs, contract, kept, isGroup, covers⟩
    · left
      rw [length_set, ← succeeds.last] at isLast
      obtain ⟨late, before⟩ := restCovers.mp covers
      exact ⟨isLast, late, held, found, sameGroup.symm.trans isGroup, before⟩
  · rintro (⟨rfl, late, contract, foundOld, isGroup, covers⟩ | ⟨early, contract, foundBefore, isGroup, covers⟩)
    · obtain rfl : held = contract := Option.mem_unique found foundOld
      refine ⟨next, ?_, sameGroup.trans isGroup, restCovers.mpr ⟨late, covers⟩⟩
      rw [contracts]
      apply Table.found_append_one.mpr
      exact Or.inr ⟨by rw [length_set, succeeds.last], rfl⟩
    · by_cases isOld : contractId = old
      · subst isOld
        obtain rfl : held = contract := Option.mem_unique found foundBefore
        refine ⟨{ held with endDate := some day.dayBefore }, ?_, isGroup, endedCovers.mpr ?_⟩
        · rw [contracts]
          apply Table.found_append
          exact (Table.found_set found).mpr (Or.inl ⟨rfl, rfl⟩)
        · exact ⟨Period.le_dayBefore (early rfl), covers⟩
      · refine ⟨contract, ?_, isGroup, covers⟩
        rw [contracts]
        apply Table.found_append
        exact (Table.found_set found).mpr (Or.inr ⟨isOld, foundBefore⟩)

/-- What is found on a unit afterwards: what its contract held, for the contract that was succeeded what was carried
over from the day on. -/
theorem Succeeds.on_unit {held heldAfter : List (Held ContractId Key Content)} {Carried : Prop}
    (kept : ∀ contractId, contractId ≠ new → (contractId = old → on < day) →
      (Held.On heldAfter contractId key on content ↔ Held.On held contractId key on content))
    (late : day ≤ on → (Held.On heldAfter new key on content ↔ Carried)) :
    content ∈ heldOnUnit after heldAfter unitId kind key on ↔
      ∃ contractId, ValidVersion before unitId kind on contractId ∧
        ((contractId = old ∧ day ≤ on ∧ Carried) ∨
          (contractId = old → on < day) ∧ Held.On held contractId key on content) := by
  have notNew {contractId : ContractId} (valid : ValidVersion before unitId kind on contractId) : contractId ≠ new := by
    obtain ⟨contract, found, -⟩ := valid
    rw [succeeds.last]
    exact Nat.ne_of_lt (Table.found_lt found)
  rw [mem_heldOnUnit]
  constructor
  · rintro ⟨contractId, valid, holds⟩
    rcases succeeds.valid_iff.mp valid with ⟨rfl, after, valid⟩ | ⟨early, valid⟩
    · exact ⟨old, valid, Or.inl ⟨rfl, after, (late after).mp holds⟩⟩
    · exact ⟨contractId, valid, Or.inr ⟨early, (kept contractId (notNew valid) early).mp holds⟩⟩
  · rintro ⟨contractId, valid, ⟨rfl, after, carried⟩ | ⟨early, holds⟩⟩
    · exact ⟨new, succeeds.valid_iff.mpr (Or.inl ⟨rfl, after, valid⟩), (late after).mpr carried⟩
    · exact ⟨contractId, succeeds.valid_iff.mpr (Or.inr ⟨early, valid⟩),
        (kept contractId (notNew valid) early).mpr holds⟩

/-- When everything the contract held from the day on is carried over, the same is found on every day. -/
theorem Succeeds.same_on_unit (holds : Constraints before)
    (holdsAfter : Constraints after) {held heldAfter : List (Held ContractId Key Content)}
    (heldBy : HeldByContracts before.contracts held) (heldByAfter : HeldByContracts after.contracts heldAfter)
    (kept : ∀ contractId content, contractId ≠ new → (contractId = old → on < day) →
      (Held.On heldAfter contractId key on content ↔ Held.On held contractId key on content))
    (late : ∀ content, day ≤ on → (Held.On heldAfter new key on content ↔ Held.On held old key on content)) :
    heldOnUnit after heldAfter unitId kind key on = heldOnUnit before held unitId kind key on := by
  apply eq_of_mem_iff (heldOnUnit_le_one holdsAfter heldByAfter unitId kind key on)
    (heldOnUnit_le_one holds heldBy unitId kind key on)
  intro content
  rw [succeeds.on_unit (fun contractId => kept contractId content) (late content), mem_heldOnUnit]
  constructor
  · rintro ⟨contractId, valid, ⟨rfl, -, holds⟩ | ⟨-, holds⟩⟩
    · exact ⟨contractId, valid, holds⟩
    · exact ⟨contractId, valid, holds⟩
  · rintro ⟨contractId, valid, holds⟩
    by_cases fromOld : contractId = old ∧ day ≤ on
    · exact ⟨contractId, valid, Or.inl ⟨fromOld.1, fromOld.2, fromOld.1 ▸ holds⟩⟩
    · have early : contractId = old → on < day := fun same => not_le.mp fun after => fromOld ⟨same, after⟩
      exact ⟨contractId, valid, Or.inr ⟨early, holds⟩⟩

end

/-- What a new version wrote. -/
structure Versioned (before after : ContractRows) (contractId : ContractId) (day : Date) : Prop where
  succeeds : Succeeds before after contractId before.contracts.length day
  payments : after.payments = Held.moveFrom contractId before.contracts.length day before.payments
  schedules : after.schedules = Held.moveFrom contractId before.contracts.length day before.schedules
  allocationValues : after.allocationValues = before.allocationValues
  numbers : ∃ number, after.contracts.map Contract.number = before.contracts.map Contract.number ++ [number]

/-- After a new version the unit has the same payments and schedules on every day, and its contract number the same
allocation values. -/
structure VersionKept (before after : ContractRows) : Prop where
  payments : ∀ unitId kind code day,
    heldOnUnit after after.payments unitId kind code day = heldOnUnit before before.payments unitId kind code day
  schedules : ∀ unitId kind day,
    heldOnUnit after after.schedules unitId kind () day = heldOnUnit before before.schedules unitId kind () day
  allocationValues : ∀ number key day, valuesOfNumber after number key day = valuesOfNumber before number key day
  oneVersion : ∀ unitId kind day, (versionOn after unitId kind day).length ≤ 1

omit [DecidableEq Key] in
theorem HeldByContracts.no_new {rows : ContractRows} {held : List (Held ContractId Key Content)}
    (heldBy : HeldByContracts rows.contracts held) : ∀ row ∈ held, row.owner ≠ rows.contracts.length :=
  fun row member => Nat.ne_of_lt (heldBy.2 row member)

theorem Succeeds.moved_on_unit (succeeds : Succeeds before after old new day) (holds : Constraints before)
    (holdsAfter : Constraints after) {held : List (Held ContractId Key Content)}
    (heldBy : HeldByContracts before.contracts held)
    (heldByAfter : HeldByContracts after.contracts (Held.moveFrom old new day held)) :
    heldOnUnit after (Held.moveFrom old new day held) unitId kind key on = heldOnUnit before held unitId kind key on := by
  apply succeeds.same_on_unit holds holdsAfter heldBy heldByAfter
  · intro contractId content notNew early
    apply Held.moveFrom_kept notNew
    by_cases same : contractId = old
    · exact Or.inl (early same)
    · exact Or.inr same
  · intro content late
    apply Held.moveFrom_from _ late
    rw [succeeds.last]
    exact heldBy.no_new

theorem valuesOfNumber_append (added : List ℕ)
    (numbers : later.contracts.map Contract.number = rows.contracts.map Contract.number ++ added)
    (values : later.allocationValues = rows.allocationValues)
    (heldBy : HeldByContracts rows.contracts rows.allocationValues) :
    valuesOfNumber later number key day = valuesOfNumber rows number key day := by
  have byNumbers (some : ContractRows) : valuesOfNumber some number key day =
      ((some.contracts.map Contract.number).zipIdx.filter fun row => row.1 = number).flatMap fun row =>
        Held.contents some.allocationValues row.2 key day := by
    rw [valuesOfNumber, zipIdx_map, filter_map, flatMap_map]
    rfl
  rw [byNumbers later, byNumbers rows, numbers, values, zipIdx_append, filter_append, flatMap_append]
  have none : ((added.zipIdx (0 + (rows.contracts.map Contract.number).length)).filter fun row =>
      row.1 = number).flatMap (fun row => Held.contents rows.allocationValues row.2 key day) = [] := by
    apply flatMap_eq_nil_iff.mpr
    intro row member
    have beyond := le_snd_of_mem_zipIdx (mem_of_mem_filter member)
    apply eq_nil_iff_forall_not_mem.mpr
    intro content isContent
    obtain ⟨held, isHeld, stands⟩ := Held.mem_contents.mp isContent
    have inside := heldBy.2 held isHeld
    rw [stands.owner] at inside
    rw [length_map, Nat.zero_add] at beyond
    exact absurd inside (not_lt.mpr beyond)
  rw [none, append_nil]

theorem Versioned.kept {before after : ContractTables}
    (versioned : Versioned before.toContractRows after.toContractRows contractId day) :
    VersionKept before.toContractRows after.toContractRows where
  payments := by
    intro unitId kind code on
    have heldBy := after.constraints.payments
    rw [versioned.payments] at heldBy ⊢
    exact versioned.succeeds.moved_on_unit before.constraints after.constraints before.constraints.payments heldBy
  schedules := by
    intro unitId kind on
    have heldBy := after.constraints.schedules
    rw [versioned.schedules] at heldBy ⊢
    exact versioned.succeeds.moved_on_unit before.constraints after.constraints before.constraints.schedules heldBy
  allocationValues := by
    intro number key on
    obtain ⟨added, numbers⟩ := versioned.numbers
    exact valuesOfNumber_append [added] numbers versioned.allocationValues before.constraints.allocationValues
  oneVersion := versionOn_le_one after.constraints

/-- Rows after a change of the owner: ended on the day before, and those that cover the day continued. -/
def carriedOver (end' : Held ContractId Key Content → Held ContractId Key Content) (old new : ContractId) (day : Date)
    (held : List (Held ContractId Key Content)) : List (Held ContractId Key Content) :=
  held.map end' ++ (standingOn old day held).map (Held.continued new day)

/-- What a change of the owner with its amounts carried over wrote. -/
structure Transferred (before after : ContractRows) (contractId : ContractId) (day : Date) : Prop where
  succeeds : Succeeds before after contractId before.contracts.length day
  noLaterPayments : ∀ row ∈ before.payments, row.owner = contractId → row.validFrom ≤ day.dayBefore
  noLaterSchedules : ∀ row ∈ before.schedules, row.owner = contractId → row.validFrom ≤ day.dayBefore
  payments : after.payments =
    carriedOver (Held.endAt contractId day.dayBefore) contractId before.contracts.length day before.payments
  schedules : after.schedules =
    carriedOver (Held.endAt contractId day.dayBefore) contractId before.contracts.length day before.schedules
  allocationValues : after.allocationValues =
    carriedOver (closeAllocationValue contractId day.dayBefore) contractId before.contracts.length day
      before.allocationValues

omit [DecidableEq Key] in
theorem continued_at :
    (Held.continued new day row).At new key on content ↔
      row.key = key ∧ day ≤ on ∧ Within row.validTo on ∧ row.content = content := by
  constructor
  · exact fun stands => ⟨stands.key, stands.covers.1, stands.covers.2, stands.content⟩
  · exact fun ⟨isKey, late, reaches, isContent⟩ => ⟨rfl, isKey, ⟨late, reaches⟩, isContent⟩

variable {end' : Held ContractId Key Content → Held ContractId Key Content} {held : List (Held ContractId Key Content)}

omit [DecidableEq Key] in
theorem carriedOver_kept
    (ends : ∀ row ∈ held, (end' row).At contractId key on content ↔ row.At contractId key on content)
    (notNew : contractId ≠ new) :
    Held.On (carriedOver end' old new day held) contractId key on content ↔ Held.On held contractId key on content := by
  rw [carriedOver, Held.on_append, Held.on_map ends]
  constructor
  · rintro (kept | ⟨_, member, stands⟩)
    · exact kept
    · obtain ⟨row, -, rfl⟩ := mem_map.mp member
      exact absurd stands.owner (Ne.symm notNew)
  · exact Or.inl

omit [DecidableEq Key] in
theorem carriedOver_from (ends : ∀ row, (end' row).owner = row.owner) (noNew : ∀ row ∈ held, row.owner ≠ new)
    (late : day ≤ on) :
    Held.On (carriedOver end' old new day held) new key on content ↔
      ∃ row ∈ held, row.At old key on content ∧ row.validFrom ≤ day := by
  rw [carriedOver, Held.on_append]
  constructor
  · rintro (⟨_, member, stands⟩ | ⟨_, member, stands⟩)
    · obtain ⟨row, isRow, rfl⟩ := mem_map.mp member
      exact absurd ((ends row).symm.trans stands.owner) (noNew row isRow)
    · obtain ⟨row, isRow, rfl⟩ := mem_map.mp member
      rw [standingOn, mem_filter, decide_eq_true_eq] at isRow
      obtain ⟨isRow, isOwner, covers⟩ := isRow
      obtain ⟨isKey, -, reaches, isContent⟩ := continued_at.mp stands
      exact ⟨row, isRow, ⟨isOwner, isKey, ⟨covers.1.trans late, reaches⟩, isContent⟩, covers.1⟩
  · rintro ⟨row, isRow, stands, begun⟩
    right
    have stood : row ∈ standingOn old day held :=
      mem_filter.mpr ⟨isRow, decide_eq_true ⟨stands.owner, begun, stands.covers.2.mono late⟩⟩
    exact ⟨_, mem_map_of_mem stood,
      continued_at.mpr ⟨stands.key, late, stands.covers.2, stands.content⟩⟩

omit [DecidableEq Key] in
theorem endAt_owner (row : Held ContractId Key Content) : (Held.endAt old last row).owner = row.owner := by
  unfold Held.endAt
  split
  · rfl
  · rfl

theorem closeAllocationValue_owner (row : ContractAllocationValue) :
    (closeAllocationValue old last row).owner = row.owner := by
  unfold closeAllocationValue
  split
  · exact endAt_owner row
  · rfl

theorem closeAllocationValue_at (kept : on ≤ last ∨ contractId ≠ old) :
    (closeAllocationValue old last row).At contractId key on content ↔ row.At contractId key on content := by
  unfold closeAllocationValue
  split
  · exact Held.endAt_at kept
  · exact Iff.rfl

theorem before_or_other (early : contractId = old → on < day) :
    on ≤ day.dayBefore ∨ contractId ≠ old := by
  by_cases same : contractId = old
  · exact Or.inl (Period.le_dayBefore (early same))
  · exact Or.inr same

/-- After a change of the owner with the amounts carried over, the unit has the same payments and schedules on every
day, and the same allocation values but for those that begin after the day: these stay with the old contract. -/
structure TransferKept (before after : ContractRows) (old : ContractId) (day : Date) : Prop where
  payments : ∀ unitId kind code on,
    heldOnUnit after after.payments unitId kind code on = heldOnUnit before before.payments unitId kind code on
  schedules : ∀ unitId kind on,
    heldOnUnit after after.schedules unitId kind () on = heldOnUnit before before.schedules unitId kind () on
  allocationValues : ∀ unitId kind key on value, value ∈ heldOnUnit after after.allocationValues unitId kind key on ↔
    ∃ contractId, ValidVersion before unitId kind on contractId ∧
      ∃ row ∈ before.allocationValues, row.At contractId key on value ∧ (contractId = old → row.validFrom ≤ day)
  oneVersion : ∀ unitId kind on, (versionOn after unitId kind on).length ≤ 1

theorem Succeeds.carried_on_unit (succeeds : Succeeds before after old new day) (holds : Constraints before)
    (holdsAfter : Constraints after) (heldBy : HeldByContracts before.contracts held)
    (noLater : ∀ row ∈ held, row.owner = old → row.validFrom ≤ day.dayBefore)
    (heldByAfter : HeldByContracts after.contracts (carriedOver (Held.endAt old day.dayBefore) old new day held)) :
    heldOnUnit after (carriedOver (Held.endAt old day.dayBefore) old new day held) unitId kind key on =
      heldOnUnit before held unitId kind key on := by
  apply succeeds.same_on_unit holds holdsAfter heldBy heldByAfter
  · intro contractId content notNew early
    exact carriedOver_kept (fun row _ => Held.endAt_at (before_or_other early)) notNew
  · intro content late
    rw [carriedOver_from endAt_owner (succeeds.last ▸ heldBy.no_new) late]
    constructor
    · rintro ⟨row, isRow, stands, -⟩
      exact ⟨row, isRow, stands⟩
    · rintro ⟨row, isRow, stands⟩
      exact ⟨row, isRow, stands, (noLater row isRow stands.owner).trans (Nat.sub_le _ _)⟩

theorem Transferred.values (transferred : Transferred before after old day)
    (heldBy : HeldByContracts before.contracts before.allocationValues) :
    value ∈ heldOnUnit after after.allocationValues unitId kind key on ↔
      ∃ contractId, ValidVersion before unitId kind on contractId ∧
        ∃ row ∈ before.allocationValues, row.At contractId key on value ∧ (contractId = old → row.validFrom ≤ day) := by
  rw [transferred.allocationValues, transferred.succeeds.on_unit
    (fun contractId notNew early => carriedOver_kept
      (fun row _ => closeAllocationValue_at (before_or_other early)) notNew)
    (fun late => carriedOver_from closeAllocationValue_owner heldBy.no_new late)]
  constructor
  · rintro ⟨contractId, valid, ⟨rfl, -, row, isRow, stands, begun⟩ | ⟨early, row, isRow, stands⟩⟩
    · exact ⟨contractId, valid, row, isRow, stands, fun _ => begun⟩
    · exact ⟨contractId, valid, row, isRow, stands, fun same => stands.covers.1.trans (early same).le⟩
  · rintro ⟨contractId, valid, row, isRow, stands, begun⟩
    by_cases fromOld : contractId = old ∧ day ≤ on
    · obtain ⟨rfl, late⟩ := fromOld
      exact ⟨contractId, valid, Or.inl ⟨rfl, late, row, isRow, stands, begun rfl⟩⟩
    · have early : contractId = old → on < day := fun same => not_le.mp fun late => fromOld ⟨same, late⟩
      exact ⟨contractId, valid, Or.inr ⟨early, row, isRow, stands⟩⟩

theorem Transferred.kept {before after : ContractTables}
    (transferred : Transferred before.toContractRows after.toContractRows old day) :
    TransferKept before.toContractRows after.toContractRows old day where
  payments := by
    intro unitId kind code on
    have heldBy := after.constraints.payments
    rw [transferred.payments] at heldBy ⊢
    exact transferred.succeeds.carried_on_unit before.constraints after.constraints before.constraints.payments
      transferred.noLaterPayments heldBy
  schedules := by
    intro unitId kind on
    have heldBy := after.constraints.schedules
    rw [transferred.schedules] at heldBy ⊢
    exact transferred.succeeds.carried_on_unit before.constraints after.constraints before.constraints.schedules
      transferred.noLaterSchedules heldBy
  allocationValues := fun _ _ _ _ _ => transferred.values before.constraints.allocationValues
  oneVersion := versionOn_le_one after.constraints

def sampleRows : ContractRows where
  properties := [{ managementType := .hoa, hoaEntityId := some 0 }]
  units := [0]
  parties := ["Eigentümer", "Erwerber"]
  nextNumber := 2
  contracts := [{
    kind := .ownership, unitId := 0, partyId := 0, legalEntityId := 0, number := 1
    startDate := .ofYmd 2025 1 1, titleTransferDate := some (.ofYmd 2025 1 1) }]
  payments := [{ owner := 0, key := "hoa_fee", content := { net := 300, gross := 300 }, validFrom := .ofYmd 2025 1 1 }]
  schedules := [{ owner := 0, key := (), content := { interval := .quarterly, dueDay := 3 }, validFrom := .ofYmd 2025 1 1 }]
  allocationValues := [{ owner := 0, key := 0, content := 2, validFrom := .ofYmd 2025 1 1 }]

end Mhvp.Contracts
