import Mhvp.Accounting.AdminFees
import Mhvp.Contracts.Services
import Mhvp.Hoa.PlanSums

/-! The tenancies of the units in the period of a statement, and the vacancies between them. -/

namespace Mhvp.Billing

open Core Contracts Lib.Calendar Lib.Validity List
open Accounting (Ledger LedgerId PropertyId UnitId ContractId)
open Hoa (PropertyRegister UnitRow unitsOf unitsOf_unique overlap)
open Accounting.AdminFees (LegalEntity)

/-- A statement with the books and the property it is made for. -/
structure PropertyStatement extends Statement where
  propertyId : PropertyId
  ledgerId : LedgerId

inductive OccupantKey
  | vacancy (unitId : UnitId) (first : Date)
  | contract (contractId : ContractId)
  deriving DecidableEq

/-- Who has a unit on the days from the first to the last: a contract, or nobody. -/
structure Occupant where
  unitId : UnitId
  unitNumber : String
  contractId : Option ContractId
  first : Date
  last : Date

namespace Occupant

def key (row : Occupant) : OccupantKey :=
  match row.contractId with
  | some contractId => .contract contractId
  | none => .vacancy row.unitId row.first

def Covers (row : Occupant) (day : Date) : Prop := row.first ≤ day ∧ day ≤ row.last

instance : DecidableRel Covers := fun _ _ => by unfold Covers; infer_instance

end Occupant

/-- `date.max` -/
def maxDay : Date := .ofYmd 9999 12 31

/-- `day + timedelta(days=1)`, an error after the last day of the calendar. -/
def dayAfter (day : Date) : Result Date :=
  orRefuse (if day < maxDay then some (day.addDays 1) else none) .internal

def legalEntity (ledgers : List Ledger) (entities : List LegalEntity) (statement : PropertyStatement) :
    Result LegalEntity :=
  orRefuse (ledgers[statement.ledgerId]?.bind fun ledger => entities[ledger.legalEntityId]?) .resourceNotFound

/-- Units a party owned on a day of the period. -/
def owned (contracts : List Contract) (party : Option PartyId) (statement : PropertyStatement) : List UnitId :=
  (contracts.filter fun contract =>
    contract.kind = .ownership ∧ some contract.partyId = party ∧ contract.startDate ≤ statement.periodTo ∧
      Within contract.endDate statement.periodFrom).map Contract.unitId

/-- The units of the property by their number; of an individual owner those that the owner held. -/
def statementUnits (register : PropertyRegister) (contracts : List Contract) (entity : LegalEntity)
    (statement : PropertyStatement) : List (UnitRow × UnitId) :=
  let units := unitsOf register (some statement.propertyId)
  if entity.kind = .sevOwner then units.filter fun unit => unit.2 ∈ owned contracts entity.partyId statement else units

/-- Tenancies of the unit by their start. -/
def leasesOf (contracts : List Contract) (unitId : UnitId) : List (Contract × ContractId) :=
  (contracts.zipIdx.filter fun contract => contract.1.unitId = unitId ∧ contract.1.kind = .tenancy).insertionSort
    fun first second => first.1.startDate ≤ second.1.startDate

def vacancy (unit : UnitRow × UnitId) (first last : Date) : Occupant where
  unitId := unit.2
  unitNumber := unit.1.number
  contractId := none
  first
  last

def tenancy (unit : UnitRow × UnitId) (contractId : ContractId) (span : Date × Date) : Occupant where
  unitId := unit.2
  unitNumber := unit.1.number
  contractId := some contractId
  first := span.1
  last := span.2

/-- The spans of one unit from the cursor on. -/
def unitOccupants (statement : PropertyStatement) (unit : UnitRow × UnitId) (cursor : Date) :
    List (Contract × ContractId) → Result (List Occupant)
  | [] => pure (if cursor ≤ statement.periodTo then [vacancy unit cursor statement.periodTo] else [])
  | lease :: rest =>
    match overlap statement.periodFrom statement.periodTo lease.1.startDate lease.1.endDate with
    | none => unitOccupants statement unit cursor rest
    | some span => do
        let next ← dayAfter span.2
        let later ← unitOccupants statement unit next rest
        pure ((if cursor < span.1 then [vacancy unit cursor span.1.dayBefore] else []) ++
          tenancy unit lease.2 span :: later)

/-- `occupants` -/
def occupants (ledgers : List Ledger) (entities : List LegalEntity) (register : PropertyRegister)
    (contracts : List Contract) (statement : PropertyStatement) : Result (List Occupant) := do
  let entity ← legalEntity ledgers entities statement
  let rows ← (statementUnits register contracts entity statement).mapM fun unit =>
    unitOccupants statement unit statement.periodFrom (leasesOf contracts unit.2)
  pure rows.flatten

/-- The rows cover every day from the first to the last once, and no other day. -/
structure Tiles (rows : List Occupant) (start last : Date) : Prop where
  inside : ∀ row ∈ rows, start ≤ row.first ∧ row.first ≤ row.last ∧ row.last ≤ last
  disjoint : rows.Pairwise fun first second => ∀ day, ¬ (first.Covers day ∧ second.Covers day)
  once : ∀ day, start ≤ day → day ≤ last → (rows.filter fun row => row.Covers day).length = 1

variable {rows later : List Occupant} {start stop next last cursor day : Date}
  {statement : PropertyStatement} {unit : UnitRow × UnitId} {span : Date × Date} {lease : Contract × ContractId}
  {leases : List (Contract × ContractId)} {contracts : List Contract}

theorem Tiles.empty (past : last < start) : Tiles [] start last where
  inside := fun _ member => nomatch member
  disjoint := List.Pairwise.nil
  once := fun _ after before => absurd (after.trans before) (not_le.mpr past)

theorem Tiles.cons (row : Occupant) (tiles : Tiles later next last) (isNext : next.ordinal = row.last.ordinal + 1)
    (proper : row.first ≤ row.last) (within' : row.last ≤ last) : Tiles (row :: later) row.first last := by
  have after : row.last < next := by
    rw [Date.lt_def, isNext]
    exact Nat.lt_succ_self _
  have apart : ∀ other ∈ later, ∀ day, ¬ (row.Covers day ∧ other.Covers day) := by
    intro other member day covers
    have begins := (tiles.inside other member).1
    exact absurd (begins.trans (covers.2.1.trans covers.1.2)) (not_le.mpr after)
  constructor
  · intro other member
    rcases mem_cons.mp member with rfl | isLater
    · exact ⟨le_refl _, proper, within'⟩
    · obtain ⟨begins, ordered, ends⟩ := tiles.inside other isLater
      exact ⟨proper.trans (after.le.trans begins), ordered, ends⟩
  · exact pairwise_cons.mpr ⟨fun other member => apart other member, tiles.disjoint⟩
  · intro day starts ends
    by_cases covers : day ≤ row.last
    · have notLater : (later.filter fun other => other.Covers day) = [] := by
        apply filter_eq_nil_iff.mpr
        intro other member isCovered
        exact apart other member day ⟨⟨starts, covers⟩, of_decide_eq_true isCovered⟩
      have isCovered : row.Covers day := ⟨starts, covers⟩
      rw [filter_cons_of_pos (by simpa using isCovered), notLater]
      rfl
    · have fromNext : next ≤ day := by
        rw [not_le, Date.lt_def] at covers
        rw [Date.le_def, isNext]
        exact covers
      rw [filter_cons_of_neg (by simp [Occupant.Covers, covers])]
      exact tiles.once day fromNext ends

theorem dayAfter_ok : dayAfter day = .ok next ↔ day < maxDay ∧ next = day.addDays 1 := by
  unfold dayAfter
  rw [orRefuse_ok]
  by_cases before : day < maxDay
  · rw [if_pos before, Option.some_inj]
    exact ⟨fun same => ⟨before, same.symm⟩, fun found => found.2.symm⟩
  · rw [if_neg before]
    constructor
    · intro found
      cases found
    · intro found
      exact absurd found.1 before

section

variable (isSpan : overlap start last validFrom validTo = some span)
include isSpan

theorem overlap_some :
    span.1 = max start validFrom ∧ span.1 ≤ span.2 ∧ span.2 ≤ last ∧ Within validTo span.2 ∧
      (span.2 = last ∨ validTo = some span.2) := by
  unfold overlap at isSpan
  dsimp only at isSpan
  split at isSpan
  · rename_i ordered
    cases isSpan
    refine ⟨rfl, ordered, min_le_left _ _, ?_, ?_⟩
    · intro stop isStop
      rw [Option.mem_def.mp isStop]
      exact min_le_right _ _
    · cases validTo with
      | none => exact .inl (min_self last)
      | some stop =>
        rcases le_total last stop with long | short
        · exact .inl (min_eq_left long)
        · exact .inr (congrArg some (min_eq_right short).symm)
  · cases isSpan

theorem overlap_covers (after : span.1 ≤ day) (before : day ≤ span.2) : Period.Covers ⟨validFrom, validTo⟩ day := by
  obtain ⟨isFirst, -, -, reaches, -⟩ := overlap_some isSpan
  rw [isFirst] at after
  exact ⟨(le_max_right _ _).trans after, reaches.mono before⟩

end

def Apart (first second : Contract × ContractId) : Prop :=
  ∀ day, ¬ (first.1.period.Covers day ∧ second.1.period.Covers day)

/-- The lease has no day in the period before the cursor. -/
def From (statement : PropertyStatement) (cursor : Date) (lease : Contract × ContractId) : Prop :=
  ∀ span, overlap statement.periodFrom statement.periodTo lease.1.startDate lease.1.endDate = some span → cursor ≤ span.1

/-- A lease that starts no earlier than another and shares no day with it is later in the period. -/
theorem from_next
    (isSpan : overlap statement.periodFrom statement.periodTo lease.1.startDate lease.1.endDate = some span)
    (starts : lease.1.startDate ≤ other.1.startDate) (apart : Apart lease other)
    (isNext : next.ordinal = span.2.ordinal + 1) : From statement next other := by
  intro otherSpan isOther
  obtain ⟨isFirst, ordered, -, reaches, ends⟩ := overlap_some isSpan
  obtain ⟨isOtherFirst, otherOrdered, inPeriod, otherReaches, -⟩ := overlap_some isOther
  rw [Date.le_def, isNext]
  apply Nat.succ_le_of_lt
  apply Date.lt_def.mp
  by_contra early
  rw [not_lt] at early
  -- the first day of the other lease in the period would be a day of both
  refine apart otherSpan.1 ⟨?_, overlap_covers isOther (le_refl _) otherOrdered⟩
  apply overlap_covers isSpan _ early
  rw [isFirst, isOtherFirst]
  exact max_le_max (le_refl _) starts

section

variable (isRows : unitOccupants statement unit cursor leases = .ok rows)
include isRows

theorem unitOccupants_tiles (sorted : leases.Pairwise fun first second => first.1.startDate ≤ second.1.startDate) (apart : leases.Pairwise Apart)
    (later : ∀ lease ∈ leases, From statement cursor lease) : Tiles rows cursor statement.periodTo := by
  induction leases generalizing cursor rows with
  | nil =>
    cases isRows
    by_cases rest : cursor ≤ statement.periodTo
    · rw [if_pos rest]
      have nothing : Tiles [] (statement.periodTo.addDays 1) statement.periodTo := .empty (Date.lt_addDays_one _)
      exact nothing.cons (vacancy unit cursor statement.periodTo) rfl rest (le_refl _)
    · rw [if_neg rest]
      exact .empty (not_le.mp rest)
  | cons lease rest ih =>
    obtain ⟨starts, restSorted⟩ := pairwise_cons.mp sorted
    obtain ⟨leaseApart, restApart⟩ := pairwise_cons.mp apart
    unfold unitOccupants at isRows
    cases isSpan : overlap statement.periodFrom statement.periodTo lease.1.startDate lease.1.endDate with
    | none =>
      rw [isSpan] at isRows
      exact ih isRows restSorted restApart fun other member => later other (mem_cons_of_mem _ member)
    | some span =>
      rw [isSpan] at isRows
      simp only [bind_ok, pure_ok] at isRows
      obtain ⟨next, isNext, more, isMore, rfl⟩ := isRows
      obtain ⟨-, rfl⟩ := dayAfter_ok.mp isNext
      obtain ⟨-, ordered, inPeriod, -, -⟩ := overlap_some isSpan
      have tiles := ih isMore restSorted restApart fun other member =>
        from_next isSpan (starts other member) (leaseApart other member) rfl
      have fromSpan : Tiles (tenancy unit lease.2 span :: more) span.1 statement.periodTo :=
        tiles.cons (tenancy unit lease.2 span) rfl ordered inPeriod
      have notBefore := later lease mem_cons_self span isSpan
      by_cases gap : cursor < span.1
      · rw [if_pos gap]
        apply fromSpan.cons (vacancy unit cursor span.1.dayBefore)
        · exact (Nat.succ_pred_eq_of_pos (Nat.zero_lt_of_lt (Date.lt_def.mp gap))).symm
        · exact Period.le_dayBefore gap
        · exact (Nat.sub_le _ _ : span.1.dayBefore ≤ span.1).trans (ordered.trans inPeriod)
      · rw [if_neg gap, le_antisymm notBefore (not_lt.mp gap)]
        exact fromSpan

theorem unitOccupants_unit :
    ∀ row ∈ rows, row.unitId = unit.2 := by
  induction leases generalizing cursor rows with
  | nil =>
    cases isRows
    intro row member
    split at member
    · rw [mem_singleton.mp member]
      rfl
    · cases member
  | cons lease rest ih =>
    unfold unitOccupants at isRows
    split at isRows
    · exact ih isRows
    · simp only [bind_ok, pure_ok] at isRows
      obtain ⟨next, -, more, isMore, rfl⟩ := isRows
      intro row member
      rcases mem_append.mp member with before | after
      · split at before
        · rw [mem_singleton.mp before]
          rfl
        · cases before
      · rcases mem_cons.mp after with rfl | isLater
        · rfl
        · exact ih isMore row isLater

end

theorem unitOccupants_total (before : statement.periodTo < maxDay) (unit : UnitRow × UnitId) (cursor : Date)
    (leases : List (Contract × ContractId)) : ∃ rows, unitOccupants statement unit cursor leases = .ok rows := by
  induction leases generalizing cursor with
  | nil => exact ⟨_, rfl⟩
  | cons lease rest ih =>
    unfold unitOccupants
    cases isSpan : overlap statement.periodFrom statement.periodTo lease.1.startDate lease.1.endDate with
    | none => exact ih cursor
    | some span =>
      obtain ⟨-, -, inPeriod, -, -⟩ := overlap_some isSpan
      have isNext : dayAfter span.2 = .ok (span.2.addDays 1) := dayAfter_ok.mpr ⟨inPeriod.trans_lt before, rfl⟩
      obtain ⟨more, isMore⟩ := ih (span.2.addDays 1)
      exact ⟨_, bind_ok.mpr ⟨_, isNext, bind_ok.mpr ⟨more, isMore, rfl⟩⟩⟩

/-- Two contracts have no day in common if both are tenancies of the unit. -/
def ApartIn (unitId : UnitId) (first second : Contract) : Prop :=
  first.group = (unitId, ContractKind.tenancy) → second.group = (unitId, ContractKind.tenancy) →
    ∀ day, ¬ (first.period.Covers day ∧ second.period.Covers day)

def LeasesApart (contracts : List Contract) (unitId : UnitId) : Prop := contracts.Pairwise (ApartIn unitId)

theorem LeasesApart.of_exclusive (exclusive : Exclusive Contract.group Contract.period contracts) (unitId : UnitId) :
    LeasesApart contracts unitId := by
  apply exclusive.2.imp
  intro first second apart isFirst isSecond day covers
  exact apart (isFirst.trans isSecond.symm) (Period.overlaps_of_covers covers.1 covers.2)

theorem leasesOf_sorted (contracts : List Contract) (unitId : UnitId) :
    (leasesOf contracts unitId).Pairwise fun first second => first.1.startDate ≤ second.1.startDate := by
  have total : Std.Total fun first second : Contract × ContractId => first.1.startDate ≤ second.1.startDate :=
    ⟨fun first second => le_total _ _⟩
  have transitive : IsTrans (Contract × ContractId) fun first second => first.1.startDate ≤ second.1.startDate :=
    ⟨fun _ _ _ before after => le_trans before after⟩
  exact pairwise_insertionSort _ _

theorem LeasesApart.leasesOf (apart : LeasesApart contracts unitId) : (leasesOf contracts unitId).Pairwise Apart := by
  have inTable : contracts.zipIdx.Pairwise fun first second => ApartIn unitId first.1 second.1 := by
    have onRows : (contracts.zipIdx.map Prod.fst).Pairwise (ApartIn unitId) := by
      rw [zipIdx_map_fst]
      exact apart
    exact pairwise_map.mp onRows
  have selected : (contracts.zipIdx.filter fun contract =>
      contract.1.unitId = unitId ∧ contract.1.kind = ContractKind.tenancy).Pairwise Apart := by
    apply (inTable.filter _).imp_of_mem
    intro first second isFirst isSecond holds
    have ofUnit := of_decide_eq_true (mem_filter.mp isFirst).2
    have ofUnitToo := of_decide_eq_true (mem_filter.mp isSecond).2
    exact holds (Prod.ext ofUnit.1 ofUnit.2) (Prod.ext ofUnitToo.1 ofUnitToo.2)
  apply (perm_insertionSort _ _).symm.pairwise selected
  intro first second apart day covers
  exact apart day ⟨covers.2, covers.1⟩

theorem statementUnits_unique :
    ((statementUnits register contracts entity statement).map Prod.snd).Nodup := by
  have unique := unitsOf_unique register (some statement.propertyId)
  unfold statementUnits
  dsimp only
  split
  · exact unique.sublist (filter_sublist.map _)
  · exact unique

theorem filter_flatten (each : List.Forall₂ (fun unit part => unitOccupants statement unit statement.periodFrom
      (leasesOf contracts unit.2) = .ok part) units parts) (unique : (units.map Prod.snd).Nodup) :
    (∀ unit ∈ units, unitOccupants statement unit statement.periodFrom (leasesOf contracts unit.2) =
        .ok (parts.flatten.filter fun row => row.unitId = unit.2)) ∧
      ∀ row ∈ parts.flatten, row.unitId ∈ units.map Prod.snd := by
  induction each with
  | nil => exact ⟨fun _ member => (nomatch member), fun _ member => (nomatch member)⟩
  | @cons first part units parts isPart rest ih =>
    rw [map_cons, nodup_cons] at unique
    obtain ⟨ofUnits, inUnits⟩ := ih unique.2
    have own := unitOccupants_unit isPart
    constructor
    · intro unit member
      rw [flatten_cons, filter_append]
      rcases mem_cons.mp member with rfl | later
      · have none : (parts.flatten.filter fun row => row.unitId = unit.2) = [] := by
          apply filter_eq_nil_iff.mpr
          intro row isRow same
          exact unique.1 (of_decide_eq_true same ▸ inUnits row isRow)
        rw [none, append_nil, filter_eq_self.mpr fun row isRow => decide_eq_true (own row isRow)]
        exact isPart
      · have none : (part.filter fun row => row.unitId = unit.2) = [] := by
          apply filter_eq_nil_iff.mpr
          intro row isRow same
          rw [own row isRow] at same
          exact unique.1 (of_decide_eq_true same ▸ mem_map_of_mem later)
        rw [none, nil_append]
        exact ofUnits unit later
    · intro row member
      rw [flatten_cons] at member
      rw [map_cons]
      rcases mem_append.mp member with isOwn | later
      · rw [own row isOwn]
        exact mem_cons_self
      · exact mem_cons_of_mem _ (inUnits row later)

/-- The tenancies and vacancies of a statement: of every unit whose leases do not overlap the spans lie in the period and
cover each day of it once. -/
theorem occupants_cover_once {ledgers : List Ledger} {entities : List LegalEntity} {register : PropertyRegister}
    {entity : LegalEntity} (isEntity : legalEntity ledgers entities statement = .ok entity) :
    (statement.periodTo < maxDay → ∃ rows, occupants ledgers entities register contracts statement = .ok rows) ∧
      ∀ rows, occupants ledgers entities register contracts statement = .ok rows →
        (∀ unit ∈ statementUnits register contracts entity statement, LeasesApart contracts unit.2 →
          Tiles (rows.filter fun row => row.unitId = unit.2) statement.periodFrom statement.periodTo) ∧
        ∀ row ∈ rows, row.unitId ∈ (statementUnits register contracts entity statement).map Prod.snd := by
  unfold occupants
  rw [isEntity]
  constructor
  · intro before
    have each : ∃ parts, (statementUnits register contracts entity statement).mapM (fun unit =>
        unitOccupants statement unit statement.periodFrom (leasesOf contracts unit.2)) = .ok parts := by
      generalize statementUnits register contracts entity statement = units
      induction units with
      | nil => exact ⟨[], rfl⟩
      | cons unit rest ih =>
        obtain ⟨part, isPart⟩ := unitOccupants_total before unit statement.periodFrom (leasesOf contracts unit.2)
        obtain ⟨parts, isParts⟩ := ih
        exact ⟨part :: parts, mapM_ok.mpr (.cons isPart (mapM_ok.mp isParts))⟩
    obtain ⟨parts, isParts⟩ := each
    exact ⟨parts.flatten, bind_ok.mpr ⟨entity, rfl, bind_ok.mpr ⟨parts, isParts, rfl⟩⟩⟩
  · intro rows isRows
    simp only [bind_ok, pure_ok] at isRows
    obtain ⟨_, same, parts, isParts, rfl⟩ := isRows
    cases same
    obtain ⟨ofUnits, inUnits⟩ := filter_flatten (mapM_ok.mp isParts) statementUnits_unique
    refine ⟨fun unit member apart => ?_, inUnits⟩
    apply unitOccupants_tiles (ofUnits unit member) (leasesOf_sorted contracts unit.2) apart.leasesOf
    intro lease _ span isSpan
    rw [(overlap_some isSpan).1]
    exact le_max_left _ _

/-- A lease that ends on 14 March, and one from 16 March on. -/
def sampleLeases : List Contract :=
  [{ kind := .tenancy, unitId := 0, partyId := 0, legalEntityId := 0, number := 1, startDate := .ofYmd 2024 3 1,
     endDate := some (.ofYmd 2026 3 14) },
   { kind := .tenancy, unitId := 0, partyId := 1, legalEntityId := 0, number := 2, startDate := .ofYmd 2026 3 16 }]

def sampleUnits : PropertyRegister where
  units := [⟨0, "01"⟩]
  values := []

def sampleYear : PropertyStatement where
  periodFrom := .ofYmd 2026 1 1
  periodTo := .ofYmd 2026 12 31
  propertyId := 0
  ledgerId := 0

theorem sampleLeases_covered :
    ∃ rows, occupants [{}] [{ kind := .rentalOwner }] sampleUnits sampleLeases sampleYear = .ok rows ∧
      Tiles (rows.filter fun row => row.unitId = 0) sampleYear.periodFrom sampleYear.periodTo := by
  have cover := @occupants_cover_once sampleYear sampleLeases [{}] [{ kind := .rentalOwner }] sampleUnits
    { kind := .rentalOwner } rfl
  obtain ⟨rows, isRows⟩ := cover.1 (by decide)
  refine ⟨rows, isRows, (cover.2 rows isRows).1 (⟨0, "01"⟩, 0) (by decide) ?_⟩
  exact LeasesApart.of_exclusive (by decide) 0

end Mhvp.Billing
