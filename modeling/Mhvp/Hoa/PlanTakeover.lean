import Mhvp.Contracts.Timeline

namespace Mhvp.Hoa.PlanTakeover

open Core Billing Contracts Lib.Calendar Lib.Validity
open Accounting (LedgerId UserId UnitId ContractId ReserveId)
open Receivables (PaymentInterval)

abbrev EconomicPlanId := ℕ

/-- Moments are only compared with being absent. -/
abbrev Moment := ℕ

inductive PaymentRhythm
  | monthly
  | quarterly
  | yearly
  deriving DecidableEq

structure EconomicPlan where
  ledgerId : LedgerId
  validFrom : Date
  status : StatementStatus
  snapshot : Option PlanResult := none
  snapshotHash : Option String := none
  paymentRhythm : PaymentRhythm := .monthly
  dueDay : ℕ := 1
  createdBy : Option UserId := none
  appliedAt : Option Moment := none
  obsoleteAt : Option Moment := none

def EconomicPlan.units (plan : EconomicPlan) : List PlanUnit := (plan.snapshot.map PlanResult.units).getD []

structure PlanState where
  tables : ContractTables
  plans : List EconomicPlan := []

def components : List Component := [.hoaFee, .reserve]

/-- The payment type of a component. -/
def typeCode : Component → String
  | .hoaFee => "hoa_fee"
  | .reserve => "reserve"

/-- `owner_at` -/
def ownerAt (rows : ContractRows) (unitId : UnitId) (day : Date) : Option (Contract × ContractId) :=
  rows.contracts.zipIdx.find? fun row => Standing Contract.group Contract.period (unitId, .ownership) day row.1

inductive ApplyAction
  | create
  | unchanged
  | zero
  | noContract

structure ApplyRow where
  unitId : UnitId
  unitNumber : String
  component : Component
  contractId : Option ContractId := none
  current : Option Decimal := none
  new : Decimal
  instalment : Decimal
  action : ApplyAction

/-- The newest payment of the type that covers the day. -/
def standingPayment (rows : ContractRows) (contractId : ContractId) (code : String) (day : Date) :
    Option ContractPayment :=
  rows.payments.find? fun row => Standing Held.group Held.toPeriod (contractId, code) day row

def instalmentMonths : PaymentRhythm → ℕ
  | .monthly => 1
  | .quarterly => 3
  | .yearly => 12

def applyRow (rows : ContractRows) (plan : EconomicPlan) (unit : PlanUnit) (component : Component) : ApplyRow :=
  let new := unit.monthly component
  let row : ApplyRow := {
    unitId := unit.unitId, unitNumber := unit.unitNumber, component, new
    instalment := new * instalmentMonths plan.paymentRhythm, action := .noContract }
  match ownerAt rows unit.unitId plan.validFrom with
  | none => row
  | some (_, contractId) =>
    if new ≤ 0 then { row with contractId := some contractId, action := .zero }
    else
      let current := standingPayment rows contractId (typeCode component) plan.validFrom
      let unchanged := ∃ payment ∈ current, payment.validFrom = plan.validFrom ∧ payment.content.gross = new
      { row with
        contractId := some contractId
        current := current.map fun payment => payment.content.gross
        action := if unchanged then .unchanged else .create }

/-- The rows of `_plan_apply_preview`. -/
def planApplyPreview (rows : ContractRows) (plan : EconomicPlan) : List ApplyRow :=
  plan.units.flatMap fun unit => components.map (applyRow rows plan unit)

/-- `RHYTHM_INTERVAL` -/
def rhythmInterval : PaymentRhythm → Option PaymentInterval
  | .monthly => none
  | .quarterly => some .quarterly
  | .yearly => some .annual

/-- The reserve of a reserve advance that goes to exactly one reserve. -/
def boundReserve (plan : EconomicPlan) (unitId : UnitId) (component : Component) : Option ReserveId :=
  match component, plan.units.reverse.find? fun unit => unit.unitId = unitId with
  | .reserve, some unit =>
    match unit.reserveSplit with
    | [(reserve, _)] => reserve
    | _ => none
  | _, _ => none

def standingSchedule (rows : ContractRows) (contractId : ContractId) (day : Date) : Option PaymentSchedule :=
  rows.schedules.find? fun row => Standing Held.group Held.toPeriod (contractId, ()) day row

/-- `_ensure_schedule`; a schedule of the same interval that stands already is left untouched. -/
def ensureSchedule (tables : ContractTables) (contract : Contract) (contractId : ContractId) (plan : EconomicPlan)
    (interval : PaymentInterval) : Result (ContractTables × Bool) := do
  let current := standingSchedule tables.toContractRows contractId plan.validFrom
  if ∃ schedule ∈ current, schedule.content.interval = interval then pure (tables, false)
  else
    require (∀ row ∈ tables.schedules, row.owner = contractId → row.validFrom ≤ plan.validFrom) .conflict
      (some ("Vertrag " ++ toString contract.number ++ " hat einen späteren Zahlungsplan; " ++
        "bitte zuerst bereinigen (P07-03)."))
    let tables ← addSchedule tables {
      owner := contractId, key := (), content := { interval, dueDay := plan.dueDay }, validFrom := plan.validFrom }
    pure (tables, true)

/-- What the loop over the rows has done so far; for a contract whose schedule was looked at, whether it was set. -/
structure Takeover where
  tables : ContractTables
  created : ℕ := 0
  scheduled : List (ContractId × Bool) := []

def planPayment (plan : EconomicPlan) (contractId : ContractId) (entry : ApplyRow) : ContractPayment where
  owner := contractId
  key := typeCode entry.component
  content := {
    net := entry.new, gross := entry.new, reason := .adjustmentFromStatement
    reserveId := boundReserve plan entry.unitId entry.component }
  validFrom := plan.validFrom

/-- The schedule of the rhythm, once for each contract. -/
def scheduleOnce (plan : EconomicPlan) (contract : Contract) (contractId : ContractId) (state : Takeover) :
    Result Takeover :=
  match rhythmInterval plan.paymentRhythm with
  | none => pure state
  | some interval =>
    if contractId ∈ state.scheduled.map Prod.fst then pure state
    else do
      let (tables, changed) ← ensureSchedule state.tables contract contractId plan interval
      pure { state with tables, scheduled := state.scheduled ++ [(contractId, changed)] }

def takeOverRow (plan : EconomicPlan) (state : Takeover) (entry : ApplyRow) : Result Takeover :=
  match entry.action, ownerAt state.tables.toContractRows entry.unitId plan.validFrom with
  | .create, some (contract, contractId) => do
      let tables ← addPayment state.tables contract (planPayment plan contractId entry)
      scheduleOnce plan contract contractId { state with tables, created := state.created + 1 }
  | _, _ => pure state

structure PlanApplyIn where
  confirm : Bool := false
  snapshotHash : Option String := none

/-- `APPLY_STATUSES` -/
def applyStatuses : List StatementStatus := [.resolved, .issued, .due]

/-- Earlier applied plans of the ledger become obsolete. -/
def supersededBy (planId : EconomicPlanId) (plan : EconomicPlan) (now : Moment) (older : EconomicPlan × EconomicPlanId) :
    EconomicPlan :=
  if older.1.ledgerId = plan.ledgerId ∧ older.2 ≠ planId ∧ older.1.appliedAt ≠ none ∧ older.1.obsoleteAt = none ∧
      older.1.validFrom ≤ plan.validFrom then
    { older.1 with obsoleteAt := some now }
  else older.1

/-- `apply_plan`; an applied plan is returned unchanged. -/
def applyPlan (state : PlanState) (planId : EconomicPlanId) (body : PlanApplyIn) (userId : UserId) (now : Moment) :
    Result PlanState := do
  let plan ← orRefuse state.plans[planId]? .resourceNotFound
  if plan.appliedAt.isSome then pure state
  else
    require (plan.status ∈ applyStatuses) .conflict (some "Vorschüsse erst nach Beschluss (W02, W06).")
    require (body.confirm = true) .validation (some "Die Vorschau der Übernahme ist zu bestätigen (confirm).")
    require (plan.paymentRhythm ≠ .monthly → plan.validFrom.day = 1) .conflict
      (some ("Vierteljährliche oder jährliche Vorschüsse beginnen zum Monatsersten " ++
        "(Anker des Zahlungsplans, P07-03)."))
    require (body.snapshotHash = plan.snapshotHash) .conflict
      (some "Die Vorschau gehört zu einem anderen Stand des Plans (snapshot_hash).")
    require (plan.createdBy ≠ some userId) .gateFourEyes
      (some "Die Übernahme muss eine andere Person als der Ersteller bestätigen.")
    let preview := planApplyPreview state.tables.toContractRows plan
    let taken ← preview.foldlM (takeOverRow plan) { tables := state.tables }
    let applied := state.plans.set planId { plan with appliedAt := some now }
    pure { tables := taken.tables, plans := applied.zipIdx.map (supersededBy planId plan now) }

end Mhvp.Hoa.PlanTakeover
