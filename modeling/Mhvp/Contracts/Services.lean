import Mhvp.Hoa.Plans
import Mhvp.Lib.Validity
import Mhvp.Receivables.Proration

/-! Contracts of the units in versions, and the payments, payment schedules and allocation values of a contract. -/

namespace Mhvp.Contracts

open Core Accounting Lib.Calendar Lib.Validity
open Receivables (PaymentInterval DueDayRule PaymentMode AmountBasis)
open Hoa (AllocationKeyId)

abbrev PartyId := ℕ
abbrev LegalEntityId := ℕ
abbrev SepaMandateId := ℕ

inductive ContractKind
  | tenancy
  | ownership
  deriving DecidableEq

inductive ManagementType
  | rental
  | hoa
  | hoaWithSev
  deriving DecidableEq

structure Property where
  managementType : ManagementType
  /-- The community of owners, created with the property. -/
  hoaEntityId : Option LegalEntityId := none

structure SepaMandate where
  partyId : PartyId
  legalEntityId : LegalEntityId
  active : Bool

structure Contract where
  kind : ContractKind
  unitId : UnitId
  partyId : PartyId
  legalEntityId : LegalEntityId
  /-- The value its text is formatted from. -/
  number : ℕ
  version : ℕ := 1
  startDate : Date
  endDate : Option Date := none
  titleTransferDate : Option Date := none
  sevEnabled : Bool := false
  directDebit : Bool := false
  sepaMandateId : Option SepaMandateId := none
  dunningBlock : Bool := false
  dunningBlockReason : Option String := none
  supersedesContractId : Option ContractId := none

namespace Contract

def period (contract : Contract) : Period := ⟨contract.startDate, contract.endDate⟩

def group (contract : Contract) : UnitId × ContractKind := (contract.unitId, contract.kind)

/-- The check constraints of a row besides the order of its period. -/
def Checked (contract : Contract) : Prop :=
  (contract.kind = .ownership → ∃ title ∈ contract.titleTransferDate, title ≤ contract.startDate) ∧
    (contract.kind = .ownership ∨ contract.sevEnabled = false)

instance : DecidablePred Checked := fun _ => by unfold Checked; infer_instance

end Contract

inductive PaymentReason
  | initial
  | index
  | graduated
  | increase
  | adjustmentFromStatement
  | other

/-- The columns of a payment besides contract, type and period. -/
structure PaymentTerms where
  net : Decimal
  vatPercent : Decimal := 0
  gross : Decimal
  reason : PaymentReason := .initial
  reserveId : Option ReserveId := none

structure ScheduleTerms where
  interval : PaymentInterval
  dueDayRule : DueDayRule := .day
  dueDay : ℕ
  paymentMode : PaymentMode := .advance
  amountBasis : AmountBasis := .perMonth

/-- `contract_payment`, by payment type. -/
abbrev ContractPayment := Held ContractId String PaymentTerms

/-- `payment_schedule` -/
abbrev PaymentSchedule := Held ContractId Unit ScheduleTerms

/-- `contract_allocation_value`, by allocation key. -/
abbrev ContractAllocationValue := Held ContractId AllocationKeyId Decimal

structure ContractRows where
  properties : List Property := []
  units : List PropertyId := []
  /-- Names of the parties. -/
  parties : List String := []
  mandates : List SepaMandate := []
  documents : ℕ := 0
  nextNumber : ℕ := 1
  contracts : List Contract := []
  payments : List ContractPayment := []
  schedules : List PaymentSchedule := []
  allocationValues : List ContractAllocationValue := []

/-- Every row belongs to a contract, and the rows of a key do not overlap. -/
def HeldByContracts {Key Content : Type} (contracts : List Contract) (rows : List (Held ContractId Key Content)) : Prop :=
  Exclusive Held.group Held.toPeriod rows ∧ ∀ row ∈ rows, row.owner < contracts.length

/-- The constraints of the tables. -/
structure Constraints (rows : ContractRows) : Prop where
  versions : rows.contracts.Pairwise fun first second => (first.number, first.version) ≠ (second.number, second.version)
  periods : Exclusive Contract.group Contract.period rows.contracts
  checked : ∀ contract ∈ rows.contracts, contract.Checked
  payments : HeldByContracts rows.contracts rows.payments
  schedules : HeldByContracts rows.contracts rows.schedules
  allocationValues : HeldByContracts rows.contracts rows.allocationValues

instance {Key Content : Type} [DecidableEq Key] (contracts : List Contract)
    (rows : List (Held ContractId Key Content)) : Decidable (HeldByContracts contracts rows) := by
  unfold HeldByContracts; infer_instance

instance : DecidablePred Constraints := fun rows =>
  decidable_of_iff
    ((rows.contracts.Pairwise fun first second => (first.number, first.version) ≠ (second.number, second.version)) ∧
      Exclusive Contract.group Contract.period rows.contracts ∧ (∀ contract ∈ rows.contracts, contract.Checked) ∧
      HeldByContracts rows.contracts rows.payments ∧ HeldByContracts rows.contracts rows.schedules ∧
      HeldByContracts rows.contracts rows.allocationValues)
    ⟨fun ⟨versions, periods, checked, payments, schedules, values⟩ =>
        ⟨versions, periods, checked, payments, schedules, values⟩,
      fun holds => ⟨holds.versions, holds.periods, holds.checked, holds.payments, holds.schedules, holds.allocationValues⟩⟩

/-- The tables as the database holds them. -/
structure ContractTables extends ContractRows where
  constraints : Constraints toContractRows

/-- Send the changed rows to the database; with a message a violation is reported as a conflict. -/
def flush (rows : ContractRows) (message : Option String := none) : Result ContractTables :=
  if holds : Constraints rows then .ok ⟨rows, holds⟩
  else .error { error := if message = none then .databaseRefused else .conflict, detail := message }

theorem flush_ok (sent : flush rows message = .ok tables) :
    tables.toContractRows = rows := by
  unfold flush at sent
  split at sent
  · cases sent
    rfl
  · cases sent

def invalid (accepted : Prop) [Decidable accepted] (detail : String) : Result Unit :=
  require accepted .validation (some detail)

/-- `check_mandate` -/
def checkMandate (tables : ContractRows) (mandateId : Option SepaMandateId) (directDebit : Bool) (partyId : PartyId)
    (legalEntityId : LegalEntityId) : Result Unit :=
  if directDebit then do
    let mandateId ← orRefuse mandateId .validation (some "Lastschrift braucht ein erfasstes SEPA-Mandat.")
    let mandate ← orRefuse (tables.mandates[mandateId]?.filter (·.active)) .validation
      (some "Das SEPA-Mandat ist nicht aktiv.")
    invalid (mandate.partyId = partyId ∧ mandate.legalEntityId = legalEntityId)
      "Das SEPA-Mandat gehört nicht zu Vertragspartei und Gläubiger."
  else pure ()

/-- Close an open payment of the same type on the day before the new one. -/
def addPayment (tables : ContractTables) (contract : Contract) (row : ContractPayment) : Result ContractTables := do
  invalid (contract.startDate ≤ row.validFrom ∧ Within contract.endDate row.validFrom)
    "Die Zahlung liegt außerhalb der Vertragslaufzeit."
  flush { tables.toContractRows with
    payments := tables.payments.map (Held.closeOpen row.owner row.key row.validFrom) ++ [row] }

def addSchedule (tables : ContractTables) (row : PaymentSchedule) : Result ContractTables :=
  flush { tables.toContractRows with
    schedules := tables.schedules.map (Held.closeOpen row.owner row.key row.validFrom) ++ [row] }

/-- Rows of the contract valid on the day. -/
def standingOn {Key Content : Type} (contractId : ContractId) (day : Date) (rows : List (Held ContractId Key Content)) :
    List (Held ContractId Key Content) :=
  rows.filter fun row => row.owner = contractId ∧ row.Covers day

/-- Values that start after the end stay as they are. -/
def closeAllocationValue (contractId : ContractId) (last : Date) (row : ContractAllocationValue) :
    ContractAllocationValue :=
  if row.validFrom ≤ last then Held.endAt contractId last row else row

/-- On a new version, payments and schedules valid from the day move; spanning rows are split. -/
def moveOpenRows (tables : ContractTables) (old new : ContractId) (effective : Date) : Result ContractTables :=
  flush { tables.toContractRows with
    payments := Held.moveFrom old new effective tables.payments
    schedules := Held.moveFrom old new effective tables.schedules }

structure ContractVersionIn where
  effectiveDate : Date
  directDebit : Option Bool := none
  sepaMandateId : Option (Option SepaMandateId) := none
  dunningBlock : Option Bool := none
  dunningBlockReason : Option (Option String) := none

/-- The columns the body sets. -/
def ContractVersionIn.changes (body : ContractVersionIn) (contract : Contract) : Contract :=
  { contract with
    directDebit := body.directDebit.getD contract.directDebit
    sepaMandateId := body.sepaMandateId.getD contract.sepaMandateId
    dunningBlock := body.dunningBlock.getD contract.dunningBlock
    dunningBlockReason := body.dunningBlockReason.getD contract.dunningBlockReason }

def newVersion (tables : ContractTables) (contractId : ContractId) (body : ContractVersionIn) :
    Result ContractTables := do
  let old ← orRefuse tables.contracts[contractId]? .resourceNotFound
  require (∀ other ∈ tables.contracts, other.number = old.number → other.version ≤ old.version) .conflict
    (some "Es gibt bereits eine neuere Version.")
  invalid (old.startDate < body.effectiveDate ∧ Within old.endDate body.effectiveDate)
    "Die neue Version muss innerhalb der Laufzeit nach Beginn starten."
  let data := body.changes old
  invalid (data.dunningBlock → ∃ reason ∈ data.dunningBlockReason, reason ≠ "") "Mahnsperre braucht eine Begründung"
  checkMandate tables.toContractRows data.sepaMandateId data.directDebit old.partyId old.legalEntityId
  let ended ← flush { tables.toContractRows with
    contracts := tables.contracts.set contractId { old with endDate := some body.effectiveDate.dayBefore } }
  let versioned ← flush { ended.toContractRows with
    contracts := ended.contracts ++ [{ data with
      startDate := body.effectiveDate, endDate := old.endDate
      version := old.version + 1, supersedesContractId := some contractId }] }
    (some "Die Version überschneidet sich mit einem anderen Vertrag.")
  moveOpenRows versioned contractId ended.contracts.length body.effectiveDate

end Mhvp.Contracts
