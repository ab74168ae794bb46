import Mhvp.Billing.Status
import Mhvp.Hoa.Plans

/-!
Economic plans and annual statements of a community on their way through the owners' resolution, and the resolutions
themselves.
-/

namespace Mhvp.Hoa.Resolutions

open Core Accounting Billing Lib.Calendar

abbrev ResolutionId := ℕ
abbrev LegalEntityId := ℕ
abbrev PlanId := ℕ
abbrev SubCommunityId := ℕ

/-- Notes about courts and places are not read. -/
structure Resolution where
  legalEntityId : LegalEntityId
  number : ℕ
  decidedOn : Date
  status : ResolutionStatus
  snapshotHash : Option String := none

/-- `BINDING` -/
def binding : List ResolutionStatus := [.positive, .final, .legallyBinding]

/-- The columns that plans and statements share. -/
structure Resolvable (Item Snapshot : Type) where
  ledgerId : LedgerId
  year : ℕ
  status : StatementStatus := .draft
  version : ℕ := 1
  supersedesId : Option ℕ := none
  items : List Item := []
  snapshot : Option Snapshot := none
  snapshotHash : Option String := none
  resolutionId : Option ResolutionId := none
  createdBy : Option UserId := none

structure StatementItem extends CostItem where
  labourCost35a : Option Decimal := none
  journalEntryId : Option EntryId := none
  subCommunityId : Option SubCommunityId := none
  basisResolutionId : Option ResolutionId := none
  basisDocumentId : Option DocumentId := none

abbrev EconomicPlan := Resolvable PlanItem PlanResult

structure AnnualStatement extends Resolvable StatementItem StatementResult where
  reserveOpening : Decimal := 0
  reserveWithdrawals : Decimal := 0
  reserveInterest : Decimal := 0
  correctionReason : Option String := none
  correctionResolutionId : Option ResolutionId := none
  postedEntryIds : List EntryId := []

structure HoaState where
  ledgers : List Ledger := []
  communities : List LegalEntityId := []
  resolutions : List Resolution := []
  plans : List EconomicPlan := []
  statements : List AnnualStatement := []
  entries : ResultEntries := []

/-- How a snapshot is hashed. -/
structure Digest where
  plan : PlanResult → String
  statement : StatementResult → String

structure ResolutionIn where
  legalEntityId : LegalEntityId
  decidedOn : Date
  status : ResolutionStatus
  snapshotHash : Option String := none

def nextNumber (resolutions : List Resolution) (legalEntityId : LegalEntityId) : ℕ :=
  ((resolutions.filter fun row => row.legalEntityId = legalEntityId).map Resolution.number).foldl max 0 + 1

def createResolution (state : HoaState) (body : ResolutionIn) : HoaState :=
  { state with
    resolutions := state.resolutions ++ [{
      legalEntityId := body.legalEntityId, number := nextNumber state.resolutions body.legalEntityId
      decidedOn := body.decidedOn, status := body.status, snapshotHash := body.snapshotHash }] }

/-- An unset field is absent; `notes` is whether one of the notes is set. -/
structure ResolutionPatch where
  status : Option (Option ResolutionStatus) := none
  notes : Bool := false

/-- `current` is whether the version the request names is that of the row. -/
def patchResolution (state : HoaState) (resolutionId : ResolutionId) (body : ResolutionPatch) (current : Bool) :
    Result HoaState := do
  let row ← orRefuse state.resolutions[resolutionId]? .resourceNotFound
  require (current = true) .versionConflict
  require ((body.status ≠ none ∨ body.notes = true) ∧ body.status ≠ some none) .validation
    (some "Status oder Vermerk angeben.")
  pure { state with
    resolutions := state.resolutions.set resolutionId { row with status := body.status.join.getD row.status } }

/-- The ledger of a community that has a property. -/
def hoaLedger (state : HoaState) (ledgerId : LedgerId) : Result Ledger := do
  let ledger ← orRefuse state.ledgers[ledgerId]? .resourceNotFound
  require (ledger.legalEntityId ∈ state.communities ∧ ledger.propertyId.isSome) .validation
    (some "Nur für den Buchungskreis einer GdWE (W01).")
  pure ledger

structure PlanIn where
  ledgerId : LedgerId
  year : ℕ
  basisStatementId : Option StatementId := none
  basisPlanId : Option PlanId := none

def createPlan (state : HoaState) (body : PlanIn) (userId : UserId) : Result HoaState := do
  let _ ← hoaLedger state body.ledgerId
  require ((∀ basis ∈ body.basisStatementId, ∃ row ∈ state.statements[basis]?, row.ledgerId = body.ledgerId) ∧
      ∀ basis ∈ body.basisPlanId, ∃ row ∈ state.plans[basis]?, row.ledgerId = body.ledgerId) .validation
    (some "Plangrundlage aus anderem Buchungskreis.")
  pure { state with
    plans := state.plans ++ [{ ledgerId := body.ledgerId, year := body.year, createdBy := some userId }] }

/-- `reserves` are the ledgers of the reserves. -/
def addPlanItem (state : HoaState) (planId : PlanId) (item : PlanItem) (reserves : List LedgerId) : Result HoaState := do
  let plan ← orRefuse state.plans[planId]? .resourceNotFound
  require (plan.status = .draft) .conflict (some "Nach der Berechnung nur über neue Version.")
  require (∀ reserveId ∈ item.reserveId, item.component = .reserve ∧ reserves[reserveId]? = some plan.ledgerId)
    .validation (some "Rücklage nur für Rücklagenpositionen desselben Buchungskreises.")
  pure { state with plans := state.plans.set planId { plan with items := plan.items ++ [item] } }

structure StatementIn where
  ledgerId : LedgerId
  year : ℕ
  reserveOpening : Decimal := 0
  reserveWithdrawals : Decimal := 0
  reserveInterest : Decimal := 0

def createStatement (state : HoaState) (body : StatementIn) (userId : UserId) : Result HoaState := do
  let _ ← hoaLedger state body.ledgerId
  pure { state with
    statements := state.statements ++ [{
      ledgerId := body.ledgerId, year := body.year, createdBy := some userId, reserveOpening := body.reserveOpening
      reserveWithdrawals := body.reserveWithdrawals, reserveInterest := body.reserveInterest }] }

/-- Posted entry of the same ledger. -/
def sameLedgerEntry (books : Books) (ledgerId : LedgerId) (entryId : Option EntryId) : Prop :=
  ∀ wanted ∈ entryId, ∃ entry ∈ books.entries[wanted]?, entry.ledgerId = ledgerId ∧ entry.status ≠ .draft

instance : Decidable (sameLedgerEntry books ledgerId entryId) := by unfold sameLedgerEntry; infer_instance

/-- `subCommunities` are the properties of the sub communities. -/
def addCost (state : HoaState) (statementId : StatementId) (item : StatementItem) (books : Books)
    (subCommunities : List PropertyId) : Result HoaState := do
  let statement ← orRefuse state.statements[statementId]? .resourceNotFound
  require (statement.status = .draft) .conflict (some "Nach der Berechnung nur über neue Version.")
  require (∀ labour ∈ item.labourCost35a, labour ≤ item.amount) .validation
    (some "Lohnanteil § 35a größer als der Betrag.")
  require (sameLedgerEntry books statement.ledgerId item.journalEntryId) .validation
    (some "Buchung nicht gefunden, nicht gebucht oder aus anderem Buchungskreis.")
  let propertyId := state.ledgers[statement.ledgerId]?.bind Ledger.propertyId
  require (∀ sub ∈ item.subCommunityId, subCommunities[sub]?.isSome ∧ subCommunities[sub]? = propertyId) .validation
    (some "Untergemeinschaft gehört nicht zu diesem Objekt.")
  pure { state with statements := state.statements.set statementId { statement with items := statement.items ++ [item] } }

/-- Snapshot and hash of a draft. -/
def Resolvable.calculated (row : Resolvable Item Snapshot) (result : Snapshot) (hash : String) :
    Resolvable Item Snapshot :=
  { row with snapshot := some result, snapshotHash := some hash, status := .calculated }

def calculatePlan (digest : Digest) (state : HoaState) (planId : PlanId) (register : PropertyRegister)
    (mode : RemainderMode) : Result HoaState := do
  let plan ← orRefuse state.plans[planId]? .resourceNotFound
  require (plan.status = .draft) .conflict (some "Bereits berechnet.")
  let ledger ← hoaLedger state plan.ledgerId
  require (plan.items ≠ []) .validation (some "Keine Planpositionen.")
  let result ← planResults register ledger.propertyId plan.items (Date.ofYmd plan.year 1 1) (Date.ofYmd plan.year 12 31)
    mode
  pure { state with plans := state.plans.set planId (plan.calculated result (digest.plan result)) }

def calculateStatement (digest : Digest) (state : HoaState) (statementId : StatementId) (db : Db)
    (register : PropertyRegister) : Result HoaState := do
  let statement ← orRefuse state.statements[statementId]? .resourceNotFound
  require (statement.status = .draft) .conflict (some "Bereits berechnet.")
  let ledger ← hoaLedger state statement.ledgerId
  require (statement.items ≠ []) .validation (some "Keine Kostenpositionen.")
  let result ← statementResults db register
    { year := statement.year, reserveOpening := statement.reserveOpening
      reserveWithdrawals := statement.reserveWithdrawals, reserveInterest := statement.reserveInterest }
    statement.ledgerId ledger (statement.items.map StatementItem.toCostItem)
  let calculated := statement.toResolvable.calculated result (digest.statement result)
  pure { state with statements := state.statements.set statementId { statement with toResolvable := calculated } }

structure TransitionIn where
  target : StatementStatus
  resolutionId : Option ResolutionId := none

/-- The resolution refers to the snapshot of the row. -/
def Resolution.Matches (resolution : Resolution) (row : Resolvable Item Snapshot) : Prop :=
  ∃ hash ∈ row.snapshotHash, hash ≠ "" ∧ resolution.snapshotHash = some hash

instance : Decidable (Resolution.Matches resolution row) := by unfold Resolution.Matches; infer_instance

/-- `_move`; `findings` are the checks that block the approval of a statement. -/
def move (resolutions : List Resolution) (row : Resolvable Item Snapshot) (findings : List String) (body : TransitionIn)
    (userId : UserId) : Result (Resolvable Item Snapshot) := do
  let named := body.resolutionId.bind (resolutions[·]?)
  require (body.target = .resolved → named.isSome) .validation (some "Beschluss fehlt (W06).")
  require (body.target = .resolved → ∃ resolution ∈ named, resolution.status ∈ binding) .conflict
    (some "Beschluss ist nicht positiv gefasst.")
  require (body.target = .internallyApproved → row.createdBy ≠ some userId) .gateFourEyes
    (some "Die interne Freigabe muss eine andere Person erteilen.")
  require (body.target = .internallyApproved → findings = []) .conflict
    (some ("Freigabe gesperrt (W12): " ++ "; ".intercalate findings))
  let resolution := if body.target = .posted then row.resolutionId.bind (resolutions[·]?) else named
  permit (checkTransition row.status body.target true (resolution.map Resolution.status)
    (∃ held ∈ resolution, held.Matches row))
  pure { row with
    status := body.target
    resolutionId := if body.target = .resolved then body.resolutionId else row.resolutionId }

def transitionPlan (state : HoaState) (planId : PlanId) (body : TransitionIn) (userId : UserId) : Result HoaState := do
  let plan ← orRefuse state.plans[planId]? .resourceNotFound
  let moved ← move state.resolutions plan [] body userId
  pure { state with plans := state.plans.set planId moved }

/-- With the switch on, positions of a sub community need a resolution or a document. -/
def ensureSubCommunityBasis (lock : Bool) (items : List StatementItem) : Result Unit :=
  let missing := items.filter fun item =>
    item.subCommunityId.isSome ∧ item.basisResolutionId = none ∧ item.basisDocumentId = none
  require (lock = true → missing = []) .subCommunityBasisMissing
    (some ("Ohne Beschluss oder Dokument als Grundlage: " ++
      ", ".intercalate ((missing.take 10).map fun item => item.label)))

/-- What a transition of a statement reads besides. -/
structure Checks where
  gateOpen : Bool := true
  subCommunityLock : Bool := false
  findings : List String := []

def transitionStatement (state : HoaState) (statementId : StatementId) (body : TransitionIn) (userId : UserId)
    (checks : Checks) : Result HoaState := do
  require (body.target ∈ [StatementStatus.issued, .due] → checks.gateOpen) .releaseGateClosed
  let statement ← orRefuse state.statements[statementId]? .resourceNotFound
  require (body.target ≠ .posted) .validation (some "Buchung über den Buchungsendpunkt.")
  ensureSubCommunityBasis (checks.subCommunityLock && body.target = .internallyApproved) statement.items
  let moved ← move state.resolutions statement.toResolvable checks.findings body userId
  pure { state with statements := state.statements.set statementId { statement with toResolvable := moved } }

/-- What a posting reads besides: the account of the results, the owners on the day of the resolution, and their
debtor accounts. -/
structure PostingOffice where
  gateOpen : Bool := true
  resultAccount : Option AccountId := none
  owners : List (UnitId × ContractId) := []
  debtors : List (ContractId × AccountId) := []

def ResolutionStatus.value : ResolutionStatus → String
  | .positive => "positive"
  | .negative => "negative"
  | .final => "final"
  | .contested => "contested"
  | .annulled => "annulled"
  | .legallyBinding => "legally_binding"
  | .deleted => "deleted"
  | .irrelevant => "irrelevant"
  | .void => "void"

def unitEntry (statement : AnnualStatement) (statementId : StatementId) (decidedOn : Date) (unit : StatementUnit)
    (contractId : ContractId) (debtor : AccountId) : ResultEntry where
  ledgerId := statement.ledgerId
  bookingDate := decidedOn
  dueDate := some decidedOn
  accrualDate := Date.ofYmd statement.year 12 31
  text := "Abrechnungsergebnis " ++ toString statement.year ++ " Einheit " ++ unit.unitNumber
  contractId := contractId
  idempotencyKey := .hoaStatement statementId unit.unitId
  debtor := debtor
  amount := unit.result
  posted := true

/-- The result of a unit is posted against the owner at the resolution; a key is used once in a ledger. -/
def postUnit (statement : AnnualStatement) (statementId : StatementId) (decidedOn : Date) (office : PostingOffice)
    (entries : ResultEntries) (unit : StatementUnit) : Result ResultEntries :=
  if unit.result = 0 then pure entries
  else do
    let missing := some ("Kein Eigentümer oder Debitor für Einheit " ++ unit.unitNumber ++ ".")
    let owner ← orRefuse (office.owners.find? fun row => row.1 = unit.unitId) .conflict missing
    let debtor ← orRefuse (office.debtors.find? fun row => row.1 = owner.2) .conflict missing
    require (¬ Keyed entries statement.ledgerId (.hoaStatement statementId unit.unitId)) .databaseRefused
    pure (entries ++ [some (unitEntry statement statementId decidedOn unit owner.2 debtor.2)])

/-- `post_statement` -/
def postStatement (state : HoaState) (statementId : StatementId) (userId : UserId) (office : PostingOffice) :
    Result HoaState := do
  require (office.gateOpen = true) .releaseGateClosed
  let statement ← orRefuse state.statements[statementId]? .resourceNotFound
  if statement.status = .posted then pure state
  else do
    let named := statement.resolutionId.bind (state.resolutions[·]?)
    require (∀ resolution ∈ named, resolution.status ∈ binding) .conflict
      (some ("Ergebnisbuchung gesperrt: Beschluss im Status " ++
        ((named.map fun row => ResolutionStatus.value row.status).getD "") ++ ", nicht bestandskräftig (D54)."))
    let moved ← move state.resolutions statement.toResolvable [] { target := .posted } userId
    let missing := some "Konto für Abrechnungsergebnisse (Zahlungsart statement_result) fehlt."
    let _ ← orRefuse state.ledgers[statement.ledgerId]? .conflict missing
    let resolution ← orRefuse named .conflict missing
    let _ ← orRefuse office.resultAccount .conflict missing
    let units := (statement.snapshot.map StatementResult.units).getD []
    let entries ← units.foldlM (postUnit statement statementId resolution.decidedOn office) state.entries
    let ids := (List.range entries.length).drop state.entries.length
    pure { state with
      entries
      statements := state.statements.set statementId { statement with toResolvable := moved, postedEntryIds := ids } }

/-- `CORRECTION_REASONS` -/
def correctionReasons : List String := ["resolution_changed", "court_invalid", "calculation_error", "other"]

structure NewVersionIn where
  reason : Option String := none
  resolutionId : Option ResolutionId := none

/-- `new_version`; a correcting resolution belongs to the community of the ledger. -/
def newVersion (state : HoaState) (statementId : StatementId) (body : NewVersionIn) (userId : UserId) :
    Result HoaState := do
  require (∀ reason ∈ body.reason, reason ∈ correctionReasons) .validation (some "Unbekannter Korrekturgrund.")
  let old ← orRefuse state.statements[statementId]? .resourceNotFound
  let basis := body.resolutionId.bind (state.resolutions[·]?)
  require (body.resolutionId.isSome → basis.isSome) .resourceNotFound
  require (∀ resolution ∈ basis, ∃ ledger ∈ state.ledgers[old.ledgerId]?,
      ledger.legalEntityId = resolution.legalEntityId) .correctionResolutionForeign
  pure { state with
    statements := state.statements ++ [{
      ledgerId := old.ledgerId, year := old.year, version := old.version + 1, supersedesId := some statementId
      items := old.items, createdBy := some userId, reserveOpening := old.reserveOpening
      reserveWithdrawals := old.reserveWithdrawals, reserveInterest := old.reserveInterest
      correctionReason := body.reason, correctionResolutionId := body.resolutionId }] }

end Mhvp.Hoa.Resolutions
