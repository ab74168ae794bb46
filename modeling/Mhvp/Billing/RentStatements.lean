import Mhvp.Billing.Status
import Mhvp.Receivables.Runs

/-!
Operating cost statements of a landlord: calculation, access of the tenants, issue, and the entries of the result.
-/

namespace Mhvp.Billing.RentStatements

open Core Accounting Lib.Calendar
open Receivables (isoText)

inductive DeadlinePolicy
  | blockClaims
  | notice
  deriving DecidableEq

inductive OpenAdvanceMode
  | infoOnly
  | offsetReversal
  | balanceAgainstDue
  deriving DecidableEq

/-- Open advance item of the period that is offset against the result. -/
structure OffsetItem where
  openItemId : OpenItemId
  counterAccountId : Option AccountId := none
  remaining : Decimal

/-- Result of a contract as the allocation and the advances give it; above zero it is an additional payment. -/
structure CalculatedRow where
  contractId : ContractId
  unitNumber : String
  balance : Decimal
  openAdvanceMode : OpenAdvanceMode := .infoOnly
  offsetItems : List OffsetItem := []

structure SnapshotRow extends CalculatedRow where
  lateClaimBlocked : Bool

/-- Every tenancy occupies its unit once, so a contract has one row. -/
structure Calculation where
  rows : List CalculatedRow
  distinct : (rows.map CalculatedRow.contractId).Nodup

structure StatementSnapshot where
  createdOn : Date
  rows : List SnapshotRow
  distinct : (rows.map fun row => row.contractId).Nodup

structure RentStatement where
  ledgerId : LedgerId
  periodFrom : Date
  periodTo : Date
  interim : Bool := false
  purpose : Option String := none
  status : StatementStatus := .draft
  version : ℕ := 1
  supersedesId : Option StatementId := none
  snapshot : Option StatementSnapshot := none
  deliveredAt : Option Date := none
  deadlineException : Option String := none
  deadlineExceptionDocumentId : Option DocumentId := none
  resultEntryIds : List EntryId := []
  createdBy : Option UserId := none

/-- Access of one tenant; a row of `statement_result`. -/
structure StatementResult where
  statementId : StatementId
  contractId : ContractId
  deliveredAt : Date

structure RentState where
  statements : List RentStatement := []
  results : List StatementResult := []
  entries : ResultEntries := []
  policy : DeadlinePolicy := .blockClaims

/-- What a request reads besides the statements: the gate of the rental statements, whether the bases of the
allocation are complete or not asked for, the stored documents, the account of the results and the debtor accounts. -/
structure Surroundings where
  gateOpen : Bool := true
  basesComplete : Bool := true
  documents : List DocumentId := []
  resultAccount : Option AccountId := none
  debtors : List (ContractId × AccountId) := []

/-- End of the twelfth month after the period. -/
def deadline (periodTo : Date) : Date :=
  Date.ofYmd (periodTo.year + 1) periodTo.month (Date.monthLength (periodTo.year + 1) periodTo.month)

/-- An exception counts only with reason and evidence document. -/
def RentStatement.deadlineExceptionEffective (statement : RentStatement) : Bool :=
  (statement.deadlineException.any fun reason => reason ≠ "") && statement.deadlineExceptionDocumentId.isSome

/-- An additional payment whose access is after the deadline. -/
def SnapshotRow.late (row : SnapshotRow) (deliveredAt periodDeadline : Date) : Bool :=
  0 < row.balance ∧ (row.lateClaimBlocked ∨ periodDeadline < deliveredAt)

def statementOf (state : RentState) (statementId : StatementId) : Result RentStatement :=
  orRefuse state.statements[statementId]? .resourceNotFound

def snapshotOf (statement : RentStatement) : Result StatementSnapshot :=
  orRefuse statement.snapshot .conflict (some "Kein Ergebnis-Snapshot.")

def RentState.setStatement (state : RentState) (statementId : StatementId) (statement : RentStatement) : RentState :=
  { state with statements := state.statements.set statementId statement }

def twelveMonths (periodFrom periodTo : Date) : Bool :=
  periodTo.ordinal - periodFrom.ordinal + 1 ∈ [365, 366] ∧ periodFrom.day = 1 ∧
    (periodTo.month + 12 - periodFrom.month) % 12 = 11

/-- A period other than twelve months is marked as interim and has a purpose. -/
def checkPeriod (periodFrom periodTo : Date) (interim : Bool) (purpose : Option String) : Result Unit := do
  require (periodFrom ≤ periodTo) .validation (some "Zeitraum ungültig.")
  require (interim ∨ !twelveMonths periodFrom periodTo → purpose.any fun text => text ≠ "") .validation
    (some "Unterjährige Abrechnung oder Sonderzeitraum nur mit ausgewiesenem Zweck (A05).")
  require (twelveMonths periodFrom periodTo ∨ interim) .validation
    (some "Der Zeitraum umfasst keine zwölf Monate: als unterjährig kennzeichnen (A05).")

structure StatementIn where
  ledgerId : LedgerId
  periodFrom : Date
  periodTo : Date
  interim : Bool := false
  purpose : Option String := none

/-- `landlord` is whether the ledger belongs to a landlord, when it exists and has a property. -/
def create (state : RentState) (body : StatementIn) (userId : UserId) (landlord : Option Bool) : Result RentState := do
  checkPeriod body.periodFrom body.periodTo body.interim body.purpose
  let isLandlord ← orRefuse landlord .resourceNotFound
  require (isLandlord = true) .validation (some "Betriebskostenabrechnungen nur im Buchungskreis des Vermieters.")
  pure { state with
    statements := state.statements ++ [{
      ledgerId := body.ledgerId, periodFrom := body.periodFrom, periodTo := body.periodTo, interim := body.interim
      purpose := body.purpose, createdBy := some userId }] }

/-- Of the fields that may be set to nothing, an unset one is absent. -/
structure StatementPatchIn where
  periodFrom : Option Date := none
  periodTo : Option Date := none
  interim : Option Bool := none
  purpose : Option (Option String) := none
  deadlineException : Option (Option String) := none
  deadlineExceptionDocumentId : Option (Option DocumentId) := none

def RentStatement.patched (statement : RentStatement) (body : StatementPatchIn) : RentStatement :=
  { statement with
    periodFrom := body.periodFrom.getD statement.periodFrom
    periodTo := body.periodTo.getD statement.periodTo
    interim := body.interim.getD statement.interim
    purpose := body.purpose.getD statement.purpose
    deadlineException := body.deadlineException.getD statement.deadlineException
    deadlineExceptionDocumentId := body.deadlineExceptionDocumentId.getD statement.deadlineExceptionDocumentId }

/-- `patch_statement` -/
def patchStatement (state : RentState) (statementId : StatementId) (body : StatementPatchIn)
    (surroundings : Surroundings) : Result RentState := do
  let statement ← statementOf state statementId
  require (statement.status = .draft) .conflict (some "Nach der Berechnung nur über eine neue Version änderbar.")
  require (∀ documentId ∈ body.deadlineExceptionDocumentId.join, documentId ∈ surroundings.documents) .validation
    (some "Dokument nicht gefunden.")
  let patched := statement.patched body
  checkPeriod patched.periodFrom patched.periodTo patched.interim patched.purpose
  pure (state.setStatement statementId patched)

/-- `_transition` -/
def moved (statement : RentStatement) (target : StatementStatus) : Result RentStatement := do
  permit (checkTransition statement.status target false none false)
  pure { statement with status := target }

/-- The snapshot of a calculation on a day; late is what is calculated after the deadline. -/
def calculatedSnapshot (statement : RentStatement) (calculation : Calculation) (today : Date) : StatementSnapshot where
  createdOn := today
  rows := calculation.rows.map fun row =>
    { row with
      lateClaimBlocked := 0 < row.balance ∧ deadline statement.periodTo < today ∧
        statement.deadlineExceptionEffective = false }
  distinct := by simpa [List.map_map, Function.comp_def] using calculation.distinct

def calculate (state : RentState) (statementId : StatementId) (calculation : Calculation) (today : Date) :
    Result RentState := do
  let statement ← statementOf state statementId
  require (statement.status = .draft) .conflict (some "Bereits berechnet: Änderungen über neue Version.")
  let calculated ← moved statement .calculated
  pure (state.setStatement statementId { calculated with snapshot := some (calculatedSnapshot statement calculation today) })

/-- Issuing needs an access that is not before the calculation, and in time for every additional payment. -/
def checkIssue (statement : RentStatement) (snapshot : StatementSnapshot) (deliveredAt : Date)
    (policy : DeadlinePolicy) : Result Unit := do
  require (snapshot.createdOn ≤ deliveredAt) .validation
    (some ("Zugang " ++ isoText deliveredAt ++ " liegt vor der Berechnung " ++ isoText snapshot.createdOn ++
      "; die Erstellung gilt nicht als Zugang (D23)."))
  let periodDeadline := deadline statement.periodTo
  let late := snapshot.rows.filter fun row => row.late deliveredAt periodDeadline
  require (late = [] ∨ policy ≠ .blockClaims ∨ statement.deadlineExceptionEffective = true) .conflict
    (some ("Nachforderung nach Fristablauf ohne geprüfte Ausnahme (Zugang " ++ isoText deliveredAt ++
      ", Fristorientierung " ++ isoText periodDeadline ++ ", Einheiten " ++
      ", ".intercalate (late.map fun row => row.unitNumber) ++ ")."))

/-- `check_result_entries_posted` -/
def checkResultEntriesPosted (entries : ResultEntries) (statement : RentStatement) : Result Unit := do
  let rows := (statement.snapshot.map StatementSnapshot.rows).getD []
  require ((∃ row ∈ rows, row.balance ≠ 0) → statement.resultEntryIds ≠ []) .conflict
    (some "Ergebnisbuchungen fehlen: erst die Entwürfe erzeugen und buchen (M17-01).")
  require (∀ entryId ∈ statement.resultEntryIds, ∃ entry ∈ storedEntry entries entryId, entry.posted = true) .conflict
    (some "Nicht alle Ergebnisbuchungen sind gebucht (Entwurf offen, M17-01).")

/-- `RESULT_GATED` -/
def resultGated : List StatementStatus := [.issued, .due, .posted, .locked]

structure TransitionIn where
  target : StatementStatus
  deliveredAt : Option Date := none

/-- The access of an issue, with which the statement is issued; any other target leaves the statement as it is. -/
def issued (state : RentState) (statement : RentStatement) (body : TransitionIn) : Result RentStatement :=
  if body.target = .issued then do
    let deliveredAt ← orRefuse body.deliveredAt .validation (some "Zugangsdatum fehlt (Fristwahrung durch Zugang).")
    let snapshot ← snapshotOf statement
    checkIssue statement snapshot deliveredAt state.policy
    pure { statement with deliveredAt := some deliveredAt }
  else pure statement

def postable (entries : ResultEntries) (statement : RentStatement) (target : StatementStatus) : Result Unit :=
  if target = .posted then checkResultEntriesPosted entries statement else pure ()

def transition (state : RentState) (statementId : StatementId) (body : TransitionIn) (userId : UserId)
    (surroundings : Surroundings) : Result RentState := do
  require (body.target ∈ resultGated → surroundings.gateOpen) .releaseGateClosed
  let statement ← statementOf state statementId
  require (body.target ∈ [StatementStatus.issued, .due, .posted] → surroundings.basesComplete) .allocationBasisMissing
  require (body.target = .internallyApproved → statement.createdBy ≠ some userId) .gateFourEyes
    (some "Die interne Freigabe muss eine andere Person erteilen.")
  let statement ← issued state statement body
  postable state.entries statement body.target
  let statement ← moved statement body.target
  pure (state.setStatement statementId statement)

/-- `new_version`; the exception of the deadline is taken over. -/
def newVersion (state : RentState) (statementId : StatementId) (reason : String) (userId : UserId) :
    Result RentState := do
  require (5 ≤ (strip reason).length) .validation (some "Der Korrekturgrund braucht mindestens 5 Zeichen.")
  let old ← statementOf state statementId
  require (old.status ≠ .draft) .conflict (some "Ein Entwurf wird direkt bearbeitet.")
  pure { state with
    statements := state.statements ++ [{
      ledgerId := old.ledgerId, periodFrom := old.periodFrom, periodTo := old.periodTo, interim := old.interim
      purpose := old.purpose, version := old.version + 1, supersedesId := some statementId
      deadlineException := old.deadlineException
      deadlineExceptionDocumentId := old.deadlineExceptionDocumentId, createdBy := some userId }] }

/-- `DELIVERY_OPEN` -/
def deliveryOpen : List StatementStatus := [.internallyApproved, .boardReviewed, .issued, .due]

/-- The own access of a tenant. -/
def ownAccess (results : List StatementResult) (statementId : StatementId) (contractId : ContractId) : Option Date :=
  (results.find? fun result => result.statementId = statementId ∧ result.contractId = contractId).map
    StatementResult.deliveredAt

/-- The access recorded for a contract: its own, else that of the statement. -/
def access (state : RentState) (statementId : StatementId) (statement : RentStatement) (contractId : ContractId) :
    Option Date :=
  ownAccess state.results statementId contractId <|> statement.deliveredAt

def putDelivery (state : RentState) (statementId : StatementId) (contractId : ContractId) (deliveredAt : Date)
    (documentIds : List DocumentId) (surroundings : Surroundings) : Result RentState := do
  let statement ← statementOf state statementId
  let snapshot ← snapshotOf statement
  require (statement.status ∈ deliveryOpen) .conflict
    (some "Zugang erst nach interner Freigabe und vor der Ergebnisbuchung.")
  require (∃ row ∈ snapshot.rows, row.contractId = contractId) .resourceNotFound (some "Vertrag nicht im Ergebnis.")
  require (snapshot.createdOn ≤ deliveredAt) .validation
    (some "Der Zugang liegt vor der Berechnung; die Erstellung gilt nicht als Zugang.")
  require (∀ documentId ∈ documentIds, documentId ∈ surroundings.documents) .validation
    (some "Dokument nicht gefunden.")
  let others := state.results.filter fun result => ¬ (result.statementId = statementId ∧ result.contractId = contractId)
  pure { state with results := others ++ [{ statementId, contractId, deliveredAt }] }

end Mhvp.Billing.RentStatements
