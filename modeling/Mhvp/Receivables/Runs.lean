import Mhvp.Accounting.BookSteps
import Mhvp.Receivables.Compute

/-!
Receivable runs: a preview keeps what was computed, posting books exactly the ready items of an unchanged preview, and
a reversal takes the entries of the run back.
-/

namespace Mhvp.Receivables

open Core Accounting Lib.Calendar
open Hoa.Levies (DebtorAccountReservation)

inductive RunStatus
  | preview
  | posted
  | reversed
  deriving DecidableEq

/-- Row of `receivable_run`; totals are left out, of the calculation path the rules are kept. -/
structure ReceivableRun where
  periodMonth : Date
  scope : Scope
  scopeId : Option ℕ := none
  previewHash : List DigestRow
  rules : ReceivableRules
  status : RunStatus := .preview
  createdBy : Option UserId := none
  postedBy : Option UserId := none

structure ReceivablesState where
  db : Db
  basis : Basis := {}
  runs : List ReceivableRun := []
  items : List RunItem := []

/-- Items of a run with a status, in their order. -/
def itemIds (items : List RunItem) (runId : RunId) (status : ItemStatus) : List ItemId :=
  items.zipIdx.filterMap fun item => if item.1.runId = runId ∧ item.1.status = status then some item.2 else none

def setRunStatus (runs : List ReceivableRun) (runId : RunId) (status : RunStatus) (postedBy : Option UserId) :
    List ReceivableRun :=
  runs.modify runId fun run => { run with status, postedBy }

def createPreview (state : ReceivablesState) (userId : Option UserId) (period : Date) (scope : Scope)
    (scopeId : Option ℕ) : ReceivablesState :=
  let first := monthFirst period
  let computed := compute state.db state.basis state.items first scope scopeId
  let run : ReceivableRun :=
    { periodMonth := first, scope, scopeId, previewHash := digest computed, rules := state.basis.rules,
      createdBy := userId }
  { state with
    runs := state.runs ++ [run]
    items := state.items ++ computed.map fun item =>
      { item with runId := state.runs.length, periodMonth := first : RunItem } }

def debtorAccount (books : Books) (ledgerId : LedgerId) (number : String) : Option AccountId :=
  (books.accounts.zipIdx.find? fun account =>
    account.1.ledgerId = ledgerId ∧ account.1.number = number).map Prod.snd

/-- Reserved debtor numbers of the entity that have no account in the ledger yet. -/
def syncDebtorAccounts (books : Books) (reservations : List DebtorAccountReservation) (ledgerId : LedgerId)
    (ledger : Ledger) : Books :=
  let existing := (books.accounts.filter fun account => account.ledgerId = ledgerId).map LedgerAccount.number
  let missing := reservations.filter fun reservation =>
    reservation.legalEntityId = ledger.legalEntityId ∧ reservation.number ∉ existing
  let added := missing.map fun reservation : DebtorAccountReservation =>
    ({ ledgerId, number := reservation.number, name := clip (reservation.unitNumber ++ " " ++ reservation.partyName) 200,
       category := .debtor } : LedgerAccount)
  { books with accounts := books.accounts ++ added }

/-- The debtor account of a contract, after adding the missing ones where there is none. -/
def debtorFor (books : Books) (basis : Basis) (ledgerId : LedgerId) (ledger : Ledger) (contract : Contract)
    (terms : ContractTerms) : Result (AccountId × Books) :=
  let number := ((terms.debtorAccountId.bind (basis.reservations[·]?)).map DebtorAccountReservation.number).getD ""
  match debtorAccount books ledgerId number with
  | some account => pure (account, books)
  | none => do
      let synced := syncDebtorAccounts books basis.reservations ledgerId ledger
      let account ← orRefuse (debtorAccount synced ledgerId number) .conflict
        (some ("Debitorenkonto für Vertrag " ++ contract.number ++ " fehlt."))
      pure (account, synced)

def isoText (date : Date) : String :=
  padded 4 date.year ++ "-" ++ padded 2 date.month ++ "-" ++ padded 2 date.day

def itemHeader (run : ReceivableRun) (runId : RunId) (userId : Option UserId) (item : RunItem) (contract : Contract) :
    EntryHeader where
  createdBy := userId
  bookingDate := item.dueDate.getD run.periodMonth
  dueDate := item.dueDate
  accrualDate := some run.periodMonth
  text := "Sollstellung " ++ padded 2 run.periodMonth.month ++ "/" ++ padded 4 run.periodMonth.year ++ " " ++
    item.paymentTypeCode ++ " Vertrag " ++ contract.number
  kind := .receivable
  contractId := some item.contractId
  source := .autoReceivable
  idempotencyKey := some ("receivable:" ++ toString runId ++ ":" ++ toString item.contractId ++ ":" ++
    item.paymentTypeCode ++ ":" ++ isoText run.periodMonth)

/-- Debtor against revenue; tax of the item goes to its own account. -/
def itemLines (basis : Basis) (item : RunItem) (ledgerId : LedgerId) (debtor : AccountId) : Result (List LineIn) := do
  let revenue ← orRefuse (basis.account ledgerId item.paymentTypeCode) .internal
  let charged : LineIn := { accountId := debtor, debit := item.amount, credit := 0 }
  match item.vatAmount.filter (· ≠ 0) with
  | none => pure [charged, { accountId := revenue, debit := 0, credit := item.amount }]
  | some vat => do
      let tax ← orRefuse (basis.account ledgerId vatOutputCode) .internal
      pure [charged,
        { accountId := revenue, debit := 0, credit := item.netAmount.getD 0, vatPercent := some item.vatPercent,
          vatAmount := item.vatAmount, netAmount := item.netAmount },
        { accountId := tax, debit := 0, credit := vat }]

/-- Both are the posted item of one contract, payment type and month (`uq_receivable_item_posted`). -/
def SameComponent (first second : RunItem) : Prop :=
  first.status = .posted ∧ second.status = .posted ∧ first.contractId = second.contractId ∧
    first.paymentTypeCode = second.paymentTypeCode ∧ first.periodMonth = second.periodMonth

instance : Decidable (SameComponent first second) := by unfold SameComponent; infer_instance

/-- Post one ready item of the run. -/
def postItem (run : ReceivableRun) (runId : RunId) (userId : Option UserId) (state : ReceivablesState)
    (itemId : ItemId) : Result ReceivablesState := do
  let item ← orRefuse state.items[itemId]? .internal
  let ledgerId ← orRefuse item.ledgerId .conflict
  let ledger ← orRefuse state.db.books.ledgers[ledgerId]? .conflict
  let (contract, terms) ← orRefuse (contractOf state.db.books state.basis item.contractId) .conflict
  let (debtor, books) ← debtorFor state.db.books state.basis ledgerId ledger contract terms
  let lines ← itemLines state.basis item ledgerId debtor
  let (entryId, drafted) ← writeDraft books ledgerId none (itemHeader run runId userId item contract) none lines []
  let posted ← post drafted ledgerId entryId userId
  let marked := { item with status := .posted, journalEntryId := some entryId }
  require (∀ other ∈ state.items, ¬ SameComponent other marked) .conflict
    (some "Sollstellung für diesen Zeitraum wurde bereits gebucht.")
  pure { state with db := { state.db with books := posted }, items := state.items.set itemId marked }

/-- Post exactly the previewed ready items; a changed basis voids the preview. -/
def postRun (state : ReceivablesState) (runId : RunId) (userId : Option UserId) (gateOpen : Bool) :
    Result ReceivablesState := do
  let run ← orRefuse state.runs[runId]? .resourceNotFound
  require (run.rules.enabled → gateOpen) .releaseGateClosed
  if run.status = .posted then pure state  -- repeated click
  else do
    require (run.status = .preview) .conflict (some "Der Lauf ist storniert.")
    require (digest (compute state.db state.basis state.items run.periodMonth run.scope run.scopeId) = run.previewHash)
      .conflict (some "Die Grundlagen haben sich geändert. Bitte neue Vorschau erstellen.")
    let posted ← (itemIds state.items runId .ready).foldlM (postItem run runId userId) state
    pure { posted with runs := setRunStatus posted.runs runId .posted userId }

def reverseItem (userId : Option UserId) (reason : String) (bookingDate : Date) (state : ReceivablesState)
    (itemId : ItemId) : Result ReceivablesState := do
  let item ← orRefuse state.items[itemId]? .internal
  let entryId ← orRefuse item.journalEntryId .conflict
  let ledgerId ← orRefuse item.ledgerId .conflict
  let (_, db) ← reverse state.db ledgerId entryId userId reason bookingDate .runReversal
  pure { state with db, items := state.items.set itemId { item with status := .reversed } }

def reverseRun (state : ReceivablesState) (runId : RunId) (userId : Option UserId) (reason : String)
    (bookingDate : Date) : Result ReceivablesState := do
  let run ← orRefuse state.runs[runId]? .resourceNotFound
  require (run.status = .posted) .conflict (some "Nur gebuchte Läufe können storniert werden.")
  let reversed ← (itemIds state.items runId .posted).foldlM (reverseItem userId reason bookingDate) state
  pure { reversed with runs := setRunStatus reversed.runs runId .reversed run.postedBy }

inductive ReceivableCall
  | preview (userId : Option UserId) (period : Date) (scope : Scope) (scopeId : Option ℕ)
  | post (runId : RunId) (userId : Option UserId) (gateOpen : Bool)
  | reverse (runId : RunId) (userId : Option UserId) (reason : String) (bookingDate : Date)
  /-- The journal and the write offs. -/
  | book (call : WriteOffCall)
  /-- Contracts, payments, schedules, accounts of payment types, rules and leading systems change. -/
  | setBasis (basis : Basis) (contracts : List Contract) (switches : List LedgerLeadingSwitch)

/-- The items as other services see them. -/
def ReceivablesState.published (state : ReceivablesState) : ReceivablesState :=
  { state with db := { state.db with receivableItems := state.items.map RunItem.row } }

def serve (state : ReceivablesState) : ReceivableCall → Result ReceivablesState
  | .preview userId period scope scopeId => pure (createPreview state userId period scope scopeId)
  | .post runId userId gateOpen => postRun state runId userId gateOpen
  | .reverse runId userId reason bookingDate => reverseRun state runId userId reason bookingDate
  | .book call => do
      let db ← writeOffStep state.db call
      pure { state with db }
  | .setBasis basis contracts switches =>
    pure { state with basis, db := { state.db with
      books := { state.db.books with contracts }, leadingSwitches := switches } }

def receivableStep (state : ReceivablesState) (call : ReceivableCall) : Result ReceivablesState := do
  let next ← serve state call
  pure next.published

/-- An office before its first run and its first entry. -/
structure ReceivablesState.Fresh (state : ReceivablesState) : Prop where
  books : state.db.books.Fresh
  runs : state.runs = []
  items : state.items = []

end Mhvp.Receivables
