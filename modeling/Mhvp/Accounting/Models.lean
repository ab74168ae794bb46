import Mhvp.Core.Decimal

namespace Mhvp.Accounting

open Core Lib.Calendar

abbrev UserId := ℕ
abbrev LedgerId := ℕ
abbrev AccountId := ℕ
abbrev EntryId := ℕ
abbrev OpenItemId := ℕ
abbrev PropertyId := ℕ
abbrev UnitId := ℕ
abbrev ContractId := ℕ
abbrev BankAccountId := ℕ
abbrev ContactId := ℕ
abbrev InvoiceId := ℕ
abbrev BankTransactionId := ℕ
abbrev DocumentId := ℕ
abbrev WriteOffId := ℕ
abbrev ReserveId := ℕ

inductive AccountCategory
  | bank
  | cash
  | reserve
  | loan
  | technical
  | revenue
  | cost
  | debtor
  | creditor
  | transit
  | tax
  | openingBalance
  deriving DecidableEq

inductive EntryKind
  | receivable
  | invoice
  | custom
  | bankTransfer
  | costTransfer
  | openingBalance
  | debtorPayment
  | creditorPayment
  | reversal
  | statementResult
  | dunningFee
  | interest
  | creditReclass
  deriving DecidableEq

inductive EntrySource
  | manual
  | autoReceivable
  | bankImport
  | ai
  | statement
  | migration
  deriving DecidableEq

inductive ReversalReason
  | inputError
  | wrongAssignment
  | wrongAmount
  | wrongDate
  | duplicate
  | bankReturn
  | runReversal
  | automationError
  | other
  deriving DecidableEq

inductive OpenItemKind
  | receivable
  | payable
  deriving DecidableEq

inductive LeadingSystem
  | immoware24
  | mhvp
  deriving DecidableEq

inductive VatMode
  | none
  /-- VAT option exercised for parts (commercial units). -/
  | option
  deriving DecidableEq

theorem january_inRange : 1 ≤ 1 ∧ 1 ≤ 12 := by decide

/-- One ledger per legal entity (`fiscal_year_start_month_range`). -/
structure Ledger where
  legalEntityId : ℕ := 0
  propertyId : Option PropertyId := none
  fiscalYearStartMonth : ℕ := 1
  lockedUntil : Option Date := none
  leadingSystem : LeadingSystem := .immoware24
  migrationCutoff : Option Date := none
  vatMode : VatMode := .none
  startMonthInRange : 1 ≤ fiscalYearStartMonth ∧ fiscalYearStartMonth ≤ 12 := by
    first | exact january_inRange | decide
  deriving DecidableEq

/-- Block of the annual statement an account belongs to. -/
inductive StatementKind
  | hoaFee
  | reserve
  | operatingCosts
  | specialLevy
  | heating
  | none
  deriving DecidableEq

structure LedgerAccount where
  ledgerId : LedgerId
  number : String
  name : String := ""
  category : AccountCategory
  active : Bool := true
  propertyBankAccountId : Option BankAccountId := none
  contractId : Option ContractId := none
  contactId : Option ContactId := none
  statementKind : StatementKind := .none

structure JournalNumberCounter where
  ledgerId : LedgerId
  fiscalYear : ℕ
  lastNumber : ℕ

/-- A line moves one side of one account (`one_side_positive`). -/
structure JournalLine where
  accountId : AccountId
  debit : Decimal
  credit : Decimal
  text : Option String := none
  vatPercent : Option Decimal := none
  vatAmount : Option Decimal := none
  netAmount : Option Decimal := none
  unitId : Option UnitId := none
  costCenter : Option String := none
  propertyId : Option PropertyId := none
  oneSidePositive : (0 < debit ∧ credit = 0) ∨ (0 < credit ∧ debit = 0)
  deriving DecidableEq

theorem hundred_debited : (0 : Decimal) < 100 ∧ (0 : Decimal) = 0 ∨ (0 : Decimal) < 0 ∧ (100 : Decimal) = 0 :=
  Or.inl ⟨by decide +kernel, rfl⟩

theorem hundred_credited : (0 : Decimal) < 0 ∧ (100 : Decimal) = 0 ∨ (0 : Decimal) < 100 ∧ (0 : Decimal) = 0 :=
  Or.inr ⟨by decide +kernel, rfl⟩

/-- One planned settlement of a draft. -/
structure PlanIn where
  openItemId : OpenItemId
  amount : Decimal
  deriving DecidableEq

structure Posting where
  fiscalYear : ℕ
  number : ℕ
  postedBy : Option UserId
  deriving DecidableEq

/-- An entry carries a number exactly when it is posted (`number_when_posted`). -/
inductive EntryStatus
  | draft
  | posted (posting : Posting)
  deriving DecidableEq

/-- Reference of a reversal to the entry it reverses. -/
structure ReversalOf where
  reversesId : EntryId
  reversalReason : String
  reversalReasonCode : ReversalReason
  deriving DecidableEq

/-- The columns the writer of a draft sets. -/
structure EntryHeader where
  createdBy : Option UserId := none
  bookingDate : Date
  valueDate : Option Date := none
  dueDate : Option Date := none
  accrualDate : Option Date := none
  text : String
  kind : EntryKind
  reference : Option String := none
  bankTransactionId : Option BankTransactionId := none
  contractId : Option ContractId := none
  source : EntrySource := .manual
  idempotencyKey : Option String := none
  approvedBy : Option UserId := none
  deriving DecidableEq

/-- A reversal names the entry it reverses (`reversal_ref`). -/
structure JournalEntry extends EntryHeader where
  ledgerId : LedgerId
  status : EntryStatus := .draft
  reverses : Option ReversalOf := none
  reversedById : Option EntryId := none
  settlementPlan : List PlanIn := []
  lines : List JournalLine
  reversalRef : kind = .reversal → reverses.isSome
  deriving DecidableEq

structure OpenItem where
  ledgerId : LedgerId
  accountId : AccountId
  journalEntryId : EntryId
  kind : OpenItemKind
  bookingDate : Date
  dueDate : Date
  amount : Decimal
  contractId : Option ContractId := none
  noticeReceivedOn : Option Date := none
  writtenOff : Bool := false
  writtenOffOn : Option Date := none
  amountPositive : 0 < amount

structure OpenItemSettlement where
  openItemId : OpenItemId
  journalEntryId : EntryId
  amount : Decimal
  date : Date
  amountNonZero : amount ≠ 0

inductive WriteOffStatus
  | proposed
  | approved
  | rejected
  deriving DecidableEq

/-- Write off of an open item as its own procedure; a proposal has no effect. -/
structure OpenItemWriteOff where
  openItemId : OpenItemId
  status : WriteOffStatus := .proposed
  effectiveOn : Date
  amount : Decimal
  reason : String
  documentId : Option DocumentId := none
  proposedBy : Option UserId := none
  decidedBy : Option UserId := none
  decisionNote : Option String := none
  amountPositive : 0 < amount
  deriving DecidableEq

inductive ItemStatus
  | ready
  | manual
  | blocked
  | posted
  | reversed
  deriving DecidableEq

/-- One receivable of a run; a posted one names its entry. -/
structure ReceivableItem where
  contractId : ContractId
  periodMonth : Date
  paymentTypeCode : String
  amount : Decimal
  status : ItemStatus
  journalEntryId : Option EntryId := none
  reserveId : Option ReserveId := none

inductive LockMode
  | ledgerOnly
  | objectPeriod
  deriving DecidableEq

/-- Lock of one property for a period; a released lock keeps its row. -/
structure PeriodLock where
  ledgerId : LedgerId
  propertyId : PropertyId
  periodFrom : Date
  periodTo : Date
  released : Bool := false
  deriving DecidableEq

structure PropertyUnit where
  propertyId : PropertyId

structure Contract where
  propertyId : PropertyId
  unitId : Option UnitId := none
  number : String := ""
  legalEntityId : ℕ := 0
  partyId : ℕ := 0

/-- Switches of the tenant the write off procedure reads. -/
structure TenantSettings where
  writeOffApprovalEnabled : Bool := false
  writeOffPosting : Bool := false
  writeOffCounterAccount : Option String := none

/-- The tables the ledger services read and write. -/
structure Books where
  ledgers : List Ledger := []
  accounts : List LedgerAccount := []
  properties : List PropertyId := []
  units : List PropertyUnit := []
  contracts : List Contract := []
  lockMode : Option LockMode := none
  periodLocks : List PeriodLock := []
  entries : List JournalEntry := []
  openItems : List OpenItem := []
  settlements : List OpenItemSettlement := []
  counters : List JournalNumberCounter := []

/-- A ledger database before its first draft. Accounts, units and locks are arbitrary. -/
structure Books.Fresh (books : Books) : Prop where
  entries : books.entries = []
  openItems : books.openItems = []
  settlements : books.settlements = []
  counters : books.counters = []

def JournalEntry.isPosted (entry : JournalEntry) : Prop := entry.status ≠ .draft

instance : Decidable (JournalEntry.isPosted entry) :=
  inferInstanceAs (Decidable (entry.status ≠ .draft))

def JournalEntry.reversesId (entry : JournalEntry) : Option EntryId :=
  entry.reverses.map ReversalOf.reversesId

/-- Debit minus credit of a line. -/
def JournalLine.net (line : JournalLine) : Decimal := line.debit - line.credit

end Mhvp.Accounting
