import Mhvp.Contacts.Models

namespace Mhvp.Billing

open Accounting Lib.Calendar

inductive StatementStatus
  | draft
  | calculated
  | internallyApproved
  | boardReviewed
  | resolved
  | issued
  | due
  | posted
  | locked
  deriving DecidableEq

/-- Statement of operating costs, as far as its advances and its credits are read. -/
structure Statement where
  periodFrom : Date
  periodTo : Date
  status : StatementStatus := .draft
  resultEntryIds : List EntryId := []

end Mhvp.Billing

namespace Mhvp.Accounting

open Core

abbrev CreditPayableId := ℕ

inductive CreditMode
  | off
  | subledger
  | reclass
  deriving DecidableEq

inductive CreditSource
  | rentStatement
  | ownerStatement
  | depositSettlement
  deriving DecidableEq

inductive CreditPayableStatus
  | proposed
  | released
  | withdrawn
  deriving DecidableEq

/-- Tenant switch of the booking rule variant, with account numbers the operator enters. -/
structure CreditPayableSetting where
  mode : CreditMode := .off
  fourEyesRequired : Bool := true
  creditorAccountNumber : Option String := none
  ownerDebitAccountNumber : Option String := none
  depositDebitAccountNumber : Option String := none

/-- Proposal and release of one payable from a statement credit. -/
structure CreditPayable where
  ledgerId : LedgerId
  sourceType : CreditSource
  sourceId : ℕ
  contractId : Option ContractId
  sourceEntryId : Option EntryId
  amount : Decimal
  variant : CreditMode
  status : CreditPayableStatus := .proposed
  openItemId : Option OpenItemId := none
  reclassEntryId : Option EntryId := none
  createdBy : Option UserId := none
  releasedBy : Option UserId := none
  amountPositive : 0 < amount

/-- A credit that may become a payable. -/
structure Candidate where
  sourceType : CreditSource
  sourceId : ℕ
  contractId : Option ContractId
  ledgerId : LedgerId
  amount : Decimal
  sourceEntryId : Option EntryId := none
  debtorAccountId : Option AccountId := none

open Contacts Lib.Calendar

inductive LeadingKind
  | receivablePosting
  | dunning
  | directDebit
  | paymentOrder
  deriving DecidableEq

inductive SwitchStatus
  | requested
  | approved
  | rejected
  deriving DecidableEq

/-- Leading system of a ledger from a day on; an approved row is never changed. -/
structure LedgerLeadingSwitch where
  ledgerId : LedgerId
  propertyId : Option PropertyId := none
  kind : LeadingKind
  leadingSystem : LeadingSystem
  validFrom : Date
  status : SwitchStatus := .requested
  /-- `decided_at or created_at`, in the order of time. -/
  decidedAt : ℕ

/-- Owner of receivables and creditor of direct debits. -/
structure LegalEntity where
  name : String
  sepaCreditorId : Option String := none
  propertyId : Option PropertyId := none

namespace DirectDebit

abbrev RunId := ℕ
abbrev DebitId := ℕ

inductive RunStatus
  | draft
  | approved
  /-- Stored as a document, not handed out. -/
  | fileGenerated
  /-- Handed out; counts as use of the mandates. -/
  | exported
  | cancelled
  deriving DecidableEq

inductive SequenceType
  | frst
  | rcur
  deriving DecidableEq

/-- Bank feedback of one collection. -/
inductive DebitStatus
  | opened
  | accepted
  | rejected
  | collected
  | returned
  deriving DecidableEq

/-- A due receivable, resolved to the mandate of its payer or to the reason why it is not collected. -/
structure Candidate where
  openItemId : OpenItemId
  contractId : Option ContractId
  dueDate : Date
  amount : Decimal
  debtorName : String
  contactId : Option ContactId := none
  contactBankAccountId : Option ContactBankAccountId := none
  mandateReference : Option String := none
  mandateSignedOn : Option Date := none
  mandateScheme : Option MandateScheme := none
  sequenceType : Option SequenceType := none
  iban : Option String := none
  purpose : String := ""
  blockReason : Option String := none

structure Run where
  ledgerId : LedgerId
  legalEntityId : ℕ
  propertyBankAccountId : BankAccountId
  creditorId : String
  creditorName : String
  collectionDate : Date
  leadDays : ℤ
  messageId : String
  format : String
  status : RunStatus := .draft
  controlSum : Decimal := 0
  transactionCount : ℕ := 0
  documentId : Option DocumentId := none
  excluded : List Candidate := []
  createdBy : Option UserId := none

/-- One collection of a run with the evidence of its mandate. -/
structure Order where
  runId : RunId
  openItemId : OpenItemId
  contractId : Option ContractId
  contactId : ContactId
  contactBankAccountId : ContactBankAccountId
  mandateReference : String
  mandateSignedOn : Date
  mandateScheme : MandateScheme
  sequenceType : SequenceType
  amount : Decimal
  debtorName : String
  debtorIban : String
  purpose : String
  endToEndId : String
  dueDate : Date
  bankStatus : DebitStatus := .opened
  bankStatusReasonCode : Option String := none
  bankStatusReason : Option String := none
  collectedAmount : Option Decimal := none
  bankTransactionId : Option BankTransactionId := none
  returnTransactionId : Option BankTransactionId := none
  returnedOn : Option Date := none
  returnFeeAmount : Option Decimal := none
  returnFeeDocumentId : Option DocumentId := none
  deriving DecidableEq

/-- What two persons approve; equality stands for equal hashes. -/
structure Snapshot where
  creditorId : String
  bank : BankAccountId
  date : Date
  /-- End-to-end id, amount, IBAN, mandate and sequence type of each order. -/
  orders : List (String × Decimal × String × String × SequenceType)
  deriving DecidableEq

structure Approval where
  runId : RunId
  userId : UserId
  snapshotHash : Snapshot
  invalidated : Bool := false

end DirectDebit

end Mhvp.Accounting
