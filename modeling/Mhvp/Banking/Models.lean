import Mhvp.Contacts.Models
import Mhvp.Core.Clock

namespace Mhvp.Banking

open Core Accounting Contacts Lib.Calendar

/-- Bank account of a legal entity; deposit accounts are segregated. -/
structure PropertyBankAccount where
  legalEntityId : ℕ
  iban : String
  holder : String
  segregated : Bool := false

/-- Ways of handing a payment file to the bank. -/
inductive Channel
  /-- Uploaded by a person. -/
  | file
  | fints
  | ebics
  deriving DecidableEq

/-- Formats, limits and lead days agreed with the bank of one ordering account. -/
structure PaymentBankConfig where
  propertyBankAccountId : BankAccountId
  pain001Version : String := "pain.001.001.09"
  pain008Version : String := "pain.008.001.02"
  singleOrderLimit : Option Decimal := none
  dailyLimit : Option Decimal := none
  ddLeadDaysFrst : Option ℕ := none
  ddLeadDaysRcur : Option ℕ := none
  submissionChannel : Channel := .file
  deriving DecidableEq

abbrev RuleId := ℕ

inductive TransactionStatus
  | new
  /-- Possible duplicate without bank reference. -/
  | needsReview
  | proposed
  | booked
  | ignored
  | split
  deriving DecidableEq

/-- Account, day, amount, purpose, end-to-end id and counterpart IBAN; equality stands for equal hashes. -/
structure ContentHash where
  iban : String
  bookingDate : Date
  amount : Decimal
  purpose : String
  endToEndId : String
  counterpartIban : String
  deriving DecidableEq

/-- Movement on an own bank account; credits are positive. -/
structure BankTransaction where
  propertyBankAccountId : BankAccountId
  legalEntityId : ℕ
  bankReference : Option String := none
  bookingDate : Date
  valueDate : Option Date := none
  amount : Decimal
  currency : String := "EUR"
  counterpartName : Option String := none
  counterpartIban : Option String := none
  counterpartBic : Option String := none
  purpose : Option String := none
  endToEndId : Option String := none
  mandateReference : Option String := none
  creditorId : Option String := none
  hash : ContentHash
  possibleDuplicateOfId : Option BankTransactionId := none
  transferPairId : Option BankTransactionId := none
  status : TransactionStatus := .new
  journalEntryId : Option EntryId := none
  matchedRuleId : Option RuleId := none

abbrev SyncRunId := ℕ

/-- Reference of a stored statement: the one of the file, else one made from the id of the import run. -/
inductive StatementRef
  | given (text : String)
  | ofRun (run : SyncRunId)
  deriving DecidableEq

structure BankStatement where
  propertyBankAccountId : BankAccountId
  statementRef : StatementRef
  deriving DecidableEq

/-- States of one decision round of a movement; closed rows are never changed. -/
inductive DecisionStatus
  | pending
  | acceptedUnchanged
  | modified
  | rejected
  | ignored
  /-- Written by the automatic runner only. -/
  | autoPosted
  | expired
  | reversed
  deriving DecidableEq

structure PostingDecision where
  bankTransactionId : BankTransactionId
  status : DecisionStatus := .pending
  decidedAt : Option Instant := none
  journalEntryId : Option EntryId := none
  deriving DecidableEq

/-- Event `bank_transaction.auto_posted`, with the run that posted. -/
structure AutoPosted where
  bankTransactionId : BankTransactionId
  ruleId : RuleId
  decidedAt : Instant
  run : ℕ

abbrev OrderId := ℕ
abbrev BatchId := ℕ

inductive OrderStatus
  | draft
  | approved
  | exported
  | submitted
  | acceptedByBank
  | executed
  | partiallyExecuted
  | rejected
  | returned
  | cancelled
  deriving DecidableEq

structure PaymentOrder where
  ledgerId : LedgerId
  propertyBankAccountId : BankAccountId
  invoiceId : Option InvoiceId := none
  openItemId : Option OpenItemId := none
  amount : Decimal
  discount : Decimal := 0
  counterpartName : String
  counterpartIban : String
  purpose : String
  endToEndId : String := ""
  executionDate : Date
  status : OrderStatus := .draft
  executedAmount : Option Decimal := none
  batchId : Option BatchId := none
  bankTransactionId : Option BankTransactionId := none
  journalEntryId : Option EntryId := none
  contactBankAccountId : Option ContactBankAccountId := none
  payoutReason : Option String := none
  bankStatusReasonCode : Option String := none

/-- The payment relevant fields an approval is bound to; equality stands for equal hashes. -/
structure Snapshot where
  amount : Decimal
  payee : String
  iban : String
  date : Date
  invoice : Option InvoiceId
  bank : BankAccountId
  purpose : String
  payeeAccount : Option ContactBankAccountId
  deriving DecidableEq

def snapshot (order : PaymentOrder) : Snapshot where
  amount := order.amount
  payee := order.counterpartName
  iban := order.counterpartIban
  date := order.executionDate
  invoice := order.invoiceId
  bank := order.propertyBankAccountId
  purpose := order.purpose
  payeeAccount := order.contactBankAccountId

/-- One feedback of the bank on a file. -/
structure BankResponse where
  status : String
  reason : Option String
  moment : Instant

/-- One payment file. -/
structure PaymentBatch where
  propertyBankAccountId : BankAccountId
  messageId : String
  format : String
  status : String := "file_generated"
  transactionCount : ℕ
  controlSum : Decimal
  /-- The file was handed out at least once. -/
  downloaded : Bool := false
  bankResponse : List BankResponse := []
  submissionChannel : Option Channel := none
  submissionReference : Option String := none
  submittedAt : Option Instant := none
  submittedBy : Option UserId := none

structure PaymentApproval where
  orderId : OrderId
  userId : UserId
  snapshotHash : Snapshot
  invalidated : Bool := false

end Mhvp.Banking
