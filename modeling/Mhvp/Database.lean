import Mhvp.Accounting.PaymentModels
import Mhvp.Accounting.InvoiceModels
import Mhvp.Banking.Models

namespace Mhvp.Hoa

open Accounting

inductive LoanItemKind
  | disbursement
  | repayment
  | interest
  | fee
  deriving DecidableEq

/-- Loan position and the entry that carries it. -/
structure LoanItem where
  kind : LoanItemKind
  journalEntryId : Option EntryId := none

end Mhvp.Hoa

/-! The tables of one tenant, as a transaction sees them. -/

namespace Mhvp

open Accounting Banking Billing Contacts Hoa

structure Db where
  books : Books
  invoices : List Invoice := []
  orders : List PaymentOrder := []
  approvals : List PaymentApproval := []
  settings : TenantSettings := {}
  documents : List DocumentId := []
  writeOffs : List OpenItemWriteOff := []
  statements : List Statement := []
  creditPayableSetting : Option CreditPayableSetting := none
  creditPayables : List CreditPayable := []
  /-- Credits of owner statements and deposit settlements, as their services list them. -/
  otherCredits : List Candidate := []
  receivableItems : List ReceivableItem := []
  loanItems : List LoanItem := []
  bankAccounts : List PropertyBankAccount := []
  bankConfigs : List PaymentBankConfig := []
  batches : List PaymentBatch := []
  /-- Checksums of the imported bank status reports. -/
  reports : List String := []
  contacts : List Contact := []
  contactBankAccounts : List ContactBankAccount := []
  partyMembers : List PartyMember := []
  members : List Member := []
  legalEntities : List LegalEntity := []
  /-- Creditor identifier of the tenant billing settings. -/
  billingCreditorId : Option String := none
  leadingSwitches : List LedgerLeadingSwitch := []
  /-- Entries of the bank runner whose review is open (`auto_review_pending`). -/
  autoReviewPending : List EntryId := []
  creatorMayNotApprove : Bool := false
  debitRuns : List DirectDebit.Run := []
  debits : List DirectDebit.Order := []
  debitApprovals : List DirectDebit.Approval := []
  /-- Runs handed out, in the order of `exported_at`. -/
  debitExports : List DirectDebit.RunId := []
  bankTransactions : List BankTransaction := []
  bankStatements : List BankStatement := []
  postingDecisions : List PostingDecision := []
  autoPosted : List AutoPosted := []
  invoiceReviews : List InvoiceReview := []
  taxSettings : Option AccountingTaxSettings := none
  propertyTaxProfiles : List PropertyTaxProfile := []
  supplierTaxProfiles : List SupplierTaxProfile := []
  unitVatOptions : List UnitVatOption := []

end Mhvp
