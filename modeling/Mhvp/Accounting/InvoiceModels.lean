import Mhvp.Accounting.Models

namespace Mhvp.Accounting

open Core Lib.Calendar

abbrev WorkOrderId := ℕ

inductive InvoiceKind
  | invoice
  /-- Abschlagsrechnung -/
  | partialInvoice
  /-- Schlussrechnung -/
  | finalInvoice
  | creditNote
  /-- Dauerrechnung -/
  | recurring
  deriving DecidableEq

inductive ReviewStatus
  | open'
  | partiallyReviewed
  | query
  | objected
  | closedWithReservation
  | closedOk
  deriving DecidableEq

inductive PostingStatus
  | unposted
  | posted
  | reversed
  deriving DecidableEq

inductive ReviewStep
  | completeness
  | factual
  | arithmeticTax
  deriving DecidableEq

inductive ReviewResult
  | ok
  | query
  | objected
  | reservation
  deriving DecidableEq

/-- A partial invoice deducted by a final invoice, as the body states it. -/
structure Deduction where
  invoiceId : InvoiceId
  gross : Decimal
  deriving DecidableEq

structure InvoiceLine where
  accountId : AccountId
  net : Decimal
  vatPercent : Decimal := 0
  vat : Decimal := 0
  section35aAmount : Option Decimal := none
  unitId : Option UnitId := none
  text : Option String := none

/-- The payment relevant fields a release is bound to. The hash stands for the fields it is taken over. -/
structure PaymentHash where
  gross : Decimal
  payee : ContactId
  iban : String
  due : Option Date
  number : String
  ledger : LedgerId
  deductions : List Deduction
  prepaidAmount : Option Decimal
  retentionAmount : Option Decimal
  deriving DecidableEq

/-- Tax data recorded per invoice with the proposals and warnings computed from them. -/
structure InvoiceTaxData where
  vatRate : Option Decimal := none
  inputTaxAmount : Option Decimal := none
  reverseCharge : Bool := false
  constructionService : Bool := false
  deductiblePercent : Option Decimal := none
  deductibleInputTax : Option Decimal := none
  withholdingPercent : Option Decimal := none
  withholdingProposal : Option Decimal := none
  withholdingApprovedBy : Option UserId := none
  withholdingApprovedAmount : Option Decimal := none
  warnings : List String := []

/-- Second approval above the role limit, bound to version and payment hash. -/
structure InvoiceSecondApproval where
  userId : UserId
  invoiceVersion : ℕ
  paymentHash : PaymentHash

/-- Incoming invoice. -/
structure Invoice where
  createdBy : Option UserId := none
  ledgerId : LedgerId
  creditorAccountId : Option AccountId := none
  providerContactId : ContactId := 0
  kind : InvoiceKind := .invoice
  number : String
  invoiceDate : Date := .ofYmd 1 1 1
  dueDate : Option Date := none
  serviceFrom : Option Date := none
  serviceTo : Option Date := none
  net : Decimal := 0
  vat : Decimal := 0
  gross : Decimal
  discountPercent : Option Decimal := none
  discountUntil : Option Date := none
  payeeIban : Option String := none
  payeeIbanFingerprint : Option String := none
  ibanConfirmedBy : Option UserId := none
  documentId : Option DocumentId := none
  orderReference : Option String := none
  workOrderId : Option WorkOrderId := none
  deductions : List Deduction := []
  reviewStatus : ReviewStatus := .open'
  postingStatus : PostingStatus := .unposted
  releasedBy : Option UserId := none
  releasedHash : Option PaymentHash := none
  duplicateOfId : Option InvoiceId := none
  supersedesId : Option InvoiceId := none
  referenceInvoiceId : Option InvoiceId := none
  journalEntryId : Option EntryId := none
  version : ℕ := 1
  findings : List String := []
  prepaidAmount : Option Decimal := none
  retentionAmount : Option Decimal := none
  lines : List InvoiceLine := []
  taxData : Option InvoiceTaxData := none
  secondApproval : Option InvoiceSecondApproval := none

/-- A recorded step of the review, for one version of the invoice. -/
structure InvoiceReview where
  invoiceId : InvoiceId
  step : ReviewStep
  invoiceVersion : ℕ
  result : ReviewResult
  reason : String
  scope : Option String := none
  delegatedBy : Option UserId := none
  delegationReason : Option String := none
  userId : UserId

structure ApprovalLimit where
  roleCode : String
  limitAmount : Decimal

theorem withholdingRate_inRange : (0 : Decimal) ≤ 15 ∧ (15 : Decimal) ≤ 100 := by decide +kernel

/-- Tax switches of the tenant; every switch is off by default. -/
structure AccountingTaxSettings where
  inputTaxEnabled : Bool := false
  inputTaxAccountNumber : Option String := none
  constructionWithholdingEnabled : Bool := false
  constructionWithholdingPercent : Decimal := 15
  approvalLimitsEnabled : Bool := false
  approvalLimits : List ApprovalLimit := []
  percentInRange : 0 ≤ constructionWithholdingPercent ∧ constructionWithholdingPercent ≤ 100 := by
    first | exact withholdingRate_inRange | decide +kernel

/-- VAT option and revenue key of a property. -/
structure PropertyTaxProfile where
  propertyId : PropertyId
  vatOpted : Bool := false
  revenueKeyPercent : Option Decimal := none
  keyInRange : ∀ key ∈ revenueKeyPercent, 0 ≤ key ∧ key ≤ 100 := by simp

/-- Markers of a supplier with its exemption certificate. -/
structure SupplierTaxProfile where
  contactId : ContactId
  constructionServices : Bool := false
  reverseCharge : Bool := false
  exemptionNumber : Option String := none
  exemptionValidFrom : Option Date := none
  exemptionValidTo : Option Date := none
  exemptionDocumentId : Option DocumentId := none

inductive VatOption
  | none
  | commercialNoVat
  | commercialFullVat
  | commercialReducedVat
  deriving DecidableEq

structure UnitVatOption where
  unitId : UnitId
  option : VatOption
  validFrom : Date
  validTo : Option Date := Option.none

end Mhvp.Accounting
