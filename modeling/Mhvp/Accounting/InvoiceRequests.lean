import Mhvp.Accounting.Invoices
import Mhvp.Accounting.Routers

namespace Mhvp.Accounting

open Core Banking Contacts Lib.Calendar

structure InvoiceIn where
  ledgerId : LedgerId
  providerContactId : ContactId
  kind : InvoiceKind := .invoice
  number : String
  invoiceDate : Date
  dueDate : Option Date := none
  serviceFrom : Option Date := none
  serviceTo : Option Date := none
  net : Decimal
  vat : Decimal
  gross : Decimal
  discountPercent : Option Decimal := none
  discountUntil : Option Date := none
  payeeIban : Option String := none
  documentId : Option DocumentId := none
  orderReference : Option String := none
  workOrderId : Option WorkOrderId := none
  deductions : List Deduction := []
  supersedesId : Option InvoiceId := none
  referenceInvoiceId : Option InvoiceId := none
  prepaidAmount : Option Decimal := none
  retentionAmount : Option Decimal := none
  lines : List InvoiceLine
  numberLength : 1 ≤ number.length ∧ number.length ≤ 100 := by decide
  deductionCount : deductions.length ≤ 50 := by decide
  lineCount : 1 ≤ lines.length ∧ lines.length ≤ 200 := by decide

/-- What a reviewer confirms of an invoice read from a document. -/
structure InvoiceApplyIn where
  ledgerId : LedgerId
  providerContactId : ContactId
  number : String
  invoiceDate : Date
  dueDate : Option Date := none
  net : Decimal
  vat : Decimal
  gross : Decimal
  discountPercent : Option Decimal := none
  discountUntil : Option Date := none
  payeeIban : Option String := none
  documentId : Option DocumentId := none
  orderReference : Option String := none
  currency : String := "EUR"
  lines : List InvoiceLine

structure InvoiceReviewIn where
  step : ReviewStep
  result : ReviewResult
  reason : String
  scope : Option String := none
  delegatedBy : Option UserId := none
  delegationReason : Option String := none

structure InvoiceTaxIn where
  vatRate : Option Decimal := none
  inputTaxAmount : Option Decimal := none
  reverseCharge : Bool := false
  constructionService : Bool := false

namespace Invoices

def invoiceOf (db : Db) (invoiceId : InvoiceId) : Result Invoice := orRefuse db.invoices[invoiceId]? .resourceNotFound

def setInvoice (db : Db) (invoiceId : InvoiceId) (invoice : Invoice) : Db :=
  { db with invoices := db.invoices.set invoiceId invoice }

/-- Column of a line; amounts are stored in cents. -/
def stored (line : InvoiceLine) : InvoiceLine :=
  { line with
    net := roundCents line.net
    vat := roundCents line.vat
    section35aAmount := line.section35aAmount.map roundCents }

/-- Column values of the body over an invoice; a credit note needs its original. -/
def invoicePayload (invoice : Invoice) (body : InvoiceIn) : Result Invoice := do
  require (body.kind = .creditNote → body.referenceInvoiceId ≠ none) .validation
    (some "Eine Gutschrift braucht den Bezug zur Ursprungsrechnung.")
  require (∀ first ∈ body.serviceFrom, ∀ last ∈ body.serviceTo, first ≤ last) .validation
    (some "Leistungszeitraum: Ende liegt vor dem Beginn.")
  pure { invoice with
    ledgerId := body.ledgerId
    providerContactId := body.providerContactId
    kind := body.kind
    number := body.number
    invoiceDate := body.invoiceDate
    dueDate := body.dueDate
    serviceFrom := body.serviceFrom
    serviceTo := body.serviceTo
    net := roundCents body.net
    vat := roundCents body.vat
    gross := roundCents body.gross
    discountPercent := body.discountPercent
    discountUntil := body.discountUntil
    documentId := body.documentId
    orderReference := body.orderReference
    workOrderId := body.workOrderId
    deductions := body.deductions
    supersedesId := body.supersedesId
    referenceInvoiceId := body.referenceInvoiceId
    prepaidAmount := body.prepaidAmount.map roundCents
    retentionAmount := body.retentionAmount.map roundCents }

/-- A new row; the payload fills its other columns. -/
def blank (createdBy : Option UserId) (body : InvoiceIn) : Invoice where
  createdBy := createdBy
  ledgerId := body.ledgerId
  number := body.number
  gross := body.gross

def createInvoice (db : Db) (principal : Principal) (body : InvoiceIn) (hints : List String) : Result Db := do
  let _ ← ledgerOf db.books body.ledgerId
  let row ← invoicePayload (blank principal.userId body) body
  let invoice ← write db db.invoices.length row (body.lines.map stored) body.payeeIban hints
  pure { db with invoices := db.invoices ++ [invoice] }

/-- The invoice of a document, as the reviewer confirmed it; an open draft, nothing is posted. -/
def applyInvoice (db : Db) (principal : Principal) (data : InvoiceApplyIn) (hints : List String) : Result Db := do
  let currency := data.currency
  require (data.currency.toList.map Char.toUpper = ['E', 'U', 'R']) .validation
    (some (s!"Fremdwährung ({currency}) wird nicht unterstützt: die Rechnung wurde " ++
      "nicht angelegt. Betrag in EUR prüfen und den Beleg erneut erfassen."))
  let row : Invoice :=
    { createdBy := principal.userId, ledgerId := data.ledgerId, providerContactId := data.providerContactId,
      number := data.number, invoiceDate := data.invoiceDate, dueDate := data.dueDate,
      net := roundCents data.net, vat := roundCents data.vat, gross := roundCents data.gross,
      discountPercent := data.discountPercent, discountUntil := data.discountUntil,
      documentId := data.documentId, orderReference := data.orderReference }
  let invoice ← write db db.invoices.length row (data.lines.map stored) data.payeeIban hints
  pure { db with invoices := db.invoices ++ [invoice] }

/-- A change makes a new version; reviews refer to the old one. A changed IBAN loses its confirmation. -/
def updateInvoice (db : Db) (invoiceId : InvoiceId) (body : InvoiceIn) (ifMatch : Option ℕ) (hints : List String) :
    Result Db := do
  let invoice ← invoiceOf db invoiceId
  require (∀ version ∈ ifMatch, version = invoice.version) .versionConflict
  require (invoice.postingStatus = .unposted) .accPostedImmutable
    (some "Gebuchte Rechnungen werden per Storno korrigiert.")
  let row ← invoicePayload invoice body
  let written ← write db invoiceId { row with version := invoice.version + 1, reviewStatus := .open' }
    (body.lines.map stored) body.payeeIban hints
  let changed := if written.payeeIbanFingerprint = invoice.payeeIbanFingerprint then written
    else evaluate db invoiceId hints { written with ibanConfirmedBy := none }
  pure (setInvoice db invoiceId changed)

def reviewInvoice (db : Db) (invoiceId : InvoiceId) (principal : Principal) (body : InvoiceReviewIn) : Result Db := do
  let invoice ← invoiceOf db invoiceId
  require (invoice.postingStatus = .unposted) .conflict (some "Die Rechnung ist bereits gebucht.")
  let userId ← orRefuse principal.userId .forbidden
  require (body.delegatedBy.isNone = body.delegationReason.isNone) .validation
    (some "Delegation braucht delegierende Person und Vertretungsgrund.")
  require (body.delegatedBy ≠ some userId) .validation
    (some "Eine Person kann nicht an sich selbst delegieren.")
  let review : InvoiceReview :=
    { invoiceId, step := body.step, invoiceVersion := invoice.version, result := body.result, reason := body.reason,
      scope := body.scope, delegatedBy := body.delegatedBy, delegationReason := body.delegationReason, userId }
  let reviews := db.invoiceReviews ++ [review]
  let status := aggregate (reviews.filter fun row => row.invoiceId = invoiceId) invoice.version
  pure (setInvoice { db with invoiceReviews := reviews } invoiceId { invoice with reviewStatus := status })

/-- A changed IBAN is confirmed by a person other than the one who entered the invoice. -/
def confirmIban (db : Db) (invoiceId : InvoiceId) (principal : Principal) (hints : List String) : Result Db := do
  let invoice ← invoiceOf db invoiceId
  require (invoice.payeeIban ≠ none) .validation (some "Keine IBAN auf der Rechnung.")
  require (invoice.createdBy ≠ principal.userId ∧ principal.isPlatformAdmin = false) .gateFourEyes
    (some "Die Bestätigung muss eine andere Person vornehmen.")
  pure (setInvoice db invoiceId (evaluate db invoiceId hints { invoice with ibanConfirmedBy := principal.userId }))

/-- Release by a second person, bound to the payment relevant fields. -/
def releaseInvoice (db : Db) (invoiceId : InvoiceId) (principal : Principal) : Result Db := do
  let invoice ← invoiceOf db invoiceId
  require (invoice.reviewStatus ∈ closed) .conflict (some "Die Prüfung ist nicht abgeschlossen.")
  require (invoice.createdBy ≠ principal.userId ∧ principal.isPlatformAdmin = false) .gateFourEyes
    (some "Die Freigabe muss eine andere Person erteilen.")
  require (¬ invoice.findings.any Payments.ibanFinding) .conflict (some "Abweichende IBAN ist nicht bestätigt.")
  let released := { invoice with releasedBy := principal.userId, releasedHash := some (paymentHash invoice) }
  pure (setInvoice db invoiceId (InvoiceTax.markSecondApprovalRequired released
    (InvoiceTax.secondApprovalRequired db invoice principal.roles)))

def secondApproval (db : Db) (invoiceId : InvoiceId) (principal : Principal) : Result Db := do
  let invoice ← invoiceOf db invoiceId
  require (principal.isPlatformAdmin = false) .gateFourEyes (some "Die Freigabe muss eine andere Person erteilen.")
  let userId ← orRefuse principal.userId .gateFourEyes (some "Freigabe nur durch eine Person.")
  let approved ← InvoiceTax.addSecondApproval db invoice userId
  pure (setInvoice db invoiceId approved)

/-- Header of the entry of an invoice. -/
def entryHeader (invoice : Invoice) (userId : Option UserId) : EntryHeader where
  createdBy := userId
  bookingDate := invoice.invoiceDate
  dueDate := invoice.dueDate
  accrualDate := invoice.serviceFrom
  text := clip ("Rechnung " ++ invoice.number) 500
  kind := .invoice
  reference := some invoice.number

/-- What the review, the release and the checks of the books allow to be posted. -/
def assertPostable (db : Db) (invoiceId : InvoiceId) (invoice : Invoice) : Result Unit := do
  require (invoice.postingStatus ≠ .posted) .conflict (some "Die Rechnung ist bereits gebucht.")
  require (invoice.reviewStatus ∈ closed) .conflict (some "Die Prüfung ist nicht abgeschlossen (PÜ05).")
  require (invoice.releasedBy ≠ none ∧ invoice.releasedHash = some (paymentHash invoice)) .gateFourEyes
    (some "Rechnungsfreigabe fehlt oder ist durch Änderung entwertet.")
  require (invoice.duplicateOfId = none) .conflict (some "Mögliche Doppelrechnung ist ungeklärt.")
  -- a credit note posts only against its posted original and within its amount
  let blocking := if invoice.referenceInvoiceId = none then [] else referenceFindings db invoiceId invoice
  let reasons := "; ".intercalate blocking
  require (blocking = []) .conflict (some s!"{reasons}.")
  let ledger ← orRefuse db.books.ledgers[invoice.ledgerId]? .resourceNotFound
  require (ledger.vatMode = .none ∨ invoice.vat = 0) .accVatNotReleased
    (some "Vorsteuerbehandlung für diesen Buchungskreis ist nicht freigegeben (M14-02).")
  InvoiceTax.assertPostingAllowed db invoice

/-- Post the invoice: cost against the creditor, with an open item. -/
def postInvoice (db : Db) (invoiceId : InvoiceId) (principal : Principal) : Result Db := do
  let invoice ← invoiceOf db invoiceId
  assertPostable db invoiceId invoice
  let (creditorId, books) ← creditorAccount db invoice.ledgerId invoice.providerContactId
  let total ← expenseAmount db invoice
  let (entryId, drafted) ← writeDraft books invoice.ledgerId none (entryHeader invoice principal.userId) none
    (journalLines invoice creditorId total) []
  let posted ← post drafted invoice.ledgerId entryId principal.userId
  pure (setInvoice { db with books := posted } invoiceId
    { invoice with
      creditorAccountId := some creditorId
      postingStatus := .posted
      journalEntryId := some entryId })

def withTaxData (invoice : Invoice) (data : InvoiceTaxData) : Invoice := { invoice with taxData := some data }

/-- Reading the tax data recomputes the proposals. -/
def getInvoiceTax (db : Db) (invoiceId : InvoiceId) : Result Db := do
  let invoice ← invoiceOf db invoiceId
  pure (setInvoice db invoiceId
    (withTaxData invoice (InvoiceTax.refreshProposals db invoice (InvoiceTax.taxDataOf invoice))))

def putInvoiceTax (db : Db) (invoiceId : InvoiceId) (body : InvoiceTaxIn) : Result Db := do
  let invoice ← invoiceOf db invoiceId
  let data := { InvoiceTax.taxDataOf invoice with
    vatRate := body.vatRate
    inputTaxAmount := body.inputTaxAmount
    reverseCharge := body.reverseCharge
    constructionService := body.constructionService }
  pure (setInvoice db invoiceId (withTaxData invoice (InvoiceTax.refreshProposals db invoice data)))

def approveWithholding (db : Db) (invoiceId : InvoiceId) (principal : Principal) : Result Db := do
  let invoice ← invoiceOf db invoiceId
  let userId ← orRefuse principal.userId .gateFourEyes (some "Freigabe nur durch eine Person.")
  let approved ← InvoiceTax.approveWithholding db invoice userId
  pure (setInvoice db invoiceId approved)

/-- The switches; no invoice is evaluated again. -/
def putSettings (db : Db) (settings : AccountingTaxSettings) : Db := { db with taxSettings := some settings }

/-- Put the row of a key in the place of the one that is there. -/
def upsert (same : Row → Bool) (row : Row) (rows : List Row) : List Row :=
  if rows.any same then rows.map fun old => if same old then row else old else rows ++ [row]

def putPropertyProfile (db : Db) (profile : PropertyTaxProfile) : Result Db := do
  require (profile.propertyId ∈ db.books.properties) .resourceNotFound
  pure { db with
    propertyTaxProfiles := upsert (·.propertyId = profile.propertyId) profile db.propertyTaxProfiles }

/-- Recompute the proposals of every invoice of a supplier that has tax data. -/
def refreshInvoicesOfSupplier (db : Db) (contactId : ContactId) : List Invoice :=
  db.invoices.map fun invoice =>
    match invoice.taxData with
    | some data =>
      if invoice.providerContactId = contactId then
        withTaxData invoice (InvoiceTax.refreshProposals db invoice data)
      else invoice
    | none => invoice

/-- Markers of a supplier; an exemption only counts with a stored document. -/
def putSupplierProfile (db : Db) (profile : SupplierTaxProfile) : Result Db := do
  require (profile.contactId < db.contacts.length) .resourceNotFound
  require (∀ first ∈ profile.exemptionValidFrom, ∀ last ∈ profile.exemptionValidTo, first ≤ last) .validation
    (some "Gültig bis liegt vor Gültig ab.")
  require (∀ documentId ∈ profile.exemptionDocumentId, documentId ∈ db.documents) .validation
    (some "Freistellungsbescheinigung nicht gefunden.")
  let stored := { db with
    supplierTaxProfiles := upsert (·.contactId = profile.contactId) profile db.supplierTaxProfiles }
  pure { stored with invoices := refreshInvoicesOfSupplier stored profile.contactId }

end Invoices

inductive InvoiceCall
  | createInvoice (principal : Principal) (body : InvoiceIn) (hints : List String)
  | applyInvoice (principal : Principal) (data : InvoiceApplyIn) (hints : List String)
  | updateInvoice (invoiceId : InvoiceId) (principal : Principal) (body : InvoiceIn) (ifMatch : Option ℕ)
      (hints : List String)
  | reviewInvoice (invoiceId : InvoiceId) (principal : Principal) (body : InvoiceReviewIn)
  | confirmIban (invoiceId : InvoiceId) (principal : Principal) (hints : List String)
  | releaseInvoice (invoiceId : InvoiceId) (principal : Principal)
  | secondApproval (invoiceId : InvoiceId) (principal : Principal)
  | postInvoice (invoiceId : InvoiceId) (principal : Principal)
  | getInvoiceTax (invoiceId : InvoiceId)
  | putInvoiceTax (invoiceId : InvoiceId) (body : InvoiceTaxIn)
  | approveWithholding (invoiceId : InvoiceId) (principal : Principal)
  | putSettings (settings : AccountingTaxSettings)
  | putPropertyProfile (profile : PropertyTaxProfile)
  | putSupplierProfile (profile : SupplierTaxProfile)
  /-- The contact service changes the bank accounts of contacts. -/
  | contactAccounts (rows : List ContactBankAccount)
  | journal (call : JournalCall)

/-- Serve one request. -/
def invoiceStep (db : Db) : InvoiceCall → Result Db
  | .createInvoice principal body hints => Invoices.createInvoice db principal body hints
  | .applyInvoice principal data hints => Invoices.applyInvoice db principal data hints
  | .updateInvoice invoiceId _ body ifMatch hints => Invoices.updateInvoice db invoiceId body ifMatch hints
  | .reviewInvoice invoiceId principal body => Invoices.reviewInvoice db invoiceId principal body
  | .confirmIban invoiceId principal hints => Invoices.confirmIban db invoiceId principal hints
  | .releaseInvoice invoiceId principal => Invoices.releaseInvoice db invoiceId principal
  | .secondApproval invoiceId principal => Invoices.secondApproval db invoiceId principal
  | .postInvoice invoiceId principal => Invoices.postInvoice db invoiceId principal
  | .getInvoiceTax invoiceId => Invoices.getInvoiceTax db invoiceId
  | .putInvoiceTax invoiceId body => Invoices.putInvoiceTax db invoiceId body
  | .approveWithholding invoiceId principal => Invoices.approveWithholding db invoiceId principal
  | .putSettings settings => pure (Invoices.putSettings db settings)
  | .putPropertyProfile profile => Invoices.putPropertyProfile db profile
  | .putSupplierProfile profile => Invoices.putSupplierProfile db profile
  | .contactAccounts rows => pure { db with contactBankAccounts := rows }
  | .journal call => journalStep db call

end Mhvp.Accounting
