import Mhvp.Lib.Locking
import Mhvp.Lib.Dictionary
import Mhvp.Receivables.Compute

/-!
Rent invoices with tax: an invoice freezes the receivable items of a contract in a period under a gapless number, and
is cancelled by a credit note only.
-/

namespace Mhvp.Accounting.RentInvoices

open Core Lib Lib.Calendar
open Receivables (ItemId RunItem monthFirst monthLast)

abbrev LegalEntityId := ℕ

/-- `NUMBERING_MODES` -/
inductive NumberingMode
  | draftNumbers
  | regularNumbers
  | rejectWhenG1Closed
  deriving DecidableEq

def usesDraftNumber (mode : NumberingMode) (draft : Bool) : Bool := draft && mode = .draftNumbers

/-- A counter row; for a draft the year is stored negated. -/
structure NumberSeries where
  legalEntityId : LegalEntityId
  year : ℕ
  draftNumber : Bool
  deriving DecidableEq

inductive TaxIdentifierKind
  | vatId
  | taxNumber
  deriving DecidableEq

/-- What the master data hold for a legal entity: for the managing company the billing settings, otherwise the
identifiers of the contacts behind its party, oldest first. -/
structure TaxSources where
  name : String
  manager : Bool := false
  billing : Option (Option String × Option String) := none
  identifiers : List (TaxIdentifierKind × String) := []

def filled (value : Option String) : Option String := value.filter (· ≠ "")

def taxIdentifier (entity : TaxSources) : Option (TaxIdentifierKind × String) :=
  if entity.manager then
    entity.billing.bind fun (vatId, taxNumber) =>
      (((filled vatId).map fun value => (TaxIdentifierKind.vatId, value)) <|>
        (filled taxNumber).map fun value => (.taxNumber, value))
  else
    let first (wanted : TaxIdentifierKind) :=
      (entity.identifiers.find? fun row => row.1 = wanted ∧ strip row.2 ≠ "").map fun row => (wanted, strip row.2)
    first .vatId <|> first .taxNumber

structure InvoiceLine where
  receivableItemId : ItemId
  paymentTypeCode : String
  periodStart : Date
  periodEnd : Date
  net : Decimal
  vatPercent : Decimal
  vat : Decimal
  gross : Decimal

def InvoiceLine.negated (line : InvoiceLine) : InvoiceLine :=
  { line with net := -line.net, vat := -line.vat, gross := -line.gross }

inductive RentInvoiceKind
  | invoice
  | standing
  | creditNote
  deriving DecidableEq

inductive RentInvoiceStatus
  | issued
  | cancelled
  deriving DecidableEq

/-- The columns an invoice is issued with, before it has a number. -/
structure RentInvoiceContent where
  contractId : ContractId
  legalEntityId : LegalEntityId
  contactId : Option ContactId := none
  kind : RentInvoiceKind
  invoiceDate : Date
  periodStart : Date
  periodEnd : Date
  netTotal : Decimal
  vatTotal : Decimal
  grossTotal : Decimal
  lines : List InvoiceLine
  taxIdentifierKind : TaxIdentifierKind
  draft : Bool
  draftNumber : Bool
  cancelsInvoiceId : Option InvoiceId := none
  issuedBy : Option UserId

structure RentInvoice extends RentInvoiceContent where
  number : ℕ
  status : RentInvoiceStatus := .issued
  cancelledByInvoiceId : Option InvoiceId := none

def RentInvoiceContent.series (content : RentInvoiceContent) : NumberSeries :=
  ⟨content.legalEntityId, content.invoiceDate.year, content.draftNumber⟩

structure RentContract where
  legalEntityId : LegalEntityId
  vatOption : Receivables.VatOption
  debtorContactId : Option ContactId := none

/-- What other services change at any time. -/
structure Surroundings where
  contracts : List RentContract := []
  entities : List TaxSources := []
  items : List RunItem := []
  mode : NumberingMode := .draftNumbers
  gateOpen : Bool := false

structure RentState where
  surroundings : Surroundings := {}
  counters : List (NumberSeries × ℕ) := []
  invoices : List RentInvoice := []

/-- `_money` -/
def money (value : Option Decimal) : Decimal := roundCents (value.getD 0)

def lineFromItem (itemId : ItemId) (item : RunItem) : InvoiceLine where
  receivableItemId := itemId
  paymentTypeCode := item.paymentTypeCode
  periodStart := item.periodStart.getD item.periodMonth
  periodEnd := item.periodEnd.getD (monthLast item.periodMonth)
  net := money item.netAmount
  vatPercent := item.vatPercent
  vat := money item.vatAmount
  gross := money item.amount

/-- Months in order, in a month the newest run first. -/
def queryOrder (first second : ItemId × RunItem) : Prop :=
  first.2.periodMonth < second.2.periodMonth ∨
    first.2.periodMonth = second.2.periodMonth ∧ second.2.runId ≤ first.2.runId

instance : DecidableRel queryOrder := fun _ _ => by unfold queryOrder; infer_instance

def lineOrder (first second : ItemId × RunItem) : Prop :=
  first.2.periodMonth < second.2.periodMonth ∨
    first.2.periodMonth = second.2.periodMonth ∧ ¬ second.2.paymentTypeCode < first.2.paymentTypeCode

instance : DecidableRel lineOrder := fun _ _ => by unfold lineOrder; infer_instance

def itemKey (item : RunItem) : Date × String × Receivables.ContractPaymentId :=
  (item.periodMonth, item.paymentTypeCode, item.contractPaymentId)

/-- The item kept for a key: the first one, or the first that is posted. -/
def preferPosted (item : ItemId × RunItem) : Option (ItemId × RunItem) → ItemId × RunItem
  | none => item
  | some current => if current.2.status ≠ .posted ∧ item.2.status = .posted then item else current

/-- Posted items of the contract in the period, or the ready ones of the newest preview, by their keys. -/
def chosenItems (items : List RunItem) (contractId : ContractId) (periodStart periodEnd : Date) :
    List ((Date × String × Receivables.ContractPaymentId) × (ItemId × RunItem)) :=
  let rows := (items.zipIdx.map fun entry => (entry.2, entry.1)).filter fun row =>
    row.2.contractId = contractId ∧ monthFirst periodStart ≤ row.2.periodMonth ∧ row.2.periodMonth ≤ periodEnd ∧
      (row.2.status = .posted ∨ row.2.status = .ready)
  (rows.insertionSort queryOrder).foldl
    (fun chosen row => Dictionary.alter (itemKey row.2) (preferPosted row) chosen) []

def collectItems (items : List RunItem) (contractId : ContractId) (periodStart periodEnd : Date) :
    Result (List (ItemId × RunItem)) := do
  let items := ((chosenItems items contractId periodStart periodEnd).map Prod.snd).insertionSort lineOrder
  require (∀ item ∈ items, item.2.netAmount ≠ none ∧ item.2.vatAmount ≠ none) .rentInvoiceNotAllowed
    (some ("Der Sollstellungsposten trägt keinen Umsatzsteuerausweis " ++
      "(Regel M13-03 nicht freigegeben oder Steuersatz ohne Option)."))
  pure items

inductive RentRequest
  | issue (contractId : ContractId) (periodStart periodEnd : Date) (standing : Bool) (invoiceDate : Date)
      (userId : Option UserId)
  | creditNote (contractId : ContractId) (invoiceId : InvoiceId) (today : Date) (userId : Option UserId)
  | otherServices (surroundings : Surroundings)

/-- What a request will write when it has its number. -/
inductive RentWork
  | issue (content : RentInvoiceContent)
  | creditNote (content : RentInvoiceContent) (invoiceId : InvoiceId)
  | otherServices (surroundings : Surroundings)

/-- `_reject_if_closed` -/
def rejectIfClosed (surroundings : Surroundings) : Result (NumberingMode × Bool) := do
  let draft := !surroundings.gateOpen
  require (¬ (draft ∧ surroundings.mode = .rejectWhenG1Closed)) .rentInvoiceG1Closed
  pure (surroundings.mode, draft)

def issue (surroundings : Surroundings) (contractId : ContractId) (periodStart periodEnd : Date) (standing : Bool)
    (invoiceDate : Date) (userId : Option UserId) : Result RentInvoiceContent := do
  let contract ← orRefuse surroundings.contracts[contractId]? .resourceNotFound
  let (mode, draft) ← rejectIfClosed surroundings
  require (contract.vatOption = .commercialFullVat ∨ contract.vatOption = .commercialReducedVat) .rentInvoiceNotAllowed
    (some "Der Vertrag hat keine Umsatzsteueroption; eine Mietrechnung mit Steuerausweis wird nicht erzeugt.")
  require (periodStart ≤ periodEnd) .validation (some "Zeitraum: Ende liegt vor Beginn.")
  let entity ← orRefuse surroundings.entities[contract.legalEntityId]? .resourceNotFound
    (some "Rechtsträger nicht gefunden.")
  let taxId ← orRefuse (taxIdentifier entity) .rentInvoiceTaxIdMissing
    (some ("Für den Rechtsträger " ++ entity.name ++ " ist weder Steuernummer noch USt-IdNr. in den Stammdaten " ++
      "hinterlegt. Die Rechnung wird nicht ausgegeben."))
  let items ← collectItems surroundings.items contractId periodStart periodEnd
  require (items ≠ []) .rentInvoiceNoItems (some "Im Zeitraum gibt es keine Sollstellungsposten zu diesem Vertrag.")
  let lines := items.map fun item => lineFromItem item.1 item.2
  let net := (lines.map InvoiceLine.net).sum
  let vat := (lines.map InvoiceLine.vat).sum
  let gross := (lines.map InvoiceLine.gross).sum
  require (net + vat = gross) .rentInvoiceNotAllowed
    (some "Netto plus Steuer ergibt nicht das Brutto der Posten; keine Ausgabe.")
  pure {
    contractId, legalEntityId := contract.legalEntityId, contactId := contract.debtorContactId
    kind := if standing then .standing else .invoice
    invoiceDate, periodStart, periodEnd, netTotal := net, vatTotal := vat, grossTotal := gross, lines
    taxIdentifierKind := taxId.1, draft, draftNumber := usesDraftNumber mode draft, issuedBy := userId }

def creditNote (state : RentState) (contractId : ContractId) (invoiceId : InvoiceId) (today : Date)
    (userId : Option UserId) : Result RentInvoiceContent := do
  let _ ← orRefuse state.surroundings.contracts[contractId]? .resourceNotFound
  let invoice ← orRefuse (state.invoices[invoiceId]?.filter (·.contractId = contractId)) .resourceNotFound
  let (mode, draft) ← rejectIfClosed state.surroundings
  require (invoice.kind ≠ .creditNote) .rentInvoiceCancelled (some "Eine Gutschrift wird nicht storniert.")
  require (invoice.status ≠ .cancelled) .rentInvoiceCancelled
    (some "Die Rechnung ist bereits durch eine Gutschrift storniert.")
  pure {
    invoice.toRentInvoiceContent with
    kind := .creditNote
    invoiceDate := today
    netTotal := -invoice.netTotal, vatTotal := -invoice.vatTotal, grossTotal := -invoice.grossTotal
    lines := invoice.lines.map InvoiceLine.negated
    draft, draftNumber := usesDraftNumber mode draft
    cancelsInvoiceId := some invoiceId
    issuedBy := userId }

def rentRead (state : RentState) : RentRequest → Result RentWork
  | .issue contractId periodStart periodEnd standing invoiceDate userId => do
      pure (.issue (← issue state.surroundings contractId periodStart periodEnd standing invoiceDate userId))
  | .creditNote contractId invoiceId today userId => do
      pure (.creditNote (← creditNote state contractId invoiceId today userId) invoiceId)
  | .otherServices surroundings => pure (.otherServices surroundings)

/-- The row with the next number of its series, and the counter moved on. -/
def RentState.withInvoice (state : RentState) (content : RentInvoiceContent) : RentState :=
  { state with
    counters := Series.draw state.counters content.series
    invoices := state.invoices ++ [{ content with number := Series.drawn state.counters content.series + 1 }] }

/-- `allocate_number` and the row; a number is unique within its legal entity. -/
def addInvoice (state : RentState) (content : RentInvoiceContent) : Result RentState := do
  require (∀ invoice ∈ state.invoices, invoice.series = content.series →
    invoice.number ≠ Series.drawn state.counters content.series + 1) .databaseRefused
  pure (state.withInvoice content)

def RentInvoice.cancelledBy (invoice : RentInvoice) (noteId : InvoiceId) : RentInvoice :=
  { invoice with status := .cancelled, cancelledByInvoiceId := some noteId }

def rentWrite (state : RentState) : RentWork → Result RentState
  | .issue content => addInvoice state content
  | .creditNote content invoiceId => do
      let added ← addInvoice state content
      pure { added with invoices := added.invoices.modify invoiceId (·.cancelledBy state.invoices.length) }
  | .otherServices surroundings => pure { state with surroundings }

/-- No row is locked before the number is drawn. -/
def rentProtocol : Locking.Protocol RentState RentRequest RentWork Unit ProblemError where
  read := rentRead
  locks := fun _ => []
  write := rentWrite

end Mhvp.Accounting.RentInvoices
