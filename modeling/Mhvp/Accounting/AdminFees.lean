import Mhvp.Contacts.Models
import Mhvp.Core.Clock
import Mhvp.Lib.Months
import Mhvp.Lib.Transition
import Mhvp.Receivables.Proration
import Mathlib.Data.Char
import Mathlib.Data.List.Lex

namespace Mhvp.Accounting.AdminFees

open Core Lib.Calendar
open Contacts (PartyId)
open Receivables (DueDayRule dueDate)

/-- The column is a text; new values are one of the first four. -/
inductive FeeInterval
  | monthly
  | quarterly
  | semiannual
  | yearly
  | annual
  | other (name : String)
  deriving DecidableEq

def FeeInterval.text : FeeInterval → String
  | .monthly => "monthly"
  | .quarterly => "quarterly"
  | .semiannual => "semiannual"
  | .yearly => "yearly"
  | .annual => "annual"
  | .other name => name

/-- Row of `admin_fee_setting`. -/
structure AdminFeeSetting where
  propertyId : PropertyId
  contractDocumentId : Option DocumentId := none
  invoiceDebtorPartyId : Option PartyId := none
  startDate : Date
  endDate : Option Date := none
  interval : FeeInterval := .monthly
  vatPercent : Decimal := 0
  minAmount : Option Decimal := none
  maxAmount : Option Decimal := none
  amountsPerUnitType : List (String × Decimal) := []
  managerContactId : Option ContactId := none
  terminationDate : Option Date := none
  dueDayRule : Option DueDayRule := none
  dueDay : Option ℕ := none
  accountId : Option AccountId := none
  sevFeeAmount : Option Decimal := none

/-- Last day of the fee: the earlier of the end and the termination. -/
def effectiveEnd (fee : AdminFeeSetting) : Option Date :=
  match fee.endDate, fee.terminationDate with
  | some last, some terminated => some (min last terminated)
  | some last, none => some last
  | none, terminated => terminated

structure ServicePeriod where
  periodStart : Date
  periodEnd : Date
  deriving DecidableEq

def periodMonths : FeeInterval → Option ℕ
  | .monthly => some 1
  | .quarterly => some 3
  | .semiannual => some 6
  | .yearly => some 12
  | .annual => some 12
  | .other _ => none

/-- Calendar aligned service period that contains a day. -/
def periodFor (interval : FeeInterval) (day : Date) : Result ServicePeriod := do
  let months ← orRefuse (periodMonths interval) .validation
    (some ("Abrechnungsintervall " ++ interval.text ++ " ist nicht bekannt."))
  let firstMonth := (day.month - 1) / months * months + 1
  let lastMonth := firstMonth + months - 1
  pure { periodStart := .ofYmd day.year firstMonth 1
         periodEnd := .ofYmd day.year lastMonth (Date.monthLength day.year lastMonth) }

/-- The period shares a day with the term of the fee. -/
def Covers (fee : AdminFeeSetting) (period : ServicePeriod) : Prop :=
  fee.startDate ≤ period.periodEnd ∧ ∀ last ∈ effectiveEnd fee, period.periodStart ≤ last

instance : Decidable (Covers fee period) := inferInstanceAs (Decidable (_ ∧ _))

def checkPeriod (fee : AdminFeeSetting) (period : ServicePeriod) : Result Unit :=
  require (Covers fee period) .validation
    (some "Der Leistungszeitraum liegt außerhalb der Laufzeit des Verwalterhonorars.")

inductive InvoiceState
  | issued
  | released
  | cancelled

inductive FeeInvoiceKind
  | invoice
  | creditNote
  deriving DecidableEq

structure InvoiceLine where
  text : String
  quantity : ℤ
  unitPrice : Decimal
  amount : Decimal

/-- Row of `admin_fee_invoice`; both columns of the service period are filled or none is. -/
structure AdminFeeInvoice where
  number : String
  invoiceDate : Date
  status : InvoiceState := .issued
  net : Decimal
  vatPercent : Decimal
  vat : Decimal
  gross : Decimal
  lines : List InvoiceLine
  debtorLegalEntityId : Option ℕ := none
  invoiceDebtorPartyId : Option PartyId := none
  buyerReference : Option String := none
  period : Option ServicePeriod := none
  kind : FeeInvoiceKind := .invoice
  correctsInvoiceId : Option ℕ := none
  cancelledAt : Option Instant := none
  cancelReason : Option String := none

/-- An invoice that no credit note has cancelled. -/
def AdminFeeInvoice.Standing (invoice : AdminFeeInvoice) : Prop :=
  invoice.kind = .invoice ∧ invoice.cancelledAt = none

instance : DecidablePred AdminFeeInvoice.Standing := fun _ => inferInstanceAs (Decidable (_ ∧ _))

/-- Row of the counter of one tenant. -/
structure InvoiceNumberCounter where
  invoicePrefix : String
  year : ℕ
  lastNumber : ℕ

/-- One fee setting with its invoices, and the counters of its tenant. -/
structure FeeState where
  fee : AdminFeeSetting
  invoices : List AdminFeeInvoice := []
  counters : List InvoiceNumberCounter := []

def issuedForPeriod (state : FeeState) (start : Date) : Option AdminFeeInvoice :=
  state.invoices.find? fun invoice => invoice.Standing ∧ ∃ period ∈ invoice.period, period.periodStart = start

inductive VatStatus
  | unset
  | regelbesteuert
  | kleinunternehmer
  deriving DecidableEq

structure TenantBillingSettings where
  invoicePrefix : Option String := none
  vatStatus : VatStatus := .unset
  vatId : Option String := none
  taxNumber : Option String := none
  leitwegId : Option String := none
  kleinunternehmerNote : Option String := none

def formatInvoiceNumber (invoicePrefix : String) (year number : ℕ) : String :=
  invoicePrefix ++ "-" ++ padded 4 year ++ "-" ++ padded 6 number

/-- `bool(text)` -/
def filled (text : Option String) : Prop := ∃ value ∈ text, value ≠ ""

instance : DecidablePred filled := fun _ => by unfold filled; infer_instance

def allocateInvoiceNumber (counters : List InvoiceNumberCounter) (settings : Option TenantBillingSettings) (year : ℕ) :
    Result (String × List InvoiceNumberCounter) := do
  let invoicePrefix ← orRefuse ((settings.bind (·.invoicePrefix)).filter (· ≠ "")) .billingPrefixMissing
    (some "Rechnungskürzel ist für diesen Mandanten nicht eingerichtet.")
  let (same, others) := counters.partition fun counter => counter.invoicePrefix = invoicePrefix ∧ counter.year = year
  let number := (same.map (·.lastNumber)).sum + 1
  pure (formatInvoiceNumber invoicePrefix year number, others ++ [{ invoicePrefix, year, lastNumber := number }])

def assertXrechnungAllowed (settings : Option TenantBillingSettings) : Result TenantBillingSettings := do
  let settings ← orRefuse (settings.filter (·.vatStatus ≠ .unset)) .billingVatStatusMissing
    (some "Umsatzsteuerstatus des Mandanten ist nicht eingetragen (regelbesteuert oder Kleinunternehmer).")
  require (settings.vatStatus = .regelbesteuert → filled settings.vatId ∨ filled settings.taxNumber)
    .billingTaxDataMissing (some "Für regelbesteuerte Mandanten fehlt USt-IdNr. oder Steuernummer.")
  require (settings.vatStatus = .kleinunternehmer → filled settings.kleinunternehmerNote) .billingTaxDataMissing
    (some "Pflichthinweistext für Kleinunternehmer-Rechnungen ist nicht hinterlegt.")
  pure settings

/-- Ownership contract of a unit with a separate fee per unit (`sev_enabled`). -/
structure SevContract where
  unitType : String
  sevFeeDebtorPartyId : Option PartyId
  startDate : Date
  endDate : Option Date := none

inductive LegalEntityKind
  | hoa
  | rentalOwner
  | sevOwner
  | manager
  deriving DecidableEq

structure LegalEntity where
  kind : LegalEntityKind
  partyId : Option PartyId := none

/-- What the transaction reads of the property and of the tenant. -/
structure FeeBasis where
  hoaWithSev : Bool := false
  unitTypes : List String := []
  sevContracts : List SevContract := []
  entities : List LegalEntity := []
  billing : Option TenantBillingSettings := none

/-- Units the fee is charged for, per unit type in the order of their names. -/
def feeUnitCounts (basis : FeeBasis) (fee : AdminFeeSetting) (asOf : Date) : List (String × ℕ) :=
  let rows :=
    if fee.invoiceDebtorPartyId.isSome ∧ basis.hoaWithSev then
      (basis.sevContracts.filter fun contract =>
        contract.sevFeeDebtorPartyId = fee.invoiceDebtorPartyId ∧ contract.startDate ≤ asOf ∧
          ∀ last ∈ contract.endDate, asOf ≤ last).map (·.unitType)
    else basis.unitTypes
  (rows.dedup.insertionSort fun first second => first.toList ≤ second.toList).map fun unitType =>
    (unitType, rows.count unitType)

structure FeeLine where
  unitType : String
  count : ℕ
  rate : Decimal
  amount : Decimal

structure FeeDraft where
  lines : List FeeLine
  net : Decimal
  vatPercent : Decimal
  vat : Decimal
  gross : Decimal
  debtorLegalEntityId : Option ℕ := none

/-- The rate of a unit type; a fee owed by a party may have one amount for every unit. -/
def rateOf (fee : AdminFeeSetting) (unitType : String) : Option Decimal :=
  if fee.invoiceDebtorPartyId.isSome ∧ fee.sevFeeAmount.isSome then fee.sevFeeAmount
  else fee.amountsPerUnitType.lookup unitType

def feeLine (fee : AdminFeeSetting) (counted : String × ℕ) : Option FeeLine := do
  let rate ← rateOf fee counted.1
  if counted.2 = 0 then none
  else some { unitType := counted.1, count := counted.2, rate, amount := roundCents (contextRound (rate * counted.2)) }

/-- Net fee of an interval within its minimum and maximum, and the tax on it. -/
def adminFee (fee : AdminFeeSetting) (unitCounts : List (String × ℕ)) : FeeDraft :=
  let lines := unitCounts.filterMap (feeLine fee)
  let summed := (lines.map (·.amount)).sum
  let raised := if ∃ least ∈ fee.minAmount, summed < least then fee.minAmount.getD summed else summed
  let capped := if ∃ most ∈ fee.maxAmount, most < raised then fee.maxAmount.getD raised else raised
  let net := roundCents capped
  let vat := roundCents (contextRound (contextRound (net * fee.vatPercent) / 100))
  { lines, net, vatPercent := fee.vatPercent, vat, gross := net + vat }

/-- The fee with the legal entity it is a cost in. -/
def adminFeeDraft (basis : FeeBasis) (fee : AdminFeeSetting) (unitCounts : List (String × ℕ)) : FeeDraft :=
  let owes (entity : LegalEntity) : Bool :=
    match fee.invoiceDebtorPartyId with
    | some party => entity.partyId = some party ∧ (entity.kind = .sevOwner ∨ entity.kind = .rentalOwner)
    | none => entity.kind = .hoa ∨ entity.kind = .rentalOwner
  { adminFee fee unitCounts with debtorLegalEntityId := basis.entities.findIdx? owes }

def unitTypeLabel (unitType : String) : String :=
  ([("apartment", "Wohnung"), ("commercial", "Gewerbeeinheit"), ("parking", "Stellplatz"), ("garage", "Garage"),
    ("storage", "Lagerraum"), ("other", "Sonstige Einheit")].lookup unitType).getD unitType

def intervalLabel : FeeInterval → String
  | .monthly => "monatlich"
  | .quarterly => "vierteljährlich"
  | .yearly => "jährlich"
  | .annual => "jährlich"
  | interval => interval.text

/-- The lines of an invoice; what a minimum or a maximum moves is a line of its own. -/
def feeLines (draft : FeeDraft) (interval : FeeInterval) : List InvoiceLine :=
  let lines := draft.lines.map fun line =>
    { text := "Verwalterhonorar " ++ unitTypeLabel line.unitType ++ ", " ++ intervalLabel interval
      quantity := line.count, unitPrice := roundCents line.rate, amount := roundCents line.amount : InvoiceLine }
  let difference := roundCents draft.net - (lines.map (·.amount)).sum
  if difference = 0 then lines
  else if 0 < difference then
    lines ++ [{ text := "Anpassung auf Mindesthonorar", quantity := 1, unitPrice := difference, amount := difference }]
  else
    lines ++ [{ text := "Anpassung auf Höchsthonorar", quantity := -1, unitPrice := -difference, amount := difference }]

/-- The invoice as it is issued. -/
def issue (fee : AdminFeeSetting) (draft : FeeDraft) (number : String) (issueDate : Date)
    (billing : TenantBillingSettings) (period : Option ServicePeriod) : AdminFeeInvoice where
  number := number
  invoiceDate := issueDate
  net := roundCents draft.net
  vatPercent := draft.vatPercent
  vat := roundCents draft.vat
  gross := roundCents draft.gross
  lines := feeLines draft fee.interval
  debtorLegalEntityId := draft.debtorLegalEntityId
  invoiceDebtorPartyId := fee.invoiceDebtorPartyId
  buyerReference := billing.leitwegId
  period := period

open Receivables (DueDayRule)

/-- A field of a request body: absent, empty or with a value. -/
abbrev Field (α : Type) := Option (Option α)

/-- The value a field carries, if any. -/
def Field.value (field : Field α) : Option α := field.join

structure AdminFeeSettingPatch where
  endDate : Field Date := none
  interval : Field FeeInterval := none
  vatPercent : Field Decimal := none
  minAmount : Field Decimal := none
  maxAmount : Field Decimal := none
  amountsPerUnitType : Field (List (String × Decimal)) := none
  contractDocumentId : Field DocumentId := none
  managerContactId : Field ContactId := none
  terminationDate : Field Date := none
  dueDayRule : Field DueDayRule := none
  dueDay : Field ℕ := none
  accountId : Field AccountId := none
  sevFeeAmount : Field Decimal := none

/-- The checks of the schema. -/
structure AdminFeeSettingPatch.Valid (body : AdminFeeSettingPatch) : Prop where
  interval : ∀ interval ∈ body.interval.value, interval ∈ [FeeInterval.monthly, .quarterly, .semiannual, .yearly]
  vatPercent : ∀ percent ∈ body.vatPercent.value, 0 ≤ percent ∧ percent ≤ 100
  minAmount : ∀ amount ∈ body.minAmount.value, 0 ≤ amount
  maxAmount : ∀ amount ∈ body.maxAmount.value, 0 ≤ amount
  dueDayRule : ∀ rule ∈ body.dueDayRule.value, rule ≠ .workday
  dueDay : ∀ day ∈ body.dueDay.value, 1 ≤ day ∧ day ≤ 31
  sevFeeAmount : ∀ amount ∈ body.sevFeeAmount.value, 0 ≤ amount

instance (body : AdminFeeSettingPatch) : Decidable body.Valid :=
  decidable_of_iff
    ((∀ interval ∈ body.interval.value, interval ∈ [FeeInterval.monthly, .quarterly, .semiannual, .yearly]) ∧
      (∀ percent ∈ body.vatPercent.value, 0 ≤ percent ∧ percent ≤ 100) ∧
      (∀ amount ∈ body.minAmount.value, 0 ≤ amount) ∧ (∀ amount ∈ body.maxAmount.value, 0 ≤ amount) ∧
      (∀ rule ∈ body.dueDayRule.value, rule ≠ .workday) ∧ (∀ day ∈ body.dueDay.value, 1 ≤ day ∧ day ≤ 31) ∧
      ∀ amount ∈ body.sevFeeAmount.value, 0 ≤ amount)
    ⟨fun ⟨a, b, c, d, e, f, g⟩ => ⟨a, b, c, d, e, f, g⟩, fun ⟨a, b, c, d, e, f, g⟩ => ⟨a, b, c, d, e, f, g⟩⟩

/-- What the transaction sees of contacts and accounts; an account carries the property of its ledger. -/
structure FeeReferences where
  contacts : List ContactId := []
  accounts : List (AccountId × Option PropertyId) := []

def checkFeeRefs (references : FeeReferences) (propertyId : PropertyId) (managerContactId : Option ContactId)
    (accountId : Option AccountId) : Result Unit := do
  require (∀ contact ∈ managerContactId, contact ∈ references.contacts) .validation
    (some "Der Verwalterkontakt existiert nicht.")
  require (∀ account ∈ accountId, ∃ property ∈ references.accounts.lookup account,
    property = none ∨ property = some propertyId) .validation (some "Das Erlöskonto gehört nicht zum Objekt.")

/-- The fee does not end before it starts, nor before a period that is already invoiced. -/
def checkEnd (state : FeeState) : Option Date → Result Unit
  | none => pure ()
  | some last => do
      require (state.fee.startDate ≤ last) .validation (some "Das Ende liegt vor dem Beginn.")
      require (∀ invoice ∈ state.invoices, invoice.Standing → ∀ period ∈ invoice.period, period.periodEnd ≤ last)
        .conflict (some "Für einen späteren Zeitraum ist bereits eine Rechnung ausgestellt.")

/-- The given fields; the interval, the tax rate and the amounts are never emptied. -/
def AdminFeeSettingPatch.apply (body : AdminFeeSettingPatch) (fee : AdminFeeSetting) : AdminFeeSetting :=
  { fee with
    endDate := body.endDate.getD fee.endDate
    interval := body.interval.value.getD fee.interval
    vatPercent := body.vatPercent.value.getD fee.vatPercent
    minAmount := body.minAmount.getD fee.minAmount
    maxAmount := body.maxAmount.getD fee.maxAmount
    amountsPerUnitType := body.amountsPerUnitType.value.getD fee.amountsPerUnitType
    contractDocumentId := body.contractDocumentId.getD fee.contractDocumentId
    managerContactId := body.managerContactId.getD fee.managerContactId
    terminationDate := body.terminationDate.getD fee.terminationDate
    dueDayRule := body.dueDayRule.getD fee.dueDayRule
    dueDay := body.dueDay.getD fee.dueDay
    accountId := body.accountId.getD fee.accountId
    sevFeeAmount := body.sevFeeAmount.getD fee.sevFeeAmount }

def patchFee (state : FeeState) (body : AdminFeeSettingPatch) (references : FeeReferences) : Result FeeState := do
  require body.Valid .validation
  checkEnd state body.endDate.value
  checkFeeRefs references state.fee.propertyId body.managerContactId.value body.accountId.value
  let fee := body.apply state.fee
  require (∀ least ∈ fee.minAmount, ∀ most ∈ fee.maxAmount, least ≤ most) .validation
    (some "Mindesthonorar liegt über dem Höchsthonorar.")
  pure { state with fee }

/-- The service period of an invoice with a given day in it; a period is invoiced once. -/
def periodToIssue (state : FeeState) (periodStart : Date) : Result ServicePeriod := do
  let period ← periodFor state.fee.interval periodStart
  checkPeriod state.fee period
  require (issuedForPeriod state period.periodStart = none) .conflict
    (some "Für diesen Leistungszeitraum ist bereits eine Rechnung ausgestellt.")
  pure period

/-- The period of the request, if it names a day. -/
def requestedPeriod (state : FeeState) : Option Date → Result (Option ServicePeriod)
  | none => pure none
  | some day => do
      let period ← periodToIssue state day
      pure (some period)

def feeIssue (state : FeeState) (basis : FeeBasis) (today : Date) (invoiceDate periodStart : Option Date) :
    Result FeeState := do
  let issueDate := invoiceDate.getD today
  let period ← requestedPeriod state periodStart
  let draft := adminFeeDraft basis state.fee (feeUnitCounts basis state.fee issueDate)
  let billing ← assertXrechnungAllowed basis.billing
  let (number, counters) ← allocateInvoiceNumber state.counters basis.billing issueDate.year
  pure { state with
    invoices := state.invoices ++ [issue state.fee draft number issueDate billing period], counters }

def releaseInvoice (state : FeeState) (invoiceId : ℕ) : Result FeeState := do
  let row ← orRefuse state.invoices[invoiceId]? .resourceNotFound
  require (row.cancelledAt = none) .conflict (some "Die Rechnung ist storniert.")
  pure { state with invoices := state.invoices.set invoiceId { row with status := .released } }

def negatedLine (number : String) (line : InvoiceLine) : InvoiceLine :=
  { line with
    amount := -line.amount
    text := strip ("Gutschrift zu Rechnung " ++ number ++ ": " ++ line.text) }

/-- The credit note of an invoice. -/
def creditNote (invoiceId : ℕ) (row : AdminFeeInvoice) (number : String) (creditDate : Date) (reason : String) :
    AdminFeeInvoice where
  number := number
  invoiceDate := creditDate
  net := -row.net
  vatPercent := row.vatPercent
  vat := -row.vat
  gross := -row.gross
  lines := row.lines.map (negatedLine row.number)
  debtorLegalEntityId := row.debtorLegalEntityId
  invoiceDebtorPartyId := row.invoiceDebtorPartyId
  buyerReference := row.buyerReference
  period := row.period
  kind := .creditNote
  correctsInvoiceId := some invoiceId
  cancelReason := some reason

def cancelInvoice (state : FeeState) (billing : Option TenantBillingSettings) (today : Date) (now : Instant)
    (invoiceId : ℕ) (reason : String) (creditNoteDate : Option Date) : Result FeeState := do
  require (3 ≤ reason.length ∧ reason.length ≤ 2000) .validation
  let row ← orRefuse state.invoices[invoiceId]? .resourceNotFound
  require (row.kind = .invoice) .conflict (some "Eine Gutschrift wird nicht erneut storniert.")
  require (row.cancelledAt = none) .conflict (some "Die Rechnung ist bereits storniert.")
  let creditDate := creditNoteDate.getD today
  require (row.invoiceDate ≤ creditDate) .validation (some "Die Gutschrift liegt vor dem Rechnungsdatum.")
  let (number, counters) ← allocateInvoiceNumber state.counters billing creditDate.year
  let cancelled := { row with cancelledAt := some now, cancelReason := some reason, status := .cancelled }
  pure { state with
    invoices := state.invoices.set invoiceId cancelled ++ [creditNote invoiceId row number creditDate reason], counters }

inductive FeeRequest
  | patch (body : AdminFeeSettingPatch) (references : FeeReferences)
  | issue (basis : FeeBasis) (today : Date) (invoiceDate periodStart : Option Date)
  | release (invoiceId : ℕ)
  | cancel (billing : Option TenantBillingSettings) (today : Date) (now : Instant) (invoiceId : ℕ) (reason : String)
      (creditNoteDate : Option Date)
  /-- Another fee of the tenant takes a number. -/
  | allocate (billing : Option TenantBillingSettings) (year : ℕ)

def feeStep (state : FeeState) : FeeRequest → Result FeeState
  | .patch body references => patchFee state body references
  | .issue basis today invoiceDate periodStart => feeIssue state basis today invoiceDate periodStart
  | .release invoiceId => releaseInvoice state invoiceId
  | .cancel billing today now invoiceId reason creditNoteDate =>
    cancelInvoice state billing today now invoiceId reason creditNoteDate
  | .allocate billing year => do
      let (_, counters) ← allocateInvoiceNumber state.counters billing year
      pure { state with counters }

end Mhvp.Accounting.AdminFees
