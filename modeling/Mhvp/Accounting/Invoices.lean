import Mhvp.Banking.Payments

namespace Mhvp.Accounting

open Core Lib.Aggregate Lib.Calendar

/-- Who asks: an API key without user has no `userId`. -/
structure Principal where
  userId : Option UserId
  isPlatformAdmin : Bool := false
  roles : List String := []

namespace Invoices

def reviewSteps : List ReviewStep := [.completeness, .factual, .arithmeticTax]

def creditorStart : ℕ := 70000

/-- Over the payment relevant fields; a change voids the release. -/
def paymentHash (invoice : Invoice) : PaymentHash where
  gross := invoice.gross
  payee := invoice.providerContactId
  iban := invoice.payeeIbanFingerprint.getD ""
  due := invoice.dueDate
  number := invoice.number
  ledger := invoice.ledgerId
  deductions := invoice.deductions
  -- only hashed when set, so that releases of invoices without them stay valid
  prepaidAmount := invoice.prepaidAmount.filter (· ≠ 0)
  retentionAmount := invoice.retentionAmount.filter (· ≠ 0)

def lineFindings : ℕ → List InvoiceLine → List String
  | _, [] => []
  | no, line :: rest =>
    let expected := roundCents (line.net * line.vatPercent / 100)
    let stated := line.vat.text
    let computed := expected.text
    (if expected ≠ line.vat then [s!"Position {no}: Steuer {stated} statt {computed} nachgerechnet"] else []) ++
      (if line.section35aAmount.any (line.net + line.vat < ·) then
        [s!"Position {no}: §-35a-Anteil höher als die Position"] else []) ++ lineFindings (no + 1) rest

def arithmeticFindings (invoice : Invoice) : List String :=
  (if invoice.net + invoice.vat ≠ invoice.gross then ["Netto plus Steuer ergibt nicht den Bruttobetrag"] else []) ++
    (if (invoice.lines.map InvoiceLine.net).sum ≠ invoice.net then
      ["Summe der Positionen weicht vom Nettobetrag ab"] else []) ++
    (if (invoice.lines.map InvoiceLine.vat).sum ≠ invoice.vat then
      ["Summe der Steuer je Position weicht vom Steuerbetrag ab"] else []) ++ lineFindings 1 invoice.lines

/-- First other invoice with the property. -/
def otherInvoice (db : Db) (invoiceId : InvoiceId) (selects : Invoice × InvoiceId → Bool) : Option InvoiceId :=
  (db.invoices.zipIdx.find? fun found => found.2 ≠ invoiceId && selects found).map Prod.snd

/-- Another invoice of the issuer with the same number, unless the invoice supersedes one. -/
def duplicateOf (db : Db) (invoiceId : InvoiceId) (invoice : Invoice) : Option InvoiceId :=
  if invoice.supersedesId.isSome then none
  else otherInvoice db invoiceId fun found =>
    found.1.providerContactId = invoice.providerContactId ∧ found.1.number = invoice.number

/-- An approved bank account of the issuer has the IBAN. -/
def ibanKnown (db : Db) (contactId : ContactId) (fingerprint : String) : Bool :=
  db.contactBankAccounts.any fun account =>
    account.contactId = contactId ∧ account.iban = fingerprint ∧ account.approvalStatus = .approved

/-- The IBAN of the invoice is none of the approved bank accounts of its issuer. -/
def IbanDeviates (db : Db) (invoice : Invoice) : Prop :=
  ∃ fingerprint ∈ invoice.payeeIbanFingerprint, ibanKnown db invoice.providerContactId fingerprint = false

instance : Decidable (IbanDeviates db invoice) := by unfold IbanDeviates; infer_instance

def ibanDeviation : String :=
  "IBAN weicht von den freigegebenen Stammdaten ab: gesonderte Bestätigung nötig"

def ibanFindings (db : Db) (invoice : Invoice) : List String :=
  if IbanDeviates db invoice ∧ invoice.ibanConfirmedBy = none then [ibanDeviation] else []

/-- The IBAN of the superseded version. -/
def formerIban (db : Db) (invoice : Invoice) : Option String :=
  (invoice.supersedesId.bind (db.invoices[·]?)).bind Invoice.payeeIbanFingerprint

def versionFindings (db : Db) (invoice : Invoice) : List String :=
  if ∃ former ∈ formerIban db invoice, ∃ iban ∈ invoice.payeeIbanFingerprint,
      former ≠ iban ∧ invoice.ibanConfirmedBy = none then
    ["IBAN weicht von der Vorversion der Rechnung ab: gesondert bestätigen"]
  else []

/-- Gross amounts of the other credit notes of the invoice that are not reversed. -/
def otherCredits (db : Db) (invoiceId originalId : InvoiceId) : Decimal :=
  sumWhere (fun found : Invoice × InvoiceId => found.1.referenceInvoiceId = some originalId ∧
    found.1.kind = .creditNote ∧ found.2 ≠ invoiceId ∧ found.1.postingStatus ≠ .reversed)
    (fun found => found.1.gross) db.invoices.zipIdx

/-- A credit note needs its original; the effect on the open item is checked. -/
def referenceFindings (db : Db) (invoiceId : InvoiceId) (invoice : Invoice) : List String :=
  if invoice.kind ≠ .creditNote then []
  else match invoice.referenceInvoiceId with
  | none => ["Gutschrift ohne Bezug zur Ursprungsrechnung"]
  | some originalId => match db.invoices[originalId]? with
    | none => ["Ursprungsrechnung der Gutschrift nicht gefunden"]
    | some original =>
      let gross := original.gross.text
      (if original.providerContactId ≠ invoice.providerContactId ∨ original.ledgerId ≠ invoice.ledgerId then
        ["Ursprungsrechnung gehört zu anderem Aussteller oder Buchungskreis"] else []) ++
      (if original.kind = .creditNote then ["Bezug auf eine Gutschrift statt auf eine Rechnung"] else []) ++
      (if original.postingStatus ≠ .posted then
        ["Ursprungsrechnung ist nicht gebucht: kein offener Posten zum Ausgleich"] else []) ++
      (if original.gross < otherCredits db invoiceId originalId + invoice.gross then
        [s!"Gutschriften übersteigen die Ursprungsrechnung ({gross} EUR brutto)"] else [])

def findingsOf (db : Db) (invoiceId : InvoiceId) (invoice : Invoice) : List String :=
  arithmeticFindings invoice ++
    (if invoice.documentId = none then ["Originalbeleg fehlt"] else []) ++
    (if invoice.serviceFrom = none then ["Leistungszeitraum fehlt"] else []) ++
    (if (duplicateOf db invoiceId invoice).isSome then
      ["Mögliche Doppelrechnung: gleiche Rechnungsnummer beim selben Aussteller"] else []) ++
    ibanFindings db invoice ++
    (if invoice.orderReference.getD "" = "" ∧ invoice.workOrderId = none then
      ["Auftrags- oder Vertragsbezug nicht angegeben (sachliche Prüfung)"] else []) ++
    (if invoice.supersedesId = none ∧ (otherInvoice db invoiceId fun found =>
        found.1.providerContactId = invoice.providerContactId ∧ found.1.gross = invoice.gross ∧
        found.1.invoiceDate = invoice.invoiceDate ∧ found.1.number ≠ invoice.number).isSome then
      ["Mögliche Doppelrechnung: gleicher Betrag und Tag bei anderer Nummer"] else []) ++
    (if invoice.documentId.isSome ∧ (otherInvoice db invoiceId fun found =>
        found.1.documentId = invoice.documentId ∧ some found.2 ≠ invoice.supersedesId).isSome then
      ["Originalbeleg ist bereits einer anderen Rechnung zugeordnet"] else []) ++
    referenceFindings db invoiceId invoice ++ versionFindings db invoice

/-- Automatic findings. `hints` are those of the checks on recipient, contract, order and documents. -/
def evaluate (db : Db) (invoiceId : InvoiceId) (hints : List String) (invoice : Invoice) : Invoice :=
  { invoice with
    duplicateOfId := duplicateOf db invoiceId invoice
    findings := findingsOf db invoiceId invoice ++ hints }

/-- Keyed hash for exact matching of an IBAN; it stands for the IBAN it is taken over. -/
def fingerprint (iban : Option String) : Option String := iban.filter (· ≠ "")

/-- Set IBAN and lines and evaluate again. -/
def write (db : Db) (invoiceId : InvoiceId) (invoice : Invoice) (lines : List InvoiceLine)
    (payeeIban : Option String) (hints : List String) : Result Invoice := do
  let _ ← orRefuse db.books.ledgers[invoice.ledgerId]? .resourceNotFound (some "Buchungskreis nicht gefunden.")
  require (∀ line ∈ lines, ∃ account ∈ db.books.accounts[line.accountId]?, account.ledgerId = invoice.ledgerId)
    .accWrongEntity (some "Konto gehört nicht zum Buchungskreis der Rechnung.")
  pure (evaluate db invoiceId hints
    { invoice with payeeIban, payeeIbanFingerprint := fingerprint payeeIban, lines })

/-- The last review of a step for the version. -/
def currentReview (reviews : List InvoiceReview) (version : ℕ) (step : ReviewStep) : Option ReviewResult :=
  (reviews.filter fun review => review.invoiceVersion = version ∧ review.step = step).getLast?.map
    InvoiceReview.result

def aggregate (reviews : List InvoiceReview) (version : ℕ) : ReviewStatus :=
  let results := reviewSteps.filterMap (currentReview reviews version)
  if results = [] then .open'
  else if .objected ∈ results then .objected
  else if .query ∈ results then .query
  else if results.length ≠ reviewSteps.length then .partiallyReviewed
  else if .reservation ∈ results then .closedWithReservation
  else .closedOk

def closed : List ReviewStatus := [.closedOk, .closedWithReservation]

/-- Sum of the deducted partial invoices; each is a posted one of the issuer with the stated amount. -/
def deductedGross (db : Db) (invoice : Invoice) : List Deduction → Result Decimal
  | [] => pure 0
  | deduction :: rest => do
      let partialInvoice ← orRefuse (db.invoices[deduction.invoiceId]?.filter fun row =>
          row.kind = .partialInvoice ∧ row.providerContactId = invoice.providerContactId ∧
          row.ledgerId = invoice.ledgerId ∧ row.postingStatus = .posted)
        .validation (some "Abzug ist keine gebuchte Abschlagsrechnung dieses Ausstellers.")
      require (deduction.gross = partialInvoice.gross) .validation
        (some "Abzugsbetrag entspricht nicht der Abschlagsrechnung.")
      let others ← deductedGross db invoice rest
      pure (partialInvoice.gross + others)

/-- Of a final invoice only the remaining effect is posted. -/
def expenseAmount (db : Db) (invoice : Invoice) : Result Decimal :=
  if invoice.kind ≠ .finalInvoice then pure invoice.gross
  else do
    let deducted ← deductedGross db invoice invoice.deductions
    require (deducted ≤ invoice.gross) .validation (some "Abschläge höher als die Schlussrechnung.")
    pure (invoice.gross - deducted)

/-- The rest cent stays on the last line. -/
def withRest (total : Decimal) (parts : List Decimal) : List Decimal :=
  match parts.getLast? with
  | none => []
  | some last => parts.dropLast ++ [last + (total - parts.sum)]

/-- Without input tax deduction the gross amount of a line is its cost, scaled to the posted total. -/
def lineParts (invoice : Invoice) (total : Decimal) : List Decimal :=
  let factor := if invoice.gross = 0 then 1 else contextRound (total / invoice.gross)
  withRest total (invoice.lines.map fun line => roundCents (contextRound ((line.net + line.vat) * factor)))

def costLine (creditNote : Bool) (line : InvoiceLine) (amount : Decimal) : LineIn where
  accountId := line.accountId
  debit := if creditNote then 0 else amount
  credit := if creditNote then amount else 0
  text := line.text
  vatPercent := some line.vatPercent
  vatAmount := some line.vat
  netAmount := some line.net
  unitId := line.unitId

def creditorLine (creditNote : Bool) (creditorId : AccountId) (total : Decimal) : LineIn where
  accountId := creditorId
  debit := if creditNote then total else 0
  credit := if creditNote then 0 else total

/-- The cost lines without empty ones, then the line of the creditor. -/
def journalLines (invoice : Invoice) (creditorId : AccountId) (total : Decimal) : List LineIn :=
  let creditNote := decide (invoice.kind = .creditNote)
  ((invoice.lines.zip (lineParts invoice total)).filter fun part => part.2 ≠ 0).map
    (fun part => costLine creditNote part.1 part.2) ++ [creditorLine creditNote creditorId total]

def creditorNumbers (books : Books) (ledgerId : LedgerId) : List String :=
  ((books.accounts.filter fun account => account.ledgerId = ledgerId).map LedgerAccount.number).filter fun number =>
    "070000" ≤ number ∧ number ≤ "079999"

def highest : List String → Option String
  | [] => none
  | number :: rest => match highest rest with
    | none => some number
    | some other => some (if other < number then number else other)

def nextCreditorNumber (books : Books) (ledgerId : LedgerId) : Result ℕ :=
  match highest (creditorNumbers books ledgerId) with
  | none => pure creditorStart
  | some last => do
      -- `int(highest)`
      let value ← orRefuse last.toNat? .validation
      pure (value + 1)

/-- Creditor account of a provider in the ledger, created on demand. -/
def creditorAccount (db : Db) (ledgerId : LedgerId) (contactId : ContactId) : Result (AccountId × Books) :=
  match db.books.accounts.zipIdx.find? fun found => found.1.ledgerId = ledgerId ∧
      found.1.category = .creditor ∧ found.1.contactId = some contactId with
  | some found => pure (found.2, db.books)
  | none => do
      let contact ← orRefuse db.contacts[contactId]? .resourceNotFound (some "Rechnungssteller nicht gefunden.")
      let number ← nextCreditorNumber db.books ledgerId
      require (number ≤ 79999) .conflict (some "Kreditorennummernkreis erschöpft.")
      let account : LedgerAccount :=
        { ledgerId, number := padded 6 number, name := clip contact.displayName 200, category := .creditor,
          contactId := some contactId }
      pure (db.books.accounts.length, { db.books with accounts := db.books.accounts ++ [account] })

end Invoices

end Mhvp.Accounting

namespace Mhvp.Accounting.InvoiceTax

open Core Accounting.Invoices Lib.Calendar

/-- Set by the first release; survives refreshes. -/
def secondApprovalMarker : String := "Zweite Freigabe erforderlich"

/-- Percent and amount; an undetermined key never yields a deduction. -/
def deductibleInputTax (inputTax : Decimal) (opted : Bool) (revenueKeyPercent : Option Decimal) :
    Option Decimal × Decimal :=
  match opted, revenueKeyPercent with
  | true, some percent => (some percent, roundCents (inputTax * percent / 100))
  | _, _ => (none, 0)

/-- A certificate counts only with a start date, a filed document and a period covering the day. -/
def exemptionValidOn (day : Date) (validFrom validTo : Option Date) (hasDocument : Bool) : Bool :=
  hasDocument && validFrom.any (· ≤ day) && validTo.all (day ≤ ·)

/-- `percent` of the gross amount of a construction service without valid exemption. -/
def withholdingProposal (gross : Decimal) (constructionService exemptionValid : Bool) (percent : Decimal) : Decimal :=
  if constructionService = false ∨ exemptionValid = true then 0 else roundCents (gross * percent / 100)

/-- Highest limit among the roles of the person. -/
def roleLimit (roles : List String) (limits : List ApprovalLimit) : Option Decimal :=
  ((limits.filter fun limit => limit.roleCode ∈ roles).map ApprovalLimit.limitAmount).max?

/-- A person whose roles carry no limit needs no second approval. -/
def needsSecondApproval (gross : Decimal) (roles : List String) (limits : List ApprovalLimit) : Bool :=
  (roleLimit roles limits).any (· < |gross|)

private def stripZeros : ℕ → ℕ → ℕ → ℕ × ℕ
  | 0, number, zeros => (number, zeros)
  | fuel + 1, number, zeros =>
    if number % 10 = 0 then stripZeros fuel (number / 10) (zeros + 1) else (number, zeros)

/-- `str(percent.normalize())` for a percentage of at most eight places. -/
def normalizedText (percent : Decimal) : String :=
  let (number, zeros) := stripZeros 11 (percent * 10 ^ 8).floor.natAbs 0
  let digits := toString number
  let mantissa := if digits.length = 1 then digits else clip digits 1 ++ "." ++ String.ofList (digits.toList.drop 1)
  let place := zeros + digits.length
  if number = 0 then "0"
  else if 8 < zeros then mantissa ++ "E+" ++ toString (place - 9)
  else if place < 3 then mantissa ++ "E-" ++ toString (9 - place)
  else if zeros = 8 then digits
  else toString (number / 10 ^ (8 - zeros)) ++ "." ++ padded (8 - zeros) (number % 10 ^ (8 - zeros))

example : [15, 20, 25 / 2].map normalizedText = ["15", "2E+1", "12.5"] := by decide +kernel

/-- A tenant without a row has the defaults. -/
def settingsOf (db : Db) : AccountingTaxSettings := db.taxSettings.getD {}

def propertyOfLedger (db : Db) (ledgerId : LedgerId) : Option PropertyId :=
  ((db.books.ledgers[ledgerId]?).bind fun ledger => db.legalEntities[ledger.legalEntityId]?).bind
    LegalEntity.propertyId

/-- Option and revenue key of a property. -/
def propertyOpted (db : Db) (propertyId : Option PropertyId) : Bool × Option Decimal :=
  match db.propertyTaxProfiles.find? fun profile => some profile.propertyId = propertyId with
  | some profile => (profile.vatOpted, profile.revenueKeyPercent)
  | none => (false, none)

def unitOptedOn (db : Db) (unitId : UnitId) (day : Date) : Bool :=
  db.unitVatOptions.any fun row =>
    row.unitId = unitId ∧ row.option ≠ .none ∧ row.validFrom ≤ day ∧ ∀ last ∈ row.validTo, day ≤ last

/-- An option of a unit counts as an opted object for the lines assigned to it. -/
def opted (db : Db) (invoice : Invoice) : Bool :=
  (propertyOpted db (propertyOfLedger db invoice.ledgerId)).1 ||
    invoice.lines.any fun line => line.unitId.any fun unitId => unitOptedOn db unitId invoice.invoiceDate

def supplierOf (db : Db) (contactId : ContactId) : Option SupplierTaxProfile :=
  db.supplierTaxProfiles.find? fun profile => profile.contactId = contactId

def exemptionValid (db : Db) (invoice : Invoice) : Bool :=
  (supplierOf db invoice.providerContactId).any fun supplier =>
    exemptionValidOn invoice.invoiceDate supplier.exemptionValidFrom supplier.exemptionValidTo
      supplier.exemptionDocumentId.isSome

/-- The withholding proposal as the settings, the invoice and the profile of its supplier are now. -/
def withholdingOf (db : Db) (invoice : Invoice) (data : InvoiceTaxData) : Option Decimal :=
  if (settingsOf db).constructionWithholdingEnabled = true ∧ data.constructionService = true then
    some (withholdingProposal invoice.gross true (exemptionValid db invoice)
      (settingsOf db).constructionWithholdingPercent)
  else none

def inputTaxWarnings (db : Db) (invoice : Invoice) (data : InvoiceTaxData) : List String :=
  let settings := settingsOf db
  let key := (propertyOpted db (propertyOfLedger db invoice.ledgerId)).2
  (if opted db invoice ∧ key = none then
    ["Umsatzschlüssel des Objekts fehlt, kein Vorsteuerabzug vorgeschlagen"] else []) ++
  (if opted db invoice = false ∧ data.inputTaxAmount.getD invoice.vat ≠ 0 then
    ["Objekt ohne Umsatzsteueroption, Steuer bleibt Kostenbestandteil"] else []) ++
  (match settings.inputTaxAccountNumber with
    | none => ["Vorsteuerkonto ist in den Steuereinstellungen nicht hinterlegt"]
    | some number =>
      if db.books.accounts.any fun account => account.ledgerId = invoice.ledgerId ∧ account.number = number then []
      else [s!"Vorsteuerkonto {number} fehlt im Kontenrahmen des Buchungskreises"]) ++
  (if (∃ ledger ∈ db.books.ledgers[invoice.ledgerId]?, ledger.vatMode = .none) ∧ opted db invoice then
    ["Buchungskreis ohne Umsatzsteueroption (vat_mode none), Widerspruch"] else [])

def reverseChargeWarnings (invoice : Invoice) (data : InvoiceTaxData) : List String :=
  if data.reverseCharge then
    ["Möglicher Fall des § 13b UStG: gesonderter Freigabepunkt, keine Automatik " ++
      "(Normzuordnung durch den Steuerberater, R23)"] ++
    (if invoice.vat ≠ 0 then ["Reverse Charge gekennzeichnet, Rechnung weist dennoch Steuer aus"] else [])
  else []

def withholdingWarnings (db : Db) (invoice : Invoice) (data : InvoiceTaxData) : List String :=
  let settings := settingsOf db
  let percent := normalizedText settings.constructionWithholdingPercent
  if data.constructionService = false then []
  else if settings.constructionWithholdingEnabled = false then
    ["Bauleistung gekennzeichnet, Prüfung Bauabzugsteuer ist nicht aktiviert"]
  else if exemptionValid db invoice then []
  else [s!"Freistellungsbescheinigung fehlt oder ist am Rechnungsdatum ungültig, Einbehalt von {percent} " ++
    "Prozent vorgeschlagen (Entwurf, keine automatische Kürzung)"]

/-- The approved amount is no longer the proposed one. -/
def Outdated (proposal : Option Decimal) (data : InvoiceTaxData) : Prop :=
  ∃ approved ∈ data.withholdingApprovedAmount, approved ≠ proposal.getD 0

instance : Decidable (Outdated proposal data) := by unfold Outdated; infer_instance

/-- An approved withholding amount is voided when the proposal changes. -/
def voidOutdated (data : InvoiceTaxData) : InvoiceTaxData :=
  if Outdated data.withholdingProposal data then
    { data with
      withholdingApprovedBy := none
      withholdingApprovedAmount := none
      warnings := data.warnings ++ ["Freigabe des Einbehalts entfällt, der Vorschlag hat sich geändert"] }
  else data

/-- Recompute the proposals and warnings from the current drafts. -/
def refreshProposals (db : Db) (invoice : Invoice) (data : InvoiceTaxData) : InvoiceTaxData :=
  let settings := settingsOf db
  let key := (propertyOpted db (propertyOfLedger db invoice.ledgerId)).2
  let deductible := deductibleInputTax (data.inputTaxAmount.getD invoice.vat) (opted db invoice) key
  let proposal := withholdingOf db invoice data
  voidOutdated { data with
    deductiblePercent := if settings.inputTaxEnabled then deductible.1 else none
    deductibleInputTax := if settings.inputTaxEnabled then some deductible.2 else none
    withholdingPercent := proposal.map fun _ => settings.constructionWithholdingPercent
    withholdingProposal := proposal
    warnings := data.warnings.filter (· = secondApprovalMarker) ++
      (if settings.inputTaxEnabled then inputTaxWarnings db invoice data else []) ++
      reverseChargeWarnings invoice data ++ withholdingWarnings db invoice data }

/-- Tax data of an invoice, created on demand. -/
def taxDataOf (invoice : Invoice) : InvoiceTaxData := invoice.taxData.getD {}

/-- A person other than the creator confirms the proposed withholding amount. -/
def approveWithholding (db : Db) (invoice : Invoice) (userId : UserId) : Result Invoice := do
  let data := refreshProposals db invoice (taxDataOf invoice)
  require (data.withholdingProposal.getD 0 ≠ 0) .conflict (some "Kein Einbehalt vorgeschlagen.")
  require (invoice.createdBy ≠ some userId) .gateFourEyes (some "Die Freigabe muss eine andere Person erteilen.")
  pure { invoice with
    taxData := some { data with
      withholdingApprovedBy := some userId
      withholdingApprovedAmount := data.withholdingProposal } }

def secondApprovalRequired (db : Db) (invoice : Invoice) (roles : List String) : Bool :=
  (settingsOf db).approvalLimitsEnabled && needsSecondApproval invoice.gross roles (settingsOf db).approvalLimits

/-- By a third person: neither the creator nor the first releaser. -/
def addSecondApproval (db : Db) (invoice : Invoice) (userId : UserId) : Result Invoice := do
  require ((settingsOf db).approvalLimitsEnabled = true) .conflict (some "Betragsgrenzen sind nicht aktiviert.")
  require (invoice.releasedBy ≠ none ∧ invoice.releasedHash = some (paymentHash invoice)) .conflict
    (some "Die erste Freigabe fehlt.")
  require (invoice.createdBy ≠ some userId ∧ invoice.releasedBy ≠ some userId) .gateFourEyes
    (some "Die zweite Freigabe muss eine dritte Person erteilen.")
  pure { invoice with
    secondApproval := some { userId, invoiceVersion := invoice.version, paymentHash := paymentHash invoice } }

/-- The second approval is of the invoice as it is. -/
def SecondApproved (invoice : Invoice) : Prop :=
  ∃ approval ∈ invoice.secondApproval,
    approval.invoiceVersion = invoice.version ∧ approval.paymentHash = paymentHash invoice

instance : Decidable (SecondApproved invoice) := by unfold SecondApproved; infer_instance

/-- Not the roles of the poster but the requirement recorded by the release decides. -/
def marked (invoice : Invoice) : Bool := (taxDataOf invoice).warnings.contains secondApprovalMarker

/-- Record whether the first release exceeded the role limit. -/
def markSecondApprovalRequired (invoice : Invoice) (required : Bool) : Invoice :=
  let data := taxDataOf invoice
  { invoice with
    taxData := some { data with
      warnings := data.warnings.filter (· ≠ secondApprovalMarker) ++
        if required then [secondApprovalMarker] else [] } }

/-- A required second approval and an undecided withholding proposal block the posting. -/
def assertPostingAllowed (db : Db) (invoice : Invoice) : Result Unit := do
  require ((settingsOf db).approvalLimitsEnabled = true → marked invoice = true → SecondApproved invoice)
    .accApprovalLimit (some "Rechnung über der Freigabegrenze, zweite Freigabe fehlt (M14-03).")
  require ((settingsOf db).constructionWithholdingEnabled = true → ∀ data ∈ invoice.taxData,
      data.withholdingProposal.getD 0 ≠ 0 → data.withholdingApprovedBy ≠ none)
    .conflict (some "Einbehalt Bauabzugsteuer ist vorgeschlagen und nicht entschieden (M14-04).")

end Mhvp.Accounting.InvoiceTax
