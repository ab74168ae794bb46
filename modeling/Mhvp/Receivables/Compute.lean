import Mhvp.Hoa.Levies
import Mhvp.Receivables.Proration

namespace Mhvp.Receivables

open Core Accounting Lib.Calendar
open Hoa.Levies (DebtorAccountReservation PaymentTypeAccount)

abbrev ContractPaymentId := ℕ
abbrev ItemId := ℕ
abbrev RunId := ℕ

inductive VatOption
  | none
  | commercialNoVat
  | commercialFullVat
  | commercialReducedVat
  deriving DecidableEq

/-- The columns of a contract beside those the ledger reads. -/
structure ContractTerms where
  isOwnership : Bool := false
  startDate : Date
  endDate : Option Date := none
  approved : Bool := true
  vatOption : VatOption := .none
  prorationMethod : Option ProrationMethod := none
  debtorAccountId : Option ℕ := none

structure ContractPayment where
  contractId : ContractId
  paymentTypeCode : String
  net : Decimal
  vatPercent : Decimal := 0
  gross : Decimal
  validFrom : Date
  validTo : Option Date := none
  reserveId : Option ReserveId := none

structure PaymentSchedule where
  contractId : ContractId
  interval : PaymentInterval := .monthly
  dueDayRule : DueDayRule := .day
  dueDay : ℕ := 1
  validFrom : Date
  validTo : Option Date := none
  paymentMode : PaymentMode := .advance
  amountBasis : AmountBasis := .perMonth

/-- Rules of the tenant; without a release they are off. -/
structure ReceivableRules where
  enabled : Bool := false
  prorationMethod : ProrationMethod := .calendarDays
  vatEnabled : Bool := false

/-- What other services keep and a run reads, beside the ledger. `terms` has a row for each contract. -/
structure Basis where
  terms : List ContractTerms := []
  payments : List ContractPayment := []
  schedules : List PaymentSchedule := []
  typeAccounts : List PaymentTypeAccount := []
  reservations : List DebtorAccountReservation := []
  rules : ReceivableRules := {}

/-- One computed component of a contract; evidence of its legal basis is left out. -/
structure ItemDraft where
  contractId : ContractId
  contractPaymentId : ContractPaymentId
  reserveId : Option ReserveId
  ledgerId : Option LedgerId
  paymentTypeCode : String
  amount : Decimal
  vatPercent : Decimal
  netAmount : Option Decimal := none
  vatAmount : Option Decimal := none
  periodStart : Option Date := none
  periodEnd : Option Date := none
  dueDate : Option Date := none
  status : ItemStatus := .ready
  message : Option String := none
  differenceOfItemId : Option ItemId := none
  differenceAmount : Option Decimal := none

/-- Row of `receivable_item`. -/
structure RunItem extends ItemDraft where
  runId : RunId
  periodMonth : Date
  journalEntryId : Option EntryId := none

/-- The columns that other services read. -/
def RunItem.row (item : RunItem) : ReceivableItem where
  contractId := item.contractId
  periodMonth := item.periodMonth
  paymentTypeCode := item.paymentTypeCode
  amount := item.amount
  status := item.status
  journalEntryId := item.journalEntryId
  reserveId := item.reserveId

inductive Scope
  | all
  | property
  | contract

def proration : String := "Unterjähriger Beginn oder Wechsel: zeitanteilige Regel nicht freigegeben"
def ownershipChange : String :=
  "Eigentümerwechsel oder Betragswechsel im Monat (WEG): keine zeitanteilige Berechnung " ++
    "wie bei Mietwechsel, eigene Regel nicht freigegeben"
def vatManual : String := "Umsatzsteuer auf Sollstellung: Steuerbehandlung nicht freigegeben"
def workday : String := "Fälligkeit nach Werktag: Feiertagskalender offen"
def notLeadingText : String := "Sollstellung führt für diesen Zeitraum das Altsystem (13.1, GAC-05)"
def noLedger : String := "Kein Buchungskreis für den Gläubiger"
def noSchedule : String := "Kein Zahlungsintervall für den ganzen Monat"
def notPositive : String := "Betrag nicht positiv (Minderung): gesondert prüfen"

/-- Reserved payment type of the account of the output tax. -/
def vatOutputCode : String := "vat_output"

/-- The first finding decides the status of an item. -/
def ItemDraft.mark (item : ItemDraft) (status : ItemStatus) (message : String) : ItemDraft :=
  if item.status = .ready then { item with status, message := some message } else item

def ItemDraft.markIf (item : ItemDraft) (finding : Prop) [Decidable finding] (status : ItemStatus)
    (message : String) : ItemDraft :=
  if finding then item.mark status message else item

/-- A component already posted for the month: nothing when the amount is the same, otherwise a manual item. -/
def asDifference (item : ItemDraft) (posted : ItemId × Decimal) : Option ItemDraft :=
  let diff := roundCents (item.amount - posted.2)
  if diff = 0 then none
  else
    let signed := (if 0 < diff then "+" else "") ++ diff.text
    some { item with
      differenceOfItemId := some posted.1
      differenceAmount := some diff
      status := .manual
      message := some ("Planänderung nach Buchung: Differenz " ++ signed ++ " EUR zur gebuchten Sollstellung (" ++
        posted.2.text ++ " EUR). Korrektur per Storno des Laufs und neuer Sollstellung.") }

/-- The posted item of a component in the month. -/
def postedFor (items : List RunItem) (first : Date) (contractId : ContractId) (code : String) :
    Option (ItemId × Decimal) :=
  (items.zipIdx.find? fun item => item.1.periodMonth = first ∧ item.1.status = .posted ∧
    item.1.contractId = contractId ∧ item.1.paymentTypeCode = code).map fun item => (item.2, item.1.amount)

/-- What is computed of a component: a difference where it is already posted. -/
def unlessPosted (item : ItemDraft) : Option (ItemId × Decimal) → Option ItemDraft
  | none => some item
  | some posted => asDifference item posted

def Basis.account (basis : Basis) (ledgerId : LedgerId) (code : String) : Option AccountId :=
  (basis.typeAccounts.find? fun mapping =>
    mapping.ledgerId = ledgerId ∧ mapping.paymentTypeCode = code).map PaymentTypeAccount.accountId

def contractOf (books : Books) (basis : Basis) (contractId : ContractId) : Option (Contract × ContractTerms) := do
  let contract ← books.contracts[contractId]?
  let terms ← basis.terms[contractId]?
  pure (contract, terms)

/-- A contract of the run with what is read for it. -/
structure ContractRow where
  id : ContractId
  contract : Contract
  terms : ContractTerms

def Covers (start : Date) (last : Option Date) (lower upper : Date) : Prop :=
  start ≤ lower ∧ ∀ day ∈ last, upper ≤ day

instance : Decidable (Covers start last lower upper) := inferInstanceAs (Decidable (_ ∧ _))

def inScope (scope : Scope) (scopeId : Option ℕ) (row : ContractRow) : Prop :=
  match scope with
  | .all => True
  | .property => ∀ id ∈ scopeId, row.contract.propertyId = id
  | .contract => ∀ id ∈ scopeId, row.id = id

instance : Decidable (inScope scope scopeId row) := by unfold inScope; cases scope <;> infer_instance

/-- Approved contracts of the scope whose term meets the month, by number. -/
def dueContracts (books : Books) (basis : Basis) (first last : Date) (scope : Scope) (scopeId : Option ℕ) :
    List ContractRow :=
  let rows := (List.range basis.terms.length).filterMap fun id =>
    (contractOf books basis id).map fun found => { id, contract := found.1, terms := found.2 : ContractRow }
  (rows.filter fun row => Covers row.terms.startDate row.terms.endDate last first ∧ row.terms.approved ∧
    inScope scope scopeId row).insertionSort fun one other => one.contract.number ≤ other.contract.number

/-- The ledger of the creditor. -/
def ledgerOfEntity (books : Books) (legalEntityId : ℕ) : Option (Ledger × LedgerId) :=
  books.ledgers.zipIdx.find? fun ledger => ledger.1.legalEntityId = legalEntityId

/-- Only an explicit approved switch to the old system blocks. -/
def notLeading (db : Db) (ledger : Option (Ledger × LedgerId)) (first : Date) (propertyId : PropertyId) : Prop :=
  ∃ found ∈ ledger, Leading.explicit db found.2 .receivablePosting first (some propertyId) = some .immoware24

instance : Decidable (notLeading db ledger first propertyId) := by unfold notLeading; infer_instance

/-- The schedule for the whole month; with released rules, else that at the end of the covered part. -/
def scheduleOf (basis : Basis) (row : ContractRow) (first last : Date) : Option PaymentSchedule :=
  let own := basis.schedules.filter fun schedule => schedule.contractId = row.id
  let covered := (row.terms.endDate.map fun day => min last day).getD last
  (own.find? fun schedule => Covers schedule.validFrom schedule.validTo first last).or
    (if basis.rules.enabled then
      ((own.filter fun schedule => Covers schedule.validFrom schedule.validTo covered covered).insertionSort
        fun one other => other.validFrom ≤ one.validFrom).head?
    else none)

/-- Payments of the contract valid in the month, by type and start. -/
def paymentsOf (basis : Basis) (contractId : ContractId) (first last : Date) :
    List (ContractPayment × ContractPaymentId) :=
  (basis.payments.zipIdx.filter fun payment =>
    payment.1.contractId = contractId ∧ Covers payment.1.validFrom payment.1.validTo last first).insertionSort
      fun one other => one.1.paymentTypeCode < other.1.paymentTypeCode ∨
        (one.1.paymentTypeCode = other.1.paymentTypeCode ∧ one.1.validFrom ≤ other.1.validFrom)

/-- The period starts or ends within the month. -/
def PartOfMonth (start : Date) (last : Option Date) (first monthEnd : Date) : Prop :=
  first < start ∨ ∃ day ∈ last, day < monthEnd

instance : Decidable (PartOfMonth start last first monthEnd) := inferInstanceAs (Decidable (_ ∨ _))

/-- A component of the contract before any finding. -/
def startItem (row : ContractRow) (ledgerId : Option LedgerId) (payment : ContractPayment × ContractPaymentId) :
    ItemDraft where
  contractId := row.id
  contractPaymentId := payment.2
  reserveId := payment.1.reserveId
  ledgerId := ledgerId
  paymentTypeCode := payment.1.paymentTypeCode
  amount := payment.1.gross
  vatPercent := payment.1.vatPercent

/-- The due day of a monthly schedule. -/
def withSchedule (item : ItemDraft) (schedule : Option PaymentSchedule) (first : Date) : ItemDraft :=
  match schedule with
  | none => item.mark .blocked noSchedule
  | some schedule =>
    if schedule.interval = .monthly then
      let due := dueDate schedule.dueDayRule schedule.dueDay first
      ({ item with dueDate := due } : ItemDraft).markIf (due = none) .manual workday
    else item.mark .manual "Nicht monatliches Intervall: Regel nicht freigegeben"

/-- The account of the component, or what blocks its posting. -/
def withAccount (item : ItemDraft) (basis : Basis) (blocked : Prop) [Decidable blocked] : ItemDraft :=
  match item.ledgerId with
  | none => item.mark .blocked noLedger
  | some ledgerId =>
    if blocked then item.mark .blocked notLeadingText
    else item.markIf (basis.account ledgerId item.paymentTypeCode = none) .blocked
      ("Kein Erlöskonto für Zahlungsart " ++ item.paymentTypeCode)

def plainItem (db : Db) (basis : Basis) (row : ContractRow) (ledger : Option (Ledger × LedgerId))
    (schedule : Option PaymentSchedule) (first last : Date) (payment : ContractPayment × ContractPaymentId) :
    ItemDraft :=
  let partOfMonth := PartOfMonth row.terms.startDate row.terms.endDate first last ∨
    PartOfMonth payment.1.validFrom payment.1.validTo first last
  let item := (startItem row (ledger.map Prod.snd) payment).markIf partOfMonth .manual
    (if row.terms.isOwnership then ownershipChange else proration)
  let priced := withSchedule (withAccount item basis (notLeading db ledger first row.contract.propertyId)) schedule first
  (priced.markIf (payment.1.vatPercent ≠ 0) .manual vatManual).markIf (payment.1.gross ≤ 0) .manual notPositive

/-- First day, last day and net amount of a component in the month, if anything of it is due. -/
def coverage (row : ContractRow) (method : ProrationMethod) (schedule : PaymentSchedule) (first : Date)
    (periods : List Validity) : Option (Date × Date × Decimal) :=
  if schedule.interval = .monthly then do
    let month := prorateMonth first method periods row.terms.startDate row.terms.endDate
    let start ← month.segments.head?
    let last ← month.segments.getLast?
    pure (start.start, last.last, month.total)
  else do
    let instalment ← instalmentForMonth first schedule.interval schedule.validFrom schedule.paymentMode
      schedule.amountBasis method periods row.terms.startDate row.terms.endDate
    pure (instalment.periodStart, instalment.periodEnd, instalment.total)

/-- The item with its period and due day, and its net amount; none where nothing is due. -/
def covered (row : ContractRow) (method : ProrationMethod) (schedule : Option PaymentSchedule) (first : Date)
    (periods : List Validity) (item : ItemDraft) : Option (ItemDraft × Option Decimal) :=
  match schedule with
  | none => some (item.mark .blocked noSchedule, none)
  | some schedule => do
      let (start, last, net) ← coverage row method schedule first periods
      let due := dueDate schedule.dueDayRule schedule.dueDay first
      let dated := { item with periodStart := some start, periodEnd := some last, dueDate := due }
      pure (dated.markIf (due = none) .manual workday, some net)

/-- Tax needs the option of the contract, the released rule, a ledger with the option and an account. -/
def withVat (item : ItemDraft) (basis : Basis) (row : ContractRow) (ledger : Option (Ledger × LedgerId)) : ItemDraft :=
  if item.vatPercent = 0 then item
  else if row.terms.vatOption ≠ .commercialFullVat ∧ row.terms.vatOption ≠ .commercialReducedVat then
    item.mark .manual "Steuersatz ohne Umsatzsteueroption am Vertrag: prüfen"
  else if ¬ basis.rules.vatEnabled then item.mark .manual vatManual
  else
    match ledger with
    | none => item
    | some (row, ledgerId) =>
      if row.vatMode ≠ .option then item.mark .blocked "Buchungskreis ohne Umsatzsteueroption"
      else item.markIf (basis.account ledgerId vatOutputCode = none) .blocked
        "Kein Steuerkonto für die Umsatzsteuer (vat_output)"

def withNet (item : ItemDraft) : Option Decimal → ItemDraft
  | none => item
  | some net =>
    let split := splitVat net item.vatPercent
    { item with netAmount := some split.net, vatAmount := some split.vat, amount := split.gross }

/-- One item for all validity periods of a component within the month. -/
def ruledItem (basis : Basis) (row : ContractRow) (ledger : Option (Ledger × LedgerId))
    (schedule : Option PaymentSchedule) (first : Date) (rows : List (ContractPayment × ContractPaymentId)) :
    Option ItemDraft := do
  let current ← rows.getLast?
  let method := row.terms.prorationMethod.getD basis.rules.prorationMethod
  let periods := rows.map fun payment => (payment.1.validFrom, payment.1.validTo, payment.1.net)
  let (item, net) ← covered row method schedule first periods (startItem row (ledger.map Prod.snd) current)
  let booked := (withAccount item basis False).markIf
    (∃ payment ∈ rows, payment.1.vatPercent ≠ current.1.vatPercent) .manual
    "Steuersatzwechsel im Monat: gesondert prüfen"
  let priced := withNet (withVat booked basis row ledger) net
  pure (priced.markIf (priced.amount ≤ 0) .manual notPositive)

/-- A ready item of a month that the old system leads is blocked. -/
def blockIf (item : ItemDraft) (blocked : Prop) [Decidable blocked] : ItemDraft :=
  item.markIf blocked .blocked notLeadingText

def contractItems (db : Db) (basis : Basis) (items : List RunItem) (first last : Date) (row : ContractRow) :
    List ItemDraft :=
  let ledger := ledgerOfEntity db.books row.contract.legalEntityId
  let schedule := scheduleOf basis row first last
  let payments := paymentsOf basis row.id first last
  let ownershipPartial := row.terms.isOwnership ∧
    (PartOfMonth row.terms.startDate row.terms.endDate first last ∨
      ∃ payment ∈ payments, PartOfMonth payment.1.validFrom payment.1.validTo first last)
  if basis.rules.enabled ∧ ¬ ownershipPartial then
    (payments.map fun payment => payment.1.paymentTypeCode).dedup.filterMap fun code => do
      let item ← ruledItem basis row ledger schedule first
        (payments.filter fun payment => payment.1.paymentTypeCode = code)
      let found ← unlessPosted item (postedFor items first row.id code)
      pure (blockIf found (notLeading db ledger first row.contract.propertyId))
  else
    payments.filterMap fun payment =>
      match postedFor items first row.id payment.1.paymentTypeCode with
      | some posted => asDifference (startItem row (ledger.map Prod.snd) payment) posted
      | none => some (plainItem db basis row ledger schedule first last payment)

def compute (db : Db) (basis : Basis) (items : List RunItem) (period : Date) (scope : Scope) (scopeId : Option ℕ) :
    List ItemDraft :=
  let first := monthFirst period
  let last := monthLast period
  (dueContracts db.books basis first last scope scopeId).flatMap (contractItems db basis items first last)

/-- What a preview is confirmed by; the hash stands for this content. -/
structure DigestRow where
  contractPaymentId : ContractPaymentId
  amount : Decimal
  status : ItemStatus
  dueDate : Option Date
  ledgerId : Option LedgerId
  deriving DecidableEq

def ItemDraft.digestRow (item : ItemDraft) : DigestRow where
  contractPaymentId := item.contractPaymentId
  amount := item.amount
  status := item.status
  dueDate := item.dueDate
  ledgerId := item.ledgerId

def digest (items : List ItemDraft) : List DigestRow := items.map ItemDraft.digestRow

end Mhvp.Receivables
