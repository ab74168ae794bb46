import Mhvp.Database
import Mathlib.Data.List.Dedup
import Mathlib.Data.List.Sort
import Mhvp.Accounting.Balance

namespace Mhvp.Accounting

open Core Lib.Calendar

namespace PeriodLock

/-- Stored object of a line, or the object of its unit for older lines. -/
def lineProperty (books : Books) (line : JournalLine) : Option PropertyId :=
  line.propertyId <|> line.unitId.bind fun unit => (books.units[unit]?).map PropertyUnit.propertyId

/-- Properties an entry touches: ledger property plus the property of every line. -/
def propertyIdsOfLines (books : Books) (ledger : Ledger) (lines : List JournalLine) :
    List PropertyId :=
  ledger.propertyId.toList ++ lines.filterMap (lineProperty books)

/-- The lock refuses a posting of one of the properties on the day. -/
def covers (lock : PeriodLock) (ledgerId : LedgerId) (properties : List PropertyId) (day : Date) :
    Bool :=
  lock.ledgerId = ledgerId ∧ lock.propertyId ∈ properties ∧ lock.released = false ∧
    lock.periodFrom ≤ day ∧ day ≤ lock.periodTo

/-- Refuse when an active lock of one of the properties covers the day (mode switch). -/
def ensureOpenForProperties (books : Books) (ledgerId : LedgerId) (properties : List PropertyId)
    (day : Date) : Result Unit :=
  if books.lockMode = some .objectPeriod then
    match books.periodLocks.find? (covers · ledgerId properties day) with
    | some hit =>
      let start := dateText hit.periodFrom
      let last := dateText hit.periodTo
      .error { error := .accPeriodLockedObject,
               detail := some s!"Der Zeitraum {start} bis {last} ist für dieses Objekt gesperrt." }
    | none => pure ()
  else pure ()

def ensureOpenForEntry (books : Books) (ledgerId : LedgerId) (ledger : Ledger)
    (lines : List JournalLine) (day : Date) : Result Unit :=
  ensureOpenForProperties books ledgerId (propertyIdsOfLines books ledger lines) day

end PeriodLock

end Mhvp.Accounting

namespace Mhvp.Accounting.Leading

open Core Lib.Calendar

/-- A row for the property before a row for the whole ledger, then the newest. -/
def key (row : LedgerLeadingSwitch) : ℕ × ℕ × ℕ :=
  (if row.propertyId.isSome then 1 else 0, row.validFrom.ordinal, row.decidedAt)

/-- Lexicographic order of the keys. -/
def newer (first second : LedgerLeadingSwitch) : Bool :=
  let (a, b, c) := key first
  let (x, y, z) := key second
  decide (x < a) || decide (a = x) && (decide (y < b) || decide (b = y) && decide (z < c))

/-- `max(rows, key=…)`: the first of the greatest rows. -/
def best : List LedgerLeadingSwitch → Option LedgerLeadingSwitch
  | [] => none
  | row :: rest => some (rest.foldl (fun found next => if newer next found then next else found) row)

/-- Leading system from an approved switch row. -/
def explicit (db : Db) (ledgerId : LedgerId) (kind : LeadingKind) (onDate : Date)
    (propertyId : Option PropertyId) : Option LeadingSystem :=
  (best (db.leadingSwitches.filter fun row =>
    row.ledgerId = ledgerId ∧ row.kind = kind ∧ row.status = .approved ∧ row.validFrom ≤ onDate ∧
      (row.propertyId = none ∨ row.propertyId = propertyId))).map LedgerLeadingSwitch.leadingSystem

def leadingSystem (db : Db) (ledger : Ledger) (ledgerId : LedgerId) (kind : LeadingKind) (onDate : Date)
    (propertyId : Option PropertyId) : LeadingSystem :=
  (explicit db ledgerId kind onDate propertyId).getD ledger.leadingSystem

def isLeading (db : Db) (ledger : Ledger) (ledgerId : LedgerId) (kind : LeadingKind) (onDate : Date) : Bool :=
  leadingSystem db ledger ledgerId kind onDate none = .mhvp

end Mhvp.Accounting.Leading

namespace Mhvp.Accounting

open Core Banking Lib.Calendar Lib.Aggregate

/-- Kinds whose debit on a debtor (credit on a creditor) creates an open item. -/
def openItemKinds : List EntryKind :=
  [.receivable, .invoice, .custom, .openingBalance, .statementResult, .dunningFee, .interest]

/-- Fiscal years are labelled by their starting calendar year. -/
def fiscalYear (ledger : Ledger) (day : Date) : ℕ :=
  if ledger.fiscalYearStartMonth ≤ day.month then day.year else day.year - 1

def ledgerOf (books : Books) (ledgerId : LedgerId) : Result Ledger :=
  orRefuse books.ledgers[ledgerId]? .resourceNotFound

def entryOf (books : Books) (ledgerId : LedgerId) (entryId : EntryId) : Result JournalEntry := do
  let entry ← orRefuse books.entries[entryId]? .resourceNotFound
  require (entry.ledgerId = ledgerId) .resourceNotFound
  pure entry

/-- The accounts exist, belong to the ledger and are active. -/
def accounts (books : Books) (ledgerId : LedgerId) (ids : List AccountId) : Result Unit := do
  let rows := ids.dedup.filterMap (books.accounts[·]?)
  require (∀ id ∈ ids, id < books.accounts.length) .resourceNotFound (some "Unbekanntes Konto.")
  require (∀ row ∈ rows, row.ledgerId = ledgerId) .accWrongEntity
    (some "Konten eines anderen Buchungskreises sind nicht zulässig.")
  let inactive := (rows.filter fun row => !row.active).map LedgerAccount.number
  let listed := ", ".intercalate (inactive.insertionSort (· ≤ ·))
  require (inactive = []) .validation (some s!"Konto deaktiviert: {listed}.")

def planAmounts : List PlanIn → Result (List PlanIn)
  | [] => pure []
  | plan :: rest => do
      let amount ← money plan.amount "Ausgleich"
      let others ← planAmounts rest
      pure ({ plan with amount } :: others)

/-- The row of a line; the check constraint of the table refuses a line that is not one-sided. -/
def storeLine (line : LineIn) (propertyId : Option PropertyId) : Result JournalLine :=
  if oneSidePositive : OneSided line.debit line.credit then
    pure { line with propertyId, oneSidePositive }
  else .error { error := .databaseRefused }

def storeLines : List LineIn → List (Option PropertyId) → Result (List JournalLine)
  | line :: rest, property :: properties => do
      let row ← storeLine line property
      let others ← storeLines rest properties
      pure (row :: others)
  | _, _ => pure []

/-- The row of a draft; the check constraint refuses a reversal without its reference. -/
def draftRow (ledgerId : LedgerId) (header : EntryHeader) (reverses : Option ReversalOf)
    (settlementPlan : List PlanIn) (lines : List JournalLine) : Result JournalEntry :=
  if reversalRef : header.kind = .reversal → reverses.isSome then
    pure { header with ledgerId, reverses, settlementPlan, lines, reversalRef }
  else .error { error := .databaseRefused }

/-- Write a new draft, or replace the draft `target`; lines of a posted entry are guarded. -/
def writeDraft (books : Books) (ledgerId : LedgerId) (target : Option EntryId)
    (header : EntryHeader) (reverses : Option ReversalOf) (lines : List LineIn)
    (settlementPlan : List PlanIn) : Result (EntryId × Books) := do
  checkBalanced lines
  accounts books ledgerId (lines.map LineIn.accountId)
  let plan ← planAmounts settlementPlan
  let properties ← LineProperty.resolve books header.contractId lines
  let rows ← storeLines lines properties
  let entry ← draftRow ledgerId header reverses plan rows
  match target with
  | none => pure (books.entries.length, { books with entries := books.entries ++ [entry] })
  | some entryId => do
      let old ← entryOf books ledgerId entryId
      require (old.status = .draft) .databaseRefused
      pure (entryId, { books with entries := books.entries.set entryId entry })

def ensureOpenPeriod (ledger : Ledger) (day : Date) : Result Unit :=
  match ledger.lockedUntil with
  | some last =>
    let text := dateText last
    require (last < day) .accPeriodLocked (some s!"Der Zeitraum bis {text} ist festgeschrieben.")
  | none => pure ()

def JournalNumberCounter.isFor (ledgerId : LedgerId) (year : ℕ) (counter : JournalNumberCounter) : Bool :=
  counter.ledgerId = ledgerId ∧ counter.fiscalYear = year

def lastNumber (counters : List JournalNumberCounter) (ledgerId : LedgerId) (year : ℕ) : ℕ :=
  ((counters.find? (JournalNumberCounter.isFor ledgerId year)).map
    JournalNumberCounter.lastNumber).getD 0

/-- Gapless per ledger and fiscal year: insert the counter if it is missing, then count up. -/
def nextNumber (counters : List JournalNumberCounter) (ledgerId : LedgerId) (year : ℕ) :
    ℕ × List JournalNumberCounter :=
  let present :=
    if counters.any (JournalNumberCounter.isFor ledgerId year) then counters
    else counters ++ [{ ledgerId, fiscalYear := year, lastNumber := 0 }]
  let number := lastNumber present ledgerId year + 1
  (number, present.map fun counter =>
    if counter.isFor ledgerId year then { counter with lastNumber := number } else counter)

/-- Settlements of an item up to an optional cut-off day. -/
def settled (books : Books) (itemId : OpenItemId) (asOf : Option Date) : Decimal :=
  sumWhere (fun s => s.openItemId = itemId ∧ Within asOf s.date) OpenItemSettlement.amount
    books.settlements

def remaining (books : Books) (itemId : OpenItemId) (asOf : Option Date) : Result Decimal := do
  let item ← orRefuse books.openItems[itemId]? .resourceNotFound
  pure (item.amount - settled books itemId asOf)

def debitOn (accountId : AccountId) (lines : List JournalLine) : Decimal :=
  sumWhere (fun line => line.accountId = accountId) JournalLine.debit lines

def creditOn (accountId : AccountId) (lines : List JournalLine) : Decimal :=
  sumWhere (fun line => line.accountId = accountId) JournalLine.credit lines

def categoryOf (books : Books) (accountId : AccountId) : Option AccountCategory :=
  (books.accounts[accountId]?).map LedgerAccount.category

/-- Accounts of the lines in the order of their first line. -/
def accountOrder : List JournalLine → List AccountId
  | [] => []
  | line :: rest => line.accountId :: (accountOrder rest).filter (· ≠ line.accountId)

def openItem (ledgerId : LedgerId) (entryId : EntryId) (entry : JournalEntry) (accountId : AccountId)
    (kind : OpenItemKind) (amount : Decimal) (amountPositive : 0 < amount) : OpenItem where
  ledgerId := ledgerId
  accountId := accountId
  journalEntryId := entryId
  kind := kind
  bookingDate := entry.bookingDate
  dueDate := entry.dueDate.getD entry.bookingDate
  amount := amount
  contractId := entry.contractId
  amountPositive := amountPositive

/-- The item one account of the entry gets: a receivable on a debtor, a payable on a creditor. -/
def createdItem (books : Books) (ledgerId : LedgerId) (entryId : EntryId) (entry : JournalEntry)
    (accountId : AccountId) : Option OpenItem :=
  let debit := debitOn accountId entry.lines
  let credit := creditOn accountId entry.lines
  if receivable : categoryOf books accountId = some .debtor ∧ credit < debit ∧
      entry.kind ≠ .creditReclass then
    some (openItem ledgerId entryId entry accountId .receivable (debit - credit)
      (sub_pos.mpr receivable.2.1))
  else if payable : categoryOf books accountId = some .creditor ∧ debit < credit then
    some (openItem ledgerId entryId entry accountId .payable (credit - debit)
      (sub_pos.mpr payable.2))
  else none

def createdItems (books : Books) (ledgerId : LedgerId) (entryId : EntryId) (entry : JournalEntry) :
    List OpenItem :=
  if entry.kind ∈ openItemKinds ∨ entry.kind = .creditReclass then
    (accountOrder entry.lines).filterMap (createdItem books ledgerId entryId entry)
  else []

/-- What the entry moves on a personal account towards settling items of the kind. -/
def movable (kind : OpenItemKind) (accountId : AccountId) (lines : List JournalLine) : Decimal :=
  match kind with
  | .receivable => creditOn accountId lines - debitOn accountId lines
  | .payable => debitOn accountId lines - creditOn accountId lines

/-- One planned settlement; `used` is what the entry already settled per account. -/
def settleOne (books : Books) (ledgerId : LedgerId) (entryId : EntryId) (entry : JournalEntry)
    (used : AccountId → Decimal) (plan : PlanIn) : Result (Books × (AccountId → Decimal)) := do
  let item ← orRefuse books.openItems[plan.openItemId]? .resourceNotFound
    (some "Offener Posten nicht gefunden.")
  require (item.ledgerId = ledgerId) .accWrongEntity
    (some "Offener Posten eines anderen Rechtsträgers.")
  let moved := movable item.kind item.accountId entry.lines
  let total := used item.accountId + plan.amount
  require (0 < moved ∧ total ≤ moved) .validation
    (some "Ausgleich höher als die Bewegung auf dem Personenkonto.")
  if settles : 0 < plan.amount ∧ plan.amount ≤ item.amount - settled books plan.openItemId none then
    let settlement : OpenItemSettlement :=
      { openItemId := plan.openItemId, journalEntryId := entryId, amount := plan.amount,
        date := entry.bookingDate, amountNonZero := settles.1.ne' }
    pure ({ books with settlements := books.settlements ++ [settlement] },
      Function.update used item.accountId total)
  else .error { error := .validation, detail := some "Ausgleich höher als der offene Betrag." }

/-- Explicit settlement plan: per account never more than moved. -/
def settlePlan (ledgerId : LedgerId) (entryId : EntryId) (entry : JournalEntry) :
    Books → (AccountId → Decimal) → List PlanIn → Result Books
  | books, _, [] => pure books
  | books, used, plan :: rest => do
      let (next, usedNext) ← settleOne books ledgerId entryId entry used plan
      settlePlan ledgerId entryId entry next usedNext rest

def applyOpenItems (books : Books) (ledgerId : LedgerId) (entryId : EntryId) (entry : JournalEntry) :
    Result Books :=
  let created := createdItems books ledgerId entryId entry
  settlePlan ledgerId entryId entry { books with openItems := books.openItems ++ created }
    (fun _ => 0) entry.settlementPlan

def JournalLine.toLineIn (line : JournalLine) : LineIn :=
  { accountId := line.accountId, debit := line.debit, credit := line.credit }

def JournalEntry.withPosting (entry : JournalEntry) (posting : Posting) : JournalEntry :=
  { entry with status := .posted posting }

def post (books : Books) (ledgerId : LedgerId) (entryId : EntryId) (userId : Option UserId) :
    Result Books := do
  let ledger ← ledgerOf books ledgerId
  let entry ← entryOf books ledgerId entryId
  if entry.isPosted then pure books  -- repeated click: no second effect
  else do
    ensureOpenPeriod ledger entry.bookingDate
    PeriodLock.ensureOpenForEntry books ledgerId ledger entry.lines entry.bookingDate
    require (entry.kind = .openingBalance → entry.approvedBy.isSome) .gateFourEyes
      (some "Anfangsbestände brauchen die Prüfung durch eine zweite Person.")
    checkBalanced (entry.lines.map JournalLine.toLineIn)
    accounts books ledgerId (entry.lines.map JournalLine.accountId)
    let fiscalYear := fiscalYear ledger entry.bookingDate
    let (number, counters) := nextNumber books.counters ledgerId fiscalYear
    let posted := entry.withPosting { fiscalYear, number, postedBy := userId }
    let numbered := { books with counters, entries := books.entries.set entryId posted }
    applyOpenItems numbered ledgerId entryId posted

/-- Payment orders still waiting on the items or invoices of the entry. Orders already handed to
the bank refuse the reversal. -/
def ordersOfEntry (db : Db) (entryId : EntryId) (itemIds : List OpenItemId) :
    Result (List OrderId) := do
  let concerns := fun (order : PaymentOrder) =>
    (∃ invoiceId ∈ order.invoiceId, ∃ invoice ∈ db.invoices[invoiceId]?,
      invoice.journalEntryId = some entryId) ∨ (∃ itemId ∈ order.openItemId, itemId ∈ itemIds)
  let waiting := db.orders.zipIdx.filter fun (order, _) =>
    decide (concerns order) && decide (order.status ∈
      [.draft, .approved, .exported, .submitted, OrderStatus.acceptedByBank])
  require (∀ found ∈ waiting, found.1.status ∈ [.draft, OrderStatus.approved]) .conflict
    (some ("Zu der Buchung liegt ein an die Bank übergebener Zahlungsauftrag vor. " ++
      "Storno erst nach Ablehnung oder Rückgabe durch die Bank."))
  pure (waiting.map Prod.snd)

/-- Approvals of the orders are void. -/
def invalidateApprovals (orderIds : List OrderId) (approvals : List PaymentApproval) :
    List PaymentApproval :=
  approvals.map fun approval =>
    if approval.orderId ∈ orderIds then { approval with invalidated := true } else approval

def cancelOrders (db : Db) (orderIds : List OrderId) : Db :=
  { db with
    orders := db.orders.mapIdx fun id order =>
      if id ∈ orderIds then { order with status := .cancelled } else order
    approvals := invalidateApprovals orderIds db.approvals }

/-- A line of a reversal: sides swapped, the object of the original line kept. -/
def JournalLine.swapped (line : JournalLine) : LineIn :=
  { line with debit := line.credit, credit := line.debit }

def reversalText (posting : Posting) (text : String) : String :=
  let year := posting.fiscalYear
  let number := posting.number
  String.ofList (s!"Storno Nr. {year}-{number}: {text}".toList.take 500)

def reversalHeader (entry : JournalEntry) (posting : Posting) (userId : Option UserId)
    (bookingDate : Date) : EntryHeader where
  createdBy := userId
  bookingDate := bookingDate
  valueDate := entry.valueDate
  accrualDate := some (entry.accrualDate.getD entry.bookingDate)
  text := reversalText posting entry.text
  kind := .reversal
  reference := entry.reference
  contractId := entry.contractId
  source := entry.source

/-- Items created by an entry, with their ids. -/
def itemsOf (books : Books) (entryId : EntryId) : List (OpenItem × OpenItemId) :=
  books.openItems.zipIdx.filter fun found => found.1.journalEntryId = entryId

/-- The reversal settles the items created by the original. -/
def closing (reversalId : EntryId) (bookingDate : Date) (found : OpenItem × OpenItemId) :
    OpenItemSettlement where
  openItemId := found.2
  journalEntryId := reversalId
  amount := found.1.amount
  date := bookingDate
  amountNonZero := found.1.amountPositive.ne'

/-- Settlements made by the original are undone, history stays. -/
def undoing (reversalId : EntryId) (bookingDate : Date) (settlement : OpenItemSettlement) :
    OpenItemSettlement where
  openItemId := settlement.openItemId
  journalEntryId := reversalId
  amount := -settlement.amount
  date := bookingDate
  amountNonZero := neg_ne_zero.mpr settlement.amountNonZero

def settlementsOf (books : Books) (entryId : EntryId) : List OpenItemSettlement :=
  books.settlements.filter fun settlement => settlement.journalEntryId = entryId

def postingOf (entry : JournalEntry) : Result Posting :=
  match entry.status with
  | .posted posting => pure posting
  | .draft => .error { error := .conflict, detail := some "Nur gebuchte Sätze können storniert werden." }

/-- Write, number and post the reversal, then undo the open item effects of the original. -/
def bookReversal (books : Books) (ledgerId : LedgerId) (ledger : Ledger) (entryId : EntryId)
    (entry : JournalEntry) (posting : Posting) (userId : Option UserId)
    (reversalReason : String) (bookingDate : Date) (reversalReasonCode : ReversalReason) :
    Result (EntryId × Books) := do
  let (reversalId, drafted) ← writeDraft books ledgerId none
    (reversalHeader entry posting userId bookingDate)
    (some { reversesId := entryId, reversalReason, reversalReasonCode })
    (entry.lines.map JournalLine.swapped) []
  let fiscalYear := fiscalYear ledger bookingDate
  let (number, counters) := nextNumber drafted.counters ledgerId fiscalYear
  let numbered := drafted.entries.modify reversalId fun reversal =>
    reversal.withPosting { fiscalYear, number, postedBy := userId }
  pure (reversalId,
    { drafted with
      counters
      entries := numbered.modify entryId fun original =>
        { original with reversedById := some reversalId }
      settlements := drafted.settlements ++
        ((itemsOf books entryId).map (closing reversalId bookingDate) ++
          (settlementsOf books entryId).map (undoing reversalId bookingDate)) })

/-- Reversal with swapped lines, reference, reason, reason code and author; undoes open item
effects and cancels the orders waiting on the entry. -/
def reverse (db : Db) (ledgerId : LedgerId) (entryId : EntryId) (userId : Option UserId)
    (reason : String) (bookingDate : Date) (reasonCode : ReversalReason := .other) :
    Result (EntryId × Db) := do
  let books := db.books
  let ledger ← ledgerOf books ledgerId
  let entry ← entryOf books ledgerId entryId
  let posting ← postingOf entry
  require (entry.reversedById = none ∧ entry.kind ≠ .reversal) .conflict
    (some "Der Satz ist bereits storniert oder selbst ein Storno.")
  ensureOpenPeriod ledger bookingDate
  PeriodLock.ensureOpenForEntry books ledgerId ledger entry.lines bookingDate
  require (entry.bookingDate ≤ bookingDate) .validation
    (some "Das Stornodatum liegt vor der Buchung.")
  let items := itemsOf books entryId
  require (∀ found ∈ items, found.1.amount - settled books found.2 none = found.1.amount) .conflict
    (some ("Auf den offenen Posten sind Zahlungen verrechnet. " ++
      "Bitte zuerst diese Zahlungen stornieren."))
  let orders ← ordersOfEntry db entryId (items.map Prod.snd)
  let (reversalId, reversed) ← bookReversal books ledgerId ledger entryId entry posting userId reason
    bookingDate reasonCode
  pure (reversalId, cancelOrders { db with books := reversed } orders)

/-- The lock only moves forward; answers the number of drafts left in the period. -/
def lockPeriod (books : Books) (ledgerId : LedgerId) (last : Date) : Result (ℕ × Books) := do
  let ledger ← ledgerOf books ledgerId
  require (∀ locked ∈ ledger.lockedUntil, locked ≤ last) .conflict
    (some "Eine Festschreibung kann nicht zurückgenommen werden.")
  let drafts := books.entries.filter fun entry =>
    entry.ledgerId = ledgerId ∧ entry.status = .draft ∧ entry.bookingDate ≤ last
  pure (drafts.length,
    { books with ledgers := books.ledgers.set ledgerId { ledger with lockedUntil := some last } })

def defaultReversalDate (ledger : Ledger) (today : Date) : Date :=
  match ledger.lockedUntil with
  | some last => if today ≤ last then last.addDays 1 else today
  | none => today

end Mhvp.Accounting
