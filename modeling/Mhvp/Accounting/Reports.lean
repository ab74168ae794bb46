import Mhvp.Accounting.Links

namespace Mhvp.Accounting

open Core Lib.Calendar Lib.Aggregate

/-- Posted entries dated within an optional first and last day. -/
def PostedWithin (start asOf : Option Date) (entry : JournalEntry) : Prop :=
  entry.isPosted ∧ Within asOf entry.bookingDate ∧ ∀ first ∈ start, first ≤ entry.bookingDate

instance : Decidable (PostedWithin start asOf entry) := by unfold PostedWithin; infer_instance

/-- Lines of the posted entries within the days. -/
def postedLines (books : Books) (start asOf : Option Date) : List JournalLine :=
  (books.entries.filter fun entry => PostedWithin start asOf entry).flatMap JournalEntry.lines

/-- Lines of the posted entries of one ledger. -/
def ledgerLines (books : Books) (ledgerId : LedgerId) (asOf : Option Date) : List JournalLine :=
  (books.entries.filter fun entry => entry.ledgerId = ledgerId ∧ PostedWithin none asOf entry).flatMap
    JournalEntry.lines

/-- Debit minus credit of an account over the posted entries up to a cut-off day. -/
def balance (books : Books) (accountId : AccountId) (asOf : Option Date) : Decimal :=
  debitOn accountId (postedLines books none asOf) - creditOn accountId (postedLines books none asOf)

structure TrialRow where
  accountId : AccountId
  number : String
  name : String
  category : AccountCategory
  debit : Decimal
  credit : Decimal
  balance : Decimal

structure TrialBalance where
  asOf : Date
  start : Option Date
  accounts : List TrialRow
  debit : Decimal
  credit : Decimal
  balanced : Bool

/-- One group of the trial balance; accounts without a line have no group. -/
def trialRow (lines : List JournalLine) (ledgerId : LedgerId) (found : LedgerAccount × AccountId) :
    Option TrialRow :=
  let (account, accountId) := found
  if account.ledgerId = ledgerId ∧ ∃ line ∈ lines, line.accountId = accountId then
    let debit := debitOn accountId lines
    let credit := creditOn accountId lines
    some { accountId, number := account.number, name := account.name, category := account.category,
           debit, credit, balance := debit - credit }
  else none

def trialBalance (books : Books) (ledgerId : LedgerId) (asOf : Date) (start : Option Date) :
    TrialBalance :=
  let lines := postedLines books start (some asOf)
  let rows := (books.accounts.zipIdx.filterMap (trialRow lines ledgerId)).insertionSort
    fun first second => first.number ≤ second.number
  let debit := (rows.map TrialRow.debit).sum
  let credit := (rows.map TrialRow.credit).sum
  { asOf, start, accounts := rows, debit, credit, balanced := debit = credit }

structure OpenItemRow where
  id : OpenItemId
  accountId : AccountId
  accountNumber : String
  kind : OpenItemKind
  journalEntryId : EntryId
  bookingDate : Date
  dueDate : Date
  amount : Decimal
  remaining : Decimal
  contractId : Option ContractId
  noticeReceivedOn : Option Date

def openItemRow (books : Books) (ledgerId : LedgerId) (asOf : Date) (accountId : Option AccountId)
    (found : OpenItem × OpenItemId) : Option OpenItemRow := do
  let (item, id) := found
  let account ← books.accounts[item.accountId]?
  let rest := item.amount - settled books id (some asOf)
  if item.ledgerId = ledgerId ∧ item.bookingDate ≤ asOf ∧ (∀ only ∈ accountId, item.accountId = only) ∧
      rest ≠ 0 then
    some { id, accountId := item.accountId, accountNumber := account.number, kind := item.kind,
           journalEntryId := item.journalEntryId, bookingDate := item.bookingDate,
           dueDate := item.dueDate, amount := item.amount, remaining := rest,
           contractId := item.contractId, noticeReceivedOn := item.noticeReceivedOn }
  else none

/-- `ORDER BY number, due_date, id` -/
def OpenItemRow.Before (first second : OpenItemRow) : Prop :=
  first.accountNumber < second.accountNumber ∨ (first.accountNumber = second.accountNumber ∧
    (first.dueDate < second.dueDate ∨ (first.dueDate = second.dueDate ∧ first.id ≤ second.id)))

instance : DecidableRel OpenItemRow.Before := fun first second => by
  unfold OpenItemRow.Before; infer_instance

def openItems (books : Books) (ledgerId : LedgerId) (asOf : Date) (accountId : Option AccountId) :
    List OpenItemRow :=
  (books.openItems.zipIdx.filterMap (openItemRow books ledgerId asOf accountId)).insertionSort
    OpenItemRow.Before

/-- The item counts as written off from its effective day onwards. -/
def WrittenOffWithin (asOf : Option Date) (item : OpenItem) : Prop :=
  item.writtenOff ∧ ∀ effectiveOn ∈ item.writtenOffOn, Within asOf effectiveOn

instance : Decidable (WrittenOffWithin asOf item) := by unfold WrittenOffWithin; infer_instance

/-- A posted entry up to the cut-off day reverses the entry. -/
def HasReversal (books : Books) (asOf : Option Date) (entryId : EntryId) : Prop :=
  ∃ entry ∈ books.entries, PostedWithin none asOf entry ∧ entry.reversesId = some entryId

instance : Decidable (HasReversal books asOf entryId) := by unfold HasReversal; infer_instance

/-- An item as a reconciliation counts it; the rest of a receivable is positive. -/
structure ReconciledItem where
  accountId : AccountId
  writtenOff : Bool
  reversed : Bool
  rest : Decimal

def reconciledItem (books : Books) (asOf : Option Date) (found : OpenItem × OpenItemId) :
    ReconciledItem where
  accountId := found.1.accountId
  writtenOff := WrittenOffWithin asOf found.1
  reversed := HasReversal books asOf found.1.journalEntryId
  rest :=
    let rest := found.1.amount - settled books found.2 asOf
    match found.1.kind with
    | .receivable => rest
    | .payable => -rest

def reconciledItems (books : Books) (ledgerId : LedgerId) (asOf : Option Date) : List ReconciledItem :=
  (books.openItems.zipIdx.filter fun found =>
    found.1.ledgerId = ledgerId ∧ Within asOf found.1.bookingDate).map (reconciledItem books asOf)

structure ReconciliationRow where
  accountId : AccountId
  number : String
  name : String
  category : AccountCategory
  ledgerBalance : Decimal
  openItemsRemaining : Decimal
  difference : Decimal
  excludedWrittenOff : Decimal
  excludedWrittenOffCount : ℕ
  excludedReversed : Decimal
  excludedReversedCount : ℕ
  excludedApplied : Bool
  deriving DecidableEq

def reconciliationRow (ledgerId : LedgerId) (lines : List JournalLine) (items : List ReconciledItem)
    (excludeWrittenOff : Bool) (found : LedgerAccount × AccountId) : Option ReconciliationRow :=
  let (account, accountId) := found
  let lines := lines.filter fun line => line.accountId = accountId
  let items := items.filter fun item => item.accountId = accountId
  if account.ledgerId = ledgerId ∧ account.category ∈ [.debtor, AccountCategory.creditor] ∧
      (lines ≠ [] ∨ items ≠ []) then
    let reversed := items.filter fun item => item.reversed
    let writtenOff := items.filter fun item => item.writtenOff && !item.reversed
    let counted := items.filter fun item => !item.reversed && !item.writtenOff
    let bal := (lines.map JournalLine.net).sum
    let rev := (reversed.map ReconciledItem.rest).sum
    let wo := (writtenOff.map ReconciledItem.rest).sum
    let open' := (counted.map ReconciledItem.rest).sum
    let remaining := if excludeWrittenOff then open' else open' + wo + rev
    some { accountId, number := account.number, name := account.name, category := account.category,
           ledgerBalance := bal, openItemsRemaining := remaining, difference := bal - remaining,
           excludedWrittenOff := wo,
           excludedWrittenOffCount := (writtenOff.filter fun item => item.rest ≠ 0).length,
           excludedReversed := rev,
           excludedReversedCount := (reversed.filter fun item => item.rest ≠ 0).length,
           excludedApplied := excludeWrittenOff }
  else none

def subledgerReconciliation (books : Books) (ledgerId : LedgerId) (asOf : Option Date)
    (excludeWrittenOff : Bool) : List ReconciliationRow :=
  let lines := ledgerLines books ledgerId asOf
  let items := reconciledItems books ledgerId asOf
  (books.accounts.zipIdx.filterMap (reconciliationRow ledgerId lines items excludeWrittenOff)).insertionSort
    fun first second => first.number ≤ second.number

variable {books next : Books}

/-- Debit minus credit of an entry's lines on an account. -/
def netOn (accountId : AccountId) (lines : List JournalLine) : Decimal :=
  debitOn accountId lines - creditOn accountId lines

theorem balance_eq (books : Books) (accountId : AccountId) (asOf : Option Date) :
    balance books accountId asOf =
      sumWhere (PostedWithin none asOf) (fun entry => netOn accountId entry.lines) books.entries := by
  have flat : ∀ entries : List JournalEntry, netOn accountId (entries.flatMap JournalEntry.lines) =
      (entries.map fun entry => netOn accountId entry.lines).sum := by
    intro entries
    induction entries with
    | nil => simp [netOn, debitOn, creditOn]
    | cons entry rest ih =>
      rw [List.flatMap_cons, List.map_cons, List.sum_cons, ← ih]
      simp only [netOn, debitOn, creditOn, sumWhere_append]
      ring
  exact flat _

theorem netOn_swapped (swapped : reversed.map JournalLine.toLineIn = (lines.map JournalLine.swapped).map LineIn.bare) :
    netOn accountId reversed = -netOn accountId lines := by
  have bare : ∀ rows : List JournalLine, netOn accountId rows =
      sumWhere (fun line => line.accountId = accountId) (fun line => line.debit - line.credit)
        (rows.map JournalLine.toLineIn) := by
    intro rows
    rw [sumWhere_map, netOn, debitOn, creditOn, ← sumWhere_sub]
    rfl
  rw [bare, swapped, List.map_map, sumWhere_map, netOn, debitOn, creditOn, ← sumWhere_sub, ← sumWhere_neg]
  refine sumWhere_congr (fun _ _ => Iff.rfl) fun line _ _ => ?_
  simp [LineIn.bare, JournalLine.swapped]

theorem postedWithin_draft (draft : entry.status = .draft) : ¬ PostedWithin start asOf entry :=
  fun posted => posted.1 draft

theorem postedWithin_withPosting (entry : JournalEntry) (posting : Posting) :
    PostedWithin none asOf (entry.withPosting posting) ↔ Within asOf entry.bookingDate := by
  simp [PostedWithin, JournalEntry.isPosted, JournalEntry.withPosting]

theorem balance_posted (posts : Posts books entryId entry ledger posting rows) :
    balance (books.posted entryId entry posting rows) accountId asOf =
      balance books accountId asOf +
        if Within asOf entry.bookingDate then netOn accountId entry.lines else 0 := by
  rw [balance_eq, balance_eq, Books.posted, sumWhere_set posts.found,
    if_neg (postedWithin_draft posts.draft), sub_zero]
  simp only [postedWithin_withPosting]
  rfl

theorem balance_reversed (reverses : Reverses books entryId entry ledger bookingDate reversal posting) :
    balance (books.reversed entryId entry bookingDate reversal posting) accountId asOf =
      balance books accountId asOf -
        if Within asOf bookingDate then netOn accountId entry.lines else 0 := by
  have sameEntry : (if PostedWithin none asOf { entry with reversedById := some books.entries.length } then
      netOn accountId entry.lines else 0) =
      if PostedWithin none asOf entry then netOn accountId entry.lines else 0 := rfl
  rw [balance_eq, balance_eq, Books.reversed, sumWhere_append, sumWhere_set reverses.found, sameEntry,
    sumWhere_singleton]
  simp only [postedWithin_withPosting, reverses.dated]
  rw [show netOn accountId (reversal.withPosting posting).lines = -netOn accountId entry.lines from
    netOn_swapped reverses.lines]
  by_cases within : Within asOf bookingDate
  · simp only [if_pos within]; ring
  · simp only [if_neg within]; ring

namespace YearCarryover

def carriedCategories : List AccountCategory := [.bank, .cash, .reserve, .loan, .transit]

/-- First and last day of the fiscal year labelled by its start year. -/
def yearBounds (ledger : Ledger) (fiscalYear : ℕ) : Date × Date :=
  (.ofYmd fiscalYear ledger.fiscalYearStartMonth 1,
    (Date.ofYmd (fiscalYear + 1) ledger.fiscalYearStartMonth 1).dayBefore)

structure ClosingBalance where
  accountId : AccountId
  number : String
  name : String
  category : AccountCategory
  balance : Decimal

/-- One group of the closing balances; accounts without a line or with balance zero have none. -/
def closingBalance (lines : List JournalLine) (ledgerId : LedgerId) (found : LedgerAccount × AccountId) :
    Option ClosingBalance :=
  let (account, accountId) := found
  let balance := debitOn accountId lines - creditOn accountId lines
  if account.ledgerId = ledgerId ∧ (∃ line ∈ lines, line.accountId = accountId) ∧ balance ≠ 0 then
    some { accountId, number := account.number, name := account.name, category := account.category, balance }
  else none

/-- Carried and not carried: balance of the posted lines up to the last day. -/
def closingBalances (books : Books) (ledgerId : LedgerId) (last : Date) :
    List ClosingBalance × List ClosingBalance :=
  let lines := postedLines books none (some last)
  let rows := (books.accounts.zipIdx.filterMap (closingBalance lines ledgerId)).insertionSort
    fun first second => first.number ≤ second.number
  rows.partition fun row => row.category ∈ carriedCategories

/-- `_key(fiscal_year, part)` -/
def key (fiscalYear : ℕ) (part : String) : String := s!"year-carryover-{fiscalYear}-{part}"

/-- A line that moves the account by a signed amount, debit if positive. -/
def signedLine (accountId : AccountId) (amount : Decimal) (text : String) : LineIn :=
  { accountId, debit := if 0 < amount then amount else 0, credit := if amount < 0 then -amount else 0,
    text := some text }

/-- Lines of one part: the carried balances with a sign, and their sum on the counter account. -/
def partLines (carried : List ClosingBalance) (counterId : AccountId) (sign : Decimal) (text : String) :
    List LineIn :=
  let net := (carried.map ClosingBalance.balance).sum
  let offset := -net * sign
  carried.map (fun item => signedLine item.accountId (item.balance * sign) text) ++
    if offset ≠ 0 then [signedLine counterId offset text] else []

def partHeader (fiscalYear : ℕ) (part : String) (kind : EntryKind) (target : Date) (text : String)
    (userId : Option UserId) : EntryHeader where
  createdBy := userId
  bookingDate := target
  text := text
  kind := kind
  source := .manual
  idempotencyKey := some (key fiscalYear part)

/-- Drafts of an earlier request for the year. -/
def earlier (books : Books) (ledgerId : LedgerId) (fiscalYear : ℕ) : List (JournalEntry × EntryId) :=
  books.entries.zipIdx.filter fun found => found.1.ledgerId = ledgerId ∧
    found.1.idempotencyKey ∈ [some (key fiscalYear "closing"), some (key fiscalYear "opening")]

/-- The two drafts, once per fiscal year; a repeated request answers the drafts of the first. -/
def createDrafts (books : Books) (ledgerId : LedgerId) (fiscalYear : ℕ) (userId : Option UserId)
    (today : Date) : Result (List EntryId × Books) := do
  let ledger ← ledgerOf books ledgerId
  let last := (yearBounds ledger fiscalYear).2
  require (last < today) .validation (some "Das Geschäftsjahr ist noch nicht beendet.")
  let target := last.addDays 1
  match earlier books ledgerId fiscalYear with
  | first :: more =>
    let byKey := (first :: more).insertionSort fun one other =>
      one.1.idempotencyKey.getD "" ≤ other.1.idempotencyKey.getD ""
    pure (byKey.map Prod.snd, books)
  | [] => do
      let carried := (closingBalances books ledgerId last).1
      require (carried ≠ []) .validation (some "Es gibt keine Schlussbestände zur Übernahme.")
      match books.accounts.zipIdx.filter fun found =>
          found.1.ledgerId = ledgerId ∧ found.1.category = .openingBalance with
      | [counter] => do
          let closingText := s!"Schlussbestand Geschäftsjahr {fiscalYear}"
          let (closingId, closed) ← writeDraft books ledgerId none
            (partHeader fiscalYear "closing" .custom target closingText userId) none
            (partLines carried counter.2 (-1) closingText) []
          let following := fiscalYear + 1
          let openingText := s!"Anfangsbestand Geschäftsjahr {following}"
          let (openingId, opened) ← writeDraft closed ledgerId none
            (partHeader fiscalYear "opening" .openingBalance target openingText userId) none
            (partLines carried counter.2 1 openingText) []
          pure ([closingId, openingId], opened)
      | _ => .error { error := .validation,
                      detail := some "Genau ein Anfangsbestandskonto im Kontenplan ist erforderlich." }

end YearCarryover

end Mhvp.Accounting
