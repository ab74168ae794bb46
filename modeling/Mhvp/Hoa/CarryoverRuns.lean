import Mathlib.Tactic.IntervalCases
import Mhvp.Accounting.CleanRuns
import Mhvp.Hoa.Carryover

namespace Mhvp.Hoa

open Core Accounting Accounting.YearCarryover Lib.Calendar Lib.Aggregate List
open Lib.Table Lib.Transition

variable {books next : Books} {fiscalYear : ℕ}

theorem closingBalance_some :
    closingBalance (postedLines books none (some last)) ledgerId (account, accountId) = some item ↔
      account.ledgerId = ledgerId ∧ balance books accountId (some last) ≠ 0 ∧
        item = { accountId, number := account.number, name := account.name, category := account.category,
                 balance := balance books accountId (some last) } := by
  have onLine : balance books accountId (some last) ≠ 0 →
      ∃ line ∈ postedLines books none (some last), line.accountId = accountId := by
    intro nonzero
    by_contra none
    apply nonzero
    have unselected : ∀ column : JournalLine → Decimal, sumWhere (fun line : JournalLine => line.accountId = accountId) column
        (postedLines books Option.none (some last)) = 0 :=
      fun column => sumWhere_eq_zero fun line member onAccount => absurd ⟨line, member, onAccount⟩ none
    rw [balance, debitOn, creditOn, unselected, unselected, sub_zero]
  unfold closingBalance
  change (if account.ledgerId = ledgerId ∧ (∃ line ∈ postedLines books none (some last), line.accountId = accountId) ∧
    balance books accountId (some last) ≠ 0 then _ else none) = _ ↔ _
  split
  · rename_i carried
    rw [Option.some_inj]
    constructor
    · rintro rfl
      exact ⟨carried.1, carried.2.2, rfl⟩
    · rintro ⟨-, -, rfl⟩
      rfl
  · rename_i uncarried
    constructor
    · rintro ⟨⟩
    · rintro ⟨sameLedger, nonzero, -⟩
      exact absurd ⟨sameLedger, onLine nonzero, nonzero⟩ uncarried

theorem carried_account (carried : item ∈ (closingBalances books ledgerId last).1) :
    ∃ account, books.accounts[item.accountId]? = some account ∧ account.ledgerId = ledgerId ∧
      account.category = item.category ∧ item.category ∈ carriedCategories ∧
      item.balance = balance books item.accountId (some last) ∧ item.balance ≠ 0 := by
  simp only [closingBalances, partition_eq_filter_filter, mem_filter, mem_insertionSort,
    mem_filterMap, decide_eq_true_eq] at carried
  obtain ⟨⟨⟨account, accountId⟩, member, isItem⟩, category⟩ := carried
  obtain ⟨sameLedger, nonzero, rfl⟩ := closingBalance_some.mp isItem
  exact ⟨account, mem_zipIdx_iff_getElem?.mp member, sameLedger, rfl, category, rfl, nonzero⟩

theorem account_carried (found : books.accounts[accountId]? = some account) (sameLedger : account.ledgerId = ledgerId)
    (category : account.category ∈ carriedCategories) (nonzero : balance books accountId (some last) ≠ 0) :
    ∃ item ∈ (closingBalances books ledgerId last).1, item.category = account.category := by
  refine ⟨{ accountId, number := account.number, name := account.name, category := account.category,
            balance := balance books accountId (some last) }, ?_, rfl⟩
  simp only [closingBalances, partition_eq_filter_filter, mem_filter, mem_insertionSort,
    mem_filterMap, decide_eq_true_eq]
  refine ⟨⟨(account, accountId), mem_zipIdx_iff_getElem?.mpr found, ?_⟩, category⟩
  exact closingBalance_some.mpr ⟨sameLedger, nonzero, rfl⟩

/-- Sum of the balances of the bank and cash accounts. -/
def cashBalance (books : Books) (ledgerId : LedgerId) (last : Date) : Decimal :=
  ((cashAccounts books ledgerId).map fun found => balance books found.2 (some last)).sum

theorem cashSum_carried (books : Books) (ledgerId : LedgerId) (last : Date) :
    cashSum (closingBalances books ledgerId last).1 = cashBalance books ledgerId last := by
  have carriedCash : ∀ category, category ∈ cashCategories → category ∈ carriedCategories := by decide
  have sorted : ∀ rows : List ClosingBalance,
      cashSum ((rows.insertionSort fun first second => first.number ≤ second.number).filter
        fun row => row.category ∈ carriedCategories) = cashSum rows := by
    intro rows
    have permuted : cashSum (rows.insertionSort fun first second => first.number ≤ second.number) = cashSum rows :=
      (((perm_insertionSort _ rows).filter _).map _).sum_eq
    rw [← permuted, cashSum, cashSum, sumWhere_filter]
    exact sumWhere_congr (fun row _ => and_iff_left_of_imp (carriedCash row.category)) fun _ _ _ => rfl
  have each : ∀ rows : List (LedgerAccount × AccountId),
      cashSum (rows.filterMap (closingBalance (postedLines books none (some last)) ledgerId)) =
        sumWhere (fun found => found.1.ledgerId = ledgerId ∧ found.1.category ∈ cashCategories)
          (fun found => balance books found.2 (some last)) rows := by
    intro rows
    induction rows with
    | nil => rfl
    | cons found rest ih =>
      rw [sumWhere_cons, ← ih, filterMap_cons]
      cases carried : closingBalance (postedLines books none (some last)) ledgerId found with
      | some item =>
        obtain ⟨sameLedger, -, rfl⟩ := closingBalance_some.mp carried
        rw [cashSum, sumWhere_cons]
        simp only [sameLedger, true_and]
        rfl
      | none =>
        have uncounted : found.1.ledgerId = ledgerId ∧ found.1.category ∈ cashCategories →
            balance books found.2 (some last) = 0 := by
          rintro ⟨sameLedger, -⟩
          by_contra nonzero
          have some' := closingBalance_some.mpr ⟨sameLedger, nonzero, rfl⟩
          rw [carried] at some'
          cases some'
        rw [ite_eq_right_iff.mpr uncounted, zero_add]
  have counted : cashBalance books ledgerId last =
      sumWhere (fun found => found.1.ledgerId = ledgerId ∧ found.1.category ∈ cashCategories)
        (fun found => balance books found.2 (some last)) books.accounts.zipIdx :=
    ((perm_insertionSort _ _).map _).sum_eq
  rw [counted, ← each, closingBalances, partition_eq_filter_filter]
  exact sorted _

/-- At the year end no bank or cash account holds a balance, or their balances cancel and no reserve, loan
or transit account holds one. -/
def CashAtRest (books : Books) (ledgerId : LedgerId) (last : Date) : Prop :=
  (∀ found ∈ cashAccounts books ledgerId, balance books found.2 (some last) = 0) ∨
    (cashBalance books ledgerId last = 0 ∧ ∀ found ∈ books.accounts.zipIdx, found.1.ledgerId = ledgerId →
      found.1.category ∈ [.reserve, .loan, AccountCategory.transit] → balance books found.2 (some last) = 0)

instance : Decidable (CashAtRest books ledgerId last) := by unfold CashAtRest; infer_instance

theorem carriesNoCash_iff (books : Books) (ledgerId : LedgerId) (last : Date) :
    CarriesNoCash (closingBalances books ledgerId last).1 ↔ CashAtRest books ledgerId last := by
  have split : ∀ category, category ∈ carriedCategories ↔
      category ∈ cashCategories ∨ category ∈ [.reserve, .loan, AccountCategory.transit] := by
    intro category
    cases category <;> decide
  have apart : ∀ category, category ∈ [.reserve, .loan, AccountCategory.transit] → category ∉ cashCategories := by
    intro category
    cases category <;> decide
  have noCash : ¬ CarriesCash (closingBalances books ledgerId last).1 ↔
      ∀ found ∈ cashAccounts books ledgerId, balance books found.2 (some last) = 0 := by
    simp only [CarriesCash, cashAccounts, mem_insertionSort, mem_filter, decide_eq_true_eq]
    constructor
    · rintro none ⟨account, accountId⟩ ⟨member, sameLedger, cash⟩
      by_contra nonzero
      obtain ⟨item, carried, same⟩ := account_carried (mem_zipIdx_iff_getElem?.mp member) sameLedger
        ((split _).mpr (Or.inl cash)) nonzero
      exact none ⟨item, carried, same ▸ cash⟩
    · rintro none ⟨item, carried, cash⟩
      obtain ⟨account, found, sameLedger, same, -, isBalance, nonzero⟩ := carried_account carried
      rw [isBalance] at nonzero
      exact nonzero (none (account, item.accountId)
        ⟨mem_zipIdx_iff_getElem?.mpr found, sameLedger, same ▸ cash⟩)
  have onlyCash : (∀ item ∈ (closingBalances books ledgerId last).1, item.category ∈ cashCategories) ↔
      ∀ found ∈ books.accounts.zipIdx, found.1.ledgerId = ledgerId →
        found.1.category ∈ [.reserve, .loan, AccountCategory.transit] → balance books found.2 (some last) = 0 := by
    constructor
    · rintro only ⟨account, accountId⟩ member sameLedger other
      by_contra nonzero
      obtain ⟨item, carried, same⟩ := account_carried (mem_zipIdx_iff_getElem?.mp member) sameLedger
        ((split _).mpr (Or.inr other)) nonzero
      exact apart _ other (same ▸ only item carried)
    · intro none item carried
      obtain ⟨account, found, sameLedger, same, category, isBalance, nonzero⟩ := carried_account carried
      refine ((split _).mp category).resolve_right fun other => nonzero ?_
      rw [isBalance]
      exact none (account, item.accountId) (mem_zipIdx_iff_getElem?.mpr found) sameLedger (same ▸ other)
  rw [CarriesNoCash, CashAtRest, noCash, cashSum_carried, onlyCash]

/-- The two drafts as the carry over writes them. -/
structure DraftedPair (books : Books) (ledgerId : LedgerId) (ledger : Ledger) (fiscalYear : ℕ) (counterId : AccountId)
    (closingEntry openingEntry : JournalEntry) : Prop where
  pair : CarriedPair (closingBalances books ledgerId (yearBounds ledger fiscalYear).2).1 counterId closingEntry
    openingEntry
  counter : ∃ account, books.accounts[counterId]? = some account ∧ account.ledgerId = ledgerId ∧
    account.category = .openingBalance
  ledgers : closingEntry.ledgerId = ledgerId ∧ openingEntry.ledgerId = ledgerId
  drafts : closingEntry.status = .draft ∧ openingEntry.status = .draft
  target : closingEntry.bookingDate = .ofYmd (fiscalYear + 1) ledger.fiscalYearStartMonth 1

private theorem target_eq (ledger : Ledger) (fiscalYear : ℕ) :
    (yearBounds ledger fiscalYear).2.addDays 1 = .ofYmd (fiscalYear + 1) ledger.fiscalYearStartMonth 1 := by
  apply Date.ext
  exact Nat.sub_add_cancel (Nat.le_add_left 1 _)

theorem createDrafts_ok (none : earlier books ledgerId fiscalYear = [])
    (created : createDrafts books ledgerId fiscalYear userId today = .ok (ids, drafted)) :
    ∃ ledger counterId closingEntry openingEntry, books.ledgers[ledgerId]? = some ledger ∧
      DraftedPair books ledgerId ledger fiscalYear counterId closingEntry openingEntry ∧
      ids = [books.entries.length, books.entries.length + 1] ∧
      drafted.entries = books.entries ++ [closingEntry] ++ [openingEntry] ∧
      ∃ mid, QuietStep books mid ∧ QuietStep mid drafted := by
  simp only [createDrafts, bind_ok, ledgerOf_ok, exists_unit, none] at created
  obtain ⟨ledger, foundLedger, -, -, drafts⟩ := created
  split at drafts
  case h_2 => cases drafts
  rename_i counter isCounter
  simp only [bind_ok, pure_ok, Prod.mk.injEq] at drafts
  obtain ⟨⟨closingId, closed⟩, writtenClosing, ⟨openingId, opened⟩, writtenOpening, rfl, rfl⟩ := drafts
  have counterFound : counter ∈ books.accounts.zipIdx.filter fun found =>
      found.1.ledgerId = ledgerId ∧ found.1.category = .openingBalance := by
    rw [isCounter]
    exact mem_singleton_self _
  simp only [mem_filter, decide_eq_true_eq] at counterFound
  have quietClosing := draft_step (by simp [partHeader]) writtenClosing
  have quietOpening := draft_step (by simp [partHeader]) writtenOpening
  obtain ⟨closingEntry, closingRow, ⟨-, rfl, rfl⟩ | ⟨-, target, -⟩⟩ := writeDraft_ok writtenClosing
  case inr => cases target
  obtain ⟨openingEntry, openingRow, ⟨-, rfl, rfl⟩ | ⟨-, target, -⟩⟩ := writeDraft_ok writtenOpening
  case inr => cases target
  have closingKind : closingEntry.kind = .custom := congrArg EntryHeader.kind closingRow.header
  have closingDate : closingEntry.bookingDate = (yearBounds ledger fiscalYear).2.addDays 1 :=
    congrArg EntryHeader.bookingDate closingRow.header
  have openingDate : openingEntry.bookingDate = (yearBounds ledger fiscalYear).2.addDays 1 :=
    congrArg EntryHeader.bookingDate openingRow.header
  refine ⟨ledger, counter.2, closingEntry, openingEntry, foundLedger, ⟨⟨⟨_, closingRow.lines⟩, ⟨_, openingRow.lines⟩,
    ?_, ?_, closingDate.trans openingDate.symm⟩, ?_, ⟨closingRow.ledger, openingRow.ledger⟩,
    ⟨closingRow.draft, openingRow.draft⟩, ?_⟩, ?_, rfl, _, quietClosing,
    quietOpening⟩
  · rw [closingKind]
    decide
  · exact congrArg EntryHeader.kind openingRow.header
  · exact ⟨counter.1, mem_zipIdx_iff_getElem?.mp counterFound.1, counterFound.2⟩
  · rw [closingDate, target_eq]
  · simp

theorem first_in_year (ledger : Ledger) (year : ℕ) :
    Date.ofYmd year 1 1 ≤ Date.ofYmd year ledger.fiscalYearStartMonth 1 ∧
      Date.ofYmd year ledger.fiscalYearStartMonth 1 ≤ Date.ofYmd year 12 31 := by
  obtain ⟨first, last⟩ := ledger.startMonthInRange
  have months : ∀ month, 1 ≤ month → month ≤ 12 →
      Date.daysBeforeMonth year 1 ≤ Date.daysBeforeMonth year month ∧
        Date.daysBeforeMonth year month ≤ Date.daysBeforeMonth year 12 := by
    intro month first last
    cases leap : Date.isLeap year with
    | true | false => interval_cases month <;> simp [Date.daysBeforeMonth, Date.daysBeforeMonthTable, leap]
  have within := months _ first last
  simp only [Date.le_def, Date.ofYmd]
  omega

/-- Accounts stay, apart from their switch. -/
def AccountsKept (books next : Books) : Prop :=
  ∀ (accountId : AccountId) (account : LedgerAccount), books.accounts[accountId]? = some account →
    ∃ active, next.accounts[accountId]? = some { account with active }

theorem AccountsKept.refl (books : Books) : AccountsKept books books := fun _ account found => ⟨account.active, found⟩

theorem AccountsKept.trans (first : AccountsKept books mid) (second : AccountsKept mid next) :
    AccountsKept books next := by
  intro accountId account found
  obtain ⟨_, foundMid⟩ := first accountId account found
  obtain ⟨active, foundNext⟩ := second accountId _ foundMid
  exact ⟨active, foundNext⟩

theorem BookStep.accountsKept (step : BookStep books next) : AccountsKept books next := by
  cases step with
  | ledger next step =>
    cases step with
    | master next edits => exact edits.accounts
    | draft | redraft | post | reverse | lock => exact AccountsKept.refl books
  | flag | credit => exact AccountsKept.refl books

theorem BookSteps.accountsKept (steps : BookSteps books next) : AccountsKept books next := by
  induction steps with
  | refl => exact AccountsKept.refl books
  | tail _ step ih => exact ih.trans (BookStep.accountsKept step)

theorem run_accountsKept (state : BookState db) (calls : List BookCall) :
    AccountsKept db.books (run bookStep db calls).books := by
  have step : ∀ mid call next, BookState mid ∧ AccountsKept db.books mid.books → bookStep mid call = .ok next →
      BookState next ∧ AccountsKept db.books next.books := by
    intro mid call next holds accepted
    have steps := bookStep_steps holds.1.sound holds.1.rent accepted
    exact ⟨bookStep_state mid call next holds.1 accepted, holds.2.trans (BookSteps.accountsKept steps)⟩
  exact (run_invariant step calls ⟨state, AccountsKept.refl _⟩).2

theorem AccountsKept.carries (kept : AccountsKept books next)
    (drafted : DraftedPair books ledgerId ledger fiscalYear counterId closingEntry openingEntry) :
    Carries next ledgerId (closingBalances books ledgerId (yearBounds ledger fiscalYear).2).1 counterId := by
  have seen : ∀ {accountId account}, books.accounts[accountId]? = some account → account.ledgerId = ledgerId →
      (isCash next ledgerId accountId = true ↔ account.category ∈ cashCategories) := by
    intro accountId account found sameLedger
    obtain ⟨active, foundNext⟩ := kept accountId account found
    simp [isCash, ledgerAccount, foundNext, sameLedger]
  constructor
  · intro item carried
    obtain ⟨account, found, sameLedger, same, -⟩ := carried_account carried
    rw [seen found sameLedger, same]
  · intro item carried
    obtain ⟨-, -, -, -, -, -, nonzero⟩ := carried_account carried
    exact nonzero
  · obtain ⟨account, found, sameLedger, category⟩ := drafted.counter
    rw [Bool.eq_false_iff, ne_eq, seen found sameLedger, category]
    decide

/-- The draft is as it was written, apart from the check of a second person. -/
def Untouched (drafted current : Books) (entryId : EntryId) : Prop :=
  ∃ entry approvedBy, drafted.entries[entryId]? = some entry ∧
    current.entries[entryId]? = some { entry with approvedBy }

instance : Decidable (Untouched drafted current entryId) :=
  decidable_of_iff (∃ entry ∈ drafted.entries[entryId]?, ∃ row ∈ current.entries[entryId]?,
      row = { entry with approvedBy := row.approvedBy }) <| by
    constructor
    · rintro ⟨entry, found, row, foundRow, same⟩
      exact ⟨entry, row.approvedBy, found, same ▸ foundRow⟩
    · rintro ⟨entry, approvedBy, found, foundRow⟩
      exact ⟨entry, found, _, foundRow, rfl⟩

/-- The drafts of the year are written at `db`; after other requests both are posted, one after the
other, which takes the books from `current` to `final`. -/
inductive CarriedOver (db : Db) (ledgerId : LedgerId) (fiscalYear : ℕ) : Books → Books → Prop
  | intro (userId : Option UserId) (today : Date) (closingId openingId : EntryId) (drafted : Books)
      (later : List BookCall) (one other : EntryId) (oneBy otherBy : Option UserId) (middle final : Books)
      (none : earlier db.books ledgerId fiscalYear = [])
      (created : createDrafts db.books ledgerId fiscalYear userId today = .ok ([closingId, openingId], drafted))
      (untouched : ∀ entryId ∈ [closingId, openingId],
        Untouched drafted (run bookStep { db with books := drafted } later).books entryId)
      (either : (one, other) = (closingId, openingId) ∨ (one, other) = (openingId, closingId))
      (postedOne : post (run bookStep { db with books := drafted } later).books ledgerId one oneBy = .ok middle)
      (postedOther : post middle ledgerId other otherBy = .ok final) :
      CarriedOver db ledgerId fiscalYear (run bookStep { db with books := drafted } later).books final

private theorem both_posted (foundOne : current.entries[one]? = some first)
    (foundOther : current.entries[other]? = some second) (distinct : one ≠ other)
    (draftOne : first.status = .draft) (draftOther : second.status = .draft)
    (postedOne : post current ledgerId one oneBy = .ok middle)
    (postedOther : post middle ledgerId other otherBy = .ok final) :
    ∃ ledger posting rows ledger' posting' rows', Posts current one first ledger posting rows ∧
      Posts (current.posted one first posting rows) other second ledger' posting' rows' ∧
      final = (current.posted one first posting rows).posted other second posting' rows' := by
  obtain ⟨entry, found, -, ⟨posted, -⟩ | ⟨ledger, posting, rows, posts, rfl⟩⟩ := post_ok postedOne
  · obtain rfl : entry = first := Option.mem_unique found foundOne
    exact absurd draftOne posted
  obtain rfl : entry = first := Option.mem_unique found foundOne
  have stays : (current.posted one entry posting rows).entries[other]? = some second :=
    (found_set foundOne).mpr (Or.inr ⟨distinct.symm, foundOther⟩)
  obtain ⟨entry', found', -, ⟨posted, -⟩ | ⟨ledger', posting', rows', posts', rfl⟩⟩ := post_ok postedOther
  · obtain rfl : entry' = second := Option.mem_unique found' stays
    exact absurd draftOther posted
  obtain rfl : entry' = second := Option.mem_unique found' stays
  exact ⟨ledger, posting, rows, ledger', posting', rows', posts, posts', rfl⟩

private theorem quiet_bookState (state : BookState db) (first : QuietStep db.books mid)
    (second : QuietStep mid next) : BookState { db with books := next } where
  sound := (BookStep.ledger _ second.step).sound ((BookStep.ledger _ first.step).sound state.sound)
  rent := state.rent

/-- Posting the carry over moves no balance, and the cash totals of the following year are as they were
without it if and only if the bank and cash accounts held nothing at the year end, or cancelled each other
while no other carried account held anything. -/
theorem posted_carryover_neutral {start : Db} (fresh : FreshOffice start) (calls : List BookCall)
    (found : (run bookStep start calls).books.ledgers[ledgerId]? = some ledger)
    (carriedOver : CarriedOver (run bookStep start calls) ledgerId fiscalYear current final)
    (loanItems : List LoanItem) (costTotal : Decimal) (notes : List ReconciliationNote) :
    (∀ accountId asOf, balance final accountId asOf = balance current accountId asOf) ∧
      ((cashFlowReconciliation final ledgerId ledger loanItems (fiscalYear + 1) costTotal notes).cash =
          (cashFlowReconciliation current ledgerId ledger loanItems (fiscalYear + 1) costTotal notes).cash ↔
        CashAtRest (run bookStep start calls).books ledgerId (yearBounds ledger fiscalYear).2) := by
  have state := book_state fresh calls
  generalize run bookStep start calls = db at state found carriedOver ⊢
  obtain ⟨userId, today, closingId, openingId, drafted, later, one, other, oneBy, otherBy, middle, final, none,
    created, untouched, either, postedOne, postedOther⟩ := carriedOver
  obtain ⟨row, counterId, closingEntry, openingEntry, foundRow, pair, ids, entries, mid, quietFirst, quietSecond⟩ :=
    createDrafts_ok none created
  obtain rfl : ledger = row := Option.mem_unique found foundRow
  simp only [List.cons.injEq, and_true] at ids
  obtain ⟨rfl, rfl⟩ := ids
  have draftedKept : AccountsKept db.books drafted :=
    (BookStep.accountsKept (.ledger _ quietFirst.step)).trans (BookStep.accountsKept (.ledger _ quietSecond.step))
  have kept := run_accountsKept (quiet_bookState state quietFirst quietSecond) later
  have carries := (draftedKept.trans kept).carries pair
  obtain ⟨closingRow, closingBy, foundClosing, closingNow⟩ := untouched db.books.entries.length (by simp)
  obtain ⟨openingRow, openingBy, foundOpening, openingNow⟩ := untouched (db.books.entries.length + 1) (by simp)
  obtain rfl : closingEntry = closingRow := by simpa [entries] using foundClosing
  obtain rfl : openingEntry = openingRow := by simpa [entries] using foundOpening
  have target := pair.target
  have within := first_in_year ledger (fiscalYear + 1)
  rw [← target] at within
  have datedClosing : DatedIn ledgerId (fiscalYear + 1) { closingEntry with approvedBy := closingBy } :=
    ⟨pair.ledgers.1, within.1, within.2⟩
  rw [pair.pair.sameDay] at within
  have datedOpening : DatedIn ledgerId (fiscalYear + 1) { openingEntry with approvedBy := openingBy } :=
    ⟨pair.ledgers.2, within.1, within.2⟩
  have checked : CarriedPair (closingBalances db.books ledgerId
      (yearBounds ledger fiscalYear).2).1 counterId { closingEntry with approvedBy := closingBy }
      { openingEntry with approvedBy := openingBy } :=
    ⟨pair.pair.closing, pair.pair.opening, pair.pair.closingKind, pair.pair.openingKind, pair.pair.sameDay⟩
  rw [← carriesNoCash_iff]
  rcases either with order | order
  · obtain ⟨rfl, rfl⟩ := Prod.mk.inj order
    obtain ⟨_, _, _, _, _, _, posts, posts', rfl⟩ := both_posted closingNow openingNow (Nat.succ_ne_self _).symm
      pair.drafts.1 pair.drafts.2 postedOne postedOther
    exact posted_pair checked carries (Or.inl rfl) posts posts' datedClosing datedOpening loanItems
  · obtain ⟨rfl, rfl⟩ := Prod.mk.inj order
    obtain ⟨_, _, _, _, _, _, posts, posts', rfl⟩ := both_posted openingNow closingNow (Nat.succ_ne_self _)
      pair.drafts.2 pair.drafts.1 postedOne postedOther
    exact posted_pair checked carries (Or.inr rfl) posts posts' datedOpening datedClosing loanItems

def sampleYearDb : Db where
  books := { sampleBooks with
    accounts := sampleBooks.accounts ++
      [{ ledgerId := 0, number := "900000", category := .openingBalance },
       { ledgerId := 0, number := "130000", category := .transit },
       { ledgerId := 0, number := "300000", category := .reserve }] }

theorem sample_year_fresh : FreshOffice sampleYearDb := ⟨⟨rfl, rfl, rfl, rfl⟩, rfl, rfl⟩

def sampleYearEntry : DraftIn where
  bookingDate := .ofYmd 2025 6 1
  text := "Buchung"
  kind := .custom
  notReversal := by decide

def sampleYearCalls (debited credited : AccountId) : List BookCall :=
  [.writeOff (.journal (.writeDraft 0 none sampleYearEntry (sampleLines debited credited 100) [])),
   .writeOff (.journal (.postEntry 0 0 7))]

def sampleYear (debited credited : AccountId) : Db := run bookStep sampleYearDb (sampleYearCalls debited credited)

def sampleDrafts (debited credited : AccountId) : Result (List EntryId × Books) :=
  createDrafts (sampleYear debited credited).books 0 2025 (some 7) (.ofYmd 2026 2 1)

def sampleDrafted (debited credited : AccountId) : Books :=
  ((answer? (sampleDrafts debited credited)).map Prod.snd).getD {}

/-- A second person checks the opening balance. -/
def sampleChecked (debited credited : AccountId) : Books :=
  (run bookStep { sampleYear debited credited with books := sampleDrafted debited credited }
    [.writeOff (.journal (.approveEntry 0 2 9 false))]).books

def samplePosted (books : Books) : Result Books := do
  let middle ← post books 0 1 (some 7)
  post middle 0 2 (some 7)

private theorem sample_carriedOver (none : earlier (sampleYear debited credited).books 0 2025 = [])
    (drafts : (answer? (sampleDrafts debited credited)).map Prod.fst = some [1, 2])
    (untouched : ∀ entryId ∈ [1, 2], Untouched (sampleDrafted debited credited) (sampleChecked debited credited) entryId)
    (posted : samplePosted (sampleChecked debited credited) = .ok final) :
    CarriedOver (sampleYear debited credited) 0 2025 (sampleChecked debited credited) final := by
  have created : sampleDrafts debited credited = .ok ([1, 2], sampleDrafted debited credited) := by
    unfold sampleDrafted
    cases answered : sampleDrafts debited credited with
    | error problem => simp [answered, answer?] at drafts
    | ok value =>
      obtain ⟨ids, books⟩ := value
      rw [answered] at drafts
      obtain rfl : ids = [1, 2] := Option.some.inj drafts
      rfl
  simp only [samplePosted, bind_ok] at posted
  obtain ⟨middle, postedOne, postedOther⟩ := posted
  exact .intro _ _ _ _ _ _ _ _ _ _ _ _ none created untouched (Or.inl rfl) postedOne postedOther

/-- A transit balance against the reserve is carried over without a trace. -/
theorem sample_carryover_neutral :
    ∃ final, CarriedOver (sampleYear 4 5) 0 2025 (sampleChecked 4 5) final ∧
      (∀ accountId asOf, balance final accountId asOf = balance (sampleChecked 4 5) accountId asOf) ∧
      (cashFlowReconciliation final 0 {} [] 2026 0 []).cash =
        (cashFlowReconciliation (sampleChecked 4 5) 0 {} [] 2026 0 []).cash := by
  have posted := accepted_of_isSome
    (show (answer? (samplePosted (sampleChecked 4 5))).isSome by decide +kernel)
  have carried : CarriedOver (sampleYear 4 5) 0 2025 (sampleChecked 4 5) _ :=
    sample_carriedOver (by decide +kernel) (by decide +kernel) (by decide +kernel) posted
  have ledger : (sampleYear 4 5).books.ledgers[0]? = some ({} : Ledger) := by decide +kernel
  have neutral := posted_carryover_neutral sample_year_fresh (sampleYearCalls 4 5) ledger carried [] 0 []
  exact ⟨_, carried, neutral.1, neutral.2.mpr (by decide +kernel)⟩

/-- A bank balance of 100.00 is taken over on top of the balance of the year before, and flows out again. -/
theorem carried_bank_balance_counts_twice :
    ∃ final, CarriedOver (sampleYear 2 1) 0 2025 (sampleChecked 2 1) final ∧
      (cashFlowReconciliation (sampleChecked 2 1) 0 {} [] 2026 0 []).cash = ⟨100, 0, 0, 100, true⟩ ∧
      (cashFlowReconciliation final 0 {} [] 2026 0 []).cash = ⟨200, 0, 100, 100, true⟩ := by
  have posted := accepted_of_isSome
    (show (answer? (samplePosted (sampleChecked 2 1))).isSome by decide +kernel)
  have carried : CarriedOver (sampleYear 2 1) 0 2025 (sampleChecked 2 1) _ :=
    sample_carriedOver (by decide +kernel) (by decide +kernel) (by decide +kernel) posted
  exact ⟨_, carried, by decide +kernel, by decide +kernel⟩

end Mhvp.Hoa
