import Mhvp.Lib.Table
import Mhvp.Accounting.Settling

/-!
What the ledger services can do to the books: one relation with a case per service, and for every service the theorem
that an accepted call is such a step.
-/

namespace Mhvp.Accounting

open Core Lib.Calendar Lib.Table

/-- A line by its account and its two sides only. -/
def LineIn.bare (line : LineIn) : LineIn :=
  { accountId := line.accountId, debit := line.debit, credit := line.credit }

/-- What every entry of a ledger satisfies from its draft on. -/
structure EntrySound (books : Books) (entry : JournalEntry) : Prop where
  balanced : Balanced (entry.lines.map JournalLine.toLineIn)
  accounts : ∀ line ∈ entry.lines, ∃ account, books.accounts[line.accountId]? = some account ∧
    account.ledgerId = entry.ledgerId
  objects : ∀ line ∈ entry.lines, ∀ unitId ∈ line.unitId, ∃ unit, books.units[unitId]? = some unit ∧
    line.propertyId = some unit.propertyId

theorem ledgerOf_ok : ledgerOf books ledgerId = .ok ledger ↔ books.ledgers[ledgerId]? = some ledger := by
  simp [ledgerOf]

theorem entryOf_ok : entryOf books ledgerId entryId = .ok entry ↔
    books.entries[entryId]? = some entry ∧ entry.ledgerId = ledgerId := by
  simp only [entryOf, bind_ok, orRefuse_ok, exists_unit, require_ok, pure_ok]
  constructor
  · rintro ⟨row, found, same, rfl⟩
    exact ⟨found, same⟩
  · rintro ⟨found, same⟩
    exact ⟨entry, found, same, rfl⟩

theorem ensureOpenPeriod_ok (opened : ensureOpenPeriod ledger day = .ok result) :
    ∀ last ∈ ledger.lockedUntil, last < day := by
  unfold ensureOpenPeriod at opened
  intro last locked
  rw [Option.mem_def.mp locked] at opened
  exact require_ok.mp opened

theorem accounts_ok (checked : accounts books ledgerId ids = .ok result) (member : accountId ∈ ids) :
    ∃ account, books.accounts[accountId]? = some account ∧ account.ledgerId = ledgerId := by
  simp only [accounts, bind_ok, exists_unit, require_ok] at checked
  obtain ⟨known, local_, -⟩ := checked
  obtain ⟨account, found⟩ : ∃ account, books.accounts[accountId]? = some account :=
    ⟨_, List.getElem?_eq_getElem (known accountId member)⟩
  refine ⟨account, found, local_ account ?_⟩
  exact List.mem_filterMap.mpr ⟨accountId, List.mem_dedup.mpr member, found⟩

private theorem storeLines_bare (stored : storeLines lines properties = .ok rows)
    (same : properties.length = lines.length) :
    rows.map JournalLine.toLineIn = lines.map LineIn.bare := by
  induction lines generalizing properties rows with
  | nil =>
    obtain rfl : [] = rows := by simpa only [storeLines, pure_ok] using stored
    rfl
  | cons line rest ih =>
    cases properties with
    | nil => simp at same
    | cons property others =>
      simp only [storeLines, bind_ok, pure_ok] at stored
      obtain ⟨row, storedRow, later, storedRest, rfl⟩ := stored
      rw [List.map_cons, List.map_cons, ih storedRest (by simpa using same)]
      congr 1
      unfold storeLine at storedRow
      split at storedRow
      · obtain rfl := pure_ok.mp storedRow
        rfl
      · cases storedRow

private theorem storeLines_objects (stored : storeLines lines properties = .ok rows)
    (resolved : LineProperty.resolveLines books contractId no lines = .ok properties)
    (known : ∀ unitId ∈ lines.filterMap LineIn.unitId, unitId < books.units.length) :
    ∀ row ∈ rows, ∀ unitId ∈ row.unitId, ∃ unit, books.units[unitId]? = some unit ∧
      row.propertyId = some unit.propertyId := by
  induction lines generalizing properties rows no with
  | nil =>
    obtain rfl : [] = rows := by simpa only [storeLines, pure_ok] using stored
    simp
  | cons line rest ih =>
    simp only [LineProperty.resolveLines, bind_ok, pure_ok] at resolved
    obtain ⟨property, ofLine, others, ofRest, rfl⟩ := resolved
    simp only [storeLines, bind_ok, pure_ok] at stored
    obtain ⟨row, storedRow, later, storedRest, rfl⟩ := stored
    have knownRest : ∀ unitId ∈ rest.filterMap LineIn.unitId, unitId < books.units.length :=
      fun unitId member => known unitId (by
        rw [List.filterMap_cons]; cases line.unitId <;> simp [member])
    refine List.forall_mem_cons.mpr ⟨?_, ih storedRest ofRest knownRest⟩
    intro unitId present
    unfold storeLine at storedRow
    split at storedRow
    · obtain rfl := pure_ok.mp storedRow
      have ofUnit : line.unitId = some unitId := present
      have before : unitId < books.units.length :=
        known unitId (by rw [List.filterMap_cons, ofUnit]; exact List.mem_cons_self)
      have foundUnit : books.units[unitId]? = some books.units[unitId] := List.getElem?_eq_getElem before
      refine ⟨_, foundUnit, ?_⟩
      have object : LineProperty.unitProperty books line = some books.units[unitId].propertyId := by
        simp [LineProperty.unitProperty, ofUnit, foundUnit]
      unfold LineProperty.resolveLine at ofLine
      rw [object] at ofLine
      cases explicit : line.propertyId with
      | none =>
        rw [explicit] at ofLine
        exact (pure_ok.mp ofLine).symm
      | some chosen =>
        rw [explicit] at ofLine
        simp only [bind_ok, exists_unit, require_ok, pure_ok] at ofLine
        rw [← ofLine.2, ofLine.1]
    · cases storedRow

theorem totals_bare (lines : List LineIn) :
    totalDebit (lines.map LineIn.bare) = totalDebit lines ∧
      totalCredit (lines.map LineIn.bare) = totalCredit lines := by
  simp [totalDebit, totalCredit, LineIn.bare, Function.comp_def]

theorem Balanced.bare (balanced : Balanced lines) : Balanced (lines.map LineIn.bare) where
  twoLines := by simpa using balanced.twoLines
  oneSided := by
    intro line member
    obtain ⟨original, present, rfl⟩ := List.mem_map.mp member
    exact balanced.oneSided original present
  cents := by
    intro line member
    obtain ⟨original, present, rfl⟩ := List.mem_map.mp member
    exact balanced.cents original present
  equal := by rw [(totals_bare lines).1, (totals_bare lines).2, balanced.equal]

/-- A new draft row as `writeDraft` accepts it. -/
structure DraftRow (books : Books) (ledgerId : LedgerId) (header : EntryHeader)
    (reverses : Option ReversalOf) (lines : List LineIn) (settlementPlan : List PlanIn)
    (entry : JournalEntry) : Prop where
  sound : EntrySound books entry
  header : entry.toEntryHeader = header
  ledger : entry.ledgerId = ledgerId
  draft : entry.status = .draft
  reverses : entry.reverses = reverses
  unreversed : entry.reversedById = none
  lines : entry.lines.map JournalLine.toLineIn = lines.map LineIn.bare
  planned : entry.settlementPlan = settlementPlan

private theorem planAmounts_ok (checked : planAmounts plan = .ok amounts) : amounts = plan := by
  induction plan generalizing amounts with
  | nil => exact (pure_ok.mp checked).symm
  | cons first rest ih =>
    simp only [planAmounts, bind_ok, money_ok, pure_ok] at checked
    obtain ⟨amount, ⟨-, rfl⟩, others, later, rfl⟩ := checked
    rw [ih later]

private theorem draftRow_ok (row : draftRow ledgerId header reverses plan rows = .ok entry) :
    entry.toEntryHeader = header ∧ entry.ledgerId = ledgerId ∧ entry.status = .draft ∧
      entry.reverses = reverses ∧ entry.reversedById = none ∧ entry.lines = rows ∧
      entry.settlementPlan = plan := by
  unfold draftRow at row
  split at row
  · obtain rfl := pure_ok.mp row
    exact ⟨rfl, rfl, rfl, rfl, rfl, rfl, rfl⟩
  · cases row

theorem writeDraft_ok (written : writeDraft books ledgerId target header reverses lines plan = .ok (entryId, next)) :
    ∃ entry, DraftRow books ledgerId header reverses lines plan entry ∧
      ((target = none ∧ entryId = books.entries.length ∧
          next = { books with entries := books.entries ++ [entry] }) ∨
        ∃ old, target = some entryId ∧ books.entries[entryId]? = some old ∧ old.ledgerId = ledgerId ∧
          old.status = .draft ∧ next = { books with entries := books.entries.set entryId entry }) := by
  simp only [writeDraft, bind_ok, exists_unit] at written
  obtain ⟨checked, known, amounts, checkedPlan, properties, resolved, rows, stored, entry, row, written⟩ := written
  have balanced := checkBalanced_ok.mp checked
  have bare := storeLines_bare stored (LineProperty.resolve_length resolved)
  obtain ⟨sameHeader, sameLedger, draft, sameReverses, unreversed, rfl, samePlan⟩ := draftRow_ok row
  simp only [LineProperty.resolve, bind_ok, exists_unit, require_ok] at resolved
  obtain ⟨knownUnits, -, resolved⟩ := resolved
  have sound : EntrySound books entry := by
    refine ⟨bare ▸ balanced.bare, ?_, storeLines_objects stored resolved knownUnits⟩
    intro line member
    have inBare : line.toLineIn ∈ lines.map LineIn.bare := bare ▸ List.mem_map_of_mem member
    obtain ⟨original, present, same⟩ := List.mem_map.mp inBare
    have sameAccount : original.accountId = line.accountId := congrArg LineIn.accountId same
    rw [sameLedger]
    exact accounts_ok known (List.mem_map.mpr ⟨original, present, sameAccount⟩)
  refine ⟨entry, ⟨sound, sameHeader, sameLedger, draft, sameReverses, unreversed, bare,
    samePlan.trans (planAmounts_ok checkedPlan)⟩, ?_⟩
  cases target with
  | none =>
    simp only [pure_ok, Prod.mk.injEq] at written
    exact Or.inl ⟨rfl, written.1.symm, written.2.symm⟩
  | some place =>
    simp only [bind_ok, entryOf_ok, exists_unit, require_ok, pure_ok, Prod.mk.injEq] at written
    obtain ⟨old, ⟨found, oldLedger⟩, oldDraft, rfl, rfl⟩ := written
    exact Or.inr ⟨old, rfl, found, oldLedger, oldDraft, rfl⟩

/-- What an accepted posting of a draft has checked. -/
structure Posts (books : Books) (entryId : EntryId) (entry : JournalEntry) (ledger : Ledger)
    (posting : Posting) (rows : List OpenItemSettlement) : Prop where
  found : books.entries[entryId]? = some entry
  draft : entry.status = .draft
  ledgerFound : books.ledgers[entry.ledgerId]? = some ledger
  unlocked : ∀ last ∈ ledger.lockedUntil, last < entry.bookingDate
  balanced : Balanced (entry.lines.map JournalLine.toLineIn)
  year : posting.fiscalYear = fiscalYear ledger entry.bookingDate
  number : posting.number = lastNumber books.counters entry.ledgerId posting.fiscalYear + 1
  settles : Settles
    { books with openItems := books.openItems ++ createdItems books entry.ledgerId entryId entry }
    entry.ledgerId entryId entry (fun _ => 0) rows
  planned : rows.map OpenItemSettlement.planned = entry.settlementPlan

/-- The books after the posting. -/
def Books.posted (books : Books) (entryId : EntryId) (entry : JournalEntry) (posting : Posting)
    (rows : List OpenItemSettlement) : Books :=
  { books with
    counters := (nextNumber books.counters entry.ledgerId posting.fiscalYear).2
    entries := books.entries.set entryId (entry.withPosting posting)
    openItems := books.openItems ++ createdItems books entry.ledgerId entryId entry
    settlements := books.settlements ++ rows }

theorem nextNumber_fst : (nextNumber counters ledgerId year).1 = lastNumber counters ledgerId year + 1 := by
  unfold nextNumber
  by_cases present : counters.any (JournalNumberCounter.isFor ledgerId year)
  · simp [present]
  · have absent : counters.find? (JournalNumberCounter.isFor ledgerId year) = none := by
      simpa [List.find?_eq_none] using present
    simp [present, lastNumber, List.find?_append, absent, JournalNumberCounter.isFor]

theorem post_ok (applied : post books ledgerId entryId userId = .ok next) :
    ∃ entry, books.entries[entryId]? = some entry ∧ entry.ledgerId = ledgerId ∧
      ((entry.isPosted ∧ next = books) ∨
        ∃ ledger posting rows, Posts books entryId entry ledger posting rows ∧
          next = books.posted entryId entry posting rows) := by
  simp only [post, bind_ok, ledgerOf_ok, entryOf_ok] at applied
  obtain ⟨ledger, ledgerFound, entry, ⟨found, rfl⟩, applied⟩ := applied
  refine ⟨entry, found, rfl, ?_⟩
  by_cases already : entry.isPosted
  · rw [if_pos already] at applied
    exact Or.inl ⟨already, (pure_ok.mp applied).symm⟩
  · rw [if_neg already] at applied
    simp only [bind_ok, exists_unit, require_ok] at applied
    obtain ⟨opened, -, -, checked, -, applied⟩ := applied
    obtain ⟨rows, rfl, settles, planned⟩ := settlePlan_ok applied
    refine Or.inr ⟨ledger, _, rows, ⟨found, not_not.mp already, ledgerFound, ensureOpenPeriod_ok opened,
      checkBalanced_ok.mp checked, rfl, nextNumber_fst, ⟨settles.row, settles.item⟩, planned⟩, rfl⟩

/-- What an accepted reversal has checked. -/
structure Reverses (books : Books) (entryId : EntryId) (entry : JournalEntry) (ledger : Ledger)
    (bookingDate : Date) (reversal : JournalEntry) (posting : Posting) : Prop where
  found : books.entries[entryId]? = some entry
  posted : entry.isPosted
  unreversed : entry.reversedById = none
  notReversal : entry.kind ≠ .reversal
  ledgerFound : books.ledgers[entry.ledgerId]? = some ledger
  unlocked : ∀ last ∈ ledger.lockedUntil, last < bookingDate
  notBefore : entry.bookingDate ≤ bookingDate
  unsettled : ∀ item ∈ itemsOf books entryId, settled books item.2 none = 0
  sound : EntrySound books reversal
  dated : reversal.bookingDate = bookingDate
  kind : reversal.kind = .reversal
  sameLedger : reversal.ledgerId = entry.ledgerId
  reverses : reversal.reversesId = some entryId
  fresh : reversal.reversedById = none
  lines : reversal.lines.map JournalLine.toLineIn =
    (entry.lines.map JournalLine.swapped).map LineIn.bare
  year : posting.fiscalYear = fiscalYear ledger bookingDate
  number : posting.number = lastNumber books.counters entry.ledgerId posting.fiscalYear + 1

/-- The settlements a reversal adds. -/
def reversalRows (books : Books) (entryId reversalId : EntryId) (bookingDate : Date) :
    List OpenItemSettlement :=
  (itemsOf books entryId).map (closing reversalId bookingDate) ++
    (settlementsOf books entryId).map (undoing reversalId bookingDate)

/-- The books after the reversal; the reversal is the last entry. -/
def Books.reversed (books : Books) (entryId : EntryId) (entry : JournalEntry) (bookingDate : Date)
    (reversal : JournalEntry) (posting : Posting) : Books :=
  { books with
    counters := (nextNumber books.counters entry.ledgerId posting.fiscalYear).2
    entries := books.entries.set entryId { entry with reversedById := some books.entries.length } ++
      [reversal.withPosting posting]
    settlements := books.settlements ++ reversalRows books entryId books.entries.length bookingDate }

@[simp] theorem cancelOrders_books : (cancelOrders db orders).books = db.books := rfl

private theorem bookReversal_ok (found : books.entries[entryId]? = some entry)
    (booked : bookReversal books entry.ledgerId ledger entryId entry original userId reason bookingDate
      reasonCode = .ok (reversalId, next)) :
    reversalId = books.entries.length ∧ ∃ reversal posting,
      DraftRow books entry.ledgerId (reversalHeader entry original userId bookingDate)
        (some ⟨entryId, reason, reasonCode⟩) (entry.lines.map JournalLine.swapped) [] reversal ∧
      posting.fiscalYear = fiscalYear ledger bookingDate ∧
      posting.number = lastNumber books.counters entry.ledgerId posting.fiscalYear + 1 ∧
      next = books.reversed entryId entry bookingDate reversal posting := by
  simp only [bookReversal, bind_ok, pure_ok, Prod.mk.injEq] at booked
  obtain ⟨⟨place, drafted⟩, written, rfl, rfl⟩ := booked
  obtain ⟨reversal, row, ⟨-, rfl, rfl⟩ | ⟨old, isTarget, -⟩⟩ := writeDraft_ok written
  · refine ⟨rfl, reversal, ⟨fiscalYear ledger bookingDate, (nextNumber books.counters entry.ledgerId
      (fiscalYear ledger bookingDate)).1, userId⟩, row, rfl, nextNumber_fst, ?_⟩
    simp only [Books.reversed, modify_append_last, modify_append_found found, reversalRows]
  · cases isTarget

theorem postingOf_ok (isPosting : postingOf entry = .ok posting) : entry.status = .posted posting := by
  unfold postingOf at isPosting
  split at isPosting
  · rename_i status
    rw [status, pure_ok.mp isPosting]
  · cases isPosting

theorem reverse_ok
    (applied : reverse db ledgerId entryId userId reason bookingDate reasonCode = .ok (reversalId, next)) :
    ∃ entry ledger reversal posting orders,
      Reverses db.books entryId entry ledger bookingDate reversal posting ∧ entry.ledgerId = ledgerId ∧
      reversalId = db.books.entries.length ∧
      ordersOfEntry db entryId ((itemsOf db.books entryId).map Prod.snd) = .ok orders ∧
      next = cancelOrders
        { db with books := db.books.reversed entryId entry bookingDate reversal posting } orders := by
  simp only [reverse, bind_ok, ledgerOf_ok, entryOf_ok, exists_unit, require_ok] at applied
  obtain ⟨ledger, ledgerFound, entry, ⟨found, rfl⟩, original, isPosting, ⟨unreversed, notReversal⟩, opened,
    -, notBefore, unsettled, orders, ordered, ⟨place, reversed⟩, booked, answered⟩ := applied
  simp only [pure_ok, Prod.mk.injEq] at answered
  obtain ⟨rfl, rfl⟩ := answered
  obtain ⟨rfl, reversal, posting, row, year, number, rfl⟩ := bookReversal_ok found booked
  have posted : entry.isPosted := by
    rw [JournalEntry.isPosted, postingOf_ok isPosting]; simp
  have dated : reversal.bookingDate = bookingDate := congrArg EntryHeader.bookingDate row.header
  have kind : reversal.kind = .reversal := congrArg EntryHeader.kind row.header
  have reverses : reversal.reversesId = some entryId := by
    simp [JournalEntry.reversesId, row.reverses]
  have nothingSettled : ∀ item ∈ itemsOf db.books entryId, settled db.books item.2 none = 0 :=
    fun item member => sub_eq_self.mp (unsettled item member)
  exact ⟨entry, ledger, reversal, posting, orders, ⟨found, posted, unreversed, notReversal, ledgerFound,
    ensureOpenPeriod_ok opened, notBefore, nothingSettled, row.sound, dated, kind, row.ledger, reverses,
    row.unreversed, row.lines, year, number⟩, rfl, rfl, ordered, rfl⟩

/-- Accounts and units may be added, and accounts switched on and off. -/
structure MasterData (books next : Books) : Prop where
  accounts : ∀ (id : AccountId) (row : LedgerAccount), books.accounts[id]? = some row →
    ∃ active, next.accounts[id]? = some { row with active }
  units : ∀ (id : UnitId) (row : PropertyUnit), books.units[id]? = some row → next.units[id]? = some row
  ledgers : next.ledgers = books.ledgers
  entries : next.entries = books.entries
  openItems : next.openItems = books.openItems
  settlements : next.settlements = books.settlements
  counters : next.counters = books.counters

/-- One effect of a ledger service on the books. -/
inductive LedgerStep (books : Books) : Books → Prop
  | draft (entry : JournalEntry) (sound : EntrySound books entry) (isDraft : entry.status = .draft)
      (original : entry.reverses = none) (unreversed : entry.reversedById = none)
      (kind : entry.kind ≠ .reversal) :
      LedgerStep books { books with entries := books.entries ++ [entry] }
  | redraft (entryId : EntryId) (old entry : JournalEntry) (found : books.entries[entryId]? = some old)
      (wasDraft : old.status = .draft) (sound : EntrySound books old → EntrySound books entry)
      (isDraft : entry.status = .draft) (original : entry.reverses = none)
      (unreversed : entry.reversedById = none) (kind : entry.kind ≠ .reversal)
      (ledger : entry.ledgerId = old.ledgerId) :
      LedgerStep books { books with entries := books.entries.set entryId entry }
  | post (entryId : EntryId) (entry : JournalEntry) (ledger : Ledger) (posting : Posting)
      (rows : List OpenItemSettlement) (posts : Posts books entryId entry ledger posting rows) :
      LedgerStep books (books.posted entryId entry posting rows)
  | reverse (entryId : EntryId) (entry : JournalEntry) (ledger : Ledger) (bookingDate : Date)
      (reversal : JournalEntry) (posting : Posting)
      (reverses : Reverses books entryId entry ledger bookingDate reversal posting) :
      LedgerStep books (books.reversed entryId entry bookingDate reversal posting)
  | lock (ledgerId : LedgerId) (ledger : Ledger) (last : Date)
      (found : books.ledgers[ledgerId]? = some ledger)
      (forward : ∀ locked ∈ ledger.lockedUntil, locked ≤ last) :
      LedgerStep books
        { books with ledgers := books.ledgers.set ledgerId { ledger with lockedUntil := some last } }
  | master (next : Books) (edits : MasterData books next) : LedgerStep books next

theorem lockPeriod_ok (applied : lockPeriod books ledgerId last = .ok (count, next)) :
    ∃ ledger, books.ledgers[ledgerId]? = some ledger ∧ (∀ locked ∈ ledger.lockedUntil, locked ≤ last) ∧
      next = { books with
        ledgers := books.ledgers.set ledgerId { ledger with lockedUntil := some last } } := by
  simp only [lockPeriod, bind_ok, ledgerOf_ok, exists_unit, require_ok, pure_ok, Prod.mk.injEq] at applied
  obtain ⟨ledger, found, forward, -, rfl⟩ := applied
  exact ⟨ledger, found, forward, rfl⟩

end Mhvp.Accounting
