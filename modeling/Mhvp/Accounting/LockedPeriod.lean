import Mhvp.Accounting.ItemOrigins

namespace Mhvp.Accounting

open Lib.Calendar Lib.Table Lib.Aggregate List

variable {books mid next : Books}

/-- An account without its switch; reports show deactivated accounts too. -/
def LedgerAccount.named (account : LedgerAccount) : LedgerAccount := { account with active := true }

/-- A posted entry up to the day, without the reference a later reversal leaves on it. -/
def entryUpTo (ledgerId : LedgerId) (last : Date) (entry : JournalEntry) : Option JournalEntry :=
  if entry.ledgerId = ledgerId ∧ PostedWithin none (some last) entry then
    some { entry with reversedById := none }
  else none

def entriesUpTo (books : Books) (ledgerId : LedgerId) (last : Date) : List JournalEntry :=
  books.entries.filterMap (entryUpTo ledgerId last)

/-- The item without a write off that takes effect after the day. -/
def OpenItem.flaggedUpTo (item : OpenItem) (last : Date) : OpenItem :=
  if WrittenOffWithin (some last) item then item
  else { item with writtenOff := false, writtenOffOn := none }

def itemUpTo (ledgerId : LedgerId) (last : Date) (found : OpenItem × OpenItemId) :
    Option (OpenItem × OpenItemId) :=
  if found.1.ledgerId = ledgerId ∧ found.1.bookingDate ≤ last then
    some (found.1.flaggedUpTo last, found.2)
  else none

def itemsUpTo (books : Books) (ledgerId : LedgerId) (last : Date) : List (OpenItem × OpenItemId) :=
  books.openItems.zipIdx.filterMap (itemUpTo ledgerId last)

/-- Both books say the same about the ledger up to the day. -/
structure SameUpTo (ledgerId : LedgerId) (last : Date) (books next : Books) : Prop where
  accounts : books.accounts.map LedgerAccount.named <+: next.accounts.map LedgerAccount.named
  entries : entriesUpTo next ledgerId last = entriesUpTo books ledgerId last
  items : itemsUpTo next ledgerId last = itemsUpTo books ledgerId last
  settled : ∀ found ∈ itemsUpTo books ledgerId last, ∀ asOf ≤ last,
    settled next found.2 (some asOf) = settled books found.2 (some asOf)

theorem SameUpTo.refl (books : Books) : SameUpTo ledgerId last books books :=
  ⟨prefix_rfl, rfl, rfl, fun _ _ _ _ => rfl⟩

theorem SameUpTo.trans (first : SameUpTo ledgerId last books mid) (second : SameUpTo ledgerId last mid next) :
    SameUpTo ledgerId last books next where
  accounts := first.accounts.trans second.accounts
  entries := second.entries.trans first.entries
  items := second.items.trans first.items
  settled := by
    intro found member asOf within
    rw [second.settled found (first.items ▸ member) asOf within, first.settled found member asOf within]

/-- The ledger is locked up to the day or beyond. -/
def LockedUpTo (ledgerId : LedgerId) (last : Date) (books : Books) : Prop :=
  ∃ ledger locked, books.ledgers[ledgerId]? = some ledger ∧ ledger.lockedUntil = some locked ∧ last ≤ locked

theorem entryUpTo_draft (draft : entry.status = .draft) : entryUpTo ledgerId last entry = none :=
  if_neg fun selected => selected.2.1 draft

theorem entryUpTo_later (later : entry.ledgerId = ledgerId → last < entry.bookingDate) :
    entryUpTo ledgerId last entry = none := by
  apply if_neg
  rintro ⟨sameLedger, -, within, -⟩
  exact absurd (within_some.mp within) (later sameLedger).not_ge

theorem itemUpTo_later (later : item.ledgerId = ledgerId → last < item.bookingDate) :
    itemUpTo ledgerId last (item, index) = none := by
  apply if_neg
  rintro ⟨sameLedger, within⟩
  exact absurd within (later sameLedger).not_ge

theorem mem_itemsUpTo (member : found ∈ itemsUpTo books ledgerId last) :
    ∃ item, books.openItems[found.2]? = some item ∧ found.1 = item.flaggedUpTo last ∧
      item.ledgerId = ledgerId ∧ item.bookingDate ≤ last := by
  obtain ⟨⟨item, index⟩, present, selected⟩ := mem_filterMap.mp member
  unfold itemUpTo at selected
  split at selected
  · rename_i within
    cases selected
    exact ⟨item, mem_zipIdx_iff_getElem?.mp present, rfl, within⟩
  · cases selected

private theorem later_of_locked (locked : LockedUpTo ledgerId last books)
    (found : books.ledgers[entryLedger]? = some ledger) (unlocked : ∀ until' ∈ ledger.lockedUntil, until' < day)
    (same : entryLedger = ledgerId) : last < day := by
  obtain ⟨row, until', foundRow, isUntil, beyond⟩ := locked
  subst same
  obtain rfl : row = ledger := by simpa [foundRow] using found
  exact beyond.trans_lt (unlocked until' isUntil)

private theorem post_sameUpTo (locked : LockedUpTo ledgerId last books)
    (posts : Posts books entryId entry ledger posting rows) :
    SameUpTo ledgerId last books (books.posted entryId entry posting rows) := by
  have later : entry.ledgerId = ledgerId → last < entry.bookingDate :=
    later_of_locked locked posts.ledgerFound posts.unlocked
  constructor
  · exact prefix_rfl
  · apply filterMap_set_same posts.found
    rw [entryUpTo_draft posts.draft]
    exact entryUpTo_later later
  · apply indexed_append_unselected
    intro item created index _
    apply itemUpTo_later
    obtain ⟨-, sameLedger, dated, -⟩ := openItem_of_createdItems created
    rw [sameLedger, dated]
    exact later
  · intro found member asOf within
    obtain ⟨item, foundItem, -, ofLedger, -⟩ := mem_itemsUpTo member
    rw [settled_posted posts]
    by_cases before : Within (some asOf) entry.bookingDate
    · have otherLedger : entry.ledgerId ≠ ledgerId := by
        intro same
        exact absurd ((within_some.mp before).trans within) (later same).not_ge
      have noRow : ∀ row ∈ rows, row.openItemId ≠ found.2 := by
        intro row added sameItem
        obtain ⟨settledItem, foundSettled, sameLedger, -⟩ := posts.settles.item row added
        rw [sameItem] at foundSettled
        obtain rfl : item = settledItem := by simpa using (found_append foundItem).symm.trans foundSettled
        exact otherLedger (sameLedger.symm.trans ofLedger)
      rw [settledIn_eq_zero noRow, ite_self, add_zero]
    · rw [if_neg before, add_zero]

private theorem reverse_sameUpTo (originated : books.Originated)
    (locked : LockedUpTo ledgerId last books)
    (reverses : Reverses books entryId entry ledger bookingDate reversal posting) :
    SameUpTo ledgerId last books (books.reversed entryId entry bookingDate reversal posting) := by
  have later : entry.ledgerId = ledgerId → last < bookingDate :=
    later_of_locked locked reverses.ledgerFound reverses.unlocked
  constructor
  · exact prefix_rfl
  · have unselected : entryUpTo ledgerId last (reversal.withPosting posting) = none := by
      apply entryUpTo_later
      change reversal.ledgerId = ledgerId → last < reversal.bookingDate
      rw [reverses.sameLedger, reverses.dated]
      exact later
    have kept : (books.entries.set entryId { entry with reversedById := some books.entries.length }).filterMap
        (entryUpTo ledgerId last) = entriesUpTo books ledgerId last := filterMap_set_same reverses.found rfl
    rw [entriesUpTo, Books.reversed, filterMap_append, kept, filterMap_cons, unselected,
      filterMap_nil, append_nil]
  · rfl
  · intro found member asOf within
    obtain ⟨item, foundItem, -, ofLedger, -⟩ := mem_itemsUpTo member
    rw [settled_reversed foundItem]
    by_cases before : Within (some asOf) bookingDate
    · have otherLedger : entry.ledgerId ≠ ledgerId := by
        intro same
        exact absurd ((within_some.mp before).trans within) (later same).not_ge
      have notOwn : item.journalEntryId ≠ entryId := by
        intro own
        obtain ⟨author, foundAuthor, origin⟩ := originated.origin (mem_of_getElem? foundItem)
        rw [own, reverses.found] at foundAuthor
        cases foundAuthor
        exact otherLedger (origin.sameLedger.trans ofLedger)
      have nothing : settledBy books entryId found.2 = 0 := by
        apply sumWhere_eq_zero
        rintro row present ⟨sameItem, sameEntry⟩
        have sameLedger : item.ledgerId = entry.ledgerId :=
          originated.settles present (sameItem ▸ foundItem) (sameEntry ▸ reverses.found)
        exact absurd (sameLedger.symm.trans ofLedger) otherLedger
      rw [if_neg notOwn, nothing, sub_zero, ite_self, add_zero]
    · rw [if_neg before, add_zero]

theorem LedgerStep.sameUpTo (step : LedgerStep books next) (originated : books.Originated) (locked : LockedUpTo ledgerId last books) :
    SameUpTo ledgerId last books next := by
  cases step with
  | draft entry sound isDraft original unreversed kind =>
    refine ⟨prefix_rfl, ?_, rfl, fun _ _ _ _ => rfl⟩
    rw [entriesUpTo, filterMap_append, filterMap_cons, entryUpTo_draft isDraft, filterMap_nil,
      append_nil, entriesUpTo]
  | redraft entryId old entry found wasDraft sound isDraft original unreversed kind sameLedger =>
    refine ⟨prefix_rfl, ?_, rfl, fun _ _ _ _ => rfl⟩
    apply filterMap_set_same found
    rw [entryUpTo_draft wasDraft, entryUpTo_draft isDraft]
  | post entryId entry ledger posting rows posts => exact post_sameUpTo locked posts
  | reverse entryId entry ledger bookingDate reversal posting reverses =>
    exact reverse_sameUpTo originated locked reverses
  | lock lockedLedger ledger day found forward => exact ⟨prefix_rfl, rfl, rfl, fun _ _ _ _ => rfl⟩
  | master next edits =>
    refine ⟨?_, by rw [entriesUpTo, edits.entries, entriesUpTo], by rw [itemsUpTo, edits.openItems, itemsUpTo],
      fun _ _ _ _ => by rw [settled, edits.settlements, settled]⟩
    apply prefix_iff_getElem?.mpr
    intro index inRange
    rw [length_map] at inRange
    obtain ⟨active, foundNext⟩ := edits.accounts index _ (List.getElem?_eq_getElem inRange)
    rw [List.getElem?_map, foundNext, getElem_map]
    rfl

theorem LedgerStep.lockedUpTo (step : LedgerStep books next) (locked : LockedUpTo ledgerId last books) :
    LockedUpTo ledgerId last next := by
  cases step with
  | draft | redraft | post | reverse => exact locked
  | lock lockedLedger ledger day found forward =>
    obtain ⟨row, until', foundRow, isUntil, beyond⟩ := locked
    by_cases same : ledgerId = lockedLedger
    · subst same
      obtain rfl : row = ledger := by simpa [foundRow] using found
      refine ⟨{ row with lockedUntil := some day }, day, ?_, rfl, beyond.trans (forward until' isUntil)⟩
      exact (found_set found).mpr (Or.inl ⟨rfl, rfl⟩)
    · exact ⟨row, until', (found_set found).mpr (Or.inr ⟨same, foundRow⟩), isUntil, beyond⟩
  | master next edits =>
    obtain ⟨row, until', foundRow, facts⟩ := locked
    exact ⟨row, until', edits.ledgers ▸ foundRow, facts⟩

theorem flag_sameUpTo (found : books.openItems[itemId]? = some item) (open' : item.writtenOff = false)
    (later : item.ledgerId = ledgerId → last < effectiveOn) :
    SameUpTo ledgerId last books (WriteOffs.flagItem books itemId item effectiveOn) := by
  refine ⟨prefix_rfl, rfl, ?_, fun _ _ _ _ => rfl⟩
  apply indexed_set_same found
  by_cases ofLedger : item.ledgerId = ledgerId
  · have unflagged : ¬ WrittenOffWithin (some last) item := by
      rintro ⟨flag, -⟩
      simp [open'] at flag
    have flaggedLater : ¬ WrittenOffWithin (some last) (WriteOffs.flagged item effectiveOn) := by
      rintro ⟨-, within⟩
      exact absurd (within_some.mp (within effectiveOn rfl)) (later ofLedger).not_ge
    simp only [itemUpTo, OpenItem.flaggedUpTo, if_neg unflagged, if_neg flaggedLater]
    rfl
  · rw [itemUpTo, itemUpTo, if_neg fun selected => ofLedger selected.1, if_neg fun selected => ofLedger selected.1]

end Mhvp.Accounting
