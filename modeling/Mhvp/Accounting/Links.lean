import Mhvp.Accounting.Effects

namespace Mhvp.Accounting

open Lib.Table List

/-- The references of the ledger tables. -/
structure Books.Linked (books : Books) : Prop where
  sound : ∀ {id : EntryId} {entry : JournalEntry}, books.entries[id]? = some entry → EntrySound books entry
  draftOpen : ∀ {id : EntryId} {entry : JournalEntry}, books.entries[id]? = some entry → entry.status = .draft →
    entry.reverses = none ∧ entry.reversedById = none
  original : ∀ {id : EntryId} {entry : JournalEntry}, books.entries[id]? = some entry → entry.kind ≠ .reversal →
    entry.reverses = none
  reversal : ∀ {id reversesId : EntryId} {entry : JournalEntry}, books.entries[id]? = some entry →
    entry.reversesId = some reversesId → entry.isPosted ∧ entry.kind = .reversal ∧
      ∃ origin, books.entries[reversesId]? = some origin ∧ origin.isPosted ∧
        origin.kind ≠ .reversal ∧ origin.reversedById = some id ∧
        origin.ledgerId = entry.ledgerId ∧ origin.bookingDate ≤ entry.bookingDate ∧
        entry.lines.map JournalLine.toLineIn = (origin.lines.map JournalLine.swapped).map LineIn.bare
  reversed : ∀ {id reversedById : EntryId} {entry : JournalEntry}, books.entries[id]? = some entry →
    entry.reversedById = some reversedById → ∃ reversal, books.entries[reversedById]? = some reversal ∧
      reversal.reversesId = some id
  item : ∀ {item}, item ∈ books.openItems → ∃ entry, books.entries[item.journalEntryId]? = some entry ∧
    entry.isPosted ∧ entry.bookingDate = item.bookingDate ∧ entry.kind ≠ .reversal
  settlement : ∀ {row}, row ∈ books.settlements → row.openItemId < books.openItems.length ∧
    ∃ entry, books.entries[row.journalEntryId]? = some entry ∧ entry.isPosted ∧
      row.date = entry.bookingDate ∧ (entry.kind ≠ .reversal → 0 < row.amount)

variable {books next : Books}

theorem EntrySound.master (sound : EntrySound books entry)
    (accounts : ∀ (id : AccountId) (row : LedgerAccount), books.accounts[id]? = some row →
      ∃ edited, next.accounts[id]? = some edited ∧ edited.ledgerId = row.ledgerId)
    (units : ∀ (id : UnitId) (row : PropertyUnit), books.units[id]? = some row →
      next.units[id]? = some row) : EntrySound next entry where
  balanced := sound.balanced
  accounts := by
    intro line member
    obtain ⟨account, found, same⟩ := sound.accounts line member
    obtain ⟨edited, foundEdited, kept⟩ := accounts _ account found
    exact ⟨edited, foundEdited, kept.trans same⟩
  objects := by
    intro line member unitId present
    obtain ⟨unit, found, same⟩ := sound.objects line member unitId present
    exact ⟨unit, units _ unit found, same⟩

theorem EntrySound.congr (sound : EntrySound books entry) (accounts : next.accounts = books.accounts)
    (units : next.units = books.units) : EntrySound next entry :=
  sound.master (fun _ row found => ⟨row, accounts ▸ found, rfl⟩) fun _ _ found => units ▸ found

/-- A row of the same entry that differs at most in the entry that reversed it. -/
def JournalEntry.SameBut (entry kept : JournalEntry) : Prop :=
  kept = { entry with reversedById := kept.reversedById } ∧
    ∀ reversal, entry.reversedById = some reversal → kept.reversedById = some reversal

theorem JournalEntry.SameBut.refl (entry : JournalEntry) : entry.SameBut entry :=
  ⟨rfl, fun _ same => same⟩

theorem LedgerStep.posted_immutable {id : EntryId} {entry : JournalEntry} (step : LedgerStep books next)
    (found : books.entries[id]? = some entry) (posted : entry.isPosted) :
    ∃ kept, next.entries[id]? = some kept ∧ entry.SameBut kept := by
  cases step with
  | draft added sound isDraft original unreversed kind =>
    exact ⟨entry, found_append found, .refl entry⟩
  | redraft entryId old added foundOld wasDraft sound isDraft original unreversed kind sameLedger =>
    have other : id ≠ entryId := by
      rintro rfl
      obtain rfl : entry = old := by simpa [found] using foundOld
      exact posted wasDraft
    exact ⟨entry, (found_set foundOld).mpr (Or.inr ⟨other, found⟩), .refl entry⟩
  | post entryId draft ledger posting rows posts =>
    have other : id ≠ entryId := by
      rintro rfl
      obtain rfl : entry = draft := by simpa [found] using posts.found
      exact posted posts.draft
    exact ⟨entry, (found_set posts.found).mpr (Or.inr ⟨other, found⟩), .refl entry⟩
  | reverse entryId original ledger bookingDate reversal posting reverses =>
    by_cases same : id = entryId
    · subst same
      obtain rfl : entry = original := by simpa [found] using reverses.found
      refine ⟨_, found_append ((found_set reverses.found).mpr (Or.inl ⟨rfl, rfl⟩)), rfl, ?_⟩
      intro reversal already
      simp [reverses.unreversed] at already
    · exact ⟨entry, found_append ((found_set reverses.found).mpr (Or.inr ⟨same, found⟩)), .refl entry⟩
  | lock ledgerId ledger last foundLedger forward => exact ⟨entry, found, .refl entry⟩
  | master next edits => exact ⟨entry, edits.entries ▸ found, .refl entry⟩

theorem LedgerStep.item_same {itemId : OpenItemId} {item : OpenItem} (step : LedgerStep books next)
    (found : books.openItems[itemId]? = some item) : next.openItems[itemId]? = some item := by
  cases step with
  | draft added sound isDraft original unreversed kind => exact found
  | redraft place old added foundOld wasDraft sound isDraft original unreversed kind sameLedger => exact found
  | post place draft ledger posting rows posts => exact found_append found
  | reverse place original ledger bookingDate reversal posting reverses => exact found
  | lock ledgerId ledger last foundLedger forward => exact found
  | master next edits => exact edits.openItems ▸ found

theorem JournalEntry.SameBut.isPosted {entry kept : JournalEntry} (same : entry.SameBut kept) :
    kept.isPosted ↔ entry.isPosted := by
  rw [same.1]; rfl

private theorem SameBut.kept_item {item : OpenItem} (same : JournalEntry.SameBut entry kept)
    (facts : entry.isPosted ∧ entry.bookingDate = item.bookingDate ∧ entry.kind ≠ .reversal) :
    kept.isPosted ∧ kept.bookingDate = item.bookingDate ∧ kept.kind ≠ .reversal := by
  rw [same.1]; exact facts

private theorem SameBut.kept_row {row : OpenItemSettlement} (same : JournalEntry.SameBut entry kept)
    (facts : entry.isPosted ∧ row.date = entry.bookingDate ∧ (entry.kind ≠ .reversal → 0 < row.amount)) :
    kept.isPosted ∧ row.date = kept.bookingDate ∧ (kept.kind ≠ .reversal → 0 < row.amount) := by
  rw [same.1]; exact facts

theorem Books.Fresh.linked (fresh : books.Fresh) : books.Linked := by
  constructor <;> simp [fresh.entries, fresh.openItems, fresh.settlements]

private theorem old_rows (linked : books.Linked) (step : LedgerStep books next) :
    (∀ item ∈ books.openItems, ∃ entry, next.entries[item.journalEntryId]? = some entry ∧
      entry.isPosted ∧ entry.bookingDate = item.bookingDate ∧ entry.kind ≠ .reversal) ∧
    (∀ row ∈ books.settlements, ∃ entry, next.entries[row.journalEntryId]? = some entry ∧
      entry.isPosted ∧ row.date = entry.bookingDate ∧ (entry.kind ≠ .reversal → 0 < row.amount)) := by
  constructor
  · intro item member
    obtain ⟨entry, found, facts⟩ := linked.item member
    obtain ⟨kept, foundKept, same⟩ := step.posted_immutable found facts.1
    exact ⟨kept, foundKept, SameBut.kept_item same facts⟩
  · intro row member
    obtain ⟨-, entry, found, facts⟩ := linked.settlement member
    obtain ⟨kept, foundKept, same⟩ := step.posted_immutable found facts.1
    exact ⟨kept, foundKept, SameBut.kept_row same facts⟩

theorem openItem_of_createdItems (member : item ∈ createdItems books ledgerId entryId entry) :
    item.journalEntryId = entryId ∧ item.ledgerId = ledgerId ∧ item.bookingDate = entry.bookingDate ∧
      entry.kind ≠ .reversal ∧
      (item.kind = .receivable ∧ categoryOf books item.accountId = some .debtor ∧
          entry.kind ≠ .creditReclass ∧
          item.amount = debitOn item.accountId entry.lines - creditOn item.accountId entry.lines ∨
        item.kind = .payable ∧ categoryOf books item.accountId = some .creditor ∧
          item.amount = creditOn item.accountId entry.lines - debitOn item.accountId entry.lines) := by
  unfold createdItems at member
  split at member
  · rename_i kinds
    have notReversal : entry.kind ≠ .reversal := by
      rintro isReversal
      simp [isReversal, openItemKinds] at kinds
    obtain ⟨accountId, -, created⟩ := mem_filterMap.mp member
    unfold createdItem at created
    dsimp only at created
    split at created
    · rename_i receivable
      cases created
      exact ⟨rfl, rfl, rfl, notReversal, Or.inl ⟨rfl, receivable.1, receivable.2.2, rfl⟩⟩
    · split at created
      · rename_i payable
        cases created
        exact ⟨rfl, rfl, rfl, notReversal, Or.inr ⟨rfl, payable.1, rfl⟩⟩
      · cases created
  · simp at member

section

variable (linked : books.Linked)
include linked

private theorem linked_draft (step : LedgerStep books next)
    (isDraft : added.status = .draft) (original : added.reverses = none)
    (unreversed : added.reversedById = none) (sound : EntrySound books added)
    (after : next = { books with entries := books.entries ++ [added] }) : next.Linked := by
  obtain ⟨items, rows⟩ := old_rows linked step
  subst after
  refine ⟨?_, ?_, ?_, ?_, ?_, @items, ?_⟩
  · intro id entry found
    rcases found_append_one.mp found with old | ⟨-, rfl⟩
    · exact (linked.sound old).congr rfl rfl
    · exact sound.congr rfl rfl
  · intro id entry found draft
    rcases found_append_one.mp found with old | ⟨-, rfl⟩
    · exact linked.draftOpen old draft
    · exact ⟨original, unreversed⟩
  · intro id entry found kind
    rcases found_append_one.mp found with old | ⟨-, rfl⟩
    · exact linked.original old kind
    · exact original
  · intro id reversesId entry found reverses
    rcases found_append_one.mp found with old | ⟨-, rfl⟩
    · obtain ⟨posted, kind, origin, foundOrigin, facts⟩ := linked.reversal old reverses
      exact ⟨posted, kind, origin, found_append foundOrigin, facts⟩
    · simp [JournalEntry.reversesId, original] at reverses
  · intro id reversedById entry found reversed
    rcases found_append_one.mp found with old | ⟨-, rfl⟩
    · obtain ⟨reversal, foundReversal, reverses⟩ := linked.reversed old reversed
      exact ⟨reversal, found_append foundReversal, reverses⟩
    · simp [unreversed] at reversed
  · exact fun {row} member => ⟨(linked.settlement member).1, rows row member⟩

private theorem linked_set (found : books.entries[place]? = some old)
    (wasDraft : old.status = .draft) (original : entry.reverses = none)
    (unreversed : entry.reversedById = none) (sound : EntrySound books entry)
    (items : ∀ item ∈ next.openItems, ∃ entry, next.entries[item.journalEntryId]? = some entry ∧
      entry.isPosted ∧ entry.bookingDate = item.bookingDate ∧ entry.kind ≠ .reversal)
    (rows : ∀ row ∈ next.settlements, row.openItemId < next.openItems.length ∧
      ∃ entry, next.entries[row.journalEntryId]? = some entry ∧ entry.isPosted ∧
        row.date = entry.bookingDate ∧ (entry.kind ≠ .reversal → 0 < row.amount))
    (entries : next.entries = books.entries.set place entry) (accounts : next.accounts = books.accounts)
    (units : next.units = books.units) : next.Linked := by
  have closed : old.reverses = none ∧ old.reversedById = none := linked.draftOpen found wasDraft
  refine ⟨?_, ?_, ?_, ?_, ?_, @items, @rows⟩ <;> rw [entries]
  · intro id row foundRow
    rcases (found_set found).mp foundRow with ⟨-, rfl⟩ | ⟨-, kept⟩
    · exact sound.congr accounts units
    · exact (linked.sound kept).congr accounts units
  · intro id row foundRow draft
    rcases (found_set found).mp foundRow with ⟨-, rfl⟩ | ⟨-, kept⟩
    · exact ⟨original, unreversed⟩
    · exact linked.draftOpen kept draft
  · intro id row foundRow kind
    rcases (found_set found).mp foundRow with ⟨-, rfl⟩ | ⟨-, kept⟩
    · exact original
    · exact linked.original kept kind
  · intro id reversesId row foundRow reverses
    rcases (found_set found).mp foundRow with ⟨-, rfl⟩ | ⟨-, kept⟩
    · simp [JournalEntry.reversesId, original] at reverses
    · obtain ⟨posted, kind, origin, foundOrigin, postedOrigin, facts⟩ := linked.reversal kept reverses
      refine ⟨posted, kind, origin, (found_set found).mpr (Or.inr ⟨?_, foundOrigin⟩), postedOrigin, facts⟩
      rintro rfl
      obtain rfl : origin = old := by simpa [foundOrigin] using found
      exact postedOrigin wasDraft
  · intro id reversedById row foundRow reversed
    rcases (found_set found).mp foundRow with ⟨-, rfl⟩ | ⟨-, kept⟩
    · simp [unreversed] at reversed
    · obtain ⟨reversal, foundReversal, reverses⟩ := linked.reversed kept reversed
      refine ⟨reversal, (found_set found).mpr (Or.inr ⟨?_, foundReversal⟩), reverses⟩
      rintro rfl
      obtain rfl : reversal = old := by simpa [foundReversal] using found
      simp [JournalEntry.reversesId, closed.1] at reverses

private theorem linked_post (posts : Posts books entryId entry ledger posting rows) :
    (books.posted entryId entry posting rows).Linked := by
  have closed := linked.draftOpen posts.found posts.draft
  obtain ⟨oldItems, oldRows⟩ := old_rows linked (.post entryId entry ledger posting rows posts)
  have foundPosted : (books.posted entryId entry posting rows).entries[entryId]? =
      some (entry.withPosting posting) := (found_set posts.found).mpr (Or.inl ⟨rfl, rfl⟩)
  have isPosted : (entry.withPosting posting).isPosted := by simp [JournalEntry.isPosted, JournalEntry.withPosting]
  have original : (entry.withPosting posting).reverses = none := closed.1
  refine linked_set linked posts.found posts.draft original closed.2 ?_ ?_ ?_ rfl rfl rfl
  · exact ⟨(linked.sound posts.found).balanced, (linked.sound posts.found).accounts,
      (linked.sound posts.found).objects⟩
  · intro item member
    rcases mem_append.mp member with old | created
    · exact oldItems item old
    · obtain ⟨author, -, dated, notReversal, -⟩ := openItem_of_createdItems created
      exact ⟨entry.withPosting posting, author ▸ foundPosted, isPosted, dated.symm, notReversal⟩
  · intro row member
    rcases mem_append.mp member with old | added
    · refine ⟨?_, oldRows row old⟩
      simp only [Books.posted, length_append]
      exact Nat.lt_add_right _ (linked.settlement old).1
    · obtain ⟨author, dated, positive⟩ := posts.settles.row row added
      obtain ⟨item, foundItem, -⟩ := posts.settles.item row added
      exact ⟨found_lt foundItem, entry.withPosting posting, author ▸ foundPosted, isPosted, dated,
        fun _ => positive⟩

theorem reversalRows_facts (member : row ∈ reversalRows books entryId reversalId bookingDate) :
    row.journalEntryId = reversalId ∧ row.date = bookingDate ∧ row.openItemId < books.openItems.length := by
  rcases mem_append.mp member with closes | undoes
  · obtain ⟨⟨item, itemId⟩, found, rfl⟩ := mem_map.mp closes
    have present := mem_zipIdx_iff_getElem?.mp (mem_filter.mp found).1
    exact ⟨rfl, rfl, found_lt present⟩
  · obtain ⟨settlement, found, rfl⟩ := mem_map.mp undoes
    exact ⟨rfl, rfl, (linked.settlement (mem_filter.mp found).1).1⟩

private theorem linked_reverse (reverses : Reverses books entryId entry ledger bookingDate reversal posting) :
    (books.reversed entryId entry bookingDate reversal posting).Linked := by
  obtain ⟨oldItems, oldRows⟩ := old_rows linked
    (.reverse entryId entry ledger bookingDate reversal posting reverses)
  have original := linked.original reverses.found reverses.notReversal
  have notReversal : ∀ {origin}, entry.reversesId ≠ some origin := by
    simp [JournalEntry.reversesId, original]
  have foundOriginal : (books.entries.set entryId
      { entry with reversedById := some books.entries.length })[entryId]? =
        some { entry with reversedById := some books.entries.length } :=
    (found_set reverses.found).mpr (Or.inl ⟨rfl, rfl⟩)
  refine ⟨?_, ?_, ?_, ?_, ?_, @oldItems, ?_⟩
  · intro id row found
    rcases found_append_one.mp found with old | ⟨-, rfl⟩
    · rcases (found_set reverses.found).mp old with ⟨-, rfl⟩ | ⟨-, kept⟩
      · have sound := linked.sound reverses.found
        exact ⟨sound.balanced, sound.accounts, sound.objects⟩
      · exact (linked.sound kept).congr rfl rfl
    · exact ⟨reverses.sound.balanced, reverses.sound.accounts, reverses.sound.objects⟩
  · intro id row found draft
    rcases found_append_one.mp found with old | ⟨-, rfl⟩
    · rcases (found_set reverses.found).mp old with ⟨-, rfl⟩ | ⟨-, kept⟩
      · exact absurd draft reverses.posted
      · exact linked.draftOpen kept draft
    · simp [JournalEntry.withPosting] at draft
  · intro id row found kind
    rcases found_append_one.mp found with old | ⟨-, rfl⟩
    · rcases (found_set reverses.found).mp old with ⟨-, rfl⟩ | ⟨-, kept⟩
      · exact original
      · exact linked.original kept kind
    · exact absurd reverses.kind kind
  · intro id reversesId row found isReversal
    rcases found_append_one.mp found with old | ⟨rfl, rfl⟩
    · rcases (found_set reverses.found).mp old with ⟨-, rfl⟩ | ⟨-, kept⟩
      · exact absurd isReversal notReversal
      · obtain ⟨posted, kind, origin, foundOrigin, postedOrigin, originKind, reversed, facts⟩ :=
          linked.reversal kept isReversal
        have other : reversesId ≠ entryId := by
          rintro rfl
          obtain rfl : origin = entry := by simpa [foundOrigin] using reverses.found
          simp [reverses.unreversed] at reversed
        exact ⟨posted, kind, origin, found_append ((found_set reverses.found).mpr (Or.inr ⟨other, foundOrigin⟩)),
          postedOrigin, originKind, reversed, facts⟩
    · obtain rfl : reversesId = entryId := by
        have : reversal.reversesId = some reversesId := isReversal
        simpa [reverses.reverses] using this.symm
      refine ⟨by simp [JournalEntry.isPosted, JournalEntry.withPosting], reverses.kind, _,
        found_append foundOriginal, reverses.posted, reverses.notReversal, ?_, reverses.sameLedger.symm, ?_,
        reverses.lines⟩
      · simp
      · change entry.bookingDate ≤ reversal.bookingDate
        rw [reverses.dated]
        exact reverses.notBefore
  · intro id reversedById row found reversed
    rcases found_append_one.mp found with old | ⟨-, rfl⟩
    · rcases (found_set reverses.found).mp old with ⟨rfl, rfl⟩ | ⟨-, kept⟩
      · obtain rfl : books.entries.length = reversedById := by simpa using reversed
        exact ⟨_, found_append_one.mpr (Or.inr ⟨by simp, rfl⟩), reverses.reverses⟩
      · obtain ⟨other, foundOther, isReversal⟩ := linked.reversed kept reversed
        have different : reversedById ≠ entryId := by
          rintro rfl
          obtain rfl : other = entry := by simpa [foundOther] using reverses.found
          exact notReversal isReversal
        exact ⟨other, found_append ((found_set reverses.found).mpr (Or.inr ⟨different, foundOther⟩)),
          isReversal⟩
    · have : reversal.reversedById = some reversedById := reversed
      simp [reverses.fresh] at this
  · intro row member
    rcases mem_append.mp member with old | added
    · exact ⟨(linked.settlement old).1, oldRows row old⟩
    · obtain ⟨author, dated, inRange⟩ := reversalRows_facts linked added
      refine ⟨inRange, reversal.withPosting posting, ?_, ?_, ?_, ?_⟩
      · exact found_append_one.mpr (Or.inr ⟨by simp [author], rfl⟩)
      · simp [JournalEntry.isPosted, JournalEntry.withPosting]
      · rw [dated]; exact reverses.dated.symm
      · exact fun kind => absurd reverses.kind kind

end

theorem LedgerStep.linked (step : LedgerStep books next) (linked : books.Linked) : next.Linked := by
  cases step with
  | draft entry sound isDraft original unreversed kind =>
    exact linked_draft linked (.draft entry sound isDraft original unreversed kind) isDraft original
      unreversed sound rfl
  | redraft entryId old entry found wasDraft sound isDraft original unreversed kind sameLedger =>
    obtain ⟨items, rows⟩ := old_rows linked
      (.redraft entryId old entry found wasDraft sound isDraft original unreversed kind sameLedger)
    exact linked_set linked found wasDraft original unreversed (sound (linked.sound found)) items
      (fun row member => ⟨(linked.settlement member).1, rows row member⟩) rfl rfl rfl
  | post entryId entry ledger posting rows posts => exact linked_post linked posts
  | reverse entryId entry ledger bookingDate reversal posting reverses => exact linked_reverse linked reverses
  | lock ledgerId ledger last found forward =>
    exact { linked with sound := fun found => (linked.sound found).congr rfl rfl }
  | master next edits =>
    obtain ⟨accounts, units, -, entries, openItems, settlements, -⟩ := edits
    refine ⟨?_, ?_, ?_, ?_, ?_, ?_, ?_⟩ <;> simp only [entries, openItems, settlements]
    · intro id entry found
      refine (linked.sound found).master ?_ units
      intro account row foundRow
      obtain ⟨active, foundEdited⟩ := accounts account row foundRow
      exact ⟨{ row with active }, foundEdited, rfl⟩
    · exact linked.draftOpen
    · exact linked.original
    · exact linked.reversal
    · exact linked.reversed
    · exact linked.item
    · exact linked.settlement

end Mhvp.Accounting
