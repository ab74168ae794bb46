import Mhvp.Accounting.JournalRuns

namespace Mhvp.Accounting

open Core Lib.Calendar Lib.Aggregate Lib.Table Lib.Transition

variable {books next : Books}

/-- What a posted entry settled never changes; later steps write settlements of other entries. -/
theorem LedgerStep.settledBy_same (step : LedgerStep books next)
    (linked : books.Linked) (found : books.entries[entryId]? = some entry) (posted : entry.isPosted) :
    settledBy next entryId itemId = settledBy books entryId itemId := by
  have append : ∀ {added : List OpenItemSettlement}, next.settlements = books.settlements ++ added →
      (∀ row ∈ added, row.journalEntryId ≠ entryId) →
      settledBy next entryId itemId = settledBy books entryId itemId := by
    intro added rows others
    rw [settledBy, rows, sumWhere_append,
      sumWhere_eq_zero fun row member selected => absurd selected.2 (others row member), add_zero, settledBy]
  cases step with
  | draft added sound isDraft original unreversed kind => rfl
  | redraft place old added foundOld wasDraft sound isDraft original unreversed kind sameLedger => rfl
  | post place draft ledger posting rows posts =>
    refine append rfl fun row member => ?_
    rw [(posts.settles.row row member).1]
    rintro rfl
    obtain rfl : entry = draft := by simpa [found] using posts.found
    exact posted posts.draft
  | reverse place original ledger bookingDate reversal posting reverses =>
    refine append rfl fun row member => ?_
    rw [(reversalRows_facts linked member).1]
    exact (found_lt found).ne'
  | lock ledgerId ledger last foundLedger forward => rfl
  | master next edits => rw [settledBy, edits.settlements, settledBy]

theorem run_keeps_posted (sound : start.books.Sound) (found : start.books.entries[entryId]? = some entry)
    (posted : entry.isPosted) (calls : List JournalCall) :
    ∃ kept, (run journalStep start calls).books.entries[entryId]? = some kept ∧ entry.SameBut kept ∧
      ∀ itemId, settledBy (run journalStep start calls).books entryId itemId =
        settledBy start.books entryId itemId := by
  induction calls generalizing start entry with
  | nil => exact ⟨entry, found, .refl entry, fun _ => rfl⟩
  | cons call rest ih =>
    rw [run_cons]
    rcases commit_cases journalStep start call with same | accepted
    · rw [same]
      exact ih sound found posted
    · have soundNext := journalStep_sound _ _ _ sound accepted
      rcases journalStep_step accepted sound.linked.draftOpen with same | step
      · obtain ⟨kept, foundKept, sameBut, settledKept⟩ := ih soundNext (same ▸ found) posted
        exact ⟨kept, foundKept, sameBut, fun itemId => (settledKept itemId).trans (by rw [same])⟩
      · obtain ⟨mid, foundMid, sameMid⟩ := step.posted_immutable found posted
        obtain ⟨kept, foundKept, sameKept, settledKept⟩ := ih soundNext foundMid (sameMid.isPosted.mpr posted)
        refine ⟨kept, foundKept, ⟨?_, ?_⟩, ?_⟩
        · rw [sameKept.1, sameMid.1]
        · exact fun reversal already => sameKept.2 _ (sameMid.2 _ already)
        · exact fun itemId => (settledKept itemId).trans (step.settledBy_same sound.linked found posted)

theorem run_keeps_item {start : Db} {itemId : OpenItemId} {item : OpenItem} (sound : start.books.Sound)
    (found : start.books.openItems[itemId]? = some item) (calls : List JournalCall) :
    (run journalStep start calls).books.openItems[itemId]? = some item := by
  induction calls generalizing start with
  | nil => exact found
  | cons call rest ih =>
    rw [run_cons]
    rcases commit_cases journalStep start call with same | accepted
    · rw [same]
      exact ih sound found
    · refine ih (journalStep_sound _ _ _ sound accepted) ?_
      rcases journalStep_step accepted sound.linked.draftOpen with same | step
      · exact same ▸ found
      · exact step.item_same found

theorem settledBy_draft (linked : books.Linked)
    (found : books.entries[entryId]? = some entry) (draft : entry.status = .draft) :
    settledBy books entryId itemId = 0 :=
  sumWhere_eq_zero fun row member selected => by
    obtain ⟨-, author, foundAuthor, posted, -⟩ := linked.settlement member
    obtain rfl : entry = author := by simpa [selected.2, found] using foundAuthor
    exact absurd draft posted

theorem settledBy_posted (linked : books.Linked) (posts : Posts books entryId entry ledger posting rows) :
    settledBy (books.posted entryId entry posting rows) entryId itemId = settledIn itemId rows := by
  rw [settledBy, Books.posted, sumWhere_append]
  have before : sumWhere (fun row => row.openItemId = itemId ∧ row.journalEntryId = entryId)
      OpenItemSettlement.amount books.settlements = 0 := settledBy_draft linked posts.found posts.draft
  rw [before, zero_add, settledIn]
  exact sumWhere_congr (fun row member => and_iff_left (posts.settles.row row member).1) fun _ _ _ => rfl

/-- The reversal moves every balance and every earlier item by the opposite of what the posting did,
whatever was requested in between. -/
theorem reversal_opposes_posting {db next : Db} {entry : JournalEntry} (sound : db.books.Sound)
    (found : db.books.entries[entryId]? = some entry) (draft : entry.status = .draft)
    (posted : post db.books ledgerId entryId userId = .ok books) (between : List JournalCall)
    (reversed : reverse (run journalStep { db with books } between) ledger entryId author reason bookingDate
      reasonCode = .ok (reversalId, next)) :
    (∀ accountId, balance next.books accountId none =
      balance (run journalStep { db with books } between).books accountId none -
        (balance books accountId none - balance db.books accountId none)) ∧
    (∀ (itemId : OpenItemId) (item : OpenItem), db.books.openItems[itemId]? = some item →
      next.books.openItems[itemId]? = some item ∧
      settled next.books itemId none = settled (run journalStep { db with books } between).books itemId none -
        (settled books itemId none - settled db.books itemId none)) := by
  obtain ⟨row, foundRow, -, ⟨already, -⟩ | ⟨ledgerRow, posting, rows, posts, rfl⟩⟩ := post_ok posted
  · obtain rfl : entry = row := by simpa [found] using foundRow
    exact absurd draft already
  obtain rfl : entry = row := by simpa [found] using foundRow
  have step : LedgerStep db.books (db.books.posted entryId entry posting rows) :=
    .post entryId entry ledgerRow posting rows posts
  have soundPosted := step.sound sound
  have foundPosted : (db.books.posted entryId entry posting rows).entries[entryId]? =
      some (entry.withPosting posting) := (found_set posts.found).mpr (Or.inl ⟨rfl, rfl⟩)
  have soundMid : ({ db with books := db.books.posted entryId entry posting rows } : Db).books.Sound :=
    soundPosted
  obtain ⟨kept, foundKept, sameKept, settledKept⟩ := run_keeps_posted soundMid foundPosted
    (by simp [JournalEntry.isPosted, JournalEntry.withPosting]) between
  obtain ⟨original, ledgerNow, reversal, reversalPosting, orders, reverses, -, -, -, rfl⟩ := reverse_ok reversed
  obtain rfl : kept = original := by simpa [foundKept] using reverses.found
  have sameLines : kept.lines = entry.lines := by rw [sameKept.1]; rfl
  refine ⟨fun accountId => ?_, fun itemId item foundItem => ?_⟩
  · rw [cancelOrders_books, balance_reversed reverses, balance_posted posts, if_pos within_none, if_pos within_none, sameLines]
    ring
  · have foundMid := run_keeps_item soundMid (step.item_same foundItem) between
    have others : item.journalEntryId ≠ entryId := by
      rintro rfl
      obtain ⟨creator, foundCreator, isPosted, -⟩ := sound.linked.item (List.mem_of_getElem? foundItem)
      obtain rfl : entry = creator := by simpa [found] using foundCreator
      exact isPosted draft
    refine ⟨foundMid, ?_⟩
    rw [cancelOrders_books, settled_reversed foundMid, settled_posted posts, if_pos within_none, if_pos within_none, if_neg others, settledKept itemId,
      settledBy_posted sound.linked posts]
    ring

/-- Settlements stay between zero and the item's amount in every run, and reversing a just posted entry
restores every balance and the rest of every item that existed before. -/
theorem journal_run_settlements (start : Db) (fresh : start.books.Fresh) (calls : List JournalCall) :
    (∀ (itemId : OpenItemId) (item : OpenItem),
      (run journalStep start calls).books.openItems[itemId]? = some item →
      0 ≤ settled (run journalStep start calls).books itemId none ∧
        settled (run journalStep start calls).books itemId none ≤ item.amount) ∧
    (∀ (ledgerId : LedgerId) (entryId : EntryId) (userId : Option UserId) (entry : JournalEntry)
        (posted : Books) (author : Option UserId) (reason : String) (bookingDate : Date)
        (reasonCode : ReversalReason) (reversalId : EntryId) (next : Db),
      (run journalStep start calls).books.entries[entryId]? = some entry → entry.status = .draft →
      post (run journalStep start calls).books ledgerId entryId userId = .ok posted →
      reverse { run journalStep start calls with books := posted } ledgerId entryId author reason
        bookingDate reasonCode = .ok (reversalId, next) →
      (∀ accountId, balance next.books accountId none =
        balance (run journalStep start calls).books accountId none) ∧
      (∀ itemId < (run journalStep start calls).books.openItems.length,
        remaining next.books itemId none = remaining (run journalStep start calls).books itemId none)) := by
  have sound := journal_sound fresh calls
  refine ⟨fun itemId item found => ⟨settled_nonneg sound.linked sound.split found,
    sound.notOversettled itemId item found⟩, ?_⟩
  intro ledgerId entryId userId entry posted author reason bookingDate reasonCode reversalId next found draft
    applied reversed
  obtain ⟨balances, items⟩ := reversal_opposes_posting sound found draft applied [] reversed
  refine ⟨fun accountId => (balances accountId).trans (by simp), fun itemId inRange => ?_⟩
  have foundItem := List.getElem?_eq_getElem inRange
  obtain ⟨foundNext, settledNext⟩ := items itemId _ foundItem
  have same : settled next.books itemId none = settled (run journalStep start calls).books itemId none :=
    settledNext.trans (by simp)
  simp only [remaining, foundItem, foundNext, same]

/-- The payment of the sample is posted and reversed: every balance and the item are as before. -/
theorem sample_run_restored :
    (0 ≤ settled (run journalStep sampleDb sampleCalls).books 0 none) ∧
    ∃ posted reversalId next,
      post (run journalStep sampleDb (sampleCalls.take 3)).books 0 1 (some 7) = .ok posted ∧
      reverse { run journalStep sampleDb (sampleCalls.take 3) with books := posted } 0 1 (some 7) "falsch"
        (.ofYmd 2026 6 1) .other = .ok (reversalId, next) ∧
      (∀ accountId, balance next.books accountId none =
        balance (run journalStep sampleDb (sampleCalls.take 3)).books accountId none) ∧
      remaining next.books 0 none = .ok 100 := by
  have applied := accepted_of_isSome
    (show (answer? (post (run journalStep sampleDb (sampleCalls.take 3)).books 0 1 (some 7))).isSome by
      decide +kernel)
  have reversed := accepted_of_isSome (show (answer? (reverse { run journalStep sampleDb (sampleCalls.take 3) with
    books := (answer? (post (run journalStep sampleDb (sampleCalls.take 3)).books 0 1 (some 7))).get
      (by decide +kernel) } 0 1 (some 7) "falsch" (.ofYmd 2026 6 1) .other)).isSome by decide +kernel)
  obtain ⟨entry, found, draft⟩ : ∃ entry ∈ (run journalStep sampleDb (sampleCalls.take 3)).books.entries[1]?,
      entry.status = .draft := by decide +kernel
  have inRange : 0 < (run journalStep sampleDb sampleCalls).books.openItems.length := by decide +kernel
  obtain ⟨balances, rests⟩ := (journal_run_settlements sampleDb sample_fresh (sampleCalls.take 3)).2 0 1
    (some 7) _ _ _ _ _ _ _ _ found draft applied reversed
  refine ⟨((journal_run_settlements sampleDb sample_fresh sampleCalls).1 0 _
    (List.getElem?_eq_getElem inRange)).1, _, _, _, applied, reversed, balances, ?_⟩
  rw [rests 0 (by decide +kernel)]
  decide +kernel

end Mhvp.Accounting
