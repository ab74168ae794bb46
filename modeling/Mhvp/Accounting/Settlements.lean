import Mhvp.Accounting.Links

namespace Mhvp.Accounting

open Core Lib.Calendar Lib.Aggregate Lib.Table

variable {books next : Books}

/-- The entry is a reversal. -/
def byReversal (books : Books) (entryId : EntryId) : Prop :=
  ∃ entry ∈ books.entries[entryId]?, entry.kind = .reversal

/-- The entry is reversed by an entry dated within the cut-off. -/
def reversedWithin (books : Books) (asOf : Option Date) (entryId : EntryId) : Prop :=
  ∃ entry ∈ books.entries[entryId]?, ∃ reversedById ∈ entry.reversedById,
    ∃ reversal ∈ books.entries[reversedById]?, Within asOf reversal.bookingDate

instance : Decidable (byReversal books entryId) := by unfold byReversal; infer_instance

instance : Decidable (reversedWithin books asOf entryId) := by unfold reversedWithin; infer_instance

/-- The settlement counts: its entry is no reversal and not reversed within the cut-off. -/
def Effective (books : Books) (asOf : Option Date) (row : OpenItemSettlement) : Prop :=
  ¬ byReversal books row.journalEntryId ∧ ¬ reversedWithin books asOf row.journalEntryId

instance : Decidable (Effective books asOf row) := by unfold Effective; infer_instance

/-- Settlements of the item by effective entries within the cut-off. -/
def standing (books : Books) (itemId : OpenItemId) (asOf : Option Date) : Decimal :=
  sumWhere (fun row => (row.openItemId = itemId ∧ Within asOf row.date) ∧ Effective books asOf row)
    OpenItemSettlement.amount books.settlements

/-- The amount of the item once its own entry is reversed within the cut-off. -/
def closedAmount (books : Books) (asOf : Option Date) (item : OpenItem) : Decimal :=
  if reversedWithin books asOf item.journalEntryId then item.amount else 0

/-- The settled amount of every item consists of standing settlements and its reversed entry. -/
def SettledSplit (books : Books) : Prop :=
  ∀ (itemId : OpenItemId) (item : OpenItem), books.openItems[itemId]? = some item → ∀ asOf,
    settled books itemId asOf = standing books itemId asOf + closedAmount books asOf item

/-- Settlements of an item by one entry. -/
def settledBy (books : Books) (entryId : EntryId) (itemId : OpenItemId) : Decimal :=
  sumWhere (fun row => row.openItemId = itemId ∧ row.journalEntryId = entryId)
    OpenItemSettlement.amount books.settlements

/-- Both books agree on which of an entry's effects count. -/
structure SameEffect (books next : Books) (entryId : EntryId) : Prop where
  byReversal : byReversal next entryId ↔ byReversal books entryId
  reversedWithin : ∀ asOf, reversedWithin next asOf entryId ↔ reversedWithin books asOf entryId

private theorem sameEffect_of_same (linked : books.Linked)
    (keeps : ∀ (id : EntryId) (entry : JournalEntry), books.entries[id]? = some entry → entry.isPosted →
      next.entries[id]? = some entry)
    (found : books.entries[entryId]? = some entry) (posted : entry.isPosted) :
    SameEffect books next entryId := by
  have foundNext := keeps entryId entry found posted
  refine ⟨by simp [byReversal, found, foundNext], fun asOf => ?_⟩
  simp only [reversedWithin, found, foundNext, Option.mem_def, Option.some.injEq, exists_eq_left']
  constructor
  · rintro ⟨reversedById, reversed, reversal, foundReversal, within⟩
    obtain ⟨old, foundOld, isReversal⟩ := linked.reversed found reversed
    have kept := keeps _ old foundOld (linked.reversal foundOld isReversal).1
    obtain rfl : old = reversal := by simpa [kept] using foundReversal
    exact ⟨reversedById, reversed, old, foundOld, within⟩
  · rintro ⟨reversedById, reversed, reversal, foundReversal, within⟩
    obtain ⟨old, foundOld, isReversal⟩ := linked.reversed found reversed
    obtain rfl : old = reversal := by simpa [foundOld] using foundReversal
    exact ⟨reversedById, reversed, old, keeps _ old foundOld (linked.reversal foundOld isReversal).1, within⟩

theorem SameEffect.effective (same : SameEffect books next row.journalEntryId) :
    Effective next asOf row ↔ Effective books asOf row := by
  rw [Effective, Effective, same.byReversal, same.reversedWithin]

theorem SameEffect.closedAmount (same : SameEffect books next item.journalEntryId) :
    closedAmount next asOf item = closedAmount books asOf item := by
  simp only [Mhvp.Accounting.closedAmount, same.reversedWithin]

section

variable (linked : books.Linked) (split : SettledSplit books)
  (keeps : ∀ (id : EntryId) (entry : JournalEntry), books.entries[id]? = some entry → entry.isPosted → next.entries[id]? = some entry)
include linked split keeps

/-- The split survives a step that adds effective settlements and items, and reverses nothing. -/
theorem split_of_added (items : next.openItems = books.openItems ++ created)
    (rows : next.settlements = books.settlements ++ added)
    (openCreated : ∀ item ∈ created, ∀ asOf, ¬ reversedWithin next asOf item.journalEntryId)
    (effective : ∀ row ∈ added, ∀ asOf, Effective next asOf row) : SettledSplit next := by
  intro itemId item found asOf
  have oldRows : ∀ row ∈ books.settlements, SameEffect books next row.journalEntryId := by
    intro row member
    obtain ⟨-, entry, foundEntry, posted, -⟩ := linked.settlement member
    exact sameEffect_of_same linked keeps foundEntry posted
  have settledNext : settled next itemId asOf = settled books itemId asOf +
      sumWhere (fun row => row.openItemId = itemId ∧ Within asOf row.date) OpenItemSettlement.amount added := by
    rw [settled, rows, sumWhere_append, settled]
  have standingNext : standing next itemId asOf = standing books itemId asOf +
      sumWhere (fun row => row.openItemId = itemId ∧ Within asOf row.date) OpenItemSettlement.amount added := by
    rw [standing, rows, sumWhere_append, standing]
    congr 1
    · exact sumWhere_congr (fun row member => and_congr_right fun _ => (oldRows row member).effective)
        fun _ _ _ => rfl
    · exact sumWhere_congr (fun row member => and_iff_left (effective row member asOf)) fun _ _ _ => rfl
  rw [settledNext, standingNext]
  rw [items] at found
  rcases found_append_cases found with old | ⟨beyond, isCreated⟩
  · obtain ⟨entry, foundEntry, posted, -⟩ := linked.item (List.mem_of_getElem? old)
    rw [(sameEffect_of_same linked keeps foundEntry posted).closedAmount, split itemId item old asOf]
    ring
  · have unsettled : ∀ row ∈ books.settlements, row.openItemId ≠ itemId :=
      fun row member => (Nat.lt_of_lt_of_le (linked.settlement member).1 beyond).ne
    have noneSettled : settled books itemId asOf = 0 :=
      sumWhere_eq_zero fun row member selected => absurd selected.1 (unsettled row member)
    have noneStanding : standing books itemId asOf = 0 :=
      sumWhere_eq_zero fun row member selected => absurd selected.1.1 (unsettled row member)
    rw [noneSettled, noneStanding, closedAmount, if_neg (openCreated item isCreated asOf)]
    ring

private theorem split_unchanged (items : next.openItems = books.openItems) (rows : next.settlements = books.settlements) :
    SettledSplit next := by
  have noneCreated : next.openItems = books.openItems ++ [] := by rw [items, List.append_nil]
  have noneAdded : next.settlements = books.settlements ++ [] := by rw [rows, List.append_nil]
  exact split_of_added linked split keeps noneCreated noneAdded (by simp) (by simp)

end

/-- The reversal adds the amount of an item the entry created and takes back what it settled. -/
theorem reversalRows_sum (found : books.openItems[itemId]? = some item) :
    sumWhere (fun row => row.openItemId = itemId ∧ Within asOf row.date) OpenItemSettlement.amount
        (reversalRows books entryId books.entries.length bookingDate) =
      if Within asOf bookingDate then
        (if item.journalEntryId = entryId then item.amount else 0) - settledBy books entryId itemId
      else 0 := by
  rw [reversalRows, sumWhere_append, sumWhere_map, sumWhere_map]
  by_cases within : Within asOf bookingDate
  · have closes : sumWhere (fun row => (closing books.entries.length bookingDate row).openItemId = itemId ∧
          Within asOf (closing books.entries.length bookingDate row).date)
        (fun row => (closing books.entries.length bookingDate row).amount) (itemsOf books entryId) =
        if item.journalEntryId = entryId then item.amount else 0 := by
      have byPlace := sumWhere_zipIdx books.openItems itemId 0 fun row =>
        if row.1.journalEntryId = entryId then row.1.amount else 0
      rw [found, ← sumWhere_and] at byPlace
      simp only [Nat.zero_add, Option.map_some, Option.getD_some] at byPlace
      rw [itemsOf, sumWhere_filter, ← byPlace]
      exact sumWhere_congr (fun row _ => by simp [closing, within]) fun row _ _ => rfl
    have undoes : sumWhere (fun row => (undoing books.entries.length bookingDate row).openItemId = itemId ∧
          Within asOf (undoing books.entries.length bookingDate row).date)
        (fun row => (undoing books.entries.length bookingDate row).amount) (settlementsOf books entryId) =
        -settledBy books entryId itemId := by
      rw [settlementsOf, sumWhere_filter, settledBy, ← sumWhere_neg]
      exact sumWhere_congr (fun row _ => by simp [undoing, within]) fun row _ _ => rfl
    rw [closes, undoes, if_pos within]
    ring
  · rw [if_neg within, sumWhere_eq_zero, sumWhere_eq_zero, add_zero]
    · exact fun row _ selected => absurd selected.2 within
    · exact fun row _ selected => absurd selected.2 within

theorem settled_reversed (found : books.openItems[itemId]? = some item) :
    settled (books.reversed entryId entry bookingDate reversal posting) itemId asOf =
      settled books itemId asOf + if Within asOf bookingDate then
        (if item.journalEntryId = entryId then item.amount else 0) - settledBy books entryId itemId
      else 0 := by
  rw [settled, Books.reversed, sumWhere_append, reversalRows_sum found, settled]

section Reverse

variable (reverses : Reverses books entryId entry ledger bookingDate reversal posting)

include reverses

private theorem found_reversed :
    (books.reversed entryId entry bookingDate reversal posting).entries[entryId]? =
      some { entry with reversedById := some books.entries.length } :=
  found_append ((found_set reverses.found).mpr (Or.inl ⟨rfl, rfl⟩))

private theorem found_other (different : other ≠ entryId)
    (found : books.entries[other]? = some row) :
    (books.reversed entryId entry bookingDate reversal posting).entries[other]? = some row :=
  found_append ((found_set reverses.found).mpr (Or.inr ⟨different, found⟩))

private theorem byReversal_reverse (found : books.entries[other]? = some row) :
    byReversal (books.reversed entryId entry bookingDate reversal posting) other ↔
      byReversal books other := by
  by_cases same : other = entryId
  · subst same
    simp [byReversal, found_reversed reverses, reverses.found]
  · simp [byReversal, found_other reverses same found, found]

/-- The reversed entry counts as reversed from the reversal date on; other entries are untouched. -/
private theorem reversedWithin_reverse (linked : books.Linked)
    (found : books.entries[other]? = some row) :
    reversedWithin (books.reversed entryId entry bookingDate reversal posting) asOf other ↔
      (other = entryId ∧ Within asOf bookingDate) ∨ (other ≠ entryId ∧ reversedWithin books asOf other) := by
  by_cases same : other = entryId
  · subst same
    have foundReversal : (books.reversed other entry bookingDate reversal posting).entries[books.entries.length]? =
        some (reversal.withPosting posting) := found_append_one.mpr (Or.inr ⟨by simp, rfl⟩)
    have dated : (reversal.withPosting posting).bookingDate = bookingDate := reverses.dated
    simp [reversedWithin, found_reversed reverses, foundReversal, dated]
  · simp only [reversedWithin, found_other reverses same found, found, Option.mem_def, Option.some.injEq,
      exists_eq_left', same, false_and, not_false_eq_true, true_and, false_or, ne_eq]
    refine exists_congr fun reversedById => and_congr_right fun reversed => ?_
    obtain ⟨old, foundOld, isReversal⟩ := linked.reversed found reversed
    have different : reversedById ≠ entryId := by
      rintro rfl
      obtain rfl : old = entry := by simpa [foundOld] using reverses.found
      exact reverses.notReversal (linked.reversal foundOld isReversal).2.1
    simp [found_other reverses different foundOld, foundOld]

private theorem effective_before : Effective books asOf row ∨ row.journalEntryId ≠ entryId := by
  by_cases same : row.journalEntryId = entryId
  · refine Or.inl ⟨?_, ?_⟩ <;> rw [same]
    · rintro ⟨found, isFound, kind⟩
      obtain rfl : entry = found := by simpa [reverses.found] using isFound
      exact reverses.notReversal kind
    · rintro ⟨found, isFound, reversedById, reversed, -⟩
      obtain rfl : entry = found := by simpa [reverses.found] using isFound
      simp [reverses.unreversed] at reversed
  · exact Or.inr same

/-- What the reversed entry settled leaves the standing settlements from the reversal date on. -/
private theorem standing_reverse (linked : books.Linked) :
    standing (books.reversed entryId entry bookingDate reversal posting) itemId asOf =
      standing books itemId asOf -
        (if Within asOf bookingDate then settledBy books entryId itemId else 0) := by
  have newRows : ∀ row ∈ reversalRows books entryId books.entries.length bookingDate,
      ¬ Effective (books.reversed entryId entry bookingDate reversal posting) asOf row := by
    intro row member effective
    refine effective.1 ⟨reversal.withPosting posting, ?_, reverses.kind⟩
    rw [(reversalRows_facts linked member).1]
    exact found_append_one.mpr (Or.inr ⟨by simp, rfl⟩)
  have oldRows : standing books itemId asOf =
      sumWhere (fun row => (row.openItemId = itemId ∧ Within asOf row.date) ∧
          Effective (books.reversed entryId entry bookingDate reversal posting) asOf row)
        OpenItemSettlement.amount books.settlements +
      if Within asOf bookingDate then settledBy books entryId itemId else 0 := by
    rw [standing, sumWhere_split (fun row => row.journalEntryId = entryId ∧ Within asOf bookingDate), add_comm]
    congr 1
    · refine sumWhere_congr (fun row member => ?_) fun _ _ _ => rfl
      obtain ⟨-, found, foundEntry, posted, -⟩ := linked.settlement member
      simp only [Effective, byReversal_reverse reverses foundEntry, reversedWithin_reverse reverses linked foundEntry]
      have own : Effective books asOf row ∨ row.journalEntryId ≠ entryId := effective_before reverses
      rcases own with ⟨notReversal, unreversed⟩ | other
      · tauto
      · tauto
    · by_cases within : Within asOf bookingDate
      · rw [if_pos within, settledBy]
        refine sumWhere_congr (fun row member => ?_) fun _ _ _ => rfl
        obtain ⟨-, found, foundEntry, posted, dated, -⟩ := linked.settlement member
        constructor
        · exact fun selected => ⟨selected.1.1.1, selected.2.1⟩
        · rintro ⟨sameItem, sameEntry⟩
          obtain rfl : found = entry := by simpa [sameEntry, reverses.found, eq_comm] using foundEntry
          have before : Within asOf row.date := within.mono (dated ▸ reverses.notBefore)
          have own : Effective books asOf row ∨ row.journalEntryId ≠ entryId := effective_before reverses
          rcases own with effective | other
          · exact ⟨⟨⟨sameItem, before⟩, effective⟩, sameEntry, within⟩
          · exact absurd sameEntry other
      · rw [if_neg within]
        exact sumWhere_eq_zero fun row _ selected => absurd selected.2.2 within
  have noneNew : sumWhere (fun row => (row.openItemId = itemId ∧ Within asOf row.date) ∧
      Effective (books.reversed entryId entry bookingDate reversal posting) asOf row)
      OpenItemSettlement.amount (reversalRows books entryId books.entries.length bookingDate) = 0 :=
    sumWhere_eq_zero fun row member selected => absurd selected.2 (newRows row member)
  have rows : (books.reversed entryId entry bookingDate reversal posting).settlements =
      books.settlements ++ reversalRows books entryId books.entries.length bookingDate := rfl
  rw [oldRows, standing, rows, sumWhere_append, noneNew]
  ring

private theorem split_reverse (linked : books.Linked) (split : SettledSplit books) :
    SettledSplit (books.reversed entryId entry bookingDate reversal posting) := by
  intro itemId item found asOf
  change books.openItems[itemId]? = some item at found
  obtain ⟨row, foundEntry, -⟩ := linked.item (List.mem_of_getElem? found)
  have closedNext : closedAmount (books.reversed entryId entry bookingDate reversal posting) asOf item =
      closedAmount books asOf item +
        if item.journalEntryId = entryId ∧ Within asOf bookingDate then item.amount else 0 := by
    simp only [closedAmount, reversedWithin_reverse reverses linked foundEntry]
    by_cases same : item.journalEntryId = entryId
    · have before : ¬ reversedWithin books asOf item.journalEntryId := by
        rw [same]
        rintro ⟨found', isFound, reversedById, reversed, -⟩
        obtain rfl : entry = found' := by simpa [reverses.found] using isFound
        simp [reverses.unreversed] at reversed
      rw [if_neg before]
      simp [same]
    · simp [same]
  rw [settled_reversed found, closedNext, standing_reverse reverses linked, split itemId item found asOf]
  by_cases within : Within asOf bookingDate <;> by_cases same : item.journalEntryId = entryId <;>
    simp [within, same] <;> ring

end Reverse

theorem entry_not_reversal {entryId : EntryId} {entry : JournalEntry} (linked : books.Linked)
    (found : books.entries[entryId]? = some entry) (draft : entry.status = .draft) :
    entry.kind ≠ .reversal := by
  intro kind
  have present := entry.reversalRef kind
  simp [(linked.draftOpen found draft).1] at present

private theorem keeps_set (found : books.entries[entryId]? = some old) (draft : old.status = .draft)
    (other : EntryId) (entry : JournalEntry) (foundOther : books.entries[other]? = some entry)
    (posted : entry.isPosted) : (books.entries.set entryId new)[other]? = some entry := by
  refine (found_set found).mpr (Or.inr ⟨?_, foundOther⟩)
  rintro rfl
  obtain rfl : entry = old := by simpa [foundOther] using found
  exact posted draft

theorem LedgerStep.split (step : LedgerStep books next) (linked : books.Linked)
    (split : SettledSplit books) : SettledSplit next := by
  cases step with
  | draft entry sound isDraft original unreversed kind =>
    exact split_unchanged linked split (fun _ _ found _ => found_append found) rfl rfl
  | redraft entryId old entry found wasDraft sound isDraft original unreversed kind sameLedger =>
    exact split_unchanged linked split (keeps_set found wasDraft) rfl rfl
  | post entryId entry ledger posting rows posts =>
    have foundPosted : (books.posted entryId entry posting rows).entries[entryId]? =
        some (entry.withPosting posting) := (found_set posts.found).mpr (Or.inl ⟨rfl, rfl⟩)
    have unreversed : ∀ asOf, ¬ reversedWithin (books.posted entryId entry posting rows) asOf entryId := by
      rintro asOf ⟨found, isFound, reversedById, reversed, -⟩
      obtain rfl : entry.withPosting posting = found := by simpa [foundPosted] using isFound
      have : entry.reversedById = some reversedById := reversed
      simp [(linked.draftOpen posts.found posts.draft).2] at this
    refine split_of_added linked split (keeps_set posts.found posts.draft) rfl rfl ?_ ?_
    · intro item created asOf
      rw [(openItem_of_createdItems created).1]
      exact unreversed asOf
    · intro row added asOf
      rw [Effective, (posts.settles.row row added).1]
      refine ⟨?_, unreversed asOf⟩
      rintro ⟨found, isFound, kind⟩
      obtain rfl : entry.withPosting posting = found := by simpa [foundPosted] using isFound
      exact entry_not_reversal linked posts.found posts.draft kind
  | reverse entryId entry ledger bookingDate reversal posting reverses =>
    exact split_reverse reverses linked split
  | lock ledgerId ledger last found forward =>
    exact split_unchanged linked split (fun _ _ found _ => found) rfl rfl
  | master next edits =>
    exact split_unchanged linked split (fun _ _ found _ => edits.entries ▸ found) edits.openItems
      edits.settlements

theorem Books.Fresh.split (fresh : books.Fresh) : SettledSplit books := by
  intro itemId item found
  simp [fresh.openItems] at found

/-- No item is settled beyond its amount, counting all settlements. -/
def NotOversettled (books : Books) : Prop :=
  ∀ (itemId : OpenItemId) (item : OpenItem), books.openItems[itemId]? = some item →
    settled books itemId none ≤ item.amount

/-- No item is settled beyond its amount on any cut-off day. -/
def NeverOversettled (books : Books) : Prop :=
  ∀ (itemId : OpenItemId) (item : OpenItem), books.openItems[itemId]? = some item → ∀ asOf,
    settled books itemId asOf ≤ item.amount

theorem Effective.positive (linked : books.Linked) (member : row ∈ books.settlements)
    (effective : ¬ byReversal books row.journalEntryId) : 0 < row.amount := by
  obtain ⟨-, entry, found, -, -, positive⟩ := linked.settlement member
  exact positive fun kind => effective ⟨entry, found, kind⟩

theorem standing_nonneg (linked : books.Linked) : 0 ≤ standing books itemId asOf :=
  sumWhere_nonneg fun _ member selected => (Effective.positive linked member selected.2.1).le

theorem closedAmount_nonneg (item : OpenItem) : 0 ≤ closedAmount books asOf item := by
  unfold closedAmount
  split
  · exact item.amountPositive.le
  · exact le_rfl

theorem settled_nonneg (linked : books.Linked) (split : SettledSplit books)
    (found : books.openItems[itemId]? = some item) : 0 ≤ settled books itemId asOf := by
  rw [split itemId item found asOf]
  exact add_nonneg (standing_nonneg linked) (closedAmount_nonneg item)

theorem settledBy_nonneg (linked : books.Linked) (found : books.entries[entryId]? = some entry)
    (notReversal : entry.kind ≠ .reversal) : 0 ≤ settledBy books entryId itemId := by
  refine sumWhere_nonneg fun row member selected => ?_
  obtain ⟨-, author, foundAuthor, -, -, positive⟩ := linked.settlement member
  obtain rfl : entry = author := by simpa [selected.2, found] using foundAuthor
  exact (positive notReversal).le

theorem settled_posted (posts : Posts books entryId entry ledger posting rows) :
    settled (books.posted entryId entry posting rows) itemId asOf =
      settled books itemId asOf + if Within asOf entry.bookingDate then settledIn itemId rows else 0 := by
  rw [settled, Books.posted, sumWhere_append, settled]
  congr 1
  by_cases within : Within asOf entry.bookingDate
  · rw [if_pos within, settledIn]
    refine sumWhere_congr (fun row member => and_iff_left ?_) fun _ _ _ => rfl
    rw [(posts.settles.row row member).2.1]
    exact within
  · rw [if_neg within]
    refine sumWhere_eq_zero fun row member selected => absurd ?_ within
    rw [← (posts.settles.row row member).2.1]
    exact selected.2

theorem settled_created (linked : books.Linked) (beyond : books.openItems.length ≤ itemId) :
    settled books itemId asOf = 0 :=
  sumWhere_eq_zero fun _ member selected =>
    absurd selected.1 (Nat.lt_of_lt_of_le (linked.settlement member).1 beyond).ne

theorem settledIn_eq_zero (absent : ∀ row ∈ rows, row.openItemId ≠ itemId) : settledIn itemId rows = 0 :=
  sumWhere_eq_zero fun row member same => absurd same (absent row member)

theorem LedgerStep.notOversettled (step : LedgerStep books next) (linked : books.Linked)
    (bounded : NotOversettled books) : NotOversettled next := by
  cases step with
  | post entryId entry ledger posting rows posts =>
    intro itemId item found
    rw [settled_posted posts, if_pos within_none]
    by_cases planned : ∃ row ∈ rows, row.openItemId = itemId
    · obtain ⟨row, member, rfl⟩ := planned
      obtain ⟨other, foundOther, -, -, bound, -⟩ := posts.settles.item row member
      obtain rfl : other = item := by
        simpa [show _ = some other from foundOther] using
          (show (books.openItems ++ createdItems books entry.ledgerId entryId entry)[row.openItemId]? =
            some item from found)
      exact bound
    · rw [settledIn_eq_zero fun row member same => planned ⟨row, member, same⟩, add_zero]
      rcases found_append_cases found with old | ⟨beyond, -⟩
      · exact bounded itemId item old
      · rw [settled_created linked beyond]
        exact item.amountPositive.le
  | reverse entryId entry ledger bookingDate reversal posting reverses =>
    intro itemId item found
    change books.openItems[itemId]? = some item at found
    have nonneg : 0 ≤ settledBy books entryId itemId :=
      settledBy_nonneg linked reverses.found reverses.notReversal
    rw [settled_reversed found, if_pos within_none]
    by_cases own : item.journalEntryId = entryId
    · have member : (item, itemId) ∈ itemsOf books entryId :=
        List.mem_filter.mpr ⟨List.mem_zipIdx_iff_getElem?.mpr found, by simpa using own⟩
      rw [reverses.unsettled _ member, if_pos own]
      linarith
    · have before := bounded itemId item found
      rw [if_neg own]
      linarith
  | draft entry sound isDraft original unreversed kind => exact bounded
  | redraft entryId old entry found wasDraft sound isDraft original unreversed kind sameLedger =>
    exact bounded
  | lock ledgerId ledger last found forward => exact bounded
  | master next edits =>
    intro itemId item found
    have same : settled next itemId none = settled books itemId none := by
      rw [settled, edits.settlements, settled]
    rw [same]
    exact bounded itemId item (edits.openItems ▸ found)

theorem Books.Fresh.notOversettled (fresh : books.Fresh) : NotOversettled books := by
  intro itemId item found
  simp [fresh.openItems] at found

end Mhvp.Accounting
