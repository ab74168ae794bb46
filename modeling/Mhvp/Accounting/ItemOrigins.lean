import Mhvp.Accounting.BookSteps

namespace Mhvp.Accounting

open Lib.Table List

variable {books next : Books}

/-- The item carries what its entry moves on its account; a released credit may carry less. -/
structure ItemOrigin (books : Books) (item : OpenItem) (entry : JournalEntry) : Prop where
  sameLedger : entry.ledgerId = item.ledgerId
  onLine : ∃ line ∈ entry.lines, line.accountId = item.accountId
  receivable : item.kind = .receivable → categoryOf books item.accountId = some .debtor ∧
    item.amount = debitOn item.accountId entry.lines - creditOn item.accountId entry.lines
  payable : item.kind = .payable →
    (categoryOf books item.accountId = some .creditor ∧
      item.amount = creditOn item.accountId entry.lines - debitOn item.accountId entry.lines) ∨
    (categoryOf books item.accountId = some .debtor ∧
      item.amount ≤ creditOn item.accountId entry.lines - debitOn item.accountId entry.lines)

/-- The place of an item: its entry and its account. -/
def OpenItem.place (item : OpenItem) : EntryId × AccountId := (item.journalEntryId, item.accountId)

structure Books.Originated (books : Books) : Prop where
  origin : ∀ {item}, item ∈ books.openItems → ∃ entry, books.entries[item.journalEntryId]? = some entry ∧
    ItemOrigin books item entry
  onePerPlace : (books.openItems.map OpenItem.place).Nodup
  settles : ∀ {row}, row ∈ books.settlements → ∀ {item entry}, books.openItems[row.openItemId]? = some item →
    books.entries[row.journalEntryId]? = some entry → item.ledgerId = entry.ledgerId

theorem Books.Fresh.originated (fresh : books.Fresh) : books.Originated := by
  constructor <;> simp [fresh.openItems, fresh.settlements]

theorem mem_accountOrder (lines : List JournalLine) (accountId : AccountId)
    (member : accountId ∈ accountOrder lines) : ∃ line ∈ lines, line.accountId = accountId := by
  induction lines with
  | nil => cases member
  | cons line rest ih =>
    rcases mem_cons.mp member with rfl | later
    · exact ⟨line, mem_cons_self, rfl⟩
    · obtain ⟨other, present, same⟩ := ih (mem_filter.mp later).1
      exact ⟨other, mem_cons_of_mem _ present, same⟩

theorem accountOrder_nodup (lines : List JournalLine) : (accountOrder lines).Nodup := by
  induction lines with
  | nil => exact nodup_nil
  | cons line rest ih =>
    apply nodup_cons.mpr
    constructor
    · intro member
      simpa using (mem_filter.mp member).2
    · exact ih.filter _

private theorem createdItem_facts (created : createdItem books ledgerId entryId entry accountId = some item) :
    item.accountId = accountId ∧ item.writtenOff = false := by
  unfold createdItem at created
  dsimp only at created
  split at created
  · cases created
    exact ⟨rfl, rfl⟩
  · split at created
    · cases created
      exact ⟨rfl, rfl⟩
    · cases created

theorem createdItems_nodup : ((createdItems books ledgerId entryId entry).map OpenItem.place).Nodup := by
  unfold createdItems
  split
  · rw [map_filterMap]
    apply (accountOrder_nodup entry.lines).filterMap
    intro first second place isFirst isSecond
    obtain ⟨one, createdOne, rfl⟩ := Option.map_eq_some_iff.mp isFirst
    obtain ⟨other, createdOther, same⟩ := Option.map_eq_some_iff.mp isSecond
    have sameAccount : other.accountId = one.accountId := congrArg Prod.snd same
    rw [← (createdItem_facts createdOne).1, ← (createdItem_facts createdOther).1, sameAccount]
  · exact nodup_nil

section

variable (created : item ∈ createdItems books ledgerId entryId entry)
include created

theorem createdItems_onLine :
    ∃ line ∈ entry.lines, line.accountId = item.accountId := by
  unfold createdItems at created
  split at created
  · obtain ⟨accountId, member, isItem⟩ := mem_filterMap.mp created
    rw [(createdItem_facts isItem).1]
    exact mem_accountOrder entry.lines accountId member
  · cases created

theorem createdItems_unflagged :
    item.writtenOff = false := by
  unfold createdItems at created
  split at created
  · obtain ⟨accountId, -, isItem⟩ := mem_filterMap.mp created
    exact (createdItem_facts isItem).2
  · cases created

end

theorem LedgerStep.category_same (step : LedgerStep books next)
    (known : categoryOf books accountId = some category) : categoryOf next accountId = some category := by
  cases step with
  | draft | redraft | post | reverse | lock => exact known
  | master next edits =>
    obtain ⟨row, found, rfl⟩ := Option.map_eq_some_iff.mp known
    obtain ⟨active, foundNext⟩ := edits.accounts _ row found
    rw [categoryOf, foundNext]
    rfl

theorem ItemOrigin.mono (origin : ItemOrigin books item entry)
    (categories : ∀ category, categoryOf books item.accountId = some category →
      categoryOf next item.accountId = some category)
    (lines : kept.lines = entry.lines) (ledger : kept.ledgerId = entry.ledgerId) : ItemOrigin next item kept where
  sameLedger := ledger.trans origin.sameLedger
  onLine := by rw [lines]; exact origin.onLine
  receivable := by
    intro kind
    rw [lines]
    obtain ⟨debtor, amount⟩ := origin.receivable kind
    exact ⟨categories _ debtor, amount⟩
  payable := by
    intro kind
    rw [lines]
    rcases origin.payable kind with ⟨creditor, amount⟩ | ⟨debtor, amount⟩
    · exact Or.inl ⟨categories _ creditor, amount⟩
    · exact Or.inr ⟨categories _ debtor, amount⟩

section

variable (linked : books.Linked) (originated : books.Originated)
include linked originated

private theorem old_origin (step : LedgerStep books next) (member : item ∈ books.openItems) :
    ∃ entry, next.entries[item.journalEntryId]? = some entry ∧ ItemOrigin next item entry := by
  obtain ⟨entry, found, origin⟩ := originated.origin member
  obtain ⟨author, foundAuthor, posted, -⟩ := linked.item member
  obtain rfl : entry = author := by simpa [found] using foundAuthor
  obtain ⟨kept, foundKept, same⟩ := step.posted_immutable found posted
  have lines : kept.lines = entry.lines := by rw [same.1]
  have ledger : kept.ledgerId = entry.ledgerId := by rw [same.1]
  exact ⟨kept, foundKept, origin.mono (fun _ => step.category_same) lines ledger⟩

private theorem old_settles (step : LedgerStep books next)
    (member : row ∈ books.settlements) (foundItem : next.openItems[row.openItemId]? = some item)
    (foundEntry : next.entries[row.journalEntryId]? = some entry) : item.ledgerId = entry.ledgerId := by
  obtain ⟨inRange, author, foundAuthor, posted, -⟩ := linked.settlement member
  have foundOld := List.getElem?_eq_getElem inRange
  have sameItem : books.openItems[row.openItemId] = item := by
    simpa [step.item_same foundOld] using foundItem
  obtain ⟨kept, foundKept, same⟩ := step.posted_immutable foundAuthor posted
  obtain rfl : kept = entry := by simpa [foundKept] using foundEntry
  have sameLedger : kept.ledgerId = author.ledgerId := by rw [same.1]
  rw [sameLedger, ← sameItem]
  exact originated.settles member foundOld foundAuthor

private theorem post_originated (posts : Posts books entryId entry ledger posting rows) :
    (books.posted entryId entry posting rows).Originated := by
  constructor
  · intro item member
    rcases mem_append.mp member with old | created
    · exact old_origin linked originated (.post entryId entry ledger posting rows posts) old
    · obtain ⟨author, sameLedger, -, -, kinds⟩ := openItem_of_createdItems created
      refine ⟨entry.withPosting posting, ?_, ?_⟩
      · rw [author]
        exact (found_set posts.found).mpr (Or.inl ⟨rfl, rfl⟩)
      · constructor
        · exact sameLedger.symm
        · exact createdItems_onLine created
        · intro receivable
          rcases kinds with ⟨-, debtor, -, amount⟩ | ⟨payable, -⟩
          · exact ⟨debtor, amount⟩
          · rw [receivable] at payable
            cases payable
        · intro payable
          rcases kinds with ⟨receivable, -⟩ | ⟨-, creditor, amount⟩
          · rw [payable] at receivable
            cases receivable
          · exact Or.inl ⟨creditor, amount⟩
  · change ((books.openItems ++ createdItems books entry.ledgerId entryId entry).map OpenItem.place).Nodup
    rw [map_append]
    apply List.Nodup.append originated.onePerPlace createdItems_nodup
    intro place isOld isNew
    obtain ⟨old, present, rfl⟩ := mem_map.mp isOld
    obtain ⟨new, created, same⟩ := mem_map.mp isNew
    have author : new.journalEntryId = old.journalEntryId := congrArg Prod.fst same
    obtain ⟨origin, found, posted, -⟩ := linked.item present
    rw [← author, (openItem_of_createdItems created).1, posts.found] at found
    cases found
    exact posted posts.draft
  · intro row member item author foundItem foundAuthor
    rcases mem_append.mp member with old | added
    · exact old_settles linked originated (.post entryId entry ledger posting rows posts) old foundItem foundAuthor
    · obtain ⟨settledItem, foundSettled, sameLedger, -⟩ := posts.settles.item row added
      obtain rfl : settledItem = item := Option.mem_unique foundSettled foundItem
      rw [(posts.settles.row row added).1] at foundAuthor
      obtain ⟨-, rfl⟩ | ⟨other, -⟩ := (found_set posts.found).mp foundAuthor
      · exact sameLedger
      · exact absurd rfl other

private theorem reverse_originated (reverses : Reverses books entryId entry ledger bookingDate reversal posting) :
    (books.reversed entryId entry bookingDate reversal posting).Originated := by
  have step : LedgerStep books (books.reversed entryId entry bookingDate reversal posting) :=
    .reverse entryId entry ledger bookingDate reversal posting reverses
  have origins : ∀ {item}, item ∈ books.openItems → ∃ origin,
      (books.reversed entryId entry bookingDate reversal posting).entries[item.journalEntryId]? = some origin ∧
        ItemOrigin (books.reversed entryId entry bookingDate reversal posting) item origin :=
    fun member => old_origin linked originated step member
  refine ⟨origins, originated.onePerPlace, ?_⟩
  intro row member item author foundItem foundAuthor
  rcases mem_append.mp member with old | added
  · exact old_settles linked originated step old foundItem foundAuthor
  · change books.openItems[row.openItemId]? = some item at foundItem
    rw [(reversalRows_facts linked added).1] at foundAuthor
    have isReversal : author = reversal.withPosting posting := by
      rcases found_append_one.mp foundAuthor with inside | ⟨-, same⟩
      · simpa using found_lt inside
      · exact same
    rw [isReversal]
    change item.ledgerId = reversal.ledgerId
    rw [reverses.sameLedger]
    rcases mem_append.mp added with closes | undoes
    · obtain ⟨⟨own, ownId⟩, isOwn, rfl⟩ := mem_map.mp closes
      obtain ⟨present, ofEntry⟩ := mem_filter.mp isOwn
      obtain rfl : own = item := Option.some.inj ((mem_zipIdx_iff_getElem?.mp present).symm.trans foundItem)
      obtain ⟨author, foundAuthor', origin⟩ := originated.origin (mem_of_getElem? foundItem)
      have ofThis : own.journalEntryId = entryId := by simpa using ofEntry
      rw [ofThis, reverses.found] at foundAuthor'
      rw [← origin.sameLedger, Option.some.inj foundAuthor']
    · obtain ⟨settlement, isOwn, rfl⟩ := mem_map.mp undoes
      obtain ⟨present, ofEntry⟩ := mem_filter.mp isOwn
      have ofThis : settlement.journalEntryId = entryId := by simpa using ofEntry
      exact originated.settles present foundItem (ofThis ▸ reverses.found)

private theorem quiet_originated (step : LedgerStep books next) (items : next.openItems = books.openItems)
    (rows : next.settlements = books.settlements) : next.Originated := by
  constructor
  · intro item member
    rw [items] at member
    exact old_origin linked originated step member
  · rw [items]
    exact originated.onePerPlace
  · intro row member item entry foundItem foundEntry
    rw [rows] at member
    exact old_settles linked originated step member foundItem foundEntry

end

theorem LedgerStep.originated (step : LedgerStep books next) (linked : books.Linked)
    (originated : books.Originated) : next.Originated := by
  cases step with
  | draft entry sound isDraft original unreversed kind =>
    exact quiet_originated linked originated (.draft entry sound isDraft original unreversed kind) rfl rfl
  | redraft entryId draft entry found wasDraft sound isDraft original unreversed kind sameLedger =>
    exact quiet_originated linked originated (.redraft entryId draft entry found wasDraft sound isDraft original
      unreversed kind sameLedger) rfl rfl
  | post entryId entry ledger posting rows posts => exact post_originated linked originated posts
  | reverse entryId entry ledger bookingDate reversal posting reverses =>
    exact reverse_originated linked originated reverses
  | lock ledgerId ledger last found forward =>
    exact quiet_originated linked originated (.lock ledgerId ledger last found forward) rfl rfl
  | master next edits =>
    exact quiet_originated linked originated (.master next edits) edits.openItems edits.settlements

theorem services_originated (steps : Relation.ReflTransGen LedgerStep books next) (linked : books.Linked)
    (originated : books.Originated) : next.Linked ∧ next.Originated := by
  induction steps with
  | refl => exact ⟨linked, originated⟩
  | tail _ step ih => exact ⟨step.linked ih.1, step.originated ih.1 ih.2⟩

theorem flag_originated (originated : books.Originated) (found : books.openItems[itemId]? = some item) :
    (WriteOffs.flagItem books itemId item effectiveOn).Originated := by
  constructor
  · intro row member
    rcases mem_or_eq_of_mem_set member with old | rfl
    · obtain ⟨entry, foundEntry, origin⟩ := originated.origin old
      exact ⟨entry, foundEntry, origin.mono (fun _ same => same) rfl rfl⟩
    · obtain ⟨entry, foundEntry, origin⟩ := originated.origin (mem_of_getElem? found)
      exact ⟨entry, foundEntry, origin.sameLedger, origin.onLine, origin.receivable, origin.payable⟩
  · have samePlace : (books.openItems.set itemId (WriteOffs.flagged item effectiveOn)).map OpenItem.place =
        books.openItems.map OpenItem.place := map_set_same found rfl
    change ((books.openItems.set itemId (WriteOffs.flagged item effectiveOn)).map OpenItem.place).Nodup
    rw [samePlace]
    exact originated.onePerPlace
  · intro row member other entry foundOther foundEntry
    rcases (found_set found).mp foundOther with ⟨same, rfl⟩ | ⟨-, kept⟩
    · have foundOld : books.openItems[row.openItemId]? = some item := by rw [same]; exact found
      have sameLedger : item.ledgerId = entry.ledgerId := originated.settles member foundOld foundEntry
      exact sameLedger
    · exact originated.settles member kept foundEntry

theorem credit_originated (linked : books.Linked) (originated : books.Originated)
    (credits : Credits books item entry) (sameLedger : entry.ledgerId = item.ledgerId) :
    ({ books with openItems := books.openItems ++ [item] } : Books).Originated := by
  constructor
  · intro row member
    rcases mem_append.mp member with old | added
    · obtain ⟨author, foundAuthor, origin⟩ := originated.origin old
      exact ⟨author, foundAuthor, origin.mono (fun _ same => same) rfl rfl⟩
    · obtain rfl := mem_singleton.mp added
      refine ⟨entry, credits.found, sameLedger, credits.onLine, ?_, ?_⟩
      · intro receivable
        rw [credits.payable] at receivable
        cases receivable
      · exact fun _ => Or.inr ⟨credits.debtor, credits.within⟩
  · change ((books.openItems ++ [item]).map OpenItem.place).Nodup
    rw [map_append]
    apply List.Nodup.append originated.onePerPlace (nodup_singleton _)
    intro place isOld isNew
    obtain ⟨old, present, rfl⟩ := mem_map.mp isOld
    have same : old.place = item.place := mem_singleton.mp isNew
    exact credits.alone old present ⟨congrArg Prod.fst same, congrArg Prod.snd same⟩
  · intro row member other author foundOther foundAuthor
    rcases found_append_cases foundOther with old | ⟨beyond, -⟩
    · exact originated.settles member old foundAuthor
    · exact absurd (linked.settlement member).1 (Nat.not_lt.mpr beyond)

theorem WriteOffEffect.originated {db next : Db} (effect : WriteOffEffect db next call) (sound : db.books.Sound)
    (originated : db.books.Originated) : next.books.Originated := by
  cases effect with
  | services call steps => exact (services_originated steps sound.linked originated).2
  | flag writeOffId note userId gateOpen row item found proposed foundItem after =>
    rw [after]
    exact flag_originated originated foundItem

end Mhvp.Accounting
