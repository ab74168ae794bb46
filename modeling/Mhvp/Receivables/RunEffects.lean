import Mhvp.Accounting.Undoing
import Mhvp.Receivables.Runs

namespace Mhvp.Receivables

open Core Accounting Lib.Calendar Lib.Aggregate Lib.Table Option

variable {state next : ReceivablesState} {itemId : ItemId} {asOf : Option Date} {userId : Option UserId}

/-- Entry of an item. -/
def entryOfItem (items : List RunItem) (itemId : ItemId) : Option EntryId :=
  (items[itemId]?).bind RunItem.journalEntryId

/-- What the entry of an item moves on an account. -/
def itemMoved (books : Books) (items : List RunItem) (accountId : AccountId) (asOf : Option Date) (itemId : ItemId) :
    Decimal :=
  ((entryOfItem items itemId).map fun entryId => movedBy books entryId accountId asOf).getD 0

/-- What the entry of an item opens. -/
def itemOpened (books : Books) (items : List RunItem) (openItemId : OpenItemId) (itemId : ItemId) : Decimal :=
  ((entryOfItem items itemId).map fun entryId => createdBy books entryId openItemId).getD 0

/-- The entry of an item is posted and settles nothing. -/
def BookedEntry (books : Books) (items : List RunItem) (itemId : ItemId) : Prop :=
  ∃ entryId entry, entryOfItem items itemId = some entryId ∧ books.entries[entryId]? = some entry ∧ entry.isPosted ∧
    ∀ openItemId, settledBy books entryId openItemId = 0

section Kept

variable {books later : Books} {items laterItems : List RunItem}

theorem BookedEntry.kept (booked : BookedEntry books items itemId) (kept : EffectsKept books later)
    (same : laterItems[itemId]? = items[itemId]?) : BookedEntry later laterItems itemId := by
  obtain ⟨entryId, entry, isEntry, found, posted, nothing⟩ := booked
  obtain ⟨keptEntry, keeps⟩ := kept.kept found posted
  refine ⟨entryId, keptEntry, ?_, keeps.found, keeps.isPosted posted, fun openItemId => ?_⟩
  · rw [entryOfItem, same]
    exact isEntry
  · rw [keeps.settles, nothing]

theorem BookedEntry.moved (booked : BookedEntry books items itemId) (kept : EffectsKept books later)
    (same : laterItems[itemId]? = items[itemId]?) :
    itemMoved later laterItems accountId asOf itemId = itemMoved books items accountId asOf itemId := by
  obtain ⟨entryId, entry, isEntry, found, posted, -⟩ := booked
  have isLater : entryOfItem laterItems itemId = some entryId := by
    rw [entryOfItem, same]
    exact isEntry
  rw [itemMoved, itemMoved, isLater, isEntry, map_some, map_some, kept.moved found posted]

theorem BookedEntry.opened (booked : BookedEntry books items itemId) (kept : EffectsKept books later)
    (same : laterItems[itemId]? = items[itemId]?) :
    itemOpened later laterItems openItemId itemId = itemOpened books items openItemId itemId := by
  obtain ⟨entryId, entry, isEntry, found, posted, -⟩ := booked
  have isLater : entryOfItem laterItems itemId = some entryId := by
    rw [entryOfItem, same]
    exact isEntry
  rw [itemOpened, itemOpened, isLater, isEntry, map_some, map_some, kept.created found posted]

end Kept

/-- The entry a run books for an item. -/
structure EntryFor (run : ReceivableRun) (runId : RunId) (userId : Option UserId) (basis : Basis) (item : RunItem)
    (entry : JournalEntry) : Prop where
  header : ∃ contract, entry.toEntryHeader = itemHeader run runId userId item contract
  ledger : item.ledgerId = some entry.ledgerId
  lines : ∃ debtor lines, itemLines basis item entry.ledgerId debtor = .ok lines ∧
    entry.lines.map JournalLine.toLineIn = lines.map LineIn.bare

theorem EntryFor.posting (booked : EntryFor run runId userId basis item entry) (posting : Posting) :
    EntryFor run runId userId basis item (entry.withPosting posting) :=
  ⟨booked.header, booked.ledger, booked.lines⟩

theorem EntryFor.kept (booked : EntryFor run runId userId basis item entry)
    (same : entry.SameBut later) : EntryFor run runId userId basis item later := by
  rw [same.1]
  exact ⟨booked.header, booked.ledger, booked.lines⟩

/-- The books with more accounts and a draft. -/
def withDraft (books : Books) (added : List LedgerAccount) (entry : JournalEntry) : Books :=
  { books with accounts := books.accounts ++ added, entries := books.entries ++ [entry] }

theorem debtorFor_ok (answered : debtorFor books basis ledgerId ledger contract terms = .ok (debtor, after)) :
    ∃ added, after = { books with accounts := books.accounts ++ added } := by
  dsimp only [debtorFor] at answered
  split at answered
  · obtain ⟨-, rfl⟩ := Prod.mk.inj (pure_ok.mp answered)
    exact ⟨[], by rw [List.append_nil]⟩
  · simp only [bind_ok, pure_ok, Prod.mk.injEq] at answered
    obtain ⟨account, -, -, rfl⟩ := answered
    exact ⟨_, rfl⟩

/-- What posting an item did: an entry was written and posted, and the item names it. -/
structure ItemPosted (run : ReceivableRun) (runId : RunId) (userId : Option UserId) (state : ReceivablesState)
    (itemId : ItemId) (item : RunItem) (added : List LedgerAccount) (entry : JournalEntry) (ledger : Ledger)
    (posting : Posting) : Prop where
  found : state.items[itemId]? = some item
  booked : EntryFor run runId userId state.basis item entry
  draft : entry.status = .draft
  sound : EntrySound { state.db.books with accounts := state.db.books.accounts ++ added } entry
  original : entry.reverses = none
  unreversed : entry.reversedById = none
  posts : Posts (withDraft state.db.books added entry) state.db.books.entries.length entry ledger posting []
  unique : ∀ other ∈ state.items, ¬ SameComponent other
    { item with status := .posted, journalEntryId := some state.db.books.entries.length }

/-- The state after posting an item. -/
def ReceivablesState.withPosted (state : ReceivablesState) (itemId : ItemId) (item : RunItem)
    (added : List LedgerAccount) (entry : JournalEntry) (posting : Posting) : ReceivablesState :=
  let entryId := state.db.books.entries.length
  { state with
    db := { state.db with books := (withDraft state.db.books added entry).posted entryId entry posting [] }
    items := state.items.set itemId { item with status := .posted, journalEntryId := some entryId } }

theorem postItem_ok (accepted : postItem run runId userId state itemId = .ok next) :
    ∃ item added entry ledger posting, ItemPosted run runId userId state itemId item added entry ledger posting ∧
      next = state.withPosted itemId item added entry posting := by
  simp only [postItem, bind_ok, orRefuse_ok, exists_unit, require_ok, pure_ok] at accepted
  obtain ⟨item, found, ledgerId, isLedger, row, -, ⟨contract, terms⟩, -, ⟨debtor, synced⟩, isDebtor, lines, isLines,
    ⟨entryId, drafted⟩, written, books, posted, unique, rfl⟩ := accepted
  obtain ⟨added, rfl⟩ := debtorFor_ok isDebtor
  obtain ⟨entry, draft, ⟨-, rfl, rfl⟩ | ⟨old, isTarget, -⟩⟩ := writeDraft_ok written
  · have header := draft.header
    have isDraft := draft.draft
    have sameLedger := draft.ledger
    obtain ⟨written, foundEntry, -, ⟨already, -⟩ | ⟨ledger, posting, rows, posts, rfl⟩⟩ := post_ok posted
    · obtain rfl : entry = written := by simpa using foundEntry
      exact absurd isDraft already
    · obtain rfl : entry = written := by simpa using foundEntry
      obtain rfl : rows = [] := by
        have planned := posts.planned
        rw [draft.planned, List.map_eq_nil_iff] at planned
        exact planned
      refine ⟨item, added, entry, ledger, posting, ⟨found, ⟨⟨contract, header⟩, ?_, debtor, lines, ?_, draft.lines⟩, isDraft,
        draft.sound, draft.reverses, draft.unreversed, posts, unique⟩, rfl⟩
      · rw [sameLedger, isLedger]
      · rw [sameLedger, isLines]
  · cases isTarget

section Posted

variable (posted : ItemPosted run runId userId state itemId item added entry ledger posting)

include posted

theorem ItemPosted.drafted : Relation.ReflTransGen LedgerStep state.db.books (withDraft state.db.books added entry) := by
  have accounts : LedgerStep state.db.books { state.db.books with accounts := state.db.books.accounts ++ added } :=
    .master _ ⟨fun _ row found => ⟨row.active, found_append found⟩, fun _ _ found => found, rfl, rfl, rfl, rfl, rfl⟩
  have kind : entry.kind ≠ .reversal := by
    obtain ⟨contract, header⟩ := posted.booked.header
    rw [header]
    exact EntryKind.noConfusion
  exact (Relation.ReflTransGen.single accounts).tail
    (.draft entry posted.sound posted.draft posted.original posted.unreversed kind)

theorem ItemPosted.steps : Relation.ReflTransGen LedgerStep state.db.books
    (state.withPosted itemId item added entry posting).db.books :=
  posted.drafted.tail (.post _ entry ledger posting [] posted.posts)

theorem ItemPosted.entry_found : (state.withPosted itemId item added entry posting).db.books.entries[
    state.db.books.entries.length]? = some (entry.withPosting posting) :=
  (found_set posted.posts.found).mpr (Or.inl ⟨rfl, rfl⟩)

theorem ItemPosted.item_found : (state.withPosted itemId item added entry posting).items[itemId]? =
    some { item with status := .posted, journalEntryId := some state.db.books.entries.length } :=
  (found_set posted.found).mpr (Or.inl ⟨rfl, rfl⟩)

theorem ItemPosted.entryOfItem : entryOfItem (state.withPosted itemId item added entry posting).items itemId =
    some state.db.books.entries.length := by
  rw [Receivables.entryOfItem, posted.item_found]
  rfl

private theorem balance_withDraft : balance (withDraft state.db.books added entry) accountId asOf =
    balance state.db.books accountId asOf := by
  rw [balance_eq, balance_eq, withDraft, sumWhere_append, sumWhere_singleton, if_neg (postedWithin_draft posted.draft),
    add_zero]

theorem ItemPosted.moves : balance (state.withPosted itemId item added entry posting).db.books accountId asOf =
    balance state.db.books accountId asOf + itemMoved (state.withPosted itemId item added entry posting).db.books
      (state.withPosted itemId item added entry posting).items accountId asOf itemId := by
  rw [itemMoved, posted.entryOfItem, map_some, getD_some, ← balance_withDraft posted]
  exact posted_moves posted.posts

section

variable (sound : state.db.books.Sound)
include sound

theorem ItemPosted.linked : (withDraft state.db.books added entry).Linked :=
  (services_effectsKept posted.drafted sound).1.linked

theorem ItemPosted.opens (openItemId : OpenItemId) :
    openRest (state.withPosted itemId item added entry posting).db.books openItemId asOf =
      openRest state.db.books openItemId asOf + itemOpened (state.withPosted itemId item added entry posting).db.books
        (state.withPosted itemId item added entry posting).items openItemId itemId := by
  rw [itemOpened, posted.entryOfItem, map_some, getD_some]
  exact posted_opens posted.posts (posted.linked sound) openItemId

theorem ItemPosted.bookedEntry :
    BookedEntry (state.withPosted itemId item added entry posting).db.books
      (state.withPosted itemId item added entry posting).items itemId := by
  refine ⟨_, _, posted.entryOfItem, posted.entry_found, ?_, posted_settles_nothing posted.posts (posted.linked sound)⟩
  simp [JournalEntry.isPosted, JournalEntry.withPosting]

end

theorem ItemPosted.only
    (found : (state.withPosted itemId item added entry posting).db.books.entries[otherId]? = some other) :
    state.db.books.entries[otherId]? = some other ∨ otherId = state.db.books.entries.length := by
  rcases (found_set posted.posts.found).mp found with ⟨same, -⟩ | ⟨-, kept⟩
  · exact Or.inr same
  · rcases found_append_one.mp kept with old | ⟨same, -⟩
    · exact Or.inl old
    · exact Or.inr same

end Posted

/-- Posted items of one contract, payment type and month are the same item. -/
def OnePosted (items : List RunItem) : Prop :=
  ∀ (first second : ItemId) (one other : RunItem), items[first]? = some one → items[second]? = some other → SameComponent one other →
    first = second

theorem OnePosted.set (one : OnePosted items) (found : items[itemId]? = some old)
    (unique : ∀ other ∈ items, ¬ SameComponent other new) : OnePosted (items.set itemId new) := by
  intro first second row other foundRow foundOther same
  rcases (found_set found).mp foundRow with ⟨rfl, rfl⟩ | ⟨-, oldRow⟩
  · rcases (found_set found).mp foundOther with ⟨rfl, -⟩ | ⟨-, oldOther⟩
    · rfl
    · obtain ⟨posted, otherPosted, sameContract, sameType, sameMonth⟩ := same
      exact absurd ⟨otherPosted, posted, sameContract.symm, sameType.symm, sameMonth.symm⟩
        (unique other (List.mem_of_getElem? oldOther))
  · rcases (found_set found).mp foundOther with ⟨rfl, rfl⟩ | ⟨-, oldOther⟩
    · exact absurd same (unique row (List.mem_of_getElem? oldRow))
    · exact one first second row other oldRow oldOther same

/-- What posting some items did to the state. -/
structure ItemsPosted (run : ReceivableRun) (runId : RunId) (userId : Option UserId) (state next : ReceivablesState)
    (ids : List ItemId) : Prop where
  runs : next.runs = state.runs
  basis : next.basis = state.basis
  steps : Relation.ReflTransGen LedgerStep state.db.books next.db.books
  others : ∀ itemId ∉ ids, next.items[itemId]? = state.items[itemId]?
  items : ∀ itemId ∈ ids, ∃ item entryId entry, state.items[itemId]? = some item ∧
    next.items[itemId]? = some { item with status := .posted, journalEntryId := some entryId } ∧
    next.db.books.entries[entryId]? = some entry ∧ EntryFor run runId userId state.basis item entry
  booked : ∀ itemId ∈ ids, BookedEntry next.db.books next.items itemId
  only : ∀ entryId entry, next.db.books.entries[entryId]? = some entry → entry.isPosted →
    state.db.books.entries[entryId]? = some entry ∨ ∃ itemId ∈ ids, entryOfItem next.items itemId = some entryId
  moves : ∀ accountId asOf, balance next.db.books accountId asOf =
    balance state.db.books accountId asOf + (ids.map (itemMoved next.db.books next.items accountId asOf)).sum
  opens : ∀ openItemId asOf, openRest next.db.books openItemId asOf =
    openRest state.db.books openItemId asOf + (ids.map (itemOpened next.db.books next.items openItemId)).sum
  unique : OnePosted state.items → OnePosted next.items

theorem ItemsPosted.nil (run : ReceivableRun) (runId : RunId) (userId : Option UserId) (state : ReceivablesState) :
    ItemsPosted run runId userId state state [] where
  runs := rfl
  basis := rfl
  steps := .refl
  others := fun _ _ => rfl
  items := fun _ member => nomatch member
  booked := fun _ member => nomatch member
  only := fun _ _ found _ => Or.inl found
  moves := fun _ _ => (add_zero _).symm
  opens := fun _ _ => (add_zero _).symm
  unique := id

theorem ItemsPosted.cons (sound : state.db.books.Sound)
    (posted : ItemPosted run runId userId state itemId item added entry ledger posting)
    (isMid : mid = state.withPosted itemId item added entry posting)
    (later : ItemsPosted run runId userId mid next rest) (fresh : itemId ∉ rest) :
    ItemsPosted run runId userId state next (itemId :: rest) := by
  subst isMid
  have soundMid := (services_effectsKept posted.steps sound).1
  have kept := (services_effectsKept later.steps soundMid).2
  have same := later.others itemId fresh
  have bookedFirst := posted.bookedEntry sound
  have moved : ∀ accountId asOf, itemMoved _ _ accountId asOf itemId = itemMoved _ _ accountId asOf itemId :=
    fun _ _ => bookedFirst.moved kept same
  have opened : ∀ openItemId, itemOpened _ _ openItemId itemId = itemOpened _ _ openItemId itemId :=
    fun _ => bookedFirst.opened kept same
  have otherItem : ∀ otherId, otherId ≠ itemId →
      (state.withPosted itemId item added entry posting).items[otherId]? = state.items[otherId]? :=
    fun otherId other => List.getElem?_set_ne (Ne.symm other)
  constructor
  · exact later.runs
  · exact later.basis
  · exact posted.steps.trans later.steps
  · intro otherId absent
    obtain ⟨other, absentRest⟩ := not_or.mp (mt List.mem_cons.mpr absent)
    rw [later.others otherId absentRest, otherItem otherId other]
  · intro id member
    rcases List.mem_cons.mp member with rfl | inRest
    · obtain ⟨keptEntry, keeps⟩ := kept.kept posted.entry_found (by simp [JournalEntry.isPosted, JournalEntry.withPosting])
      exact ⟨item, _, keptEntry, posted.found, same.trans posted.item_found, keeps.found,
        (posted.booked.posting posting).kept keeps.same⟩
    · obtain ⟨row, entryId, rowEntry, found, foundNext, isEntry, bookedRow⟩ := later.items id inRest
      have other : id ≠ itemId := fun isFirst => fresh (isFirst ▸ inRest)
      exact ⟨row, entryId, rowEntry, (otherItem id other).symm.trans found, foundNext, isEntry, bookedRow⟩
  · intro id member
    rcases List.mem_cons.mp member with rfl | inRest
    · exact bookedFirst.kept kept same
    · exact later.booked id inRest
  · intro entryId row found isPosted
    rcases later.only entryId row found isPosted with before | ⟨id, member, isEntry⟩
    · rcases posted.only before with old | rfl
      · exact Or.inl old
      · refine Or.inr ⟨itemId, List.mem_cons_self .., ?_⟩
        rw [Receivables.entryOfItem, same]
        exact posted.entryOfItem
    · exact Or.inr ⟨id, List.mem_cons_of_mem _ member, isEntry⟩
  · intro accountId asOf
    rw [later.moves, posted.moves, List.map_cons, List.sum_cons, ← moved, add_assoc]
  · intro openItemId asOf
    rw [later.opens, posted.opens sound, List.map_cons, List.sum_cons, ← opened, add_assoc]
  · intro one
    exact later.unique (one.set posted.found posted.unique)

theorem postItems_ok (ids : List ItemId) (nodup : ids.Nodup) (sound : state.db.books.Sound)
    (accepted : ids.foldlM (postItem run runId userId) state = .ok next) :
    ItemsPosted run runId userId state next ids := by
  induction ids generalizing state with
  | nil =>
    obtain rfl := pure_ok.mp accepted
    exact .nil run runId userId state
  | cons itemId rest ih =>
    simp only [List.foldlM_cons, bind_ok] at accepted
    obtain ⟨mid, first, later⟩ := accepted
    obtain ⟨fresh, nodupRest⟩ := List.nodup_cons.mp nodup
    obtain ⟨item, added, entry, ledger, posting, posted, isMid⟩ := postItem_ok first
    have soundMid : mid.db.books.Sound := isMid ▸ (services_effectsKept posted.steps sound).1
    exact .cons sound posted isMid (ih nodupRest soundMid later) fresh

theorem reverseItem_ok (accepted : reverseItem userId reason bookingDate state itemId = .ok next) :
    ∃ item entryId entry ledger reversal posting, state.items[itemId]? = some item ∧
      item.journalEntryId = some entryId ∧
      Reverses state.db.books entryId entry ledger bookingDate reversal posting ∧
      next.db.books = state.db.books.reversed entryId entry bookingDate reversal posting ∧
      next.items = state.items.set itemId { item with status := .reversed } ∧ next.runs = state.runs ∧
      next.basis = state.basis := by
  simp only [reverseItem, bind_ok, orRefuse_ok, pure_ok] at accepted
  obtain ⟨item, found, entryId, isEntry, ledgerId, -, ⟨reversalId, db⟩, reversed, rfl⟩ := accepted
  obtain ⟨entry, ledger, reversal, posting, orders, reverses, -, -, -, rfl⟩ := reverse_ok reversed
  exact ⟨item, entryId, entry, ledger, reversal, posting, found, isEntry, reverses, rfl, rfl, rfl, rfl⟩

/-- What reversing some items did to the state. -/
structure ItemsReversed (bookingDate : Date) (state next : ReceivablesState) (ids : List ItemId) : Prop where
  runs : next.runs = state.runs
  basis : next.basis = state.basis
  steps : Relation.ReflTransGen LedgerStep state.db.books next.db.books
  others : ∀ itemId ∉ ids, next.items[itemId]? = state.items[itemId]?
  items : ∀ itemId ∈ ids, ∃ item, state.items[itemId]? = some item ∧
    next.items[itemId]? = some { item with status := .reversed }
  moves : (∀ itemId ∈ ids, BookedEntry state.db.books state.items itemId) → ∀ accountId asOf, Within asOf bookingDate →
    balance next.db.books accountId asOf =
      balance state.db.books accountId asOf - (ids.map (itemMoved state.db.books state.items accountId asOf)).sum
  closes : (∀ itemId ∈ ids, BookedEntry state.db.books state.items itemId) → ∀ openItemId asOf, Within asOf bookingDate →
    openRest next.db.books openItemId asOf =
      openRest state.db.books openItemId asOf - (ids.map (itemOpened state.db.books state.items openItemId)).sum

theorem reverseItems_ok (ids : List ItemId) (nodup : ids.Nodup) (sound : state.db.books.Sound)
    (accepted : ids.foldlM (reverseItem userId reason bookingDate) state = .ok next) :
    ItemsReversed bookingDate state next ids := by
  induction ids generalizing state with
  | nil =>
    obtain rfl := pure_ok.mp accepted
    exact ⟨rfl, rfl, .refl, fun _ _ => rfl, fun _ member => (nomatch member), fun _ _ _ _ => (sub_zero _).symm,
      fun _ _ _ _ => (sub_zero _).symm⟩
  | cons itemId rest ih =>
    simp only [List.foldlM_cons, bind_ok] at accepted
    obtain ⟨mid, first, later⟩ := accepted
    obtain ⟨fresh, nodupRest⟩ := List.nodup_cons.mp nodup
    obtain ⟨item, entryId, entry, ledger, reversal, posting, found, isEntry, reverses, books, items, runs, basis⟩ :=
      reverseItem_ok first
    have step : LedgerStep state.db.books mid.db.books := books ▸ .reverse entryId entry ledger bookingDate _ _ reverses
    have kept := step.effectsKept sound.linked
    have reversed := ih nodupRest (step.sound sound) later
    have otherItem : ∀ otherId, otherId ≠ itemId → mid.items[otherId]? = state.items[otherId]? := by
      intro otherId other
      rw [items]
      exact List.getElem?_set_ne (Ne.symm other)
    have inRest : ∀ id ∈ rest, id ≠ itemId := fun id member isFirst => fresh (isFirst ▸ member)
    have isFirst : entryOfItem state.items itemId = some entryId := by
      rw [entryOfItem, found]
      exact isEntry
    constructor
    · exact reversed.runs.trans runs
    · exact reversed.basis.trans basis
    · exact (Relation.ReflTransGen.single step).trans reversed.steps
    · intro otherId absent
      obtain ⟨other, absentRest⟩ := not_or.mp (mt List.mem_cons.mpr absent)
      rw [reversed.others otherId absentRest, otherItem otherId other]
    · intro id member
      rcases List.mem_cons.mp member with rfl | later
      · refine ⟨item, found, ?_⟩
        rw [reversed.others id fresh, items]
        exact (found_set found).mpr (Or.inl ⟨rfl, rfl⟩)
      · obtain ⟨row, foundRow, foundNext⟩ := reversed.items id later
        exact ⟨row, (otherItem id (inRest id later)).symm.trans foundRow, foundNext⟩
    · intro booked accountId asOf within
      have bookedRest : ∀ id ∈ rest, BookedEntry state.db.books state.items id :=
        fun id member => booked id (List.mem_cons_of_mem _ member)
      have restMoved : rest.map (itemMoved mid.db.books mid.items accountId asOf) =
          rest.map (itemMoved state.db.books state.items accountId asOf) :=
        List.map_congr_left fun id member => (bookedRest id member).moved kept (otherItem id (inRest id member))
      rw [reversed.moves (fun id member => (bookedRest id member).kept kept (otherItem id (inRest id member)))
        accountId asOf within, restMoved, books, reversed_moves within reverses, List.map_cons, List.sum_cons,
        itemMoved, isFirst, sub_sub]
      rfl
    · intro booked openItemId asOf within
      have bookedRest : ∀ id ∈ rest, BookedEntry state.db.books state.items id :=
        fun id member => booked id (List.mem_cons_of_mem _ member)
      obtain ⟨sameEntry, row, isRow, -, -, nothing⟩ := booked itemId (List.mem_cons_self ..)
      obtain rfl : entryId = sameEntry := mem_unique isFirst isRow
      have restOpened : rest.map (itemOpened mid.db.books mid.items openItemId) =
          rest.map (itemOpened state.db.books state.items openItemId) :=
        List.map_congr_left fun id member => (bookedRest id member).opened kept (otherItem id (inRest id member))
      rw [reversed.closes (fun id member => (bookedRest id member).kept kept (otherItem id (inRest id member)))
        openItemId asOf within, restOpened, books, reversed_closes within (nothing openItemId), List.map_cons,
        List.sum_cons, itemOpened, isFirst, sub_sub]
      rfl

end Mhvp.Receivables
