import Mhvp.Accounting.ItemOrigins

namespace Mhvp.Accounting

open Core Lib.Calendar Lib.Aggregate Lib.Table List

variable {books next : Books}

/-- Side of the lines of an account. -/
inductive Side
  | debit
  | credit

namespace Side

def on : Side → AccountId → List JournalLine → Decimal
  | .debit => debitOn
  | .credit => creditOn

def opposite : Side → Side
  | .debit => .credit
  | .credit => .debit

/-- The side that raises the account: credit for a creditor, debit otherwise. -/
def raising : AccountCategory → Side
  | .creditor => .credit
  | _ => .debit

/-- The kind of item that the raising side creates. -/
def raises : Side → OpenItemKind
  | .debit => .receivable
  | .credit => .payable

theorem on_nonneg (side : Side) : 0 ≤ side.on accountId lines := by
  cases side <;> apply sumWhere_nonneg <;> intro line _ _ <;>
    rcases line.oneSidePositive with ⟨positive, zero⟩ | ⟨positive, zero⟩
  · exact positive.le
  · exact zero.ge
  · exact zero.ge
  · exact positive.le

theorem opposite_nonneg (side : Side) : 0 ≤ side.opposite.on accountId lines := side.opposite.on_nonneg

theorem on_swapped (side : Side)
    (swapped : reversed.map JournalLine.toLineIn = (lines.map JournalLine.swapped).map LineIn.bare) :
    side.on accountId reversed = side.opposite.on accountId lines := by
  have debit : debitOn accountId reversed = creditOn accountId lines := by
    have bare : debitOn accountId reversed = sumWhere (fun line => line.accountId = accountId) LineIn.debit
        (reversed.map JournalLine.toLineIn) := by
      rw [sumWhere_map]
      rfl
    rw [bare, swapped, map_map, sumWhere_map]
    rfl
  have credit : creditOn accountId reversed = debitOn accountId lines := by
    have bare : creditOn accountId reversed = sumWhere (fun line => line.accountId = accountId) LineIn.credit
        (reversed.map JournalLine.toLineIn) := by
      rw [sumWhere_map]
      rfl
    rw [bare, swapped, map_map, sumWhere_map]
    rfl
  cases side
  · exact debit
  · exact credit

theorem movable_le (side : Side) : movable side.raises accountId lines ≤ side.opposite.on accountId lines := by
  have raised : 0 ≤ side.on accountId lines := side.on_nonneg
  cases side <;> exact sub_le_self _ raised

end Side

/-- The entry counts for the ledger. -/
def PostedIn (ledgerId : LedgerId) (entry : JournalEntry) : Prop :=
  entry.ledgerId = ledgerId ∧ PostedWithin none none entry

instance : Decidable (PostedIn ledgerId entry) := inferInstanceAs (Decidable (_ ∧ _))

theorem Side.on_ledgerLines (side : Side) (books : Books) (ledgerId : LedgerId) (accountId : AccountId) :
    side.on accountId (ledgerLines books ledgerId none) =
      sumWhere (PostedIn ledgerId) (fun entry => side.on accountId entry.lines) books.entries := by
  cases side
  · exact sumWhere_flatMap _ _
  · exact sumWhere_flatMap _ _

private theorem not_postedIn (draft : entry.status = .draft) : ¬ PostedIn ledgerId entry :=
  fun counted => postedWithin_draft draft counted.2

private theorem postedIn_withPosting (entry : JournalEntry) (posting : Posting) :
    PostedIn ledgerId (entry.withPosting posting) ↔ entry.ledgerId = ledgerId := by
  have within : PostedWithin none none (entry.withPosting posting) :=
    (postedWithin_withPosting entry posting).mpr within_none
  exact ⟨fun counted => counted.1, fun same => ⟨same, within⟩⟩

theorem Side.on_posted (side : Side) (posts : Posts books entryId entry ledger posting rows) :
    side.on accountId (ledgerLines (books.posted entryId entry posting rows) ledgerId none) =
      side.on accountId (ledgerLines books ledgerId none) +
        if entry.ledgerId = ledgerId then side.on accountId entry.lines else 0 := by
  rw [on_ledgerLines, on_ledgerLines, Books.posted, sumWhere_set posts.found,
    if_neg (not_postedIn posts.draft), sub_zero]
  simp only [postedIn_withPosting]
  rfl

theorem Side.on_reversed (side : Side)
    (reverses : Reverses books entryId entry ledger bookingDate reversal posting) :
    side.on accountId (ledgerLines (books.reversed entryId entry bookingDate reversal posting) ledgerId none) =
      side.on accountId (ledgerLines books ledgerId none) +
        if entry.ledgerId = ledgerId then side.opposite.on accountId entry.lines else 0 := by
  have same : (if PostedIn ledgerId { entry with reversedById := some books.entries.length } then
      side.on accountId entry.lines else 0) =
      if PostedIn ledgerId entry then side.on accountId entry.lines else 0 := rfl
  have swapped : side.on accountId (reversal.withPosting posting).lines = side.opposite.on accountId entry.lines :=
    side.on_swapped reverses.lines
  rw [on_ledgerLines, on_ledgerLines, Books.reversed, sumWhere_append, sumWhere_set reverses.found, same,
    sumWhere_singleton, swapped]
  simp only [postedIn_withPosting, reverses.sameLedger]
  ring

/-- The item stands on the account of the ledger. -/
def OpenItem.standsOn (item : OpenItem) (ledgerId : LedgerId) (accountId : AccountId) : Prop :=
  item.ledgerId = ledgerId ∧ item.accountId = accountId

instance : Decidable (OpenItem.standsOn item ledgerId accountId) := inferInstanceAs (Decidable (_ ∧ _))

/-- The id names an item on the account. -/
def Books.namesItem (books : Books) (ledgerId : LedgerId) (accountId : AccountId) (itemId : OpenItemId) : Prop :=
  ∃ item ∈ books.openItems[itemId]?, item.standsOn ledgerId accountId

instance : Decidable (Books.namesItem books ledgerId accountId itemId) := by
  unfold Books.namesItem; infer_instance

/-- Amounts of the items on an account. -/
def itemsAmount (books : Books) (ledgerId : LedgerId) (accountId : AccountId) : Decimal :=
  sumWhere (fun item => item.standsOn ledgerId accountId) OpenItem.amount books.openItems

/-- Settlements of the items on an account. -/
def itemsSettled (books : Books) (ledgerId : LedgerId) (accountId : AccountId) : Decimal :=
  sumWhere (fun row => books.namesItem ledgerId accountId row.openItemId) OpenItemSettlement.amount
    books.settlements

/-- What an entry settled on an account. -/
def settledByOn (books : Books) (entryId : EntryId) (ledgerId : LedgerId) (accountId : AccountId) : Decimal :=
  sumWhere (fun row => books.namesItem ledgerId accountId row.openItemId ∧ row.journalEntryId = entryId)
    OpenItemSettlement.amount books.settlements

/-- What a settlement plan settles on an account. -/
def plannedOn (books : Books) (ledgerId : LedgerId) (accountId : AccountId) (plan : List PlanIn) : Decimal :=
  sumWhere (fun planned => books.namesItem ledgerId accountId planned.openItemId) PlanIn.amount plan

/-- The items of an account do not exceed the postings that raise it, nor their settlements those that
pay it. -/
structure Covers (books : Books) (side : Side) (ledgerId : LedgerId) (accountId : AccountId) : Prop where
  amount : itemsAmount books ledgerId accountId ≤ side.on accountId (ledgerLines books ledgerId none)
  settled : itemsSettled books ledgerId accountId ≤ side.opposite.on accountId (ledgerLines books ledgerId none)

/-- Every debtor and creditor account is covered. -/
def Books.Covered (books : Books) : Prop :=
  ∀ (ledgerId : LedgerId) (accountId : AccountId) (category : AccountCategory),
    categoryOf books accountId = some category → category ∈ [.debtor, AccountCategory.creditor] →
    Covers books (.raising category) ledgerId accountId

theorem namesItem_congr (same : next.openItems[itemId]? = books.openItems[itemId]?) :
    next.namesItem ledgerId accountId itemId ↔ books.namesItem ledgerId accountId itemId := by
  rw [Books.namesItem, Books.namesItem, same]

private theorem oldSettled_append (linked : books.Linked) (items : next.openItems = books.openItems ++ created) :
    sumWhere (fun row => next.namesItem ledgerId accountId row.openItemId) OpenItemSettlement.amount
        books.settlements = itemsSettled books ledgerId accountId := by
  refine sumWhere_congr (fun row member => namesItem_congr ?_) fun _ _ _ => rfl
  rw [items, List.getElem?_append_left (linked.settlement member).1]

private theorem settles_old (posts : Posts books entryId entry ledger posting rows) (member : row ∈ rows) :
    ∃ item, books.openItems[row.openItemId]? = some item ∧ item.ledgerId = entry.ledgerId ∧
      settledOnAccount (books.posted entryId entry posting rows) item.accountId rows ≤
        movable item.kind item.accountId entry.lines := by
  obtain ⟨item, found, sameLedger, moves, -, within⟩ := posts.settles.item row member
  rw [zero_add] at within
  rcases found_append_cases found with old | ⟨-, created⟩
  · exact ⟨item, old, sameLedger, within⟩
  · obtain ⟨-, -, -, -, ⟨kind, -, -, amount⟩ | ⟨kind, -, amount⟩⟩ := openItem_of_createdItems created
    · have positive := item.amountPositive
      rw [kind, movable] at moves
      linarith
    · have positive := item.amountPositive
      rw [kind, movable] at moves
      linarith

/-- The entry settles an item of the other kind on the account. -/
def SettlesOther (books : Books) (side : Side) (accountId : AccountId) (itemId : OpenItemId) : Prop :=
  ∃ item ∈ books.openItems[itemId]?, item.accountId = accountId ∧ item.kind ≠ side.raises

private theorem rows_within (posts : Posts books entryId entry ledger posting rows) (side : Side)
    (regular : ∀ row ∈ rows, ¬ SettlesOther books side accountId row.openItemId) :
    sumWhere (fun row => books.namesItem ledgerId accountId row.openItemId) OpenItemSettlement.amount rows ≤
      if entry.ledgerId = ledgerId then side.opposite.on accountId entry.lines else 0 := by
  by_cases named : ∃ row ∈ rows, books.namesItem ledgerId accountId row.openItemId
  · obtain ⟨row, member, item, found, sameLedger, rfl⟩ := named
    obtain ⟨other, foundOther, ofEntry, within⟩ := settles_old posts member
    obtain rfl : item = other := Option.mem_unique found foundOther
    have kind : item.kind = side.raises := by
      by_contra differs
      exact regular row member ⟨item, found, rfl, differs⟩
    rw [if_pos (ofEntry.symm.trans sameLedger)]
    have sameSum : sumWhere (fun row => books.namesItem ledgerId item.accountId row.openItemId)
        OpenItemSettlement.amount rows =
        settledOnAccount (books.posted entryId entry posting rows) item.accountId rows := by
      refine sumWhere_congr (fun settlement present => ?_) fun _ _ _ => rfl
      obtain ⟨settledItem, foundSettled, ledgerSettled, -⟩ := settles_old posts present
      have foundPosted : (books.posted entryId entry posting rows).openItems[settlement.openItemId]? =
          some settledItem := found_append foundSettled
      have sameLedgerSettled : settledItem.ledgerId = ledgerId :=
        ledgerSettled.trans (ofEntry.symm.trans sameLedger)
      simp [Books.namesItem, settledAccount, foundSettled, foundPosted, OpenItem.standsOn, sameLedgerSettled]
    rw [sameSum]
    rw [kind] at within
    exact within.trans side.movable_le
  · have nothing : sumWhere (fun row => books.namesItem ledgerId accountId row.openItemId)
        OpenItemSettlement.amount rows = 0 :=
      sumWhere_eq_zero fun row member names => absurd ⟨row, member, names⟩ named
    rw [nothing]
    split
    · exact side.opposite_nonneg
    · exact le_rfl

private theorem created_within (known : categoryOf books accountId = some category)
    (personal : category ∈ [.debtor, AccountCategory.creditor]) :
    sumWhere (fun item => item.standsOn ledgerId accountId) OpenItem.amount
        (createdItems books entry.ledgerId entryId entry) ≤
      if entry.ledgerId = ledgerId then (Side.raising category).on accountId entry.lines else 0 := by
  by_cases sameLedger : entry.ledgerId = ledgerId
  · rw [if_pos sameLedger]
    have unique : ((createdItems books entry.ledgerId entryId entry).map OpenItem.place).Nodup :=
      createdItems_nodup
    have fixed : ∀ item ∈ createdItems books entry.ledgerId entryId entry,
        item.standsOn ledgerId accountId → item.place = (entryId, accountId) := by
      intro item created stands
      exact Prod.ext (openItem_of_createdItems created).1 stands.2
    apply sumWhere_le_of_unique unique fixed
    · intro item created stands
      obtain ⟨-, -, -, -, kinds⟩ := openItem_of_createdItems created
      rw [stands.2, known] at kinds
      have debitNonneg : 0 ≤ debitOn accountId entry.lines := Side.debit.on_nonneg
      have creditNonneg : 0 ≤ creditOn accountId entry.lines := Side.credit.on_nonneg
      rcases kinds with ⟨-, isDebtor, -, amount⟩ | ⟨-, isCreditor, amount⟩
      · cases isDebtor
        rw [amount]
        exact sub_le_self _ creditNonneg
      · cases isCreditor
        rw [amount]
        exact sub_le_self _ debitNonneg
    · exact Side.on_nonneg _
  · rw [if_neg sameLedger, sumWhere_eq_zero]
    intro item created stands
    exact absurd ((openItem_of_createdItems created).2.1.symm.trans stands.1) sameLedger

/-- A draft that settles a payable on a debtor account leaves its settlements within the credits. -/
def PostingCovered (books : Books) (entry : JournalEntry) : Prop :=
  ∀ accountId, categoryOf books accountId = some .debtor →
    (∃ planned ∈ entry.settlementPlan, SettlesOther books .debit accountId planned.openItemId) →
    itemsSettled books entry.ledgerId accountId +
        plannedOn books entry.ledgerId accountId entry.settlementPlan ≤
      creditOn accountId (ledgerLines books entry.ledgerId none) + creditOn accountId entry.lines

private theorem posted_settled (posts : Posts books entryId entry ledger posting rows)
    (originated : books.Originated) (known : categoryOf books accountId = some category)
    (personal : category ∈ [.debtor, AccountCategory.creditor])
    (covers : Covers books (.raising category) ledgerId accountId) (covered : PostingCovered books entry) :
    itemsSettled books ledgerId accountId +
        sumWhere (fun row => books.namesItem ledgerId accountId row.openItemId) OpenItemSettlement.amount rows ≤
      (Side.raising category).opposite.on accountId (ledgerLines books ledgerId none) +
        if entry.ledgerId = ledgerId then (Side.raising category).opposite.on accountId entry.lines else 0 := by
  by_cases other : entry.ledgerId = ledgerId ∧
      ∃ row ∈ rows, SettlesOther books (.raising category) accountId row.openItemId
  · obtain ⟨rfl, row, member, item, found, onAccount, kind⟩ := other
    rw [if_pos rfl]
    have isDebtor : category = .debtor := by
      rcases mem_pair.mp personal with rfl | rfl
      · rfl
      · obtain ⟨author, -, origin⟩ := originated.origin (mem_of_getElem? found)
        have receivable : item.kind = .receivable := by
          cases ofKind : item.kind with
          | receivable => rfl
          | payable => exact absurd ofKind kind
        have debtor := (origin.receivable receivable).1
        rw [onAccount, known] at debtor
        cases debtor
    subst isDebtor
    have planned : row.planned ∈ entry.settlementPlan := posts.planned ▸ mem_map_of_mem member
    have sameSum : plannedOn books entry.ledgerId accountId entry.settlementPlan =
        sumWhere (fun row => books.namesItem entry.ledgerId accountId row.openItemId)
          OpenItemSettlement.amount rows := by
      rw [← posts.planned, plannedOn, sumWhere_map]
      rfl
    have within := covered accountId known ⟨row.planned, planned, item, found, onAccount, kind⟩
    rw [sameSum] at within
    exact within
  · have within : sumWhere (fun row => books.namesItem ledgerId accountId row.openItemId)
        OpenItemSettlement.amount rows ≤
        if entry.ledgerId = ledgerId then (Side.raising category).opposite.on accountId entry.lines else 0 := by
      by_cases sameLedger : entry.ledgerId = ledgerId
      · exact rows_within posts _ fun row member settles => other ⟨sameLedger, row, member, settles⟩
      · rw [if_neg sameLedger, sumWhere_eq_zero]
        rintro row member ⟨item, found, stands⟩
        obtain ⟨settledItem, foundSettled, ofEntry, -⟩ := settles_old posts member
        obtain rfl : item = settledItem := Option.mem_unique found foundSettled
        exact absurd (ofEntry.symm.trans stands.1) sameLedger
    exact add_le_add covers.settled within

theorem posted_covers (linked : books.Linked) (originated : books.Originated)
    (posts : Posts books entryId entry ledger posting rows) (known : categoryOf books accountId = some category)
    (personal : category ∈ [.debtor, AccountCategory.creditor])
    (covers : Covers books (.raising category) ledgerId accountId) (covered : PostingCovered books entry) :
    Covers (books.posted entryId entry posting rows) (.raising category) ledgerId accountId := by
  have rowsSame : sumWhere
      (fun row => (books.posted entryId entry posting rows).namesItem ledgerId accountId row.openItemId)
      OpenItemSettlement.amount rows =
      sumWhere (fun row => books.namesItem ledgerId accountId row.openItemId) OpenItemSettlement.amount rows := by
    refine sumWhere_congr (fun row member => namesItem_congr ?_) fun _ _ _ => rfl
    obtain ⟨item, found, -⟩ := settles_old posts member
    rw [found]
    exact found_append found
  constructor
  · rw [Side.on_posted _ posts, itemsAmount, Books.posted, sumWhere_append]
    exact add_le_add covers.amount (created_within known personal)
  · rw [Side.on_posted _ posts, itemsSettled]
    change sumWhere _ _ (books.settlements ++ rows) ≤ _
    rw [sumWhere_append, oldSettled_append linked rfl, rowsSame]
    exact posted_settled posts originated known personal covers covered

private theorem closing_sum (books : Books) (entryId : EntryId) (bookingDate : Date) :
    sumWhere (fun row => books.namesItem ledgerId accountId row.openItemId) OpenItemSettlement.amount
        ((itemsOf books entryId).map (closing reversalId bookingDate)) =
      sumWhere (fun item => item.standsOn ledgerId accountId ∧ item.journalEntryId = entryId)
        OpenItem.amount books.openItems := by
  have byItem : sumWhere (fun item => item.standsOn ledgerId accountId ∧ item.journalEntryId = entryId)
      OpenItem.amount (books.openItems.zipIdx.map Prod.fst) =
      sumWhere (fun found => found.1.standsOn ledgerId accountId) (fun found => found.1.amount)
        (itemsOf books entryId) := by
    rw [sumWhere_map, itemsOf, sumWhere_filter]
  rw [zipIdx_map_fst] at byItem
  rw [byItem, sumWhere_map]
  refine sumWhere_congr (fun found member => ?_) fun _ _ _ => rfl
  have present : books.openItems[found.2]? = some found.1 :=
    mem_zipIdx_iff_getElem?.mp (mem_filter.mp member).1
  simp [Books.namesItem, closing, present]

private theorem undoing_sum (books : Books) (entryId : EntryId) (bookingDate : Date) :
    sumWhere (fun row => books.namesItem ledgerId accountId row.openItemId) OpenItemSettlement.amount
        ((settlementsOf books entryId).map (undoing reversalId bookingDate)) =
      -settledByOn books entryId ledgerId accountId := by
  rw [sumWhere_map, settlementsOf, sumWhere_filter, settledByOn, ← sumWhere_neg]
  rfl

private theorem settledByOn_nonneg (linked : books.Linked)
    (reverses : Reverses books entryId entry ledger bookingDate reversal posting) :
    0 ≤ settledByOn books entryId ledgerId accountId := by
  apply sumWhere_nonneg
  intro row member selected
  obtain ⟨-, author, found, -, -, positive⟩ := linked.settlement member
  rw [selected.2, reverses.found] at found
  cases found
  exact (positive reverses.notReversal).le

/-- A reversed entry with a payable on a debtor account leaves the settlements within the credits. -/
def ReversalCovered (books : Books) (entryId : EntryId) : Prop :=
  ∀ entry ∈ books.entries[entryId]?, ∀ item ∈ books.openItems, item.journalEntryId = entryId →
    item.kind = .payable → categoryOf books item.accountId = some .debtor →
    itemsSettled books entry.ledgerId item.accountId +
        (item.amount - settledByOn books entryId entry.ledgerId item.accountId) ≤
      creditOn item.accountId (ledgerLines books entry.ledgerId none) + debitOn item.accountId entry.lines

section

variable (linked : books.Linked) (originated : books.Originated)
  (reverses : Reverses books entryId entry ledger bookingDate reversal posting)
  (known : categoryOf books accountId = some category) (personal : category ∈ [.debtor, AccountCategory.creditor])
  (covers : Covers books (.raising category) ledgerId accountId) (covered : ReversalCovered books entryId)
include linked originated reverses known personal covers covered

private theorem reversed_settled :
    itemsSettled books ledgerId accountId +
        (sumWhere (fun item => item.standsOn ledgerId accountId ∧ item.journalEntryId = entryId)
          OpenItem.amount books.openItems - settledByOn books entryId ledgerId accountId) ≤
      (Side.raising category).opposite.on accountId (ledgerLines books ledgerId none) +
        if entry.ledgerId = ledgerId then (Side.raising category).on accountId entry.lines else 0 := by
  have takesBack : 0 ≤ settledByOn books entryId ledgerId accountId := settledByOn_nonneg linked reverses
  have before := covers.settled
  by_cases own : ∃ item ∈ books.openItems, item.standsOn ledgerId accountId ∧ item.journalEntryId = entryId
  · obtain ⟨item, member, ⟨ofLedger, rfl⟩, ofEntry⟩ := own
    obtain ⟨author, found, origin⟩ := originated.origin member
    rw [ofEntry, reverses.found] at found
    cases found
    have sameLedger : entry.ledgerId = ledgerId := origin.sameLedger.trans ofLedger
    have only : ∀ other ∈ books.openItems, other.standsOn ledgerId item.accountId ∧ other.journalEntryId = entryId →
        other = item := by
      intro other present selected
      have samePlace : other.place = item.place := Prod.ext (selected.2.trans ofEntry.symm) selected.1.2
      exact inj_on_of_nodup_map originated.onePerPlace present member samePlace
    have whole : sumWhere
        (fun other => other.standsOn ledgerId item.accountId ∧ other.journalEntryId = entryId)
        OpenItem.amount books.openItems ≤ item.amount := by
      have fixed : ∀ other ∈ books.openItems,
          other.standsOn ledgerId item.accountId ∧ other.journalEntryId = entryId → other.place = item.place := by
        intro other present selected
        rw [only other present selected]
      apply sumWhere_le_of_unique originated.onePerPlace fixed
      · intro other present selected
        rw [only other present selected]
      · exact item.amountPositive.le
    rw [if_pos sameLedger]
    by_cases kind : item.kind = (Side.raising category).raises
    · have raised : item.amount ≤ (Side.raising category).on item.accountId entry.lines := by
        have debitNonneg : 0 ≤ debitOn item.accountId entry.lines := Side.debit.on_nonneg
        have creditNonneg : 0 ≤ creditOn item.accountId entry.lines := Side.credit.on_nonneg
        rcases mem_pair.mp personal with rfl | rfl
        · rw [(origin.receivable kind).2]
          exact sub_le_self _ creditNonneg
        · rcases origin.payable kind with ⟨-, amount⟩ | ⟨debtor, -⟩
          · rw [amount]
            exact sub_le_self _ debitNonneg
          · rw [known] at debtor
            cases debtor
      linarith
    · have isDebtor : category = .debtor := by
        rcases mem_pair.mp personal with rfl | rfl
        · rfl
        · cases ofKind : item.kind with
          | payable => exact absurd ofKind kind
          | receivable =>
            have debtor := (origin.receivable ofKind).1
            rw [known] at debtor
            cases debtor
      subst isDebtor
      have payable : item.kind = .payable := by
        cases ofKind : item.kind with
        | payable => rfl
        | receivable => exact absurd ofKind kind
      have within := covered entry reverses.found item member ofEntry payable known
      rw [sameLedger] at within
      change _ ≤ creditOn item.accountId (ledgerLines books ledgerId none) + debitOn item.accountId entry.lines
      linarith
  · have nothing : sumWhere (fun item => item.standsOn ledgerId accountId ∧ item.journalEntryId = entryId)
        OpenItem.amount books.openItems = 0 :=
      sumWhere_eq_zero fun item member selected => absurd ⟨item, member, selected⟩ own
    have raised : (0 : Decimal) ≤
        if entry.ledgerId = ledgerId then (Side.raising category).on accountId entry.lines else 0 := by
      split
      · exact Side.on_nonneg _
      · exact le_rfl
    rw [nothing]
    linarith

theorem reversed_covers :
    Covers (books.reversed entryId entry bookingDate reversal posting) (.raising category) ledgerId accountId := by
  constructor
  · rw [Side.on_reversed _ reverses]
    apply covers.amount.trans
    apply le_add_of_nonneg_right
    split
    · exact Side.opposite_nonneg _
    · exact le_rfl
  · have twice : (Side.raising category).opposite.opposite = Side.raising category := by
      cases Side.raising category <;> rfl
    rw [Side.on_reversed _ reverses, twice, itemsSettled]
    change sumWhere (fun row => books.namesItem ledgerId accountId row.openItemId) OpenItemSettlement.amount
      (books.settlements ++ reversalRows books entryId books.entries.length bookingDate) ≤ _
    rw [sumWhere_append, reversalRows, sumWhere_append, closing_sum, undoing_sum, ← sub_eq_add_neg]
    exact reversed_settled linked originated reverses known personal covers covered

end

/-- Accounts and the columns the subledger reads are as before. -/
structure SameSubledger (books next : Books) : Prop where
  lines : ∀ (side : Side) (ledgerId : LedgerId) (accountId : AccountId),
    side.on accountId (ledgerLines next ledgerId none) = side.on accountId (ledgerLines books ledgerId none)
  amount : ∀ (ledgerId : LedgerId) (accountId : AccountId),
    itemsAmount next ledgerId accountId = itemsAmount books ledgerId accountId
  settled : ∀ (ledgerId : LedgerId) (accountId : AccountId),
    itemsSettled next ledgerId accountId = itemsSettled books ledgerId accountId

theorem SameSubledger.covers (same : SameSubledger books next) (covers : Covers books side ledgerId accountId) :
    Covers next side ledgerId accountId := by
  constructor
  · rw [same.amount, same.lines]
    exact covers.amount
  · rw [same.settled, same.lines]
    exact covers.settled

theorem covers_unknown (originated : books.Originated)
    (unknown : categoryOf books accountId = none) : Covers books side ledgerId accountId := by
  have noItem : ∀ item ∈ books.openItems, ¬ item.standsOn ledgerId accountId := by
    rintro item member ⟨-, rfl⟩
    obtain ⟨entry, -, origin⟩ := originated.origin member
    cases kind : item.kind with
    | receivable => simpa [unknown] using (origin.receivable kind).1
    | payable =>
      rcases origin.payable kind with ⟨known, -⟩ | ⟨known, -⟩
      · simp [unknown] at known
      · simp [unknown] at known
  have noAmount : itemsAmount books ledgerId accountId = 0 :=
    sumWhere_eq_zero fun item member stands => absurd stands (noItem item member)
  have noSettled : itemsSettled books ledgerId accountId = 0 := by
    apply sumWhere_eq_zero
    rintro row - ⟨item, found, stands⟩
    exact absurd stands (noItem item (mem_of_getElem? found))
  constructor
  · rw [noAmount]
    exact side.on_nonneg
  · rw [noSettled]
    exact side.opposite_nonneg

private theorem same_of_lines (lines : ∀ (side : Side) (ledgerId : LedgerId) (accountId : AccountId),
      side.on accountId (ledgerLines next ledgerId none) = side.on accountId (ledgerLines books ledgerId none))
    (items : next.openItems = books.openItems) (rows : next.settlements = books.settlements) :
    SameSubledger books next := by
  constructor
  · exact lines
  · intro ledgerId accountId
    rw [itemsAmount, items, itemsAmount]
  · intro ledgerId accountId
    rw [itemsSettled, rows, itemsSettled]
    exact sumWhere_congr (fun row _ => namesItem_congr (by rw [items])) fun _ _ _ => rfl

theorem QuietStep.sameSubledger (quiet : QuietStep books next) : SameSubledger books next := by
  refine same_of_lines ?_ quiet.openItems quiet.settlements
  intro side ledgerId accountId
  have ofPostings : ∀ rows : Books, rows.entries.filter (fun entry =>
      entry.ledgerId = ledgerId ∧ PostedWithin none none entry) =
      rows.postings.filter fun entry => entry.ledgerId = ledgerId ∧ PostedWithin none none entry := by
    intro rows
    rw [Books.postings, filter_filter]
    apply filter_congr
    intro entry _
    rw [eq_comm, Bool.and_eq_left_iff_imp]
    intro counted
    exact decide_eq_true (of_decide_eq_true counted).2.1
  rw [ledgerLines, ofPostings, quiet.postings, ← ofPostings, ledgerLines]

theorem flag_sameSubledger (found : books.openItems[itemId]? = some item) :
    SameSubledger books (WriteOffs.flagItem books itemId item effectiveOn) := by
  constructor
  · exact fun _ _ _ => rfl
  · intro ledgerId accountId
    rw [itemsAmount, WriteOffs.flagItem, sumWhere_set found, itemsAmount]
    exact sub_add_cancel _ _
  · intro ledgerId accountId
    refine sumWhere_congr (fun row _ => ?_) fun _ _ _ => rfl
    simp only [Books.namesItem, WriteOffs.flagItem, List.getElem?_set]
    split
    · rename_i same
      subst same
      rw [if_pos (found_lt found), found]
      simp [WriteOffs.flagged, OpenItem.standsOn]
    · rfl

theorem credit_covers (linked : books.Linked) (covers : Covers books side ledgerId accountId)
    (room : item.standsOn ledgerId accountId →
      itemsAmount books ledgerId accountId + item.amount ≤ side.on accountId (ledgerLines books ledgerId none)) :
    Covers { books with openItems := books.openItems ++ [item] } side ledgerId accountId := by
  constructor
  · change sumWhere _ _ (books.openItems ++ [item]) ≤ side.on accountId (ledgerLines books ledgerId none)
    rw [sumWhere_append, sumWhere_singleton]
    by_cases stands : item.standsOn ledgerId accountId
    · rw [if_pos stands]
      exact room stands
    · rw [if_neg stands, add_zero]
      exact covers.amount
  · rw [itemsSettled, oldSettled_append linked rfl]
    exact covers.settled

end Mhvp.Accounting
