import Mhvp.Accounting.BookSteps

namespace Mhvp.Accounting

open Core Lib.Calendar Lib.Aggregate Lib.Table

/-- The item is not written off and open by the amount. -/
def OpenBy (books : Books) (itemId : OpenItemId) (amount : Decimal) : Prop :=
  ∃ item ∈ books.openItems[itemId]?, item.writtenOff = false ∧ amount ≤ item.amount - settled books itemId none

instance : Decidable (OpenBy books itemId amount) := by unfold OpenBy; infer_instance

/-- The request leaves the item open by the amount. -/
def LeavesItem (db : Db) (itemId : OpenItemId) (amount : Decimal) : WriteOffCall → Prop
  | .journal (.postEntry _ entryId _) => ∀ entry ∈ db.books.entries[entryId]?, entry.status = .draft →
      OpenBy db.books itemId (amount + plannedFor itemId entry.settlementPlan)
  | .journal (.reverseEntry _ entryId _ _ _ _ _) =>
    ∀ item ∈ db.books.openItems[itemId]?, item.journalEntryId ≠ entryId
  | .decide writeOffId .approve _ _ _ => ∀ row ∈ db.writeOffs[writeOffId]?, row.openItemId ≠ itemId
  | .post writeOffId _ _ _ _ => ∀ row ∈ db.writeOffs[writeOffId]?, row.openItemId ≠ itemId
  | .reversePosting writeOffId _ _ _ _ _ => ∀ found ∈ WriteOffs.postingEntry db.books writeOffId,
      ∀ item ∈ db.books.openItems[itemId]?, item.journalEntryId ≠ found.2
  | _ => True

section Steps

variable {books next : Books} {db : Db} {amount : Decimal}

section

variable (isOpen : OpenBy books itemId amount)
include isOpen

theorem OpenBy.same (items : ∀ item, books.openItems[itemId]? = some item → next.openItems[itemId]? = some item)
    (settlements : next.settlements = books.settlements) : OpenBy next itemId amount := by
  obtain ⟨item, found, unwritten, within⟩ := isOpen
  refine ⟨item, items item found, unwritten, ?_⟩
  rw [settled, settlements]
  exact within

theorem OpenBy.quiet (quiet : QuietStep books next) :
    OpenBy next itemId amount := by
  apply isOpen.same
  · intro item found
    rw [quiet.openItems]
    exact found
  · exact quiet.settlements

theorem OpenBy.flagged (found : books.openItems[otherId]? = some other)
    (apart : otherId ≠ itemId) : OpenBy (WriteOffs.flagItem books otherId other effectiveOn) itemId amount := by
  apply isOpen.same
  · intro item foundItem
    exact (found_set found).mpr (Or.inr ⟨apart.symm, foundItem⟩)
  · rfl

end

theorem OpenBy.posted (isOpen : OpenBy books itemId (amount + plannedFor itemId entry.settlementPlan))
    (posts : Posts books entryId entry ledger posting rows) :
    OpenBy (books.posted entryId entry posting rows) itemId amount := by
  obtain ⟨item, found, unwritten, within⟩ := isOpen
  have taken : sumWhere (fun row => row.openItemId = itemId ∧ Within none row.date) OpenItemSettlement.amount rows =
      plannedFor itemId entry.settlementPlan := by
    rw [← settledIn_eq_plannedFor posts.planned, settledIn]
    apply sumWhere_congr
    · intro row _
      simp
    · intro row _ _
      rfl
  refine ⟨item, found_append found, unwritten, ?_⟩
  have after : settled (books.posted entryId entry posting rows) itemId none =
      settled books itemId none + plannedFor itemId entry.settlementPlan := by
    rw [settled, Books.posted, sumWhere_append, taken]
    rfl
  rw [after]
  linarith

theorem OpenBy.reversed (isOpen : OpenBy books itemId amount) (linked : books.Linked)
    (reverses : Reverses books entryId entry ledger day reversal posting)
    (other : ∀ item ∈ books.openItems[itemId]?, item.journalEntryId ≠ entryId) :
    OpenBy (books.reversed entryId entry day reversal posting) itemId amount := by
  obtain ⟨item, found, unwritten, within⟩ := isOpen
  have given : 0 ≤ settledBy books entryId itemId := settledBy_nonneg linked reverses.found reverses.notReversal
  refine ⟨item, found, unwritten, ?_⟩
  have after : settled (books.reversed entryId entry day reversal posting) itemId none =
      settled books itemId none - settledBy books entryId itemId := by
    rw [settled_reversed found, if_pos within_none, if_neg (other item found), zero_sub]
    exact (sub_eq_add_neg _ _).symm
  rw [after]
  linarith

/-- Requests on the journal and on write offs leave an item to the orders and debits on it. -/
theorem writeOffStep_openBy {next : Db} (sound : db.books.Sound) (accepted : writeOffStep db call = .ok next)
    (leaves : LeavesItem db itemId amount call) (isOpen : OpenBy db.books itemId amount) :
    OpenBy next.books itemId amount := by
  cases call with
  | journal call =>
    cases journalStep_effect accepted sound.linked.draftOpen with
    | none call same =>
      rw [same]
      exact isOpen
    | quiet call step => exact isOpen.quiet step
    | post ledgerId entryId userId entry ledger posting rows posts after =>
      rw [after]
      exact (leaves entry posts.found posts.draft).posted posts
    | reverse ledgerId entryId userId reason given reasonCode today entry ledger reversal posting found reverses
        after =>
        rw [after]
        exact isOpen.reversed sound.linked reverses leaves
  | propose openItemId effectiveOn reason documentId userId today =>
    obtain ⟨row, -, rfl⟩ := WriteOffs.propose_ok accepted
    exact isOpen
  | decide writeOffId decision note userId gateOpen =>
    obtain ⟨row, found, -, ⟨-, rfl⟩ | ⟨rfl, item, foundItem, rfl⟩⟩ := WriteOffs.decide_ok accepted
    · exact isOpen
    · exact isOpen.flagged foundItem (leaves row found)
  | post writeOffId expectedAmount counterId userId gateOpen =>
    simp only [writeOffStep, bind_ok, pure_ok] at accepted
    obtain ⟨⟨entryId, result⟩, posted, rfl⟩ := accepted
    rcases WriteOffs.postWriteOff_ok posted with rfl | ⟨row, item, entry, drafted, ledger, posting, rows, place, found, -,
      -, -, -, -, plan, quiet, -, -, posts, rfl⟩
    · exact isOpen
    · have untouched : plannedFor itemId entry.settlementPlan = 0 := by
        rw [plannedFor, plan, sumWhere_singleton, if_neg (leaves row found)]
      apply OpenBy.posted ?_ posts
      rw [untouched, add_zero]
      exact isOpen.quiet quiet
  | reversePosting writeOffId reason bookingDate userId gateOpen today =>
    rcases WriteOffs.reverseWriteOffPosting_ok accepted with rfl | ⟨entryId, entry, ledger, reversal, posting,
      orders, isPosting, reverses, rfl⟩
    · exact isOpen
    · obtain ⟨found, isFound, rfl⟩ := Option.map_eq_some_iff.mp isPosting
      exact isOpen.reversed sound.linked reverses (leaves found isFound)
  | putSettings settings =>
    obtain rfl := pure_ok.mp accepted
    exact isOpen

end Steps

end Mhvp.Accounting
