import Mhvp.Accounting.ItemOrigins

namespace Mhvp.Accounting

open Core Lib.Table

variable {books next : Books} {db : Db}

/-- A write off in progress is the only one of its item, and its item is not written off yet. -/
structure ProposalsOpen (db : Db) : Prop where
  unflagged : ∀ row ∈ db.writeOffs, row.status = .proposed → ∀ item ∈ db.books.openItems[row.openItemId]?,
    item.writtenOff = false
  single : ∀ (first second : WriteOffId) (one other : OpenItemWriteOff), db.writeOffs[first]? = some one →
    db.writeOffs[second]? = some other → one.status ≠ .rejected → other.status ≠ .rejected →
    one.openItemId = other.openItemId → first = second

/-- An item whose write off may be proposed. -/
structure Proposable (db : Db) (itemId : OpenItemId) : Prop where
  unflagged : ∀ item ∈ db.books.openItems[itemId]?, item.writtenOff = false
  single : ∀ other ∈ db.writeOffs, other.status ≠ .rejected → other.openItemId ≠ itemId

theorem proposable_of_checks (found : db.books.openItems[itemId]? = some item) (open' : item.writtenOff = false)
    (noOther : ∀ other ∈ db.writeOffs, ¬ (other.openItemId = itemId ∧
      other.status ∈ [WriteOffStatus.proposed, .approved])) : Proposable db itemId where
  unflagged := by
    intro own foundOwn
    obtain rfl : item = own := Option.mem_unique found foundOwn
    exact open'
  single := by
    intro other member active same
    apply noOther other member
    refine ⟨same, ?_⟩
    cases status : other.status with
    | rejected => exact absurd status active
    | proposed | approved => simp

theorem ProposalsOpen.inserted (proposals : ProposalsOpen db)
    (proposable : Proposable db row.openItemId) :
    ProposalsOpen { db with writeOffs := db.writeOffs ++ [row] } := by
  constructor
  · intro other member isOpen
    rcases List.mem_append.mp member with old | added
    · exact proposals.unflagged other old isOpen
    · obtain rfl := List.mem_singleton.mp added
      exact proposable.unflagged
  · intro first second one other foundOne foundOther activeOne activeOther same
    rcases found_append_one.mp foundOne with oldOne | ⟨lastOne, rfl⟩
    · rcases found_append_one.mp foundOther with oldOther | ⟨-, rfl⟩
      · exact proposals.single first second one other oldOne oldOther activeOne activeOther same
      · exact absurd same (proposable.single one (List.mem_of_getElem? oldOne) activeOne)
    · rcases found_append_one.mp foundOther with oldOther | ⟨lastOther, rfl⟩
      · exact absurd same.symm (proposable.single other (List.mem_of_getElem? oldOther) activeOther)
      · exact lastOne.trans lastOther.symm

/-- A decided row is no longer proposed; a decision never makes a second write off of an item active. -/
private theorem single_decided (proposals : ProposalsOpen db)
    (found : db.writeOffs[writeOffId]? = some row) (proposed : row.status = .proposed)
    (sameItem : decided.openItemId = row.openItemId) (first second : WriteOffId) (one other : OpenItemWriteOff)
    (foundOne : (db.writeOffs.set writeOffId decided)[first]? = some one)
    (foundOther : (db.writeOffs.set writeOffId decided)[second]? = some other)
    (activeOne : one.status ≠ .rejected) (activeOther : other.status ≠ .rejected)
    (same : one.openItemId = other.openItemId) : first = second := by
  have wasActive : row.status ≠ .rejected := by simp [proposed]
  rcases (found_set found).mp foundOne with ⟨rfl, rfl⟩ | ⟨-, keptOne⟩
  · rcases (found_set found).mp foundOther with ⟨rfl, -⟩ | ⟨-, keptOther⟩
    · rfl
    · exact proposals.single first second row other found keptOther wasActive activeOther (sameItem.symm.trans same)
  · rcases (found_set found).mp foundOther with ⟨rfl, rfl⟩ | ⟨-, keptOther⟩
    · exact proposals.single first second one row keptOne found activeOne wasActive (same.trans sameItem)
    · exact proposals.single first second one other keptOne keptOther activeOne activeOther same

theorem ProposalsOpen.decided {decided : OpenItemWriteOff} (proposals : ProposalsOpen db)
    (found : db.writeOffs[writeOffId]? = some row) (proposed : row.status = .proposed)
    (sameItem : decided.openItemId = row.openItemId) (closed : decided.status ≠ .proposed) :
    ProposalsOpen { db with writeOffs := db.writeOffs.set writeOffId decided } := by
  constructor
  · intro other member isOpen
    rcases List.mem_or_eq_of_mem_set member with old | rfl
    · exact proposals.unflagged other old isOpen
    · exact absurd isOpen closed
  · exact single_decided proposals found proposed sameItem

theorem ProposalsOpen.approved {decided : OpenItemWriteOff} (proposals : ProposalsOpen db)
    (found : db.writeOffs[writeOffId]? = some row) (proposed : row.status = .proposed)
    (sameItem : decided.openItemId = row.openItemId) (closed : decided.status ≠ .proposed)
    (foundItem : db.books.openItems[row.openItemId]? = some item) :
    ProposalsOpen { db with
      books := WriteOffs.flagItem db.books row.openItemId item effectiveOn
      writeOffs := db.writeOffs.set writeOffId decided } := by
  constructor
  · intro other member isOpen own foundOwn
    obtain ⟨index, foundOther⟩ := List.mem_iff_getElem?.mp member
    rcases (found_set found).mp foundOther with ⟨-, rfl⟩ | ⟨different, kept⟩
    · exact absurd isOpen closed
    · rcases (found_set foundItem).mp foundOwn with ⟨same, -⟩ | ⟨-, keptItem⟩
      · have active : other.status ≠ .rejected ∧ row.status ≠ .rejected := by simp [isOpen, proposed]
        exact absurd (proposals.single index writeOffId other row kept found active.1 active.2 same) different
      · exact proposals.unflagged other (List.mem_of_getElem? kept) isOpen own keptItem
  · exact single_decided proposals found proposed sameItem

theorem LedgerStep.unflagged {itemId : OpenItemId} {item : OpenItem} (step : LedgerStep books next)
    (found : next.openItems[itemId]? = some item) (old : ∀ item ∈ books.openItems[itemId]?, item.writtenOff = false) :
    item.writtenOff = false := by
  cases step with
  | draft | redraft | reverse | lock => exact old item found
  | post entryId entry ledger posting rows posts =>
    rcases found_append_cases found with present | ⟨-, created⟩
    · exact old item present
    · exact createdItems_unflagged created
  | master next edits => exact old item (edits.openItems ▸ found)

theorem services_unflagged {itemId : OpenItemId} (steps : Relation.ReflTransGen LedgerStep books next)
    (old : ∀ item ∈ books.openItems[itemId]?, item.writtenOff = false) :
    ∀ item ∈ next.openItems[itemId]?, item.writtenOff = false := by
  induction steps with
  | refl => exact old
  | tail _ step ih => exact fun item found => step.unflagged found ih

theorem ProposalsOpen.services {db next : Db} (proposals : ProposalsOpen db)
    (writeOffs : next.writeOffs = db.writeOffs)
    (steps : Relation.ReflTransGen LedgerStep db.books next.books) : ProposalsOpen next := by
  constructor <;> rw [writeOffs]
  · exact fun row member proposed => services_unflagged steps (proposals.unflagged row member proposed)
  · exact proposals.single

theorem writeOffStep_proposals {db next : Db} (sound : db.books.Sound) (proposals : ProposalsOpen db)
    (accepted : writeOffStep db call = .ok next) : ProposalsOpen next := by
  cases call with
  | journal call =>
    have writeOffs : next.writeOffs = db.writeOffs := by rw [journalStep_frame accepted]
    rcases journalStep_step accepted sound.linked.draftOpen with same | step
    · exact proposals.services writeOffs (by rw [same])
    · exact proposals.services writeOffs (.single step)
  | propose openItemId effectiveOn reason documentId userId today =>
    obtain ⟨row, read, rfl⟩ := WriteOffs.propose_ok accepted
    obtain ⟨rfl, -, item, found, open', -, noOther⟩ := WriteOffs.readProposal_ok read
    exact proposals.inserted (proposable_of_checks found open' noOther)
  | decide writeOffId decision note userId gateOpen =>
    obtain ⟨row, found, proposed, ⟨-, rfl⟩ | ⟨-, item, foundItem, rfl⟩⟩ := WriteOffs.decide_ok accepted
    · exact proposals.decided found proposed rfl (by simp)
    · exact proposals.approved found proposed rfl (by simp) foundItem
  | post writeOffId amount counterId userId gateOpen =>
    cases writeOffStep_effect sound accepted with
    | services call steps =>
      simp only [writeOffStep, bind_ok, pure_ok] at accepted
      obtain ⟨⟨entryId, result⟩, posted, rfl⟩ := accepted
      rcases WriteOffs.postWriteOff_ok posted with same | ⟨row, item, entry, drafted, ledger, posting, rows, place, -,
        -, -, -, -, -, -, -, -, -, -, rfl⟩
      · rw [same]
        exact proposals
      · exact proposals.services rfl steps
  | reversePosting writeOffId reason bookingDate userId gateOpen today =>
    rcases WriteOffs.reverseWriteOffPosting_ok accepted with same | ⟨entryId, entry, ledger, reversal, posting,
      orders, -, reverses, rfl⟩
    · rw [same]
      exact proposals
    · exact proposals.services rfl (.single (.reverse entryId entry ledger _ reversal posting reverses))
  | putSettings settings =>
    obtain rfl := pure_ok.mp accepted
    exact ⟨proposals.unflagged, proposals.single⟩

end Mhvp.Accounting
