import Mhvp.Accounting.JournalRuns
import Mhvp.Accounting.WriteOffs

namespace Mhvp.Accounting

open Core Lib.Calendar Lib.Table List

variable {books next : Books}

/-- What the release of a statement credit has checked about the item it adds. -/
structure Credits (books : Books) (item : OpenItem) (entry : JournalEntry) : Prop where
  found : books.entries[item.journalEntryId]? = some entry
  posted : entry.isPosted
  unreversed : entry.reversedById = none
  notReversal : entry.kind ≠ .reversal
  dated : entry.bookingDate = item.bookingDate
  payable : item.kind = .payable
  debtor : categoryOf books item.accountId = some .debtor
  onLine : ∃ line ∈ entry.lines, line.accountId = item.accountId
  within : item.amount ≤ creditOn item.accountId entry.lines - debitOn item.accountId entry.lines
  alone : ∀ other ∈ books.openItems,
    ¬ (other.journalEntryId = item.journalEntryId ∧ other.accountId = item.accountId)

/-- One effect on the books. -/
inductive BookStep (books : Books) : Books → Prop
  | ledger (next : Books) (step : LedgerStep books next) : BookStep books next
  | flag (itemId : OpenItemId) (item : OpenItem) (effectiveOn : Date)
      (found : books.openItems[itemId]? = some item) :
      BookStep books (WriteOffs.flagItem books itemId item effectiveOn)
  | credit (item : OpenItem) (entry : JournalEntry) (credits : Credits books item entry) :
      BookStep books { books with openItems := books.openItems ++ [item] }

/-- Several effects of one request. -/
abbrev BookSteps (books next : Books) : Prop := Relation.ReflTransGen BookStep books next

private theorem found_flagged {id : OpenItemId} (found : books.openItems[itemId]? = some item)
    (isNew : (books.openItems.set itemId (WriteOffs.flagged item effectiveOn))[id]? = some row) :
    ∃ old, books.openItems[id]? = some old ∧ old.journalEntryId = row.journalEntryId ∧
      old.bookingDate = row.bookingDate ∧ old.amount = row.amount := by
  rcases (found_set found).mp isNew with ⟨rfl, rfl⟩ | ⟨-, kept⟩
  · exact ⟨item, found, rfl, rfl, rfl⟩
  · exact ⟨row, kept, rfl, rfl, rfl⟩

private theorem flag_linked (linked : books.Linked) (found : books.openItems[itemId]? = some item) :
    (WriteOffs.flagItem books itemId item effectiveOn).Linked := by
  constructor
  · exact fun foundEntry => (linked.sound foundEntry).congr rfl rfl
  · exact linked.draftOpen
  · exact linked.original
  · exact linked.reversal
  · exact linked.reversed
  · intro row member
    obtain ⟨id, isNew⟩ := mem_iff_getElem?.mp member
    obtain ⟨old, foundOld, sameEntry, sameDate, -⟩ := found_flagged found isNew
    rw [← sameEntry, ← sameDate]
    exact linked.item (mem_of_getElem? foundOld)
  · intro row member
    rw [WriteOffs.flagItem, length_set]
    exact linked.settlement member

private theorem flag_sound (sound : books.Sound) (found : books.openItems[itemId]? = some item) :
    (WriteOffs.flagItem books itemId item effectiveOn).Sound := by
  constructor
  · exact flag_linked sound.linked found
  · exact sound.gapless
  · intro id row isNew asOf
    obtain ⟨old, foundOld, sameEntry, -, sameAmount⟩ := found_flagged found isNew
    have split := sound.split id old foundOld asOf
    rw [closedAmount, sameEntry, sameAmount] at split
    exact split
  · intro id row isNew
    obtain ⟨old, foundOld, -, -, sameAmount⟩ := found_flagged found isNew
    rw [← sameAmount]
    exact sound.notOversettled id old foundOld

private theorem credit_linked (linked : books.Linked) (credits : Credits books item entry) :
    ({ books with openItems := books.openItems ++ [item] } : Books).Linked := by
  constructor
  · exact fun foundEntry => (linked.sound foundEntry).congr rfl rfl
  · exact linked.draftOpen
  · exact linked.original
  · exact linked.reversal
  · exact linked.reversed
  · intro row member
    rcases mem_append.mp member with old | added
    · exact linked.item old
    · obtain rfl := mem_singleton.mp added
      exact ⟨entry, credits.found, credits.posted, credits.dated, credits.notReversal⟩
  · intro row member
    obtain ⟨inRange, facts⟩ := linked.settlement member
    refine ⟨?_, facts⟩
    rw [length_append]
    exact Nat.lt_add_right _ inRange

private theorem credit_sound (sound : books.Sound) (credits : Credits books item entry) :
    ({ books with openItems := books.openItems ++ [item] } : Books).Sound := by
  constructor
  · exact credit_linked sound.linked credits
  · exact sound.gapless
  · have noneAdded : ({ books with openItems := books.openItems ++ [item] } : Books).settlements =
        books.settlements ++ [] := (append_nil _).symm
    refine split_of_added sound.linked sound.split (fun _ _ same _ => same) rfl noneAdded ?_ ?_
    · intro row added asOf
      obtain rfl := mem_singleton.mp added
      rintro ⟨origin, isOrigin, reversedById, reversed, -⟩
      obtain rfl : entry = origin := by simpa [credits.found] using isOrigin
      simp [credits.unreversed] at reversed
    · simp
  · intro id row isRow
    rcases found_append_cases isRow with old | ⟨beyond, -⟩
    · exact sound.notOversettled id row old
    · change settled books id none ≤ row.amount
      rw [settled_created sound.linked beyond]
      exact row.amountPositive.le

theorem BookStep.sound (step : BookStep books next) (sound : books.Sound) : next.Sound := by
  cases step with
  | ledger next step => exact step.sound sound
  | flag itemId item effectiveOn found => exact flag_sound sound found
  | credit item entry credits => exact credit_sound sound credits

theorem BookSteps.sound (steps : BookSteps books next) (sound : books.Sound) : next.Sound := by
  induction steps with
  | refl => exact sound
  | tail _ step ih => exact step.sound ih

theorem WriteOffs.remaining_ok (answered : remaining books itemId asOf = .ok rest) :
    ∃ item, books.openItems[itemId]? = some item ∧ rest = item.amount - settled books itemId asOf := by
  simp only [remaining, bind_ok, orRefuse_ok, pure_ok] at answered
  obtain ⟨item, found, same⟩ := answered
  exact ⟨item, found, same.symm⟩

/-- What an accepted decision did: an approval flags the item, a rejection leaves the books. -/
theorem WriteOffs.decide_ok {db next : Db}
    (decided : WriteOffs.decide db writeOffId decision note userId gateOpen = .ok next) :
    ∃ row, db.writeOffs[writeOffId]? = some row ∧ row.status = .proposed ∧
      ((decision = .reject ∧ next = { db with
          writeOffs := db.writeOffs.set writeOffId
            { row with status := .rejected, decidedBy := some userId, decisionNote := note } }) ∨
        (decision = .approve ∧ ∃ item, db.books.openItems[row.openItemId]? = some item ∧
          next = { db with
            books := flagItem db.books row.openItemId item row.effectiveOn
            writeOffs := db.writeOffs.set writeOffId
              { row with status := .approved, decidedBy := some userId, decisionNote := note } })) := by
  simp only [WriteOffs.decide, bind_ok, exists_unit, require_ok, orRefuse_ok] at decided
  obtain ⟨row, foundRow, -, -, proposed, item, foundItem, decided⟩ := decided
  refine ⟨row, foundRow, proposed, ?_⟩
  cases decision with
  | reject => exact Or.inl ⟨rfl, (pure_ok.mp decided).symm⟩
  | approve =>
    simp only [approve, bind_ok, exists_unit, require_ok, pure_ok] at decided
    obtain ⟨-, -, current, -, -, -, same⟩ := decided
    exact Or.inr ⟨rfl, item, foundItem, same.symm⟩

theorem WriteOffs.readProposal_ok (read : readProposal db openItemId effectiveOn reason documentId userId today = .ok row) :
    row.openItemId = openItemId ∧ row.status = .proposed ∧ ∃ item, db.books.openItems[openItemId]? = some item ∧
      item.writtenOff = false ∧ item.kind = .receivable ∧
      ∀ other ∈ db.writeOffs, ¬ (other.openItemId = openItemId ∧
        other.status ∈ [WriteOffStatus.proposed, .approved]) := by
  simp only [readProposal, bind_ok, exists_unit, require_ok, orRefuse_ok] at read
  obtain ⟨item, found, -, -, -, kind, open', noOther, rest, -, read⟩ := read
  split at read
  · simp only [bind_ok, exists_unit, require_ok, pure_ok] at read
    obtain ⟨-, rfl⟩ := read
    exact ⟨rfl, rfl, item, found, open', kind, noOther⟩
  · cases read

theorem WriteOffs.propose_ok {db next : Db}
    (proposed : WriteOffs.propose db openItemId effectiveOn reason documentId userId today = .ok next) :
    ∃ row, readProposal db openItemId effectiveOn reason documentId userId today = .ok row ∧
      next = { db with writeOffs := db.writeOffs ++ [row] } := by
  simp only [propose_eq, bind_ok, pure_ok] at proposed
  obtain ⟨row, read, rfl⟩ := proposed
  exact ⟨row, read, rfl⟩

/-- What the booking of a plan did: it drafts an entry that settles the planned item and posts it. -/
structure WriteOffs.PlanBooked (books : Books) (writeOffId : WriteOffId) (plan : Plan) (entryId : EntryId)
    (drafted : Books) (entry : JournalEntry) (ledger : Ledger) (posting : Posting)
    (rows : List OpenItemSettlement) : Prop where
  place : entryId = books.entries.length
  drafts : drafted = { books with entries := books.entries ++ [entry] }
  quiet : QuietStep books drafted
  kind : entry.kind = .custom
  sameLedger : entry.ledgerId = plan.item.ledgerId
  key : entry.idempotencyKey = some (idempotencyKey writeOffId)
  planned : entry.settlementPlan = [{ openItemId := plan.row.openItemId, amount := plan.row.amount }]
  posts : Posts drafted entryId entry ledger posting rows

theorem WriteOffs.bookPlan_ok (booked : bookPlan books writeOffId plan userId = .ok (entryId, next)) :
    ∃ drafted entry ledger posting rows, WriteOffs.PlanBooked books writeOffId plan entryId drafted entry ledger posting rows ∧
      next = drafted.posted entryId entry posting rows := by
  simp only [bookPlan, bind_ok, ledgerOf_ok, pure_ok, Prod.mk.injEq] at booked
  obtain ⟨-, -, ⟨place, drafted⟩, written, books, applied, rfl, rfl⟩ := booked
  have notReversal : (postingHeader plan.row writeOffId plan.item userId).kind ≠ .reversal := by
    change EntryKind.custom ≠ .reversal
    decide
  have quiet := draft_step notReversal written
  obtain ⟨entry, draft, ⟨-, rfl, rfl⟩ | ⟨-, absurd', -⟩⟩ := writeDraft_ok written
  · obtain ⟨found, isFound, -, ⟨already, -⟩ | ⟨ledger, posting, rows, posts, rfl⟩⟩ := post_ok applied
    · obtain rfl : entry = found := Option.some.inj ((found_append_one.mpr (Or.inr ⟨rfl, rfl⟩)).symm.trans isFound)
      exact absurd draft.draft already
    · obtain rfl : entry = found := Option.some.inj ((found_append_one.mpr (Or.inr ⟨rfl, rfl⟩)).symm.trans isFound)
      have kind : entry.kind = .custom := congrArg EntryHeader.kind draft.header
      have key : entry.idempotencyKey = some (idempotencyKey writeOffId) :=
        congrArg EntryHeader.idempotencyKey draft.header
      exact ⟨_, entry, ledger, posting, rows, ⟨rfl, rfl, quiet, kind, draft.ledger, key, draft.planned, posts⟩, rfl⟩
  · cases absurd'

/-- A posting finds the entry of an earlier request, or plans to book the rest of the item. -/
theorem WriteOffs.readPosting_ok (read : readPosting db writeOffId expectedAmount counterId gateOpen = .ok answer) :
    (∃ existing, postingEntry db.books writeOffId = some existing ∧ answer = none) ∨
    ∃ plan, answer = some plan ∧ postingEntry db.books writeOffId = none ∧
      db.writeOffs[writeOffId]? = some plan.row ∧ plan.row.status = .approved ∧
      db.books.openItems[plan.row.openItemId]? = some plan.item ∧
      plan.item.amount - settled db.books plan.row.openItemId none = plan.row.amount := by
  simp only [readPosting, bind_ok, exists_unit, require_ok, orRefuse_ok] at read
  obtain ⟨-, row, foundRow, read⟩ := read
  split at read
  · rename_i existing isExisting
    exact Or.inl ⟨existing, isExisting, (pure_ok.mp read).symm⟩
  · rename_i noEntry
    simp only [bind_ok, exists_unit, require_ok, orRefuse_ok, pure_ok] at read
    obtain ⟨approved, -, item, foundItem, counter, -, -, current, isCurrent, same, rfl⟩ := read
    obtain ⟨other, foundOther, rfl⟩ := remaining_ok isCurrent
    obtain rfl : item = other := Option.mem_unique foundItem foundOther
    exact Or.inr ⟨_, rfl, noEntry, foundRow, approved, foundItem, same⟩

theorem WriteOffs.postWriteOff_ok {db next : Db}
    (posted : WriteOffs.postWriteOff db writeOffId amount counterId userId gateOpen = .ok (entryId, next)) :
    next = db ∨ ∃ (row : OpenItemWriteOff) (item : OpenItem) (entry : JournalEntry) (drafted : Books)
      (ledger : Ledger) (posting : Posting) (rows : List OpenItemSettlement) (place : EntryId),
      db.writeOffs[writeOffId]? = some row ∧ row.status = .approved ∧
      db.books.openItems[row.openItemId]? = some item ∧
      item.amount - settled db.books row.openItemId none = row.amount ∧
      entry.kind = .custom ∧ entry.ledgerId = item.ledgerId ∧
      entry.settlementPlan = [{ openItemId := row.openItemId, amount := row.amount }] ∧
      QuietStep db.books drafted ∧ drafted.ledgers = db.books.ledgers ∧
      drafted.accounts = db.books.accounts ∧
      Posts drafted place entry ledger posting rows ∧
      next = { db with books := drafted.posted place entry posting rows } := by
  have served : _ = Except.ok next := postWriteOff_eq.symm.trans (by rw [posted]; rfl)
  simp only [bind_ok] at served
  obtain ⟨answer, read, served⟩ := served
  rcases readPosting_ok read with ⟨existing, -, rfl⟩ | ⟨plan, rfl, -, foundRow, approved, foundItem, same⟩
  · exact Or.inl (pure_ok.mp served).symm
  · simp only [bind_ok, pure_ok] at served
    obtain ⟨⟨place, after⟩, booked, rfl⟩ := served
    obtain ⟨drafted, entry, ledger, posting, rows, isBooked, rfl⟩ := bookPlan_ok booked
    have ledgers : drafted.ledgers = db.books.ledgers := by rw [isBooked.drafts]
    have accounts : drafted.accounts = db.books.accounts := by rw [isBooked.drafts]
    exact Or.inr ⟨plan.row, plan.item, entry, drafted, ledger, posting, rows, place, foundRow, approved, foundItem,
      same, isBooked.kind, isBooked.sameLedger, isBooked.planned, isBooked.quiet, ledgers, accounts, isBooked.posts, rfl⟩

theorem WriteOffs.reverseWriteOffPosting_ok {db next : Db}
    (reversed : WriteOffs.reverseWriteOffPosting db writeOffId reason bookingDate userId gateOpen today =
      .ok next) :
    next = db ∨ ∃ entryId entry ledger reversal posting orders,
      (postingEntry db.books writeOffId).map Prod.snd = some entryId ∧
      Reverses db.books entryId entry ledger (bookingDate.getD today) reversal posting ∧
      next = cancelOrders { db with
        books := db.books.reversed entryId entry (bookingDate.getD today) reversal posting } orders := by
  simp only [WriteOffs.reverseWriteOffPosting, bind_ok, exists_unit, require_ok, orRefuse_ok] at reversed
  obtain ⟨-, -, -, reversed⟩ := reversed
  split at reversed
  · cases reversed
  · rename_i isPosting
    split at reversed
    · exact Or.inl (pure_ok.mp reversed).symm
    · simp only [bind_ok, exists_unit, require_ok, pure_ok] at reversed
      obtain ⟨-, ⟨reversalId, result⟩, applied, rfl⟩ := reversed
      obtain ⟨entry, ledger, reversal, posting, orders, reverses, -, -, -, rfl⟩ := reverse_ok applied
      exact Or.inr ⟨_, entry, ledger, reversal, posting, orders, by rw [isPosting]; rfl, reverses, rfl⟩

theorem writeOffStep_frame {db next : Db} (accepted : writeOffStep db call = .ok next) :
    next = { db with books := next.books, orders := next.orders, approvals := next.approvals,
                     settings := next.settings, writeOffs := next.writeOffs } := by
  cases call with
  | journal call =>
    have frame := journalStep_frame accepted
    rw [frame]
  | propose openItemId effectiveOn reason documentId userId today =>
    obtain ⟨row, -, rfl⟩ := WriteOffs.propose_ok accepted
    rfl
  | decide writeOffId decision note userId gateOpen =>
    obtain ⟨row, -, -, ⟨-, rfl⟩ | ⟨-, item, -, rfl⟩⟩ := WriteOffs.decide_ok accepted
    · rfl
    · rfl
  | post writeOffId amount counterId userId gateOpen =>
    simp only [writeOffStep, bind_ok, pure_ok] at accepted
    obtain ⟨⟨entryId, result⟩, posted, rfl⟩ := accepted
    rcases WriteOffs.postWriteOff_ok posted with rfl | ⟨row, item, entry, drafted, ledger, posting, rows, place, -, -,
      -, -, -, -, -, -, -, -, -, rfl⟩
    · rfl
    · rfl
  | reversePosting writeOffId reason bookingDate userId gateOpen today =>
    rcases WriteOffs.reverseWriteOffPosting_ok accepted with rfl | ⟨entryId, entry, ledger, reversal, posting,
      orders, -, reverses, rfl⟩
    · rfl
    · rfl
  | putSettings settings =>
    obtain rfl := pure_ok.mp accepted
    rfl

/-- What an accepted request did to the books: services ran, or one item was flagged. -/
inductive WriteOffEffect (db next : Db) : WriteOffCall → Prop
  | services (call : WriteOffCall) (steps : Relation.ReflTransGen LedgerStep db.books next.books) :
      WriteOffEffect db next call
  | flag (writeOffId : WriteOffId) (note : Option String) (userId : UserId) (gateOpen : Bool)
      (row : OpenItemWriteOff) (item : OpenItem) (found : db.writeOffs[writeOffId]? = some row)
      (proposed : row.status = .proposed) (foundItem : db.books.openItems[row.openItemId]? = some item)
      (after : next.books = WriteOffs.flagItem db.books row.openItemId item row.effectiveOn) :
      WriteOffEffect db next (.decide writeOffId .approve note userId gateOpen)

theorem writeOffStep_effect {db next : Db} (sound : db.books.Sound)
    (accepted : writeOffStep db call = .ok next) : WriteOffEffect db next call := by
  cases call with
  | journal call =>
    rcases journalStep_step accepted sound.linked.draftOpen with same | step
    · exact .services _ (by rw [same])
    · exact .services _ (.single step)
  | propose openItemId effectiveOn reason documentId userId today =>
    obtain ⟨row, -, rfl⟩ := WriteOffs.propose_ok accepted
    exact .services _ .refl
  | decide writeOffId decision note userId gateOpen =>
    obtain ⟨row, found, proposed, ⟨-, rfl⟩ | ⟨rfl, item, foundItem, rfl⟩⟩ := WriteOffs.decide_ok accepted
    · exact .services _ .refl
    · exact .flag writeOffId note userId gateOpen row item found proposed foundItem rfl
  | post writeOffId amount counterId userId gateOpen =>
    simp only [writeOffStep, bind_ok, pure_ok] at accepted
    obtain ⟨⟨entryId, result⟩, posted, rfl⟩ := accepted
    rcases WriteOffs.postWriteOff_ok posted with same | ⟨row, item, entry, drafted, ledger, posting, rows, place, -, -,
      -, -, -, -, -, quiet, -, -, posts, rfl⟩
    · exact .services _ (by rw [same])
    · have drafts := Relation.ReflTransGen.single quiet.step
      exact .services _ (drafts.tail (.post place entry ledger posting rows posts))
  | reversePosting writeOffId reason bookingDate userId gateOpen today =>
    rcases WriteOffs.reverseWriteOffPosting_ok accepted with same | ⟨entryId, entry, ledger, reversal, posting,
      orders, -, reverses, rfl⟩
    · exact .services _ (by rw [same])
    · exact .services _ (.single (.reverse entryId entry ledger _ reversal posting reverses))
  | putSettings settings =>
    obtain rfl := pure_ok.mp accepted
    exact .services _ .refl

theorem WriteOffEffect.steps {db next : Db} (effect : WriteOffEffect db next call) :
    BookSteps db.books next.books := by
  cases effect with
  | services call steps => exact Relation.ReflTransGen.mono (fun _ _ step => .ledger _ step) _ _ steps
  | flag writeOffId note userId gateOpen row item found proposed foundItem after =>
    rw [after]
    exact .single (.flag row.openItemId item row.effectiveOn foundItem)

theorem writeOffStep_sound (db : Db) (call : WriteOffCall) (next : Db) (sound : db.books.Sound)
    (accepted : writeOffStep db call = .ok next) : next.books.Sound :=
  (writeOffStep_effect sound accepted).steps.sound sound

end Mhvp.Accounting
