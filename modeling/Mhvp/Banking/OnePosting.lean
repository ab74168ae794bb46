import Mhvp.Banking.BookingWrites

namespace Mhvp.Banking.Matching

open Core Accounting Lib.Locking Lib.Table Lib.Transition Option

variable {db next : Db} {books later : Books} {tx other : BankTransaction} {booking : Booking}
  {txId partnerId : BankTransactionId} {bankId : BankAccountId}

/-- An entry that names a movement was there before, and was at most reversed. -/
def OldPostings (books later : Books) : Prop :=
  ∀ {entryId : EntryId} {entry : JournalEntry} {txId : BankTransactionId}, later.entries[entryId]? = some entry →
    entry.bankTransactionId = some txId → ∃ before, books.entries[entryId]? = some before ∧ before.SameBut entry

theorem draft_oldPostings (unnamed : header.bankTransactionId = none)
    (written : writeDraft books ledgerId target header reverses lines plan = .ok (entryId, later)) :
    OldPostings books later := by
  intro id entry txId found isTx
  obtain ⟨draft, row, ⟨-, -, rfl⟩ | ⟨old, -, foundOld, -, -, rfl⟩⟩ := writeDraft_ok written
  · rcases found_append_one.mp found with old | ⟨-, rfl⟩
    · exact ⟨entry, old, .refl entry⟩
    · rw [show entry.bankTransactionId = none from
        (congrArg EntryHeader.bankTransactionId row.header).trans unnamed] at isTx
      cases isTx
  · rcases (found_set foundOld).mp found with ⟨-, rfl⟩ | ⟨-, kept⟩
    · rw [show entry.bankTransactionId = none from
        (congrArg EntryHeader.bankTransactionId row.header).trans unnamed] at isTx
      cases isTx
    · exact ⟨entry, kept, .refl entry⟩

theorem reversal_unnamed
    (applied : reverse db ledgerId entryId userId reason bookingDate reasonCode = .ok (reversalId, next))
    (found : next.books.entries[db.books.entries.length]? = some reversal) : reversal.bankTransactionId = none := by
  simp only [reverse, bind_ok, exists_unit, require_ok, pure_ok, Prod.mk.injEq] at applied
  obtain ⟨ledger, -, entry, -, posting, -, -, -, -, -, -, orders, -, ⟨place, reversed⟩, booked, -, rfl⟩ := applied
  simp only [bookReversal, bind_ok, pure_ok, Prod.mk.injEq] at booked
  obtain ⟨⟨draftId, drafted⟩, written, -, rfl⟩ := booked
  obtain ⟨draft, row, ⟨-, rfl, rfl⟩ | ⟨old, isTarget, -⟩⟩ := writeDraft_ok written
  · have unnamed : draft.bankTransactionId = none := congrArg EntryHeader.bankTransactionId row.header
    rw [cancelOrders_books] at found
    dsimp only at found
    rw [List.getElem?_modify, List.getElem?_modify, List.getElem?_concat_length] at found
    obtain ⟨numbered, isNumbered, rfl⟩ := map_eq_some_iff.mp found
    obtain ⟨last, isLast, rfl⟩ := map_eq_some_iff.mp isNumbered
    cases isLast
    rw [if_pos rfl]
    split <;> exact unnamed
  · cases isTarget

theorem journal_oldPostings (booked : Booked db) (beside : BesideBank call)
    (accepted : journalStep db call = .ok next) : OldPostings db.books next.books := by
  cases call with
  | createEntry ledgerId body userId =>
    simp only [journalStep, createEntry, bind_ok, exists_unit, require_ok, pure_ok] at accepted
    obtain ⟨books, ⟨-, -, -, written⟩, rfl⟩ := accepted
    split at written
    · obtain rfl := pure_ok.mp written
      exact fun found _ => ⟨_, found, .refl _⟩
    · simp only [bind_ok, pure_ok] at written
      obtain ⟨⟨entryId, later⟩, isDraft, rfl⟩ := written
      exact draft_oldPostings rfl isDraft
  | updateEntry ledgerId entryId body =>
    simp only [journalStep, updateEntry, bind_ok, exists_unit, require_ok, pure_ok] at accepted
    obtain ⟨books, ⟨-, -, entry, -, -, -, ⟨place, later⟩, isDraft, rfl⟩, rfl⟩ := accepted
    exact draft_oldPostings rfl isDraft
  | writeDraft ledgerId target draft lines plan =>
    simp only [journalStep, bind_ok, pure_ok] at accepted
    obtain ⟨⟨entryId, later⟩, isDraft, rfl⟩ := accepted
    exact draft_oldPostings beside isDraft
  | approveEntry ledgerId entryId userId isPlatformAdmin =>
    simp only [journalStep, approveEntry, bind_ok, entryOf_ok, exists_unit, require_ok, pure_ok] at accepted
    obtain ⟨books, ⟨-, -, old, ⟨foundOld, -⟩, draft, -, rfl⟩, rfl⟩ := accepted
    intro id entry txId found isTx
    rcases (found_set foundOld).mp found with ⟨-, rfl⟩ | ⟨-, kept⟩
    · exact absurd draft (booked.posting foundOld isTx).1
    · exact ⟨entry, kept, .refl entry⟩
  | postEntry ledgerId entryId userId =>
    simp only [journalStep, bind_ok, pure_ok] at accepted
    obtain ⟨books, posted, rfl⟩ := accepted
    obtain ⟨old, foundOld, -, ⟨-, rfl⟩ | ⟨ledger, posting, rows, posts, rfl⟩⟩ := post_ok posted
    · exact fun found _ => ⟨_, found, .refl _⟩
    · intro id entry txId found isTx
      rcases (found_set foundOld).mp found with ⟨-, rfl⟩ | ⟨-, kept⟩
      · exact absurd posts.draft (booked.posting foundOld isTx).1
      · exact ⟨entry, kept, .refl entry⟩
  | reverseEntry ledgerId entryId userId reason bookingDate reasonCode today =>
    simp only [journalStep, reverseEntry, bind_ok, pure_ok] at accepted
    obtain ⟨⟨reversalId, result⟩, ⟨row, -, reversed⟩, rfl⟩ := accepted
    have unnamed : ∀ last, result.books.entries[db.books.entries.length]? = some last →
        last.bankTransactionId = none := fun last isLast => reversal_unnamed reversed isLast
    obtain ⟨old, ledger, reversal, posting, orders, reverses, -, -, -, rfl⟩ := reverse_ok reversed
    intro id entry txId found isTx
    rcases found_append_one.mp found with kept | ⟨isLast, rfl⟩
    · rcases (found_set reverses.found).mp kept with ⟨rfl, rfl⟩ | ⟨-, same⟩
      · refine ⟨old, reverses.found, rfl, ?_⟩
        intro already isReversed
        rw [reverses.unreversed] at isReversed
        cases isReversed
      · exact ⟨entry, same, .refl entry⟩
    · rw [List.length_set] at isLast
      rw [isLast] at found
      rw [unnamed _ found] at isTx
      cases isTx
  | lockPeriod ledgerId last =>
    simp only [journalStep, bind_ok, pure_ok] at accepted
    obtain ⟨⟨count, later⟩, locked, rfl⟩ := accepted
    obtain ⟨ledger, -, -, rfl⟩ := lockPeriod_ok locked
    exact fun found _ => ⟨_, found, .refl _⟩
  | createAccount account =>
    simp only [journalStep, createAccount, bind_ok, exists_unit, require_ok, pure_ok] at accepted
    obtain ⟨books, ⟨-, -, -, rfl⟩, rfl⟩ := accepted
    exact fun found _ => ⟨_, found, .refl _⟩
  | setAccountActive accountId active =>
    simp only [journalStep, setAccountActive, bind_ok, orRefuse_ok, pure_ok] at accepted
    obtain ⟨books, ⟨account, -, rfl⟩, rfl⟩ := accepted
    exact fun found _ => ⟨_, found, .refl _⟩

theorem LinkedTo.before {entryId : EntryId} {entry : JournalEntry} (linkedTo : LinkedTo later accountId bankId) (linked : books.Linked)
    (kept : BooksKept books later) (found : books.entries[entryId]? = some entry)
    (moves : movesAccount entry accountId = true) : LinkedTo books accountId bankId := by
  obtain ⟨line, isLine, isAccount⟩ := List.any_eq_true.mp moves
  obtain ⟨account, foundBefore, -⟩ := (linked.sound found).accounts line isLine
  rw [of_decide_eq_true isAccount] at foundBefore
  obtain ⟨active, foundLater⟩ := kept.accounts foundBefore
  obtain ⟨same, foundSame, isLink⟩ := linkedTo
  obtain rfl := mem_unique foundLater foundSame
  exact ⟨account, foundBefore, isLink⟩

/-- Requests that neither name movements in new entries nor write what a movement carries. -/
theorem Booked.keep (booked : Booked db) (status : BankTransactionId → BankTransaction → TransactionStatus)
    (linked : next.books.Linked) (kept : BooksKept db.books next.books) (old : OldPostings db.books next.books)
    (rows : ∀ id : BankTransactionId, next.bankTransactions[id]? =
      (db.bankTransactions[id]?).map fun tx => { tx with status := status id tx }) : Booked next := by
  have effectiveBefore : ∀ {entryId : EntryId} {entry : JournalEntry} {txId}, Effective next.books entryId entry →
      entry.bankTransactionId = some txId → ∃ before, Effective db.books entryId before ∧
        before.bankTransactionId = some txId ∧ before.lines = entry.lines := by
    intro entryId entry txId effective isTx
    obtain ⟨before, found, same⟩ := old effective.found isTx
    refine ⟨before, ⟨found, same.isPosted.mp effective.posted, ?_⟩, ?_, (sameBut_lines same).symm⟩
    · cases isReversed : before.reversedById with
      | none => rfl
      | some reversal =>
        have still := same.2 reversal isReversed
        rw [effective.unreversed] at still
        cases still
    · rw [same.1] at isTx
      exact isTx
  constructor
  · exact linked
  · intro id row found entryId isEntry
    rw [rows] at found
    obtain ⟨tx, foundTx, rfl⟩ := map_eq_some_iff.mp found
    obtain ⟨entry, foundEntry, posted⟩ := booked.carried foundTx entryId isEntry
    obtain ⟨same, foundSame, isSame⟩ := kept.entries foundEntry posted
    exact ⟨same, foundSame, isSame.isPosted.mpr posted⟩
  · intro id otherId row found isPartner
    rw [rows] at found
    obtain ⟨tx, foundTx, rfl⟩ := map_eq_some_iff.mp found
    obtain ⟨other, foundOther, differs⟩ := booked.otherBank foundTx isPartner
    refine ⟨{ other with status := status otherId other }, ?_, differs⟩
    rw [rows, foundOther]
    rfl
  · intro entryId entry id found isTx
    obtain ⟨before, foundBefore, same⟩ := old found isTx
    have named : before.bankTransactionId = some id := by
      rw [same.1] at isTx
      exact isTx
    obtain ⟨posted, tx, foundTx, first, carries⟩ := booked.posting foundBefore named
    refine ⟨same.isPosted.mpr posted, { tx with status := status id tx }, ?_, ?_, ?_⟩
    · rw [rows, foundTx]
      rfl
    · rw [sameBut_lines same]
      exact first.kept kept
    · intro unreversed
      apply carries
      cases isReversed : before.reversedById with
      | none => rfl
      | some reversal =>
        have still := same.2 reversal isReversed
        rw [unreversed] at still
        cases still
  · intro id otherId row half one two accountId halves moved movedOther
    have foundRow := halves.found
    have foundHalf := halves.foundOther
    rw [rows] at foundRow foundHalf
    obtain ⟨tx, foundTx, rfl⟩ := map_eq_some_iff.mp foundRow
    obtain ⟨other, foundOther, rfl⟩ := map_eq_some_iff.mp foundHalf
    obtain ⟨firstId, first⟩ := halves.first
    obtain ⟨secondId, second⟩ := halves.second
    obtain ⟨firstBefore, effectiveFirst, firstTx, firstLines⟩ := effectiveBefore first halves.ofFirst
    obtain ⟨secondBefore, effectiveSecond, secondTx, secondLines⟩ := effectiveBefore second halves.ofSecond
    have movedBefore : movesAccount firstBefore accountId = true := by
      rw [movesAccount, firstLines]
      exact moved
    have movedOtherBefore : movesAccount secondBefore accountId = true := by
      rw [movesAccount, secondLines]
      exact movedOther
    have apart := booked.disjoint ⟨foundTx, halves.partner, foundOther, halves.back, ⟨firstId, effectiveFirst⟩, firstTx,
      ⟨secondId, effectiveSecond⟩, secondTx⟩ movedBefore movedOtherBefore
    constructor
    · intro linkedTo
      exact apart.1 (LinkedTo.before linkedTo booked.linked kept effectiveFirst.found movedBefore)
    · intro linkedTo
      exact apart.2 (LinkedTo.before linkedTo booked.linked kept effectiveFirst.found movedBefore)

/-- A new movement on another account than its partner. -/
structure NewMovement (db : Db) (row : BankTransaction) (partner : Option BankTransactionId) : Prop where
  unbooked : row.journalEntryId = none
  unpaired : row.transferPairId = none
  otherBank : ∀ partnerId, partner = some partnerId → ∃ other, db.bankTransactions[partnerId]? = some other ∧
    other.propertyBankAccountId ≠ row.propertyBankAccountId

/-- The rows after a new one is linked: the old rows, the partner with its link, and the new row. -/
theorem link_cases (known : ∀ partnerId, partner = some partnerId → partnerId < rows.length)
    (isRow : (link rows row partner)[txId]? = some found) :
    (∃ old, rows[txId]? = some old ∧
        found = if partner = some txId then { old with transferPairId := some rows.length } else old) ∨
      txId = rows.length ∧ found = { row with transferPairId := partner.or row.transferPairId } := by
  unfold link at isRow
  cases partner with
  | none =>
    rcases found_append_one.mp isRow with old | ⟨isLast, rfl⟩
    · exact Or.inl ⟨found, old, by simp⟩
    · exact Or.inr ⟨isLast, by simp⟩
  | some partnerId =>
    rcases found_append_one.mp isRow with old | ⟨isLast, rfl⟩
    · rw [List.getElem?_modify] at old
      obtain ⟨before, foundBefore, rfl⟩ := map_eq_some_iff.mp old
      refine Or.inl ⟨before, foundBefore, ?_⟩
      by_cases same : partnerId = txId
      · rw [if_pos same, if_pos (congrArg some same)]
      · rw [if_neg same, if_neg fun isSome => same (some.inj isSome)]
    · rw [List.length_modify] at isLast
      exact Or.inr ⟨isLast, by simp⟩

theorem link_old (partner : Option BankTransactionId)
    (found : rows[txId]? = some old) : (link rows row partner)[txId]? =
      some (if partner = some txId then { old with transferPairId := some rows.length } else old) := by
  unfold link
  cases partner with
  | none => exact found_append found
  | some partnerId =>
    apply found_append
    rw [List.getElem?_modify, found]
    by_cases same : partnerId = txId
    · simp [same]
    · simp [same]

theorem link_new (rows : List BankTransaction) (partner : Option BankTransactionId) :
    (link rows row partner)[rows.length]? = some { row with transferPairId := partner.or row.transferPairId } := by
  unfold link
  cases partner with
  | none => simp
  | some partnerId => exact found_append_one.mpr (Or.inr ⟨by simp, by simp⟩)

theorem NewMovement.committed (new : NewMovement db row partner) (booked : Booked db) :
    Booked { db with bankTransactions := link db.bankTransactions row partner } := by
  have known : ∀ partnerId, partner = some partnerId → partnerId < db.bankTransactions.length := by
    intro partnerId isPartner
    obtain ⟨other, found, -⟩ := new.otherBank partnerId isPartner
    exact found_lt found
  constructor
  · exact booked.linked
  · intro id found isRow entryId isEntry
    rcases link_cases known isRow with ⟨old, foundOld, rfl⟩ | ⟨-, rfl⟩
    · apply booked.carried foundOld entryId
      split at isEntry <;> exact isEntry
    · have carried : none = some entryId := new.unbooked.symm.trans isEntry
      cases carried
  · intro id otherId found isRow isPartner
    rcases link_cases known isRow with ⟨old, foundOld, rfl⟩ | ⟨-, rfl⟩
    · by_cases chosen : partner = some id
      · rw [if_pos chosen] at isPartner ⊢
        obtain rfl : db.bankTransactions.length = otherId := some.inj isPartner
        obtain ⟨other, foundOther, differs⟩ := new.otherBank id chosen
        obtain rfl : old = other := mem_unique foundOld foundOther
        exact ⟨_, link_new db.bankTransactions partner, differs.symm⟩
      · rw [if_neg chosen] at isPartner ⊢
        obtain ⟨other, foundOther, differs⟩ := booked.otherBank foundOld isPartner
        refine ⟨_, link_old partner foundOther, ?_⟩
        split <;> exact differs
    · cases chosen : partner with
      | none =>
        rw [chosen] at isPartner
        have linked : none = some otherId := new.unpaired.symm.trans isPartner
        cases linked
      | some partnerId =>
        rw [chosen] at isPartner
        obtain rfl : partnerId = otherId := some.inj isPartner
        obtain ⟨other, foundOther, differs⟩ := new.otherBank partnerId chosen
        refine ⟨_, link_old (some partnerId) foundOther, ?_⟩
        split <;> exact differs
  · intro entryId entry id found isTx
    obtain ⟨posted, tx, foundTx, first, carries⟩ := booked.posting found isTx
    refine ⟨posted, _, link_old partner foundTx, ?_⟩
    split <;> exact ⟨first, carries⟩
  · intro id otherId own half one two accountId halves moved movedOther
    obtain ⟨firstId, first⟩ := halves.first
    obtain ⟨secondId, second⟩ := halves.second
    obtain ⟨-, tx, foundTx, -⟩ := booked.posting first.found halves.ofFirst
    obtain ⟨-, other, foundOther, -⟩ := booked.posting second.found halves.ofSecond
    -- both movements have postings, so neither is the new one
    have unlinked : ∀ {place other : BankTransactionId} {old partnerRow found : BankTransaction},
        db.bankTransactions[place]? = some old → db.bankTransactions[other]? = some partnerRow →
        (link db.bankTransactions row partner)[place]? = some found → found.transferPairId = some other → found = old := by
      intro place other old partnerRow found foundOld foundPartner isRow isPartner
      rw [link_old partner foundOld] at isRow
      cases isRow
      by_cases chosen : partner = some place
      · rw [if_pos chosen] at isPartner
        obtain rfl : db.bankTransactions.length = other := some.inj isPartner
        exact absurd (found_lt foundPartner) (lt_irrefl _)
      · rw [if_neg chosen]
    obtain rfl : own = tx := unlinked foundTx foundOther halves.found halves.partner
    obtain rfl : half = other := unlinked foundOther foundTx halves.foundOther halves.back
    exact booked.disjoint ⟨foundTx, halves.partner, foundOther, halves.back, halves.first, halves.ofFirst, halves.second,
      halves.ofSecond⟩ moved movedOther

def ReadyWork (db : Db) : BookingWork → Prop
  | .movement row partner => NewMovement db row partner
  | .booking booking => ∃ tx, Planned db booking tx
  | _ => True

theorem readBooking_ready (booked : Booked db) (reads : readBooking db request = .ok work) : ReadyWork db work := by
  cases request with
  | importMovement accountId raw =>
    simp only [readBooking, bind_ok, orRefuse_ok] at reads
    obtain ⟨account, -, reads⟩ := reads
    split at reads
    · obtain rfl := pure_ok.mp reads
      trivial
    · obtain rfl := pure_ok.mp reads
      refine ⟨rfl, rfl, ?_⟩
      intro partnerId isPartner
      obtain ⟨other, found, candidate⟩ := Imports.transferPartner_ok isPartner
      exact ⟨other, found, candidate.account⟩
  | book txId body clearing userId source =>
    simp only [readBooking, bind_ok, pure_ok] at reads
    obtain ⟨booking, isBooking, rfl⟩ := reads
    exact bookPayment_ok booked isBooking
  | journal call beside =>
    obtain rfl := pure_ok.mp reads
    trivial
  | mark txId status =>
    simp only [readBooking, bind_ok, pure_ok] at reads
    obtain ⟨-, -, rfl⟩ := reads
    trivial

/-- What a write leaves to the others: posted entries, accounts, the bank account of every row and the rows it does not
lock or reach. -/
structure Leaves (db next : Db) (work : BookingWork) : Prop where
  books : BooksKept db.books next.books
  rows : ∀ {id : BankTransactionId} {old : BankTransaction}, db.bankTransactions[id]? = some old →
    ∃ row, next.bankTransactions[id]? = some row ∧ row.propertyBankAccountId = old.propertyBankAccountId ∧
      (id ∉ bookingLocks work → id ∉ bookingReaches db work → row = old)

theorem writeWork_ok (booked : Booked db) (ready : ReadyWork db work) (written : writeWork db work = .ok next) :
    Booked next ∧ Leaves db next work := by
  cases work with
  | known =>
    obtain rfl := pure_ok.mp written
    exact ⟨booked, .refl _, fun found => ⟨_, found, rfl, fun _ _ => rfl⟩⟩
  | movement row partner =>
    simp only [writeWork, bind_ok, exists_unit, require_ok, pure_ok] at written
    obtain ⟨-, rfl⟩ := written
    refine ⟨NewMovement.committed ready booked, .refl _, ?_⟩
    intro id old found
    refine ⟨_, link_old partner found, ?_, ?_⟩
    · split <;> rfl
    · intro _ unreached
      rw [if_neg]
      intro isPartner
      exact unreached (mem_toList.mpr isPartner)
  | booking booking =>
    simp only [writeWork, bind_ok, pure_ok] at written
    obtain ⟨⟨entryId, result⟩, isWritten, rfl⟩ := written
    obtain ⟨tx, planned⟩ := ready
    obtain ⟨⟨entry, wrote⟩, rows⟩ := writeBooking_ok planned.notReversal isWritten
    refine ⟨planned.committed booked isWritten, wrote.kept, ?_⟩
    intro id old found
    refine ⟨if booking.Carries id then bookedWith entryId old else old, ?_, ?_, ?_⟩
    · rw [rows, found]
      rfl
    · split <;> rfl
    · intro unlocked _
      rw [if_neg]
      intro carries
      rcases carries with rfl | ⟨-, isPartner⟩
      · exact unlocked List.mem_cons_self
      · exact unlocked (List.mem_cons_of_mem _ (mem_toList.mpr isPartner))
  | journal call beside =>
    have frame := journalStep_frame written
    have sameRows : next.bankTransactions = db.bankTransactions := by rw [frame]
    have kept : BooksKept db.books next.books ∧ next.books.Linked := by
      rcases journalStep_step written booked.linked.draftOpen with same | step
      · rw [same]
        exact ⟨.refl _, booked.linked⟩
      · exact ⟨LedgerStep.booksKept step, step.linked booked.linked⟩
    refine ⟨?_, kept.1, fun found => ⟨_, sameRows ▸ found, rfl, fun _ _ => rfl⟩⟩
    apply booked.keep (fun _ tx => tx.status) kept.2 kept.1 (journal_oldPostings booked beside written)
    intro id
    rw [sameRows]
    exact map_id'.symm
  | mark txId status =>
    obtain rfl := pure_ok.mp written
    have rows : ∀ id : BankTransactionId, (db.bankTransactions.modify txId fun tx => { tx with status })[id]? =
        (db.bankTransactions[id]?).map fun tx => { tx with status := if txId = id then status else tx.status } := by
      intro id
      rw [List.getElem?_modify]
      apply Option.map_congr
      intro tx _
      split <;> rfl
    refine ⟨booked.keep (fun id tx => if txId = id then status else tx.status) booked.linked (.refl _)
      (fun found _ => ⟨_, found, .refl _⟩) rows, .refl _, ?_⟩
    intro id old found
    refine ⟨{ old with status := if txId = id then status else old.status }, ?_, rfl, ?_⟩
    · rw [rows, found]
      rfl
    · intro unlocked _
      rw [if_neg fun same => unlocked (List.mem_singleton.mpr same.symm)]

abbrev BookingConfig := Config Db BookingWork

theorem ReadyWork.kept {work other : BookingWork} (ready : ReadyWork db other) (booked : Booked db)
    (leaves : Leaves db next work) (free : ∀ id ∈ bookingLocks work, id ∉ bookingLocks other)
    (passes : ∀ id ∈ bookingReaches db work, id ∉ bookingLocks other) : ReadyWork next other := by
  cases other with
  | known | journal | mark => trivial
  | movement row partner =>
    refine ⟨NewMovement.unbooked ready, NewMovement.unpaired ready, ?_⟩
    intro partnerId isPartner
    obtain ⟨old, found, differs⟩ := NewMovement.otherBank ready partnerId isPartner
    obtain ⟨later, foundLater, account, -⟩ := leaves.rows found
    exact ⟨later, foundLater, account ▸ differs⟩
  | booking booking =>
    obtain ⟨tx, planned⟩ := ready
    refine ⟨tx, planned.kept booked.linked leaves.books ?_⟩
    intro id locked row found
    obtain ⟨later, foundLater, -, same⟩ := leaves.rows found
    rw [foundLater, same (fun held => free id held locked) fun reached => passes id reached locked]

theorem interleaving_booked (holds : Protocol.Holds Booked ReadyWork bookingProtocol.toProtocol.Free config)
    (moves : List (Move BookingRequest)) :
    Protocol.Holds Booked ReadyWork bookingProtocol.toProtocol.Free (run bookingProtocol.step config moves) := by
  apply LateProtocol.interleaving_invariant holds
  · intro state request work booked reads
    exact readBooking_ready booked reads
  · intro state work later booked ready written
    exact (writeWork_ok booked ready written).1
  · intro state work other later booked ready readyOther free passes written
    exact readyOther.kept booked (writeWork_ok booked ready written).2 free passes

/-- What readers of bank movements rely on. -/
structure MovementsBooked (db : Db) : Prop where
  /-- One posting in force for each movement. -/
  once : ∀ (txId : BankTransactionId) (first second : EntryId) (one two : JournalEntry),
    Effective db.books first one → one.bankTransactionId = some txId →
    Effective db.books second two → two.bankTransactionId = some txId → first = second
  /-- The postings of the two halves of a transfer never move the same account of one of their banks. -/
  apart : ∀ (txId partnerId : BankTransactionId) (tx other : BankTransaction) (one two : JournalEntry)
    (accountId : AccountId), Halves db txId partnerId tx other one two →
    movesAccount one accountId = true → movesAccount two accountId = true →
      ¬ LinkedTo db.books accountId tx.propertyBankAccountId ∧
        ¬ LinkedTo db.books accountId other.propertyBankAccountId
  /-- The lines balance, and the bank is moved by the movement. -/
  lines : ∀ (entryId : EntryId) (entry : JournalEntry) (txId : BankTransactionId),
    db.books.entries[entryId]? = some entry → entry.bankTransactionId = some txId →
    Balanced (entry.lines.map JournalLine.toLineIn) ∧ ∃ tx, db.bankTransactions[txId]? = some tx ∧
      BankFirst db.books tx.propertyBankAccountId tx.amount (entry.lines.map JournalLine.toLineIn)

theorem Booked.movements (booked : Booked db) : MovementsBooked db where
  once := by
    intro txId first second one two effective isFirst effectiveTwo isSecond
    obtain ⟨-, tx, found, -, carries⟩ := booked.posting effective.found isFirst
    obtain ⟨-, same, foundSame, -, carriesTwo⟩ := booked.posting effectiveTwo.found isSecond
    obtain rfl : tx = same := mem_unique found foundSame
    exact some.inj ((carries effective.unreversed).symm.trans (carriesTwo effectiveTwo.unreversed))
  apart := fun _ _ _ _ _ _ _ halves moved movedOther => booked.disjoint halves moved movedOther
  lines := by
    intro entryId entry txId found isTx
    obtain ⟨-, tx, foundTx, first, -⟩ := booked.posting found isTx
    exact ⟨(booked.linked.sound found).balanced, tx, foundTx, first⟩

/-- The entry a booking posts, and that it settles no item beyond what was open. -/
structure PostsWithin (db : Db) (booking : Booking) (next : Db) : Prop where
  posted : ∃ entry, next.books.entries = db.books.entries ++ [entry] ∧ entry.isPosted ∧
    entry.bankTransactionId = some booking.txId ∧ entry.settlementPlan = booking.plan
  within : ∀ plan ∈ booking.plan, ∃ item, next.books.openItems[plan.openItemId]? = some item ∧
    settled db.books plan.openItemId none + plannedFor plan.openItemId booking.plan ≤ item.amount

/-- In every interleaving of imports, bookings and reversals each movement has at most one posting in force, the halves
of a transfer never move the same bank twice, and a booking balances and settles no item beyond what is open. -/
theorem movements_booked_once (start : Db) (fresh : start.books.Fresh) (empty : start.bankTransactions = [])
    (moves : List (Move BookingRequest)) :
    MovementsBooked (run bookingProtocol.step (⟨start, []⟩ : BookingConfig) moves).state ∧
      ∀ (place : ℕ) (booking : Booking) (next : BookingConfig),
        (run bookingProtocol.step (⟨start, []⟩ : BookingConfig) moves).pending[place]? = some (.booking booking) →
        bookingProtocol.step (run bookingProtocol.step ⟨start, []⟩ moves) (.commit place) = .ok next →
          PostsWithin (run bookingProtocol.step (⟨start, []⟩ : BookingConfig) moves).state booking next.state := by
  have booked : Booked start := by
    constructor
    · exact fresh.linked
    · intro txId tx found
      simp [empty] at found
    · intro txId partnerId tx found
      simp [empty] at found
    · intro entryId entry txId found
      simp [fresh.entries] at found
    · intro txId partnerId tx other one two accountId halves
      have found := halves.found
      simp [empty] at found
  have holds := interleaving_booked (Protocol.holds_initial booked) moves
  refine ⟨holds.state.movements, ?_⟩
  intro place booking next found moved
  obtain ⟨isMove, -⟩ := LateProtocol.step_ok moved
  cases isMove with
  | commit place work after isWork writes =>
    obtain rfl : work = .booking booking := mem_unique isWork found
    obtain ⟨tx, planned⟩ := holds.ready _ (List.mem_of_getElem? found)
    simp only [bookingProtocol, writeWork, bind_ok, pure_ok] at writes
    obtain ⟨⟨entryId, result⟩, written, rfl⟩ := writes
    obtain ⟨⟨entry, wrote⟩, -⟩ := writeBooking_ok planned.notReversal written
    exact ⟨⟨entry, wrote.entries, wrote.posted, wrote.bankTransactionId planned, wrote.plan⟩, wrote.settles⟩

def transferBooks : Books where
  ledgers := [{}]
  accounts := [{ ledgerId := 0, number := "1200", category := .bank, propertyBankAccountId := some 0 },
    { ledgerId := 0, number := "1210", category := .bank, propertyBankAccountId := some 1 },
    { ledgerId := 0, number := "1360", category := .transit }]

def transferDb : Db := { Imports.ownAccounts with books := transferBooks }

def againstTransit (txId : BankTransactionId) : Move BookingRequest :=
  .start (.book txId { counterAccountId := some 2 } none none .bankImport)

/-- Both halves are booked against the transit account, the second after it was recognised as a transfer. -/
def transferMoves : List (Move BookingRequest) :=
  [.start (.importMovement 0 (Imports.sampleMovement "A1" (.ofYmd 2026 2 3) (-500) "DE02500105170137075030")),
    .commit 0, againstTransit 0, .commit 0,
    .start (.importMovement 1 (Imports.sampleMovement "B1" (.ofYmd 2026 2 5) 500 "DE02120300000000202051")),
    .commit 0, againstTransit 1, .commit 0]

def transferred : Db := (run bookingProtocol.step (⟨transferDb, []⟩ : BookingConfig) transferMoves).state

/-- The recognised transfer carries two postings in force. -/
theorem transfer_booked_twice :
    transferred.bankTransactions.map BankTransaction.transferPairId = [some 1, some 0] ∧
      (transferred.books.entries.map fun entry => entry.bankTransactionId) = [some 0, some 1] ∧
      ∀ entry ∈ transferred.books.entries, entry.isPosted ∧ entry.reversedById = none := by
  decide +kernel

theorem transfer_movements_booked : MovementsBooked transferred := by
  have fresh : transferDb.books.Fresh := ⟨rfl, rfl, rfl, rfl⟩
  exact (movements_booked_once transferDb fresh rfl transferMoves).1

end Mhvp.Banking.Matching
