import Mhvp.Banking.BookingReads

namespace Mhvp.Banking.Matching

open Core Accounting Lib.Table Option

variable {db next : Db} {books later : Books} {tx other : BankTransaction} {booking : Booking}
  {txId partnerId : BankTransactionId} {bankId : BankAccountId}

/-- The posted entry of a booking, the last one of the books. -/
structure Wrote (db : Db) (booking : Booking) (entryId : EntryId) (entry : JournalEntry) (next : Db) : Prop where
  place : entryId = db.books.entries.length
  entries : next.books.entries = db.books.entries ++ [entry]
  posted : entry.isPosted
  unreversed : entry.reversedById = none
  header : entry.toEntryHeader = booking.header
  ledger : entry.ledgerId = booking.ledgerId
  lines : entry.lines.map JournalLine.toLineIn = booking.lines.map LineIn.bare
  plan : entry.settlementPlan = booking.plan
  ofLedger : ∀ line ∈ entry.lines, ∃ account, db.books.accounts[line.accountId]? = some account ∧
    account.ledgerId = entry.ledgerId
  accounts : next.books.accounts = db.books.accounts
  kept : BooksKept db.books next.books
  linked : db.books.Linked → next.books.Linked
  settles : ∀ plan ∈ booking.plan, ∃ item, next.books.openItems[plan.openItemId]? = some item ∧
    settled db.books plan.openItemId none + plannedFor plan.openItemId booking.plan ≤ item.amount

/-- Whether a row carries the posting of the booking. -/
def Booking.Carries (booking : Booking) (id : BankTransactionId) : Prop :=
  id = booking.txId ∨ booking.settles = true ∧ booking.partnerId = some id

instance : Decidable (Booking.Carries booking txId) := inferInstanceAs (Decidable (_ ∨ _))

theorem writeBooking_ok (notReversal : booking.header.kind ≠ .reversal)
    (written : writeBooking db booking = .ok (entryId, next)) :
    (∃ entry, Wrote db booking entryId entry next) ∧
      ∀ id : BankTransactionId, next.bankTransactions[id]? = (db.bankTransactions[id]?).map fun row =>
        if booking.Carries id then bookedWith entryId row else row := by
  simp only [writeBooking, bind_ok, pure_ok, Prod.mk.injEq] at written
  obtain ⟨⟨place, drafted⟩, isDraft, books, isPosted, rfl, rfl⟩ := written
  constructor
  · obtain ⟨entry, row, ⟨-, rfl, rfl⟩ | ⟨old, isTarget, -⟩⟩ := writeDraft_ok isDraft
    · have step : LedgerStep db.books { db.books with entries := db.books.entries ++ [entry] } :=
        .draft entry row.sound row.draft row.reverses row.unreversed (row.header ▸ notReversal)
      have last : (db.books.entries ++ [entry])[db.books.entries.length]? = some entry := by simp
      obtain ⟨found, isFound, -, ⟨already, -⟩ | ⟨ledger, posting, rows, posts, rfl⟩⟩ := post_ok isPosted
      · rw [show found = entry from mem_unique isFound last] at already
        exact absurd row.draft already
      · obtain rfl : found = entry := mem_unique isFound last
        have posted := LedgerStep.post db.books.entries.length found ledger posting rows posts
        refine ⟨found.withPosting posting, rfl, ?_, ?_, row.unreversed, row.header, row.ledger, row.lines,
          row.planned, row.sound.accounts, rfl, (LedgerStep.booksKept step).trans (LedgerStep.booksKept posted),
          fun linked => posted.linked (step.linked linked), ?_⟩
        · simp [Books.posted]
        · simp [JournalEntry.isPosted, JournalEntry.withPosting]
        · intro plan member
          rw [← row.planned, ← posts.planned] at member
          obtain ⟨settlement, isRow, rfl⟩ := List.mem_map.mp member
          obtain ⟨item, isItem, -, -, within, -⟩ := posts.settles.item settlement isRow
          refine ⟨item, isItem, ?_⟩
          rw [← row.planned, ← settledIn_eq_plannedFor posts.planned]
          exact within
    · cases isTarget
  · intro id
    dsimp only
    cases isPartner : booking.partnerId with
    | none =>
      rw [List.getElem?_modify]
      apply Option.map_congr
      intro row _
      simp only [Booking.Carries, isPartner, reduceCtorEq, and_false, or_false]
      by_cases own : booking.txId = id
      · rw [if_pos own, if_pos own.symm]
      · rw [if_neg own, if_neg (Ne.symm own)]
    | some partnerId =>
      cases settles : booking.settles with
      | false =>
        simp only [Bool.false_eq_true, if_false]
        rw [List.getElem?_modify]
        apply Option.map_congr
        intro row _
        simp only [Booking.Carries, settles, Bool.false_eq_true, false_and, or_false]
        by_cases own : booking.txId = id
        · rw [if_pos own, if_pos own.symm]
        · rw [if_neg own, if_neg (Ne.symm own)]
      | true =>
        simp only [if_true]
        rw [List.getElem?_modify, List.getElem?_modify, Option.map_eq_map, Option.map_eq_map, Option.map_map]
        apply Option.map_congr
        intro row _
        simp only [Booking.Carries, settles, isPartner, true_and, some.injEq, Function.comp_apply]
        by_cases own : booking.txId = id
        · rw [if_pos own, if_pos (Or.inl own.symm)]
          by_cases both : partnerId = id
          · rw [if_pos both]
            rfl
          · rw [if_neg both]
        · rw [if_neg own]
          by_cases both : partnerId = id
          · rw [if_pos both, if_pos (Or.inr both)]
          · rw [if_neg both, if_neg (fun carries => carries.elim (Ne.symm own) both)]

theorem Planned.unbooked_of_carries (planned : Planned db booking tx) (carries : booking.Carries txId)
    (found : db.bankTransactions[txId]? = some other) : Unbooked db.books other.journalEntryId := by
  rcases carries with rfl | ⟨settles, isPartner⟩
  · obtain rfl : other = tx := mem_unique found planned.found
    exact planned.unbooked
  · obtain ⟨-, half, foundHalf, state⟩ := planned.otherHalf txId isPartner
    obtain rfl : other = half := mem_unique found foundHalf
    rcases state with unbooked | ⟨alone, -⟩
    · exact unbooked
    · rw [settles] at alone
      cases alone

theorem Wrote.effective_cases (wrote : Wrote db booking entryId entry next) (effective : Effective next.books oneId one) :
    Effective db.books oneId one ∨ oneId = entryId ∧ one = entry := by
  have found := effective.found
  rw [wrote.entries] at found
  rcases found_append_one.mp found with old | ⟨isLast, isEntry⟩
  · exact Or.inl ⟨old, effective.posted, effective.unreversed⟩
  · exact Or.inr ⟨isLast.trans wrote.place.symm, isEntry⟩

theorem Wrote.bankTransactionId (wrote : Wrote db booking entryId entry next) (planned : Planned db booking tx) :
    entry.bankTransactionId = some booking.txId := by
  rw [show entry.bankTransactionId = booking.header.bankTransactionId from
    congrArg EntryHeader.bankTransactionId wrote.header]
  exact planned.named

theorem LinkedTo.of_accounts (linked : LinkedTo later accountId bankId) (accounts : later.accounts = books.accounts) :
    LinkedTo books accountId bankId := by
  obtain ⟨account, found, isLink⟩ := linked
  exact ⟨account, accounts ▸ found, isLink⟩

theorem Wrote.moves (wrote : Wrote db booking entryId entry next) (moved : movesAccount entry accountId = true) :
    accountId ∈ booking.lines.map LineIn.accountId ∧
      ∃ account, db.books.accounts[accountId]? = some account ∧ account.ledgerId = booking.ledgerId := by
  obtain ⟨line, isLine, same⟩ := List.any_eq_true.mp moved
  obtain rfl := of_decide_eq_true same
  constructor
  · have inLines : line.toLineIn ∈ booking.lines.map LineIn.bare := by
      rw [← wrote.lines]
      exact List.mem_map_of_mem isLine
    obtain ⟨written, isWritten, isSame⟩ := List.mem_map.mp inLines
    exact List.mem_map.mpr ⟨written, isWritten, congrArg LineIn.accountId isSame⟩
  · obtain ⟨account, found, ledger⟩ := wrote.ofLedger line isLine
    exact ⟨account, found, ledger.trans wrote.ledger⟩

theorem Wrote.apart (wrote : Wrote db booking entryId entry next)
    (booked : Booked db) (planned : Planned db booking tx) (isPartner : tx.transferPairId = some partnerId)
    (found : db.bankTransactions[partnerId]? = some other) (effective : Effective db.books twoId two)
    (ofOther : two.bankTransactionId = some partnerId) (moved : movesAccount entry accountId = true)
    (movedOther : movesAccount two accountId = true) :
    ¬ LinkedTo next.books accountId tx.propertyBankAccountId ∧
      ¬ LinkedTo next.books accountId other.propertyBankAccountId := by
  obtain ⟨-, half, foundHalf, state⟩ := planned.otherHalf partnerId (planned.partner.trans isPartner)
  obtain rfl : other = half := mem_unique found foundHalf
  obtain ⟨-, row, foundRow, -, carries⟩ := booked.posting effective.found ofOther
  obtain rfl : other = row := mem_unique found foundRow
  have isCarried := carries effective.unreversed
  rcases state with unbooked | ⟨-, theirsId, theirs, apart⟩
  · exact absurd effective (unbooked.not_effective isCarried)
  · obtain rfl : twoId = theirsId := mem_unique isCarried apart.carried
    obtain rfl : two = theirs := mem_unique effective.found apart.found
    obtain ⟨onLines, account, foundAccount, ledger⟩ := wrote.moves moved
    obtain ⟨notOwn, notOther⟩ := apart.disjoint foundAccount ledger movedOther onLines
    constructor
    · intro linked
      obtain ⟨same, foundSame, isLink⟩ := linked.of_accounts wrote.accounts
      obtain rfl : account = same := mem_unique foundAccount foundSame
      exact notOwn isLink
    · intro linked
      obtain ⟨same, foundSame, isLink⟩ := linked.of_accounts wrote.accounts
      obtain rfl : account = same := mem_unique foundAccount foundSame
      exact notOther isLink

theorem Planned.committed (planned : Planned db booking tx) (booked : Booked db)
    (written : writeBooking db booking = .ok (entryId, next)) : Booked next := by
  obtain ⟨⟨entry, wrote⟩, rows⟩ := writeBooking_ok planned.notReversal written
  -- every row is the old one, or the old one with the new posting
  have before : ∀ {id : BankTransactionId} {row}, next.bankTransactions[id]? = some row →
      ∃ old, db.bankTransactions[id]? = some old ∧ row = if booking.Carries id then bookedWith entryId old else old := by
    intro id row found
    rw [rows] at found
    obtain ⟨old, foundOld, isRow⟩ := map_eq_some_iff.mp found
    exact ⟨old, foundOld, isRow.symm⟩
  have after : ∀ {id : BankTransactionId} {old}, db.bankTransactions[id]? = some old →
      next.bankTransactions[id]? = some (if booking.Carries id then bookedWith entryId old else old) := by
    intro id old found
    rw [rows, found]
    rfl
  have pair : ∀ {id : BankTransactionId} {old : BankTransaction},
      (if booking.Carries id then bookedWith entryId old else old).transferPairId = old.transferPairId := by
    intro id old
    split <;> rfl
  have bank : ∀ {id : BankTransactionId} {old : BankTransaction},
      (if booking.Carries id then bookedWith entryId old else old).propertyBankAccountId = old.propertyBankAccountId := by
    intro id old
    split <;> rfl
  have amount : ∀ {id : BankTransactionId} {old : BankTransaction},
      (if booking.Carries id then bookedWith entryId old else old).amount = old.amount := by
    intro id old
    split <;> rfl
  constructor
  · exact wrote.linked booked.linked
  · intro id row found carriedId isCarried
    obtain ⟨old, foundOld, rfl⟩ := before found
    rw [wrote.entries]
    by_cases carries : booking.Carries id
    · rw [if_pos carries] at isCarried
      obtain rfl : entryId = carriedId := some.inj isCarried
      exact ⟨entry, found_append_one.mpr (Or.inr ⟨wrote.place, rfl⟩), wrote.posted⟩
    · rw [if_neg carries] at isCarried
      obtain ⟨posted, foundPosted, isPosted⟩ := booked.carried foundOld carriedId isCarried
      exact ⟨posted, found_append foundPosted, isPosted⟩
  · intro id otherId row found linked
    obtain ⟨old, foundOld, rfl⟩ := before found
    rw [pair] at linked
    obtain ⟨half, foundHalf, differs⟩ := booked.otherBank foundOld linked
    refine ⟨_, after foundHalf, ?_⟩
    rw [bank, bank]
    exact differs
  · intro id posted ofTx found isTx
    rw [wrote.entries] at found
    rcases found_append_one.mp found with old | ⟨isLast, rfl⟩
    · obtain ⟨isPosted, row, foundRow, first, carries⟩ := booked.posting old isTx
      refine ⟨isPosted, _, after foundRow, ?_, ?_⟩
      · rw [bank, amount]
        exact first.kept wrote.kept
      · intro unreversed
        have isCarried := carries unreversed
        rw [if_neg]
        · exact isCarried
        · intro written
          exact (planned.unbooked_of_carries written foundRow).not_effective isCarried ⟨old, isPosted, unreversed⟩
    · rw [wrote.bankTransactionId planned] at isTx
      obtain rfl : booking.txId = ofTx := some.inj isTx
      refine ⟨wrote.posted, _, after planned.found, ?_, ?_⟩
      · rw [bank, amount, wrote.lines]
        obtain ⟨first, rest, linked, isLines⟩ := planned.bankFirst.kept wrote.kept
        exact ⟨first, rest.map LineIn.bare, linked, by rw [isLines]; rfl⟩
      · intro _
        have carries : booking.Carries booking.txId := Or.inl rfl
        rw [if_pos carries, isLast, ← wrote.place]
        rfl
  · intro ownId otherId own half one two accountId halves moved movedOther
    obtain ⟨oldOwn, foundOwn, rfl⟩ := before halves.found
    obtain ⟨oldHalf, foundHalf, rfl⟩ := before halves.foundOther
    obtain ⟨firstId, first⟩ := halves.first
    obtain ⟨secondId, second⟩ := halves.second
    have ownLinked := halves.partner
    have halfLinked := halves.back
    rw [pair] at ownLinked halfLinked
    rw [bank, bank]
    rcases wrote.effective_cases first with oldFirst | ⟨-, rfl⟩
    · rcases wrote.effective_cases second with oldSecond | ⟨-, rfl⟩
      · have apart := booked.disjoint ⟨foundOwn, ownLinked, foundHalf, halfLinked, ⟨firstId, oldFirst⟩, halves.ofFirst,
          ⟨secondId, oldSecond⟩, halves.ofSecond⟩ moved movedOther
        exact ⟨fun linked => apart.1 (linked.of_accounts wrote.accounts),
          fun linked => apart.2 (linked.of_accounts wrote.accounts)⟩
      · have isOwn := (wrote.bankTransactionId planned).symm.trans halves.ofSecond
        obtain rfl : booking.txId = otherId := some.inj isOwn
        obtain rfl : oldHalf = tx := mem_unique foundHalf planned.found
        have apart := wrote.apart booked planned halfLinked foundOwn oldFirst halves.ofFirst movedOther moved
        exact ⟨apart.2, apart.1⟩
    · have isOwn := (wrote.bankTransactionId planned).symm.trans halves.ofFirst
      obtain rfl : booking.txId = ownId := some.inj isOwn
      obtain rfl : oldOwn = tx := mem_unique foundOwn planned.found
      rcases wrote.effective_cases second with oldSecond | ⟨-, rfl⟩
      · exact wrote.apart booked planned ownLinked foundHalf oldSecond halves.ofSecond moved movedOther
      · -- a movement is not its own other half
        have same := halves.ofFirst.symm.trans halves.ofSecond
        have isOther := planned.partner.trans ownLinked
        exact absurd (some.inj same).symm (planned.otherHalf otherId isOther).apart

end Mhvp.Banking.Matching
