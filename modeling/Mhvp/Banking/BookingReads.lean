import Mhvp.Accounting.Routers
import Mhvp.Banking.Matching
import Mhvp.Banking.TransferPairs

namespace Mhvp.Banking.Matching

open Core Accounting Lib.Locking

/-- Only a booking names a bank movement in the header of its entry. -/
def BesideBank : JournalCall → Prop
  | .writeDraft _ _ draft _ _ => draft.bankTransactionId = none
  | _ => True

inductive BookingRequest
  /-- One movement of a file or of the account service. -/
  | importMovement (accountId : BankAccountId) (tx : RawTransaction)
  | book (txId : BankTransactionId) (body : BookIn) (clearing : Option String) (userId : Option UserId)
      (source : EntrySource)
  /-- Postings and reversals of the journal. -/
  | journal (call : JournalCall) (beside : BesideBank call)
  /-- A movement is proposed, ignored or cleared as a duplicate. -/
  | mark (txId : BankTransactionId) (status : TransactionStatus)

inductive BookingWork
  | known
  | movement (row : BankTransaction) (partner : Option BankTransactionId)
  | booking (booking : Booking)
  | journal (call : JournalCall) (beside : BesideBank call)
  | mark (txId : BankTransactionId) (status : TransactionStatus)

/-- The new row, linked with the partner chosen for it. -/
def link (rows : List BankTransaction) (row : BankTransaction) : Option BankTransactionId → List BankTransaction
  | none => rows ++ [row]
  | some partner =>
    (rows.modify partner fun other => { other with transferPairId := some rows.length }) ++
      [{ row with transferPairId := some partner }]

def readBooking (db : Db) : BookingRequest → Result BookingWork
  | .importMovement accountId tx => do
      let account ← orRefuse db.bankAccounts[accountId]? .resourceNotFound
      if ∃ reference ∈ tx.bankReference, reference ≠ "" ∧ Imports.stored db.bankTransactions accountId reference then
        pure .known
      else do
        let same := db.bankTransactions.findIdx? fun row =>
          row.propertyBankAccountId = accountId ∧ row.hash = Imports.contentHash account tx
        let row := Imports.bankTransaction accountId account tx same
        pure (.movement row (Imports.transferPartner db.bankAccounts db.bankTransactions row))
  | .book txId body clearing userId source => do
      let booking ← bookPayment db txId body clearing userId source
      pure (.booking booking)
  | .journal call beside => pure (.journal call beside)
  | .mark txId status => do
      let _ ← orRefuse db.bankTransactions[txId]? .resourceNotFound
      pure (.mark txId status)

/-- The locked rows of bank movements. -/
def bookingLocks : BookingWork → List BankTransactionId
  | .booking booking => booking.txId :: booking.partnerId.toList
  | .mark txId _ => [txId]
  | _ => []

/-- Rows written without a lock before. -/
def bookingReaches (_ : Db) : BookingWork → List BankTransactionId
  | .movement _ partner => partner.toList
  | _ => []

def writeWork (db : Db) : BookingWork → Result Db
  | .known => pure db
  | .movement row partner => do
      require (∀ reference ∈ row.bankReference,
        Imports.stored db.bankTransactions row.propertyBankAccountId reference = false) .databaseRefused
      pure { db with bankTransactions := link db.bankTransactions row partner }
  | .booking booking => do
      let (_, next) ← writeBooking db booking
      pure next
  | .journal call _ => journalStep db call
  | .mark txId status => pure { db with
      bankTransactions := db.bankTransactions.modify txId fun tx => { tx with status } }

def bookingProtocol : LateProtocol Db BookingRequest BookingWork BankTransactionId ProblemError where
  read := readBooking
  locks := bookingLocks
  write := writeWork
  reaches := bookingReaches

open Lib.Table List Option

variable {db next : Db} {books later : Books} {tx other : BankTransaction} {booking : Booking}
  {txId partnerId : BankTransactionId} {bankId : BankAccountId}

/-- The entry is posted and not reversed. -/
structure Effective (books : Books) (entryId : EntryId) (entry : JournalEntry) : Prop where
  found : books.entries[entryId]? = some entry
  posted : entry.isPosted
  unreversed : entry.reversedById = none

/-- The account stands for the bank account. -/
def LinkedTo (books : Books) (accountId : AccountId) (bankId : BankAccountId) : Prop :=
  ∃ account, books.accounts[accountId]? = some account ∧ account.propertyBankAccountId = some bankId

/-- No posting is in force. -/
def Unbooked (books : Books) (entryId : Option EntryId) : Prop :=
  ∀ id, entryId = some id → ∃ entry, books.entries[id]? = some entry ∧ entry.isPosted ∧ entry.reversedById ≠ none

/-- The bank is on the first line, with the movement. -/
def BankFirst (books : Books) (bankId : BankAccountId) (amount : Decimal) (lines : List LineIn) : Prop :=
  ∃ bank rest, LinkedTo books bank bankId ∧ lines = bankLine bank amount :: rest

theorem effectiveEntry_some (effective : effectiveEntry books entryId = some found) :
    entryId = some found.2 ∧ Effective books found.2 found.1 := by
  obtain ⟨id, rfl, isEntry⟩ := bind_eq_some_iff.mp effective
  obtain ⟨entry, kept, rfl⟩ := map_eq_some_iff.mp isEntry
  obtain ⟨isRow, facts⟩ := filter_eq_some_iff.mp kept
  obtain ⟨posted, unreversed⟩ := of_decide_eq_true facts
  exact ⟨rfl, isRow, posted, unreversed⟩

theorem unbooked_of_none (carried : ∀ id, entryId = some id → ∃ entry, books.entries[id]? = some entry ∧ entry.isPosted)
    (none : effectiveEntry books entryId = none) : Unbooked books entryId := by
  intro id isId
  obtain ⟨entry, found, posted⟩ := carried id isId
  refine ⟨entry, found, posted, ?_⟩
  intro unreversed
  simp [effectiveEntry, isId, found, posted, unreversed] at none

theorem Unbooked.not_effective (unbooked : Unbooked books carried) (isEntry : carried = some entryId)
    (effective : Effective books entryId entry) : False := by
  obtain ⟨same, found, -, reversed⟩ := unbooked entryId isEntry
  obtain rfl : same = entry := mem_unique found effective.found
  exact reversed effective.unreversed

/-- The account of the bank, the only one of its ledger. -/
structure BankOf (db : Db) (tx : BankTransaction) (ledgerId : LedgerId) (bank : AccountId) : Prop where
  ledger : db.books.ledgers.findIdx? (fun ledger => ledger.legalEntityId = tx.legalEntityId) = some ledgerId
  linked : LinkedTo db.books bank tx.propertyBankAccountId
  only : ∀ {accountId account}, db.books.accounts[accountId]? = some account → account.ledgerId = ledgerId →
    account.propertyBankAccountId = some tx.propertyBankAccountId → accountId = bank

theorem ledgerFor_ok (found : ledgerFor db tx = .ok (ledgerId, bank)) : BankOf db tx ledgerId bank := by
  simp only [ledgerFor, bind_ok, orRefuse_ok, exists_unit, require_ok, pure_ok, Prod.mk.injEq] at found
  obtain ⟨place, isLedger, once, ⟨account, accountId⟩, isHead, rfl, rfl⟩ := found
  have alone := eq_singleton_of_mem once (mem_of_head? isHead)
  have member := mem_of_head? isHead
  rw [mem_filter] at member
  obtain ⟨-, isLink⟩ := of_decide_eq_true member.2
  refine ⟨isLedger, ⟨account, mk_mem_zipIdx_iff_getElem?.mp member.1, isLink⟩, ?_⟩
  intro otherId row foundRow ledger linked
  have listed : (row, otherId) ∈ [(account, accountId)] := by
    rw [← alone, mem_filter]
    exact ⟨mk_mem_zipIdx_iff_getElem?.mpr foundRow, decide_eq_true ⟨ledger, linked⟩⟩
  exact congrArg Prod.snd (mem_singleton.mp listed)

theorem BankOf.same_ledger (bank : BankOf db tx ledgerId first) (otherBank : BankOf db other otherLedger second)
    (entity : other.legalEntityId = tx.legalEntityId) : otherLedger = ledgerId := by
  have same := otherBank.ledger
  rw [entity] at same
  exact mem_unique same bank.ledger

/-- A half that is booked on its own: its posting shares no account of the two banks with the planned lines. -/
structure Apart (db : Db) (booking : Booking) (tx other : BankTransaction) (theirsId : EntryId) (theirs : JournalEntry) :
    Prop where
  carried : other.journalEntryId = some theirsId
  found : db.books.entries[theirsId]? = some theirs
  posted : theirs.isPosted
  disjoint : ∀ {accountId account}, db.books.accounts[accountId]? = some account →
    account.ledgerId = booking.ledgerId → movesAccount theirs accountId = true →
    accountId ∈ booking.lines.map LineIn.accountId →
    account.propertyBankAccountId ≠ some tx.propertyBankAccountId ∧
      account.propertyBankAccountId ≠ some other.propertyBankAccountId

/-- The other half as it is locked: nothing in force, or booked on its own. -/
structure OtherHalf (db : Db) (booking : Booking) (tx : BankTransaction) (partnerId : BankTransactionId) : Prop where
  apart : partnerId ≠ booking.txId
  half : ∃ other, db.bankTransactions[partnerId]? = some other ∧
    (Unbooked db.books other.journalEntryId ∨
      booking.settles = false ∧ ∃ theirsId theirs, Apart db booking tx other theirsId theirs)

/-- What a booking has checked, and its rows as they are locked. -/
structure Planned (db : Db) (booking : Booking) (tx : BankTransaction) : Prop where
  found : db.bankTransactions[booking.txId]? = some tx
  named : booking.header.bankTransactionId = some booking.txId
  notReversal : booking.header.kind ≠ .reversal
  unbooked : Unbooked db.books tx.journalEntryId
  bankFirst : BankFirst db.books tx.propertyBankAccountId tx.amount booking.lines
  partner : booking.partnerId = tx.transferPairId
  otherHalf : ∀ partnerId, booking.partnerId = some partnerId → OtherHalf db booking tx partnerId

/-- Posted entries and accounts are as they were, apart from reversals and deactivations. -/
structure BooksKept (books later : Books) : Prop where
  entries : ∀ {entryId : EntryId} {entry : JournalEntry}, books.entries[entryId]? = some entry → entry.isPosted →
    ∃ kept, later.entries[entryId]? = some kept ∧ entry.SameBut kept
  accounts : ∀ {accountId : AccountId} {account : LedgerAccount}, books.accounts[accountId]? = some account →
    ∃ active, later.accounts[accountId]? = some { account with active }

theorem BooksKept.refl (books : Books) : BooksKept books books where
  entries := fun found _ => ⟨_, found, .refl _⟩
  accounts := fun found => ⟨_, found⟩

theorem BooksKept.trans (first : BooksKept books later) (second : BooksKept later last) :
    BooksKept books last where
  entries := by
    intro entryId entry found posted
    obtain ⟨middle, foundMiddle, same⟩ := first.entries found posted
    obtain ⟨kept, foundKept, sameKept⟩ := second.entries foundMiddle (same.isPosted.mpr posted)
    refine ⟨kept, foundKept, ?_, fun reversal already => sameKept.2 _ (same.2 _ already)⟩
    rw [sameKept.1, same.1]
  accounts := by
    intro accountId account found
    obtain ⟨active, foundMiddle⟩ := first.accounts found
    obtain ⟨last, foundLast⟩ := second.accounts foundMiddle
    exact ⟨last, foundLast⟩

theorem LedgerStep.booksKept (step : LedgerStep books later) : BooksKept books later where
  entries := step.posted_immutable
  accounts := by
    intro accountId account found
    cases step with
    | draft | redraft | post | reverse | lock => exact ⟨account.active, found⟩
    | master next edits => exact edits.accounts accountId account found

theorem LinkedTo.kept (linked : LinkedTo books accountId bankId) (kept : BooksKept books later) :
    LinkedTo later accountId bankId := by
  obtain ⟨account, found, isLink⟩ := linked
  obtain ⟨active, foundLater⟩ := kept.accounts found
  exact ⟨_, foundLater, isLink⟩

theorem BankFirst.kept (first : BankFirst books bankId amount lines) (kept : BooksKept books later) :
    BankFirst later bankId amount lines := by
  obtain ⟨bank, rest, linked, isLines⟩ := first
  exact ⟨bank, rest, linked.kept kept, isLines⟩

theorem Unbooked.kept (unbooked : Unbooked books carried) (kept : BooksKept books later) : Unbooked later carried := by
  intro id isId
  obtain ⟨entry, found, posted, reversed⟩ := unbooked id isId
  obtain ⟨same, foundSame, isSame⟩ := kept.entries found posted
  refine ⟨same, foundSame, isSame.isPosted.mpr posted, ?_⟩
  obtain ⟨reversal, isReversal⟩ := ne_none_iff_exists'.mp reversed
  rw [isSame.2 reversal isReversal]
  exact some_ne_none reversal

theorem sameBut_lines {entry kept : JournalEntry} (same : entry.SameBut kept) : kept.lines = entry.lines := by
  rw [same.1]

theorem Apart.kept {theirs : JournalEntry} (apart : Apart db booking tx other theirsId theirs)
    (linked : db.books.Linked) (kept : BooksKept db.books next.books) :
    ∃ same, Apart next booking tx other theirsId same := by
  obtain ⟨same, foundSame, isSame⟩ := kept.entries apart.found apart.posted
  refine ⟨same, apart.carried, foundSame, isSame.isPosted.mpr apart.posted, ?_⟩
  intro accountId account foundAccount ledger moves planned
  have movesBefore : movesAccount theirs accountId = true := by
    rw [movesAccount, sameBut_lines isSame] at moves
    exact moves
  obtain ⟨line, isLine, isAccount⟩ := any_eq_true.mp movesBefore
  obtain ⟨before, foundBefore, -⟩ := (linked.sound apart.found).accounts line isLine
  rw [of_decide_eq_true isAccount] at foundBefore
  obtain ⟨active, foundLater⟩ := kept.accounts foundBefore
  have isLater : account = { before with active } := mem_unique foundAccount foundLater
  rw [isLater] at ledger ⊢
  have disjoint := apart.disjoint foundBefore
  exact disjoint ledger movesBefore planned

theorem Planned.kept (planned : Planned db booking tx) (linked : db.books.Linked)
    (kept : BooksKept db.books next.books)
    (rows : ∀ id ∈ bookingLocks (.booking booking), ∀ row, db.bankTransactions[id]? = some row →
      next.bankTransactions[id]? = some row) : Planned next booking tx where
  found := rows _ mem_cons_self tx planned.found
  named := planned.named
  notReversal := planned.notReversal
  unbooked := planned.unbooked.kept kept
  bankFirst := planned.bankFirst.kept kept
  partner := planned.partner
  otherHalf := by
    intro partnerId isPartner
    obtain ⟨apart, other, found, state⟩ := planned.otherHalf partnerId isPartner
    refine ⟨apart, other, ?_, ?_⟩
    · exact rows partnerId (mem_cons_of_mem _ (mem_toList.mpr isPartner)) other found
    · rcases state with unbooked | ⟨alone, theirsId, theirs, apart⟩
      · exact Or.inl (unbooked.kept kept)
      · obtain ⟨same, apartSame⟩ := apart.kept linked kept
        exact Or.inr ⟨alone, theirsId, same, apartSame⟩

/-- Two halves of a transfer, each with a posting of its own in force. -/
structure Halves (db : Db) (txId partnerId : BankTransactionId) (tx other : BankTransaction) (one two : JournalEntry) :
    Prop where
  found : db.bankTransactions[txId]? = some tx
  partner : tx.transferPairId = some partnerId
  foundOther : db.bankTransactions[partnerId]? = some other
  back : other.transferPairId = some txId
  first : ∃ entryId, Effective db.books entryId one
  ofFirst : one.bankTransactionId = some txId
  second : ∃ entryId, Effective db.books entryId two
  ofSecond : two.bankTransactionId = some partnerId

/-- Postings of movements: each carried by its movement while it is in force. -/
structure Booked (db : Db) : Prop where
  linked : db.books.Linked
  carried : ∀ {txId : BankTransactionId} {tx : BankTransaction}, db.bankTransactions[txId]? = some tx →
    ∀ entryId, tx.journalEntryId = some entryId → ∃ entry, db.books.entries[entryId]? = some entry ∧ entry.isPosted
  otherBank : ∀ {txId partnerId : BankTransactionId} {tx : BankTransaction}, db.bankTransactions[txId]? = some tx →
    tx.transferPairId = some partnerId → ∃ other, db.bankTransactions[partnerId]? = some other ∧
      other.propertyBankAccountId ≠ tx.propertyBankAccountId
  posting : ∀ {entryId : EntryId} {entry : JournalEntry} {txId : BankTransactionId},
    db.books.entries[entryId]? = some entry → entry.bankTransactionId = some txId →
    entry.isPosted ∧ ∃ tx, db.bankTransactions[txId]? = some tx ∧
      BankFirst db.books tx.propertyBankAccountId tx.amount (entry.lines.map JournalLine.toLineIn) ∧
      (entry.reversedById = none → tx.journalEntryId = some entryId)
  disjoint : ∀ {txId partnerId : BankTransactionId} {tx other : BankTransaction} {one two : JournalEntry}
    {accountId : AccountId}, Halves db txId partnerId tx other one two →
    movesAccount one accountId = true → movesAccount two accountId = true →
      ¬ LinkedTo db.books accountId tx.propertyBankAccountId ∧
        ¬ LinkedTo db.books accountId other.propertyBankAccountId

theorem checkState_ok (checked : checkState db tx none = .ok result) :
    tx.journalEntryId = none ∨ effectiveEntry db.books tx.journalEntryId = none := by
  simp only [checkState, bind_ok, exists_unit, require_ok] at checked
  rcases checked.1 with ⟨-, reopened⟩ | fresh
  · rcases reopened with pair | none
    · cases pair
    · exact Or.inr (isNone_iff_eq_none.mp none)
  · cases isEntry : tx.journalEntryId with
    | none => exact Or.inl rfl
    | some entryId => exact absurd (Or.inr (by rw [isEntry]; rfl)) fresh

/-- What is checked of the other half. -/
structure PartnerChecked (db : Db) (txId : BankTransactionId) (tx : BankTransaction) (partnerId : BankTransactionId)
    (pair : Pair) : Prop where
  isPartner : pair.partnerId = partnerId
  found : db.bankTransactions[partnerId]? = some pair.partner
  entity : pair.partner.legalEntityId = tx.legalEntityId
  unbooked : effectiveEntry db.books tx.journalEntryId = none
  bank : ∃ ledgerId, BankOf db pair.partner ledgerId pair.partnerBank
  elsewhere : match pair.bookedElsewhere with
    | none => effectiveEntry db.books pair.partner.journalEntryId = none
    | some theirs => ∃ theirsId, effectiveEntry db.books pair.partner.journalEntryId = some (theirs, theirsId) ∧
        ∃ ledgerId bank, ledgerFor db tx = .ok (ledgerId, bank) ∧ movesAccount theirs bank = false

theorem transferPartner_ok (checked : transferPartner db txId tx partnerId = .ok pair) :
    PartnerChecked db txId tx partnerId pair := by
  simp only [transferPartner, bind_ok, orRefuse_ok] at checked
  obtain ⟨partner, isPartner, checked⟩ := checked
  obtain ⟨found, facts⟩ := filter_eq_some_iff.mp isPartner
  obtain ⟨-, entity⟩ := of_decide_eq_true facts
  cases own : effectiveEntry db.books tx.journalEntryId with
  | some carried =>
    rw [own] at checked
    dsimp only at checked
    split at checked <;> cases checked
  | none =>
    rw [own] at checked
    simp only [bind_ok] at checked
    obtain ⟨⟨ledgerId, bank⟩, isBank, ⟨otherLedger, partnerBank⟩, isPartnerBank, checked⟩ := checked
    cases theirs : effectiveEntry db.books partner.journalEntryId with
    | some carried =>
      rw [theirs] at checked
      simp only [bind_ok, exists_unit, require_ok, pure_ok] at checked
      obtain ⟨apart, rfl⟩ := checked
      exact ⟨rfl, found, entity, own, ⟨otherLedger, ledgerFor_ok isPartnerBank⟩,
        carried.2, theirs, ledgerId, bank, isBank, apart⟩
    | none =>
      rw [theirs] at checked
      simp only [bind_ok, exists_unit, require_ok, pure_ok] at checked
      obtain ⟨-, rfl⟩ := checked
      exact ⟨rfl, found, entity, own, ⟨otherLedger, ledgerFor_ok isPartnerBank⟩, theirs⟩

theorem linesOf_accounts (settlements : body.settlements = [])
    (checked : splitAmount db ledgerId amount clearing body = .ok split)
    (member : accountId ∈ (linesOf bank value split).map LineIn.accountId) :
    accountId = bank ∨ some accountId = body.counterAccountId := by
  simp only [splitAmount, bind_ok, exists_unit, require_ok, settlements, perAccount, pure_ok, exists_eq_left'] at checked
  obtain ⟨-, -, checked⟩ := checked
  have isCounter : split.perAccount = [] ∧ split.counterAccountId = body.counterAccountId := by
    rw [if_neg (fun many => Nat.not_lt_zero _ many.2.2)] at checked
    cases given : body.counterAccountId with
    | none =>
      rw [given] at checked
      dsimp only at checked
      split at checked
      · cases checked
      · obtain rfl := pure_ok.mp checked
        exact ⟨rfl, rfl⟩
    | some counter =>
      rw [given] at checked
      simp only [ne_eq, not_true_eq_false, false_and, if_false, pure_ok] at checked
      obtain rfl := checked
      exact ⟨rfl, rfl⟩
  rw [linesOf, isCounter.1, isCounter.2, map_append, mem_append] at member
  rcases member with isBank | rest
  · exact Or.inl (mem_singleton.mp isBank)
  · right
    cases given : body.counterAccountId with
    | none =>
      rw [given] at rest
      simp at rest
    | some counter =>
      rw [given, map_append, mem_append] at rest
      rcases rest with discount | rest
      · split at discount
        · rw [mem_singleton.mp discount]
          rfl
        · cases discount
      · split at rest
        · rw [mem_singleton.mp rest]
          rfl
        · cases rest

theorem bankFirst_linesOf (bank : BankOf db tx ledgerId accountId) :
    BankFirst db.books tx.propertyBankAccountId tx.amount (linesOf accountId tx.amount split) :=
  ⟨accountId, _, bank.linked, rfl⟩

theorem otherHalf_of_checked (booked : Booked db)
    (found : db.bankTransactions[txId]? = some tx) (linked : tx.transferPairId = some partnerId)
    (partner : PartnerChecked db txId tx partnerId pair) (isBank : ledgerFor db tx = .ok (ledgerId, bank))
    (checked : checkTransfer db bank body pair = .ok result)
    (isSplit : splitAmount db ledgerId amount clearing body = .ok split)
    (isTx : booking.txId = txId) (isLedger : booking.ledgerId = ledgerId)
    (lines : booking.lines = linesOf bank tx.amount split)
    (settles : booking.settles = true → pair.bookedElsewhere = none) : OtherHalf db booking tx partnerId := by
  obtain ⟨other, foundOther, otherAccount⟩ := booked.otherBank found linked
  obtain rfl : other = pair.partner := mem_unique foundOther partner.found
  have apart : partnerId ≠ booking.txId := by
    intro same
    rw [same, isTx] at foundOther
    exact otherAccount (by rw [mem_unique foundOther found])
  refine ⟨apart, pair.partner, foundOther, ?_⟩
  have elsewhere := partner.elsewhere
  cases isElsewhere : pair.bookedElsewhere with
  | none =>
    rw [isElsewhere] at elsewhere
    exact Or.inl (unbooked_of_none (booked.carried foundOther) elsewhere)
  | some theirs =>
    rw [isElsewhere] at elsewhere
    obtain ⟨theirsId, isTheirs, sameLedger, sameBank, same, unmoved⟩ := elsewhere
    obtain ⟨rfl, rfl⟩ : ledgerId = sameLedger ∧ bank = sameBank :=
      Prod.mk.injEq .. ▸ Except.ok.inj (isBank.symm.trans same)
    obtain ⟨carried, effective⟩ := effectiveEntry_some isTheirs
    have alone : booking.settles = false := by
      apply Bool.eq_false_iff.mpr
      intro both
      rw [settles both] at isElsewhere
      cases isElsewhere
    refine Or.inr ⟨alone, theirsId, theirs, carried, effective.found, effective.posted, ?_⟩
    simp only [checkTransfer, isElsewhere, bind_ok, exists_unit, require_ok] at checked
    obtain ⟨⟨settlements, -, -⟩, notPartner⟩ := checked
    obtain ⟨otherLedger, partnerBank⟩ := partner.bank
    have ownBank := ledgerFor_ok isBank
    have onLedger := ownBank.same_ledger partnerBank partner.entity
    intro accountId account foundAccount ledger moves planned
    rw [lines] at planned
    rw [isLedger] at ledger
    have notBank : accountId ≠ bank := by
      rintro rfl
      rw [unmoved] at moves
      cases moves
    have isCounter : some accountId = body.counterAccountId :=
      (linesOf_accounts settlements isSplit planned).resolve_left notBank
    constructor
    · intro linkedOwn
      exact notBank (ownBank.only foundAccount ledger linkedOwn)
    · intro linkedOther
      rw [partnerBank.only foundAccount (ledger.trans onLedger.symm) linkedOther] at isCounter
      exact notPartner isCounter.symm

theorem pairOf_ok (checked : pairOf db txId tx = .ok pair) :
    (tx.transferPairId = none ∧ pair = none) ∨ ∃ partnerId half, tx.transferPairId = some partnerId ∧ pair = some half ∧
      PartnerChecked db txId tx partnerId half := by
  unfold pairOf at checked
  cases linked : tx.transferPairId with
  | none =>
    rw [linked] at checked
    exact Or.inl ⟨rfl, (pure_ok.mp checked).symm⟩
  | some partnerId =>
    rw [linked] at checked
    dsimp only at checked
    cases isHalf : transferPartner db txId tx partnerId with
    | error problem =>
      rw [isHalf] at checked
      cases checked
    | ok half =>
      rw [isHalf] at checked
      obtain rfl : some half = pair := Except.ok.inj checked
      exact Or.inr ⟨partnerId, half, rfl, rfl, transferPartner_ok isHalf⟩

theorem bookPayment_ok (booked : Booked db)
    (accepted : bookPayment db txId body clearing userId source = .ok booking) : ∃ tx, Planned db booking tx := by
  simp only [bookPayment, bind_ok, orRefuse_ok, exists_unit, require_ok, pure_ok] at accepted
  obtain ⟨tx, found, pair, isPair, state, -, ⟨ledgerId, bank⟩, isBank, transfer, split, isSplit, -, rfl⟩ := accepted
  have notReversal : ∀ transfer, (entryHeader txId tx body transfer userId source).kind ≠ .reversal := by
    intro transfer
    unfold entryHeader
    dsimp only
    split
    · decide
    · split <;> decide
  rcases pairOf_ok isPair with ⟨alone, rfl⟩ | ⟨partnerId, half, linked, rfl, partner⟩
  · refine ⟨tx, found, rfl, notReversal _, ?_, bankFirst_linesOf (ledgerFor_ok isBank), alone.symm, ?_⟩
    · rcases checkState_ok state with fresh | reopened
      · rw [fresh]
        intro entryId isEntry
        cases isEntry
      · exact unbooked_of_none (booked.carried found) reopened
    · intro partnerId isPartner
      cases isPartner
  · have isPartner := partner.isPartner
    refine ⟨tx, found, rfl, notReversal _, unbooked_of_none (booked.carried found) partner.unbooked,
      bankFirst_linesOf (ledgerFor_ok isBank), ?_, ?_⟩
    · rw [linked, ← isPartner]
      rfl
    · intro otherId isOther
      obtain rfl : half.partnerId = otherId := some.inj isOther
      rw [← isPartner] at linked partner
      refine otherHalf_of_checked booked found linked partner isBank transfer isSplit rfl rfl rfl ?_
      intro settles
      have transferred := (Bool.and_eq_true_iff.mp settles).1
      exact isNone_iff_eq_none.mp transferred

end Mhvp.Banking.Matching
