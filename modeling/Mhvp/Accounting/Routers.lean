import Mhvp.Accounting.Effects

namespace Mhvp.Accounting

open Core Lib.Calendar Lib.Table

/-- Body of a draft request. -/
structure JournalEntryIn where
  bookingDate : Date
  valueDate : Option Date := none
  dueDate : Option Date := none
  accrualDate : Option Date := none
  text : String
  kind : EntryKind
  reference : Option String := none
  contractId : Option ContractId := none
  lines : List LineIn
  settlements : List PlanIn := []
  idempotencyKey : Option String := none

/-- Header of a draft another service writes; none of them writes a reversal. -/
structure DraftIn extends EntryHeader where
  notReversal : kind ≠ .reversal

def JournalEntryIn.header (body : JournalEntryIn) (createdBy : Option UserId) (source : EntrySource)
    (idempotencyKey : Option String) : EntryHeader :=
  { body with createdBy, source, idempotencyKey }

/-- Drafts with the key of the request: a repeated request finds the first draft. -/
def sameRequest (books : Books) (ledgerId : LedgerId) (key : Option String) : Bool :=
  key.isSome && books.entries.any fun entry =>
    decide (entry.ledgerId = ledgerId) && decide (entry.idempotencyKey = key)

def createEntry (books : Books) (ledgerId : LedgerId) (body : JournalEntryIn) (userId : UserId) :
    Result Books := do
  require (body.kind ≠ .reversal) .validation
    (some "Stornos entstehen nur über die Stornofunktion.")
  let _ ← ledgerOf books ledgerId
  if sameRequest books ledgerId body.idempotencyKey then pure books
  else do
    let (_, next) ← writeDraft books ledgerId none
      (body.header (some userId) .manual body.idempotencyKey) none body.lines body.settlements
    pure next

/-- Replace a draft; a change voids the check of a second person. -/
def updateEntry (books : Books) (ledgerId : LedgerId) (entryId : EntryId) (body : JournalEntryIn) :
    Result Books := do
  let _ ← ledgerOf books ledgerId
  let entry ← entryOf books ledgerId entryId
  require (entry.status = .draft) .accPostedImmutable
  require (body.kind ≠ .reversal) .validation
    (some "Stornos entstehen nur über die Stornofunktion.")
  let (_, next) ← writeDraft books ledgerId (some entryId)
    (body.header entry.createdBy entry.source entry.idempotencyKey) none body.lines body.settlements
  pure next

/-- The check of an opening balance by another person than its author. -/
def approveEntry (books : Books) (ledgerId : LedgerId) (entryId : EntryId) (userId : UserId)
    (isPlatformAdmin : Bool) : Result Books := do
  let _ ← ledgerOf books ledgerId
  let entry ← entryOf books ledgerId entryId
  require (entry.status = .draft) .accPostedImmutable
  require (entry.createdBy ≠ some userId ∧ isPlatformAdmin = false) .gateFourEyes
    (some "Die Prüfung muss eine andere Person vornehmen.")
  pure { books with entries := books.entries.set entryId { entry with approvedBy := some userId } }

def reverseEntry (db : Db) (ledgerId : LedgerId) (entryId : EntryId) (userId : UserId)
    (reason : String) (bookingDate : Option Date) (reasonCode : ReversalReason) (today : Date) :
    Result (EntryId × Db) := do
  let ledger ← ledgerOf db.books ledgerId
  reverse db ledgerId entryId (some userId) reason
    (bookingDate.getD (defaultReversalDate ledger today)) reasonCode

/-- A new account; its number is unique in the ledger. -/
def createAccount (books : Books) (account : LedgerAccount) : Result Books := do
  let _ ← ledgerOf books account.ledgerId
  require (∀ row ∈ books.accounts, ¬ (row.ledgerId = account.ledgerId ∧ row.number = account.number))
    .conflict (some "Kontonummer bereits vergeben.")
  pure { books with accounts := books.accounts ++ [account] }

def setAccountActive (books : Books) (accountId : AccountId) (active : Bool) : Result Books := do
  let account ← orRefuse books.accounts[accountId]? .resourceNotFound
  pure { books with accounts := books.accounts.set accountId { account with active } }

inductive JournalCall
  | createEntry (ledgerId : LedgerId) (body : JournalEntryIn) (userId : UserId)
  | updateEntry (ledgerId : LedgerId) (entryId : EntryId) (body : JournalEntryIn)
  | writeDraft (ledgerId : LedgerId) (target : Option EntryId) (draft : DraftIn) (lines : List LineIn)
      (settlementPlan : List PlanIn)
  | approveEntry (ledgerId : LedgerId) (entryId : EntryId) (userId : UserId) (isPlatformAdmin : Bool)
  | postEntry (ledgerId : LedgerId) (entryId : EntryId) (userId : UserId)
  | reverseEntry (ledgerId : LedgerId) (entryId : EntryId) (userId : UserId) (reason : String)
      (bookingDate : Option Date) (reasonCode : ReversalReason) (today : Date)
  | lockPeriod (ledgerId : LedgerId) (last : Date)
  | createAccount (account : LedgerAccount)
  | setAccountActive (accountId : AccountId) (active : Bool)

/-- Serve one request. -/
def journalStep (db : Db) : JournalCall → Result Db
  | .createEntry ledgerId body userId => do
      let books ← createEntry db.books ledgerId body userId
      pure { db with books }
  | .updateEntry ledgerId entryId body => do
      let books ← updateEntry db.books ledgerId entryId body
      pure { db with books }
  | .writeDraft ledgerId target draft lines settlementPlan => do
      let (_, books) ← writeDraft db.books ledgerId target draft.toEntryHeader none lines settlementPlan
      pure { db with books }
  | .approveEntry ledgerId entryId userId isPlatformAdmin => do
      let books ← approveEntry db.books ledgerId entryId userId isPlatformAdmin
      pure { db with books }
  | .postEntry ledgerId entryId userId => do
      let books ← post db.books ledgerId entryId (some userId)
      pure { db with books }
  | .reverseEntry ledgerId entryId userId reason bookingDate reasonCode today => do
      let (_, next) ← reverseEntry db ledgerId entryId userId reason bookingDate reasonCode today
      pure next
  | .lockPeriod ledgerId last => do
      let (_, books) ← lockPeriod db.books ledgerId last
      pure { db with books }
  | .createAccount account => do
      let books ← createAccount db.books account
      pure { db with books }
  | .setAccountActive accountId active => do
      let books ← setAccountActive db.books accountId active
      pure { db with books }

/-- A request on the journal writes the books; only a reversal also writes payment orders. -/
theorem journalStep_frame (accepted : journalStep db call = .ok next) :
    next = { db with books := next.books, orders := next.orders, approvals := next.approvals } := by
  cases call with
  | reverseEntry ledgerId entryId userId reason bookingDate reasonCode today =>
    simp only [journalStep, reverseEntry, bind_ok, pure_ok] at accepted
    obtain ⟨⟨reversalId, result⟩, ⟨row, -, reversed⟩, rfl⟩ := accepted
    obtain ⟨entry, ledger, reversal, posting, orders, -, -, -, -, rfl⟩ := reverse_ok reversed
    rfl
  | createEntry | updateEntry | writeDraft | approveEntry | postEntry | lockPeriod | createAccount
  | setAccountActive =>
    simp only [journalStep, bind_ok, pure_ok] at accepted
    obtain ⟨result, -, rfl⟩ := accepted
    rfl

/-- The posted entries, in order. -/
def Books.postings (books : Books) : List JournalEntry := books.entries.filter fun entry => entry.isPosted

/-- A step that posts nothing and writes neither items nor settlements. -/
structure QuietStep (books next : Books) : Prop where
  step : LedgerStep books next
  postings : next.postings = books.postings
  openItems : next.openItems = books.openItems
  settlements : next.settlements = books.settlements

private theorem not_isPosted {entry : JournalEntry} (draft : entry.status = .draft) : decide entry.isPosted = false := by
  simp [JournalEntry.isPosted, draft]

theorem draft_step (notReversal : header.kind ≠ .reversal)
    (written : writeDraft books ledgerId target header none lines plan = .ok (entryId, next)) :
    QuietStep books next := by
  obtain ⟨entry, row, ⟨-, -, rfl⟩ | ⟨old, -, found, oldLedger, wasDraft, rfl⟩⟩ := writeDraft_ok written
  · exact ⟨.draft entry row.sound row.draft row.reverses row.unreversed (row.header ▸ notReversal),
      by simp [Books.postings, not_isPosted row.draft], rfl, rfl⟩
  · exact ⟨.redraft entryId old entry found wasDraft (fun _ => row.sound) row.draft row.reverses
      row.unreversed (row.header ▸ notReversal) (row.ledger.trans oldLedger.symm),
      filter_set_unselected found (not_isPosted wasDraft) (not_isPosted row.draft), rfl, rfl⟩

theorem approveEntry_step (approved : approveEntry books ledgerId entryId userId isPlatformAdmin = .ok next)
    (drafts : ∀ {entry : JournalEntry}, books.entries[entryId]? = some entry → entry.status = .draft →
      entry.reverses = none ∧ entry.reversedById = none) : QuietStep books next := by
  simp only [approveEntry, bind_ok, entryOf_ok, exists_unit, require_ok, pure_ok] at approved
  obtain ⟨-, -, entry, ⟨found, -⟩, draft, -, rfl⟩ := approved
  obtain ⟨original, unreversed⟩ := drafts found draft
  have kind : entry.kind ≠ .reversal := fun isReversal => by
    simpa [original] using entry.reversalRef isReversal
  exact ⟨.redraft entryId entry _ found draft (fun sound => ⟨sound.balanced, sound.accounts, sound.objects⟩)
    draft original unreversed kind rfl, filter_set_unselected found (not_isPosted draft) (not_isPosted draft),
    rfl, rfl⟩

private theorem master_accounts (books : Books) (accounts : List LedgerAccount)
    (keeps : ∀ (id : AccountId) (row : LedgerAccount), books.accounts[id]? = some row →
      ∃ active, accounts[id]? = some { row with active }) :
    QuietStep books { books with accounts } :=
  ⟨.master _ ⟨keeps, fun _ _ found => found, rfl, rfl, rfl, rfl, rfl⟩, rfl, rfl, rfl⟩

/-- What an accepted request on the journal did. -/
inductive JournalEffect (db : Db) (next : Db) : JournalCall → Prop
  | none (call : JournalCall) (same : next.books = db.books) : JournalEffect db next call
  | quiet (call : JournalCall) (step : QuietStep db.books next.books) : JournalEffect db next call
  | post (ledgerId : LedgerId) (entryId : EntryId) (userId : UserId) (entry : JournalEntry)
      (ledger : Ledger) (posting : Posting) (rows : List OpenItemSettlement)
      (posts : Posts db.books entryId entry ledger posting rows)
      (after : next.books = db.books.posted entryId entry posting rows) :
      JournalEffect db next (.postEntry ledgerId entryId userId)
  | reverse (ledgerId : LedgerId) (entryId : EntryId) (userId : UserId) (reason : String)
      (given : Option Date) (reasonCode : ReversalReason) (today : Date) (entry : JournalEntry)
      (ledger : Ledger) (reversal : JournalEntry) (posting : Posting)
      (found : db.books.ledgers[ledgerId]? = some ledger)
      (reverses : Reverses db.books entryId entry ledger
        (given.getD (defaultReversalDate ledger today)) reversal posting)
      (after : next.books = db.books.reversed entryId entry
        (given.getD (defaultReversalDate ledger today)) reversal posting) :
      JournalEffect db next (.reverseEntry ledgerId entryId userId reason given reasonCode today)

theorem journalStep_effect (accepted : journalStep db call = .ok next)
    (drafts : ∀ {id : EntryId} {entry : JournalEntry}, db.books.entries[id]? = some entry →
      entry.status = .draft → entry.reverses = none ∧ entry.reversedById = none) :
    JournalEffect db next call := by
  cases call with
  | createEntry ledgerId body userId =>
    simp only [journalStep, createEntry, bind_ok, exists_unit, require_ok, pure_ok] at accepted
    obtain ⟨books, ⟨notReversal, -, -, written⟩, rfl⟩ := accepted
    split at written
    · exact .none _ (pure_ok.mp written).symm
    · simp only [bind_ok, pure_ok] at written
      obtain ⟨⟨entryId, books'⟩, written, rfl⟩ := written
      exact .quiet _ (draft_step (by exact notReversal) written)
  | updateEntry ledgerId entryId body =>
    simp only [journalStep, updateEntry, bind_ok, exists_unit, require_ok, pure_ok] at accepted
    obtain ⟨books, ⟨-, -, entry, -, -, notReversal, ⟨place, books'⟩, written, rfl⟩, rfl⟩ := accepted
    exact .quiet _ (draft_step (by exact notReversal) written)
  | writeDraft ledgerId target draft lines plan =>
    simp only [journalStep, bind_ok, pure_ok] at accepted
    obtain ⟨⟨entryId, books⟩, written, rfl⟩ := accepted
    exact .quiet _ (draft_step draft.notReversal written)
  | approveEntry ledgerId entryId userId isPlatformAdmin =>
    simp only [journalStep, bind_ok, pure_ok] at accepted
    obtain ⟨books, approved, rfl⟩ := accepted
    exact .quiet _ (approveEntry_step approved drafts)
  | postEntry ledgerId entryId userId =>
    simp only [journalStep, bind_ok, pure_ok] at accepted
    obtain ⟨books, posted, rfl⟩ := accepted
    obtain ⟨entry, -, -, ⟨-, same⟩ | ⟨ledger, posting, rows, posts, rfl⟩⟩ := post_ok posted
    · exact .none _ same
    · exact .post ledgerId entryId userId entry ledger posting rows posts rfl
  | reverseEntry ledgerId entryId userId reason bookingDate reasonCode today =>
    simp only [journalStep, reverseEntry, bind_ok, ledgerOf_ok, pure_ok] at accepted
    obtain ⟨⟨reversalId, next⟩, ⟨row, foundRow, reversed⟩, rfl⟩ := accepted
    obtain ⟨entry, ledger, reversal, posting, orders, reverses, rfl, -, -, rfl⟩ := reverse_ok reversed
    obtain rfl : row = ledger := by simpa [foundRow] using reverses.ledgerFound
    exact .reverse entry.ledgerId entryId userId reason bookingDate reasonCode today entry row reversal
      posting foundRow reverses rfl
  | lockPeriod ledgerId last =>
    simp only [journalStep, bind_ok, pure_ok] at accepted
    obtain ⟨⟨count, books⟩, locked, rfl⟩ := accepted
    obtain ⟨ledger, found, forward, rfl⟩ := lockPeriod_ok locked
    exact .quiet _ ⟨.lock ledgerId ledger last found forward, rfl, rfl, rfl⟩
  | createAccount account =>
    simp only [journalStep, createAccount, bind_ok, exists_unit, require_ok, pure_ok] at accepted
    obtain ⟨books, ⟨-, -, -, rfl⟩, rfl⟩ := accepted
    exact .quiet _ (master_accounts _ _ fun id row found => ⟨row.active, found_append found⟩)
  | setAccountActive accountId active =>
    simp only [journalStep, setAccountActive, bind_ok, orRefuse_ok, pure_ok] at accepted
    obtain ⟨books, ⟨account, foundAccount, rfl⟩, rfl⟩ := accepted
    refine .quiet _ (master_accounts _ _ fun id row found => ?_)
    by_cases same : id = accountId
    · subst same
      obtain rfl : row = account := by simpa [found] using foundAccount
      exact ⟨active, (found_set found).mpr (Or.inl ⟨rfl, rfl⟩)⟩
    · exact ⟨row.active, (found_set foundAccount).mpr (Or.inr ⟨same, found⟩)⟩

/-- Every accepted request on the journal is a step of the books, or leaves them as they are. -/
theorem JournalEffect.step (effect : JournalEffect db next call) :
    next.books = db.books ∨ LedgerStep db.books next.books := by
  cases effect with
  | none call same => exact Or.inl same
  | quiet call step => exact Or.inr step.step
  | post ledgerId entryId userId entry ledger posting rows posts after =>
    exact Or.inr (after ▸ .post entryId entry ledger posting rows posts)
  | reverse ledgerId entryId userId reason given reasonCode today entry ledger reversal posting found
      reverses after =>
      exact Or.inr (after ▸ .reverse entryId entry ledger _ reversal posting reverses)

theorem journalStep_step (accepted : journalStep db call = .ok next)
    (drafts : ∀ {id : EntryId} {entry : JournalEntry}, db.books.entries[id]? = some entry →
      entry.status = .draft → entry.reverses = none ∧ entry.reversedById = none) :
    next.books = db.books ∨ LedgerStep db.books next.books :=
  (journalStep_effect accepted drafts).step

end Mhvp.Accounting
