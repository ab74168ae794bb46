import Mhvp.Accounting.Routers
import Mhvp.Lib.Locking

/-!
Write off of open items: proposal, decision by a second person, posting of an approved write off and its reversal.
-/

namespace Mhvp.Accounting

open Core Lib.Calendar

namespace WriteOffs

def idempotencyKey (writeOffId : WriteOffId) : String := s!"write_off:{writeOffId}"

/-- The entry that posted this write off, if any. -/
def postingEntry (books : Books) (writeOffId : WriteOffId) : Option (JournalEntry × EntryId) :=
  books.entries.zipIdx.find? fun found => found.1.idempotencyKey = some (idempotencyKey writeOffId)

/-- Account number set by the tenant; an empty number counts as none. -/
def counterNumber (settings : TenantSettings) : Option String :=
  settings.writeOffCounterAccount.filter (· ≠ "")

/-- Counter account in the ledger of the item; never a debtor or creditor account and never the
account of the item itself. -/
def counterAccount (books : Books) (item : OpenItem) (number : Option String) :
    Option (LedgerAccount × AccountId) := do
  let number ← number
  let found ← books.accounts.zipIdx.find? fun found =>
    found.1.ledgerId = item.ledgerId ∧ found.1.number = number
  if found.1.active ∧ found.2 ≠ item.accountId ∧
      found.1.category ∉ [AccountCategory.debtor, .creditor] then some found
  else none

/-- Proposal without any effect; amount is the rest of the item on the effective day. -/
def propose (db : Db) (openItemId : OpenItemId) (effectiveOn : Date) (reason : String)
    (documentId : Option DocumentId) (userId : Option UserId) (today : Date) : Result Db := do
  let item ← orRefuse db.books.openItems[openItemId]? .resourceNotFound
  require (userId.isSome) .writeOffNeedsPerson
  require (effectiveOn ≤ today) .validation (some "Das Datum liegt in der Zukunft.")
  require (item.bookingDate ≤ effectiveOn) .validation
    (some "Das Datum liegt vor der Entstehung des Postens.")
  require (item.kind = .receivable) .validation (some "Nur Forderungen können ausgebucht werden.")
  require (item.writtenOff = false) .conflict (some "Der Posten ist bereits ausgebucht.")
  require (∀ row ∈ db.writeOffs, ¬ (row.openItemId = openItemId ∧
    row.status ∈ [WriteOffStatus.proposed, .approved])) .conflict
    (some "Es liegt bereits ein Vorschlag vor.")
  let rest ← remaining db.books openItemId (some effectiveOn)
  if amountPositive : 0 < rest then do
    require (∀ document ∈ documentId, document ∈ db.documents) .resourceNotFound
      (some "Beleg nicht gefunden.")
    let row : OpenItemWriteOff :=
      { openItemId, effectiveOn, amount := rest, reason := strip reason, documentId,
        proposedBy := userId, amountPositive }
    pure { db with writeOffs := db.writeOffs ++ [row] }
  else .error { error := .conflict, detail := some "Der Posten ist zum Stichtag nicht mehr offen." }

inductive Decision
  | approve
  | reject
  deriving DecidableEq

/-- The period check of an approval: the object lock of the lines of the item's entry. -/
def ensureOpenForItem (books : Books) (item : OpenItem) (effectiveOn : Date) : Result Unit :=
  match books.ledgers[item.ledgerId]? with
  | some ledger =>
    let lines := ((books.entries[item.journalEntryId]?).map JournalEntry.lines).getD []
    PeriodLock.ensureOpenForEntry books item.ledgerId ledger lines effectiveOn
  | none => pure ()

/-- The item counts as written off from the effective day onwards. -/
def flagged (item : OpenItem) (effectiveOn : Date) : OpenItem :=
  { item with writtenOff := true, writtenOffOn := some effectiveOn }

/-- The books with one item flagged. -/
def flagItem (books : Books) (itemId : OpenItemId) (item : OpenItem) (effectiveOn : Date) : Books :=
  { books with openItems := books.openItems.set itemId (flagged item effectiveOn) }

def approve (db : Db) (writeOffId : WriteOffId) (row : OpenItemWriteOff) (item : OpenItem)
    (userId : UserId) (note : Option String) : Result Db := do
  require (row.proposedBy ≠ some userId) .conflict
    (some "Vier Augen: die vorschlagende Person kann nicht freigeben.")
  require (row.proposedBy.isSome) .writeOffNeedsPerson
  let current ← remaining db.books row.openItemId (some row.effectiveOn)
  let now := current.text
  let proposed := row.amount.text
  require (current = row.amount) .writeOffAmountChanged
    (some (s!"Restbetrag zum Stichtag jetzt {now}, im Vorschlag {proposed}; " ++
      "bitte ablehnen und neu vorschlagen."))
  ensureOpenForItem db.books item row.effectiveOn
  let books := flagItem db.books row.openItemId item row.effectiveOn
  let decided := { row with status := .approved, decidedBy := some userId, decisionNote := note }
  pure { db with books, writeOffs := db.writeOffs.set writeOffId decided }

/-- Reject is always possible; approve needs the switch, the gate, a second person and an open
period. -/
def decide (db : Db) (writeOffId : WriteOffId) (decision : Decision) (note : Option String)
    (userId : UserId) (gateOpen : Bool) : Result Db := do
  let row ← orRefuse db.writeOffs[writeOffId]? .resourceNotFound
  require (decision = .approve → db.settings.writeOffApprovalEnabled) .conflict
    (some ("Die Freigabe von Ausbuchungen ist für diesen Mandanten nicht eingeschaltet " ++
      "(offene Frage AN15-02); der Vorschlag bleibt ohne Wirkung."))
  require (decision = .approve → gateOpen) .releaseGateClosed
  require (row.status = .proposed) .conflict (some "Der Vorschlag ist bereits entschieden.")
  let item ← orRefuse db.books.openItems[row.openItemId]? .resourceNotFound
  match decision with
  | .approve => approve db writeOffId row item userId note
  | .reject =>
    let decided := { row with status := .rejected, decidedBy := some userId, decisionNote := note }
    pure { db with writeOffs := db.writeOffs.set writeOffId decided }

def postingHeader (row : OpenItemWriteOff) (writeOffId : WriteOffId) (item : OpenItem)
    (userId : UserId) : EntryHeader where
  createdBy := some userId
  bookingDate := row.effectiveOn
  accrualDate := some row.effectiveOn
  text := String.ofList (s!"Ausbuchung Forderung: {row.reason}".toList.take 500)
  kind := .custom
  reference := some s!"Ausbuchung {writeOffId}"
  contractId := item.contractId
  source := .manual
  idempotencyKey := some (idempotencyKey writeOffId)

def postingLines (row : OpenItemWriteOff) (item : OpenItem) (counterId : AccountId) : List LineIn :=
  [{ accountId := counterId, debit := row.amount, credit := 0, text := some "Ausbuchung Gegenkonto" },
   { accountId := item.accountId, debit := 0, credit := row.amount, text := some "Ausbuchung Forderung" }]

/-- Post an approved write off once; a repeated request finds the entry of the first. -/
def postWriteOff (db : Db) (writeOffId : WriteOffId) (expectedAmount : Decimal)
    (counterAccountId : AccountId) (userId : UserId) (gateOpen : Bool) : Result (EntryId × Db) := do
  require gateOpen .releaseGateClosed
  let row ← orRefuse db.writeOffs[writeOffId]? .resourceNotFound
  match postingEntry db.books writeOffId with
  | some existing => pure (existing.2, db)
  | none => do
      require (row.status = .approved) .writeOffPostingLocked (some "Nur freigegebene Ausbuchungen.")
      require db.settings.writeOffPosting .writeOffPostingLocked
        (some "Schalter accounting.write_off_posting ist aus (offene Frage AN15-02).")
      let item ← orRefuse db.books.openItems[row.openItemId]? .resourceNotFound
      let counter ← orRefuse (counterAccount db.books item (counterNumber db.settings))
        .writeOffPostingLocked (some "Kein gültiges Gegenkonto eingestellt (offene Frage AN15-02).")
      require (counter.2 = counterAccountId ∧ expectedAmount = row.amount) .writeOffPostingLocked
        (some "Betrag oder Gegenkonto weichen von der Buchungsvorschau ab.")
      let current ← remaining db.books row.openItemId none
      let now := current.text
      let planned := row.amount.text
      require (current = row.amount) .writeOffAmountChanged
        (some s!"Restbetrag jetzt {now}, ausgebucht {planned}.")
      let _ ← ledgerOf db.books item.ledgerId
      let (entryId, drafted) ← writeDraft db.books item.ledgerId none
        (postingHeader row writeOffId item userId) none (postingLines row item counter.2)
        [{ openItemId := row.openItemId, amount := row.amount }]
      let posted ← post drafted item.ledgerId entryId (some userId)
      pure (entryId, { db with books := posted })

/-- Reversal of the posting; the flag of the item stays. A repeated request finds the reversal. -/
def reverseWriteOffPosting (db : Db) (writeOffId : WriteOffId) (reason : String)
    (bookingDate : Option Date) (userId : UserId) (gateOpen : Bool) (today : Date) : Result Db := do
  require gateOpen .releaseGateClosed
  let _ ← orRefuse db.writeOffs[writeOffId]? .resourceNotFound
  match postingEntry db.books writeOffId with
  | none => .error { error := .conflict, detail := some "Die Ausbuchung ist nicht gebucht." }
  | some (entry, entryId) =>
    if entry.reversedById.isSome then pure db
    else do
      require entry.isPosted .conflict
      let (_, next) ← reverse db entry.ledgerId entryId (some userId) (strip reason)
        (bookingDate.getD today) .other
      pure next

end WriteOffs

/-- Requests on the journal and on the write offs of its items. -/
inductive WriteOffCall
  | journal (call : JournalCall)
  | propose (openItemId : OpenItemId) (effectiveOn : Date) (reason : String)
      (documentId : Option DocumentId) (userId : Option UserId) (today : Date)
  | decide (writeOffId : WriteOffId) (decision : WriteOffs.Decision) (note : Option String)
      (userId : UserId) (gateOpen : Bool)
  | post (writeOffId : WriteOffId) (expectedAmount : Decimal) (counterAccountId : AccountId)
      (userId : UserId) (gateOpen : Bool)
  | reversePosting (writeOffId : WriteOffId) (reason : String) (bookingDate : Option Date)
      (userId : UserId) (gateOpen : Bool) (today : Date)
  | putSettings (settings : TenantSettings)

/-- Serve one request. -/
def writeOffStep (db : Db) : WriteOffCall → Result Db
  | .journal call => journalStep db call
  | .propose openItemId effectiveOn reason documentId userId today =>
    WriteOffs.propose db openItemId effectiveOn reason documentId userId today
  | .decide writeOffId decision note userId gateOpen =>
    WriteOffs.decide db writeOffId decision note userId gateOpen
  | .post writeOffId expectedAmount counterAccountId userId gateOpen => do
      let (_, next) ← WriteOffs.postWriteOff db writeOffId expectedAmount counterAccountId userId gateOpen
      pure next
  | .reversePosting writeOffId reason bookingDate userId gateOpen today =>
    WriteOffs.reverseWriteOffPosting db writeOffId reason bookingDate userId gateOpen today
  | .putSettings settings => pure { db with settings }

open Lib.Locking

/-- Records of the audit trail on the posting of a write off. -/
inductive PostingRecord
  | posted (writeOffId : WriteOffId) (journalEntryId : EntryId) (amount : Decimal)
  | postingReversed (writeOffId : WriteOffId) (journalEntryId reversalId : EntryId)
  deriving DecidableEq

/-- The tables of a tenant and what the audit trail says of postings. -/
structure Audited where
  db : Db
  records : List PostingRecord := []

namespace WriteOffs

/-- The row a proposal inserts. -/
def readProposal (db : Db) (openItemId : OpenItemId) (effectiveOn : Date) (reason : String)
    (documentId : Option DocumentId) (userId : Option UserId) (today : Date) : Result OpenItemWriteOff := do
  let item ← orRefuse db.books.openItems[openItemId]? .resourceNotFound
  require (userId.isSome) .writeOffNeedsPerson
  require (effectiveOn ≤ today) .validation (some "Das Datum liegt in der Zukunft.")
  require (item.bookingDate ≤ effectiveOn) .validation
    (some "Das Datum liegt vor der Entstehung des Postens.")
  require (item.kind = .receivable) .validation (some "Nur Forderungen können ausgebucht werden.")
  require (item.writtenOff = false) .conflict (some "Der Posten ist bereits ausgebucht.")
  require (∀ row ∈ db.writeOffs, ¬ (row.openItemId = openItemId ∧
    row.status ∈ [WriteOffStatus.proposed, .approved])) .conflict
    (some "Es liegt bereits ein Vorschlag vor.")
  let rest ← remaining db.books openItemId (some effectiveOn)
  if amountPositive : 0 < rest then do
    require (∀ document ∈ documentId, document ∈ db.documents) .resourceNotFound
      (some "Beleg nicht gefunden.")
    pure { openItemId, effectiveOn, amount := rest, reason := strip reason, documentId, proposedBy := userId,
           amountPositive }
  else .error { error := .conflict, detail := some "Der Posten ist zum Stichtag nicht mehr offen." }

/-- The approved row. -/
def readApproval (books : Books) (row : OpenItemWriteOff) (item : OpenItem) (userId : UserId)
    (note : Option String) : Result OpenItemWriteOff := do
  require (row.proposedBy ≠ some userId) .conflict
    (some "Vier Augen: die vorschlagende Person kann nicht freigeben.")
  require (row.proposedBy.isSome) .writeOffNeedsPerson
  let current ← remaining books row.openItemId (some row.effectiveOn)
  let now := current.text
  let proposed := row.amount.text
  require (current = row.amount) .writeOffAmountChanged
    (some (s!"Restbetrag zum Stichtag jetzt {now}, im Vorschlag {proposed}; " ++
      "bitte ablehnen und neu vorschlagen."))
  ensureOpenForItem books item row.effectiveOn
  pure { row with status := .approved, decidedBy := some userId, decisionNote := note }

/-- The decided row, with the item an approval flags. -/
def readDecision (db : Db) (writeOffId : WriteOffId) (decision : Decision) (note : Option String)
    (userId : UserId) (gateOpen : Bool) : Result (OpenItemWriteOff × Option OpenItem) := do
  let row ← orRefuse db.writeOffs[writeOffId]? .resourceNotFound
  require (decision = .approve → db.settings.writeOffApprovalEnabled) .conflict
    (some ("Die Freigabe von Ausbuchungen ist für diesen Mandanten nicht eingeschaltet " ++
      "(offene Frage AN15-02); der Vorschlag bleibt ohne Wirkung."))
  require (decision = .approve → gateOpen) .releaseGateClosed
  require (row.status = .proposed) .conflict (some "Der Vorschlag ist bereits entschieden.")
  let item ← orRefuse db.books.openItems[row.openItemId]? .resourceNotFound
  match decision with
  | .approve => do
      let approved ← readApproval db.books row item userId note
      pure (approved, some item)
  | .reject => pure ({ row with status := .rejected, decidedBy := some userId, decisionNote := note }, none)

/-- What a posting is going to book. -/
structure Plan where
  row : OpenItemWriteOff
  item : OpenItem
  counterId : AccountId

/-- Nothing is left to book where an earlier request has booked. -/
def readPosting (db : Db) (writeOffId : WriteOffId) (expectedAmount : Decimal) (counterAccountId : AccountId)
    (gateOpen : Bool) : Result (Option Plan) := do
  require gateOpen .releaseGateClosed
  let row ← orRefuse db.writeOffs[writeOffId]? .resourceNotFound
  match postingEntry db.books writeOffId with
  | some _ => pure none
  | none => do
      require (row.status = .approved) .writeOffPostingLocked (some "Nur freigegebene Ausbuchungen.")
      require db.settings.writeOffPosting .writeOffPostingLocked
        (some "Schalter accounting.write_off_posting ist aus (offene Frage AN15-02).")
      let item ← orRefuse db.books.openItems[row.openItemId]? .resourceNotFound
      let counter ← orRefuse (counterAccount db.books item (counterNumber db.settings))
        .writeOffPostingLocked (some "Kein gültiges Gegenkonto eingestellt (offene Frage AN15-02).")
      require (counter.2 = counterAccountId ∧ expectedAmount = row.amount) .writeOffPostingLocked
        (some "Betrag oder Gegenkonto weichen von der Buchungsvorschau ab.")
      let current ← remaining db.books row.openItemId none
      let now := current.text
      let planned := row.amount.text
      require (current = row.amount) .writeOffAmountChanged
        (some s!"Restbetrag jetzt {now}, ausgebucht {planned}.")
      pure (some { row, item, counterId := counter.2 })

def bookPlan (books : Books) (writeOffId : WriteOffId) (plan : Plan) (userId : UserId) :
    Result (EntryId × Books) := do
  let _ ← ledgerOf books plan.item.ledgerId
  let (entryId, drafted) ← writeDraft books plan.item.ledgerId none
    (postingHeader plan.row writeOffId plan.item userId) none (postingLines plan.row plan.item plan.counterId)
    [{ openItemId := plan.row.openItemId, amount := plan.row.amount }]
  let posted ← post drafted plan.item.ledgerId entryId (some userId)
  pure (entryId, posted)

/-- The entry to reverse, or nothing where it is reversed. -/
def readReversal (db : Db) (writeOffId : WriteOffId) (gateOpen : Bool) :
    Result (Option (LedgerId × EntryId)) := do
  require gateOpen .releaseGateClosed
  let _ ← orRefuse db.writeOffs[writeOffId]? .resourceNotFound
  match postingEntry db.books writeOffId with
  | none => .error { error := .conflict, detail := some "Die Ausbuchung ist nicht gebucht." }
  | some (entry, entryId) =>
    if entry.reversedById.isSome then pure none
    else do
      require entry.isPosted .conflict
      pure (some (entry.ledgerId, entryId))

/-- What a request decided to write. -/
inductive Work
  | journal (call : JournalCall)
  | insert (row : OpenItemWriteOff)
  | decide (writeOffId : WriteOffId) (decided : OpenItemWriteOff) (flags : Option OpenItem)
  | post (writeOffId : WriteOffId) (plan : Plan) (userId : UserId)
  | reverse (writeOffId : WriteOffId) (ledgerId : LedgerId) (entryId : EntryId) (reason : String)
      (bookingDate : Date) (userId : UserId)
  /-- An earlier request did what this one asks for. -/
  | repeated (writeOffId : WriteOffId)
  | putSettings (settings : TenantSettings)

inductive Row
  | writeOff (writeOffId : WriteOffId)
  | item (itemId : OpenItemId)
  | settings
  deriving DecidableEq

def readWork (state : Audited) : WriteOffCall → Result Work
  | .journal call => pure (.journal call)
  | .propose openItemId effectiveOn reason documentId userId today => do
      let row ← readProposal state.db openItemId effectiveOn reason documentId userId today
      pure (.insert row)
  | .decide writeOffId decision note userId gateOpen => do
      let (decided, flags) ← readDecision state.db writeOffId decision note userId gateOpen
      pure (.decide writeOffId decided flags)
  | .post writeOffId expectedAmount counterAccountId userId gateOpen => do
      match ← readPosting state.db writeOffId expectedAmount counterAccountId gateOpen with
      | none => pure (.repeated writeOffId)
      | some plan => pure (.post writeOffId plan userId)
  | .reversePosting writeOffId reason bookingDate userId gateOpen today => do
      match ← readReversal state.db writeOffId gateOpen with
      | none => pure (.repeated writeOffId)
      | some (ledgerId, entryId) =>
        pure (.reverse writeOffId ledgerId entryId reason (bookingDate.getD today) userId)
  | .putSettings settings => pure (.putSettings settings)

/-- Rows locked before the request reads them. -/
def lockedRows : Work → List Row
  | .journal _ => []
  | .insert row => [.item row.openItemId]
  | .decide writeOffId decided _ => [.writeOff writeOffId, .item decided.openItemId]
  | .post writeOffId plan _ => [.writeOff writeOffId, .item plan.row.openItemId]
  | .reverse writeOffId _ _ _ _ _ => [.writeOff writeOffId]
  | .repeated writeOffId => [.writeOff writeOffId]
  | .putSettings _ => [.settings]

/-- The books after a decision. -/
def decideItem (books : Books) (decided : OpenItemWriteOff) : Option OpenItem → Books
  | some item => flagItem books decided.openItemId item decided.effectiveOn
  | none => books

def writeWork (state : Audited) : Work → Result Audited
  | .journal call => do
      let db ← journalStep state.db call
      pure { state with db }
  | .insert row => pure { state with db := { state.db with writeOffs := state.db.writeOffs ++ [row] } }
  | .decide writeOffId decided flags =>
    pure { state with db := { state.db with
      books := decideItem state.db.books decided flags
      writeOffs := state.db.writeOffs.set writeOffId decided } }
  | .post writeOffId plan userId => do
      let (entryId, books) ← bookPlan state.db.books writeOffId plan userId
      pure { db := { state.db with books }
             records := state.records ++ [.posted writeOffId entryId plan.row.amount] }
  | .reverse writeOffId ledgerId entryId reason bookingDate userId => do
      let (reversalId, db) ← Accounting.reverse state.db ledgerId entryId (some userId) (strip reason) bookingDate .other
      pure { db, records := state.records ++ [.postingReversed writeOffId entryId reversalId] }
  | .repeated _ => pure state
  | .putSettings settings => pure { state with db := { state.db with settings } }

/-- The settlements one set of books has more than another. -/
def addedSettlements (books next : Books) : List OpenItemSettlement :=
  next.settlements.drop books.settlements.length

/-- The items of the settlements a request writes. -/
def settledRows (state : Audited) (work : Work) : List Row :=
  match writeWork state work with
  | .ok next => (addedSettlements state.db.books next.db.books).map fun row => .item row.openItemId
  | .error _ => []

def writeOffProtocol : LateProtocol Audited WriteOffCall Work Row ProblemError where
  read := readWork
  locks := lockedRows
  write := writeWork
  reaches := settledRows

theorem propose_eq : propose db openItemId effectiveOn reason documentId userId today = (do
    let row ← readProposal db openItemId effectiveOn reason documentId userId today
    pure { db with writeOffs := db.writeOffs ++ [row] }) := by
  simp only [propose, readProposal, bind_assoc]
  repeat refine bind_congr fun _ => ?_
  split
  · simp only [bind_assoc, pure_bind]
  · rfl

theorem decide_eq : decide db writeOffId decision note userId gateOpen = (do
    let (decided, flags) ← readDecision db writeOffId decision note userId gateOpen
    pure { db with
      books := decideItem db.books decided flags
      writeOffs := db.writeOffs.set writeOffId decided }) := by
  simp only [decide, readDecision, bind_assoc]
  repeat refine bind_congr fun _ => ?_
  cases decision with
  | approve =>
    simp only [approve, readApproval, bind_assoc, pure_bind]
    repeat refine bind_congr fun _ => ?_
    rfl
  | reject => rfl

theorem postWriteOff_eq : (do
    let (_, next) ← postWriteOff db writeOffId expectedAmount counterAccountId userId gateOpen
    pure next) = (do
    match ← readPosting db writeOffId expectedAmount counterAccountId gateOpen with
    | none => pure db
    | some plan => do
        let (_, books) ← bookPlan db.books writeOffId plan userId
        pure { db with books }) := by
  simp only [postWriteOff, readPosting, bind_assoc]
  repeat refine bind_congr fun _ => ?_
  cases postingEntry db.books writeOffId with
  | some existing => rfl
  | none =>
    simp only [bookPlan, bind_assoc, pure_bind]

theorem reverseWriteOffPosting_eq : reverseWriteOffPosting db writeOffId reason bookingDate userId gateOpen today = (do
    match ← readReversal db writeOffId gateOpen with
    | none => pure db
    | some (ledgerId, entryId) => do
        let (_, next) ← Accounting.reverse db ledgerId entryId (some userId) (strip reason)
          (bookingDate.getD today) .other
        pure next) := by
  simp only [reverseWriteOffPosting, readReversal, bind_assoc]
  repeat refine bind_congr fun _ => ?_
  cases postingEntry db.books writeOffId with
  | none => rfl
  | some found =>
    by_cases reversed : found.1.reversedById.isSome
    · simp [reversed]
    · simp [reversed]

theorem writeOffProtocol_serve (state : Audited) (call : WriteOffCall) :
    (writeOffProtocol.serve state call).map Audited.db = writeOffStep state.db call := by
  cases call with
  | journal call =>
    change (journalStep state.db call >>= fun db => pure { state with db }).map Audited.db = journalStep state.db call
    cases journalStep state.db call <;> rfl
  | propose openItemId effectiveOn reason documentId userId today =>
    simp only [Protocol.serve, writeOffProtocol, readWork, writeOffStep, propose_eq]
    cases readProposal state.db openItemId effectiveOn reason documentId userId today <;> rfl
  | decide writeOffId decision note userId gateOpen =>
    simp only [Protocol.serve, writeOffProtocol, readWork, writeOffStep, decide_eq]
    cases readDecision state.db writeOffId decision note userId gateOpen <;> rfl
  | post writeOffId expectedAmount counterAccountId userId gateOpen =>
    simp only [Protocol.serve, writeOffProtocol, readWork, writeOffStep, postWriteOff_eq]
    cases readPosting state.db writeOffId expectedAmount counterAccountId gateOpen with
    | error reason => rfl
    | ok answer =>
      cases answer with
      | none => rfl
      | some plan =>
        change ((bookPlan state.db.books writeOffId plan userId >>= fun booked => pure
          { db := { state.db with books := booked.2 }
            records := state.records ++ [.posted writeOffId booked.1 plan.row.amount] }).map Audited.db) =
          (bookPlan state.db.books writeOffId plan userId >>= fun booked =>
            pure { state.db with books := booked.2 })
        cases bookPlan state.db.books writeOffId plan userId <;> rfl
  | reversePosting writeOffId reason bookingDate userId gateOpen today =>
    simp only [Protocol.serve, writeOffProtocol, readWork, writeOffStep, reverseWriteOffPosting_eq]
    cases readReversal state.db writeOffId gateOpen with
    | error reason => rfl
    | ok answer =>
      cases answer with
      | none => rfl
      | some found =>
        change ((Accounting.reverse state.db found.1 found.2 (some userId) (strip reason)
          (bookingDate.getD today) .other >>= fun reversed => pure
          { db := reversed.2
            records := state.records ++ [.postingReversed writeOffId found.2 reversed.1] }).map Audited.db) =
          (Accounting.reverse state.db found.1 found.2 (some userId) (strip reason)
            (bookingDate.getD today) .other >>= fun reversed => pure reversed.2)
        cases Accounting.reverse state.db found.1 found.2 (some userId) (strip reason)
          (bookingDate.getD today) .other <;> rfl
  | putSettings settings => rfl

end WriteOffs

end Mhvp.Accounting
