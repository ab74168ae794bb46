import Mhvp.Banking.Levels
import Mhvp.Lib.Sessions

namespace Mhvp.Banking.Review

open Core Accounting Lib.Sessions Levels

abbrev ReviewId := ℕ

inductive ReviewStatus
  | isOpen
  | ok
  | corrected
  | cancelled
  deriving DecidableEq

inductive ReviewKind
  | daily
  | sample
  | isReturn

structure AutoPostingReview where
  bankTransactionId : BankTransactionId
  journalEntryId : Option EntryId
  kind : ReviewKind
  status : ReviewStatus := .isOpen
  note : Option String := none
  reviewedBy : Option UserId := none
  returnTransactionId : Option BankTransactionId := none

/-- The columns of a journal entry the review reads and writes. -/
structure JournalEntry where
  autoReviewPending : Bool := false
  reversed : Bool := false

structure ReviewState where
  entries : List JournalEntry
  reviews : List AutoPostingReview

/-- The open items on an entry. -/
def openIds (reviews : List AutoPostingReview) (entryId : EntryId) : List ReviewId :=
  (List.range reviews.length).filter fun id =>
    ∃ review ∈ reviews[id]?, review.status = .isOpen ∧ review.journalEntryId = some entryId

/-- `SAMPLED_CLASSES` -/
def sampledClasses : List CaseClass := [.debtorFull, .transferPair]

/-- Kind of the review of an automatic posting; none at L3 outside the sample. -/
def reviewKind (level : Level) (caseKind : CaseClass) (sampled : Bool) : Option ReviewKind :=
  if level = .l3 ∧ caseKind ∈ sampledClasses then
    if sampled then some .sample else none
  else some .daily

/-- A movement the runner posted: where and under which level. -/
structure Posted where
  bankTransactionId : BankTransactionId
  level : Level
  caseKind : CaseClass
  sampled : Bool

def Posted.due (posted : Posted) : Option ReviewKind := reviewKind posted.level posted.caseKind posted.sampled

/-- The entry of a posting and its review. -/
def ReviewState.post (state : ReviewState) (posted : Posted) : ReviewState :=
  { entries := state.entries ++ [{ autoReviewPending := posted.due.isSome }]
    reviews := state.reviews ++ posted.due.toList.map fun kind =>
      { bankTransactionId := posted.bankTransactionId, journalEntryId := some state.entries.length, kind } }

/-- Outcome of an item with note and person. -/
structure Closure where
  itemId : ReviewId
  outcome : ReviewStatus
  note : Option String
  userId : Option UserId

/-- What `_release_entry` read: whether another item of the entry was open, and the flag of the loaded entry. -/
structure Look where
  entryId : EntryId
  stillOpen : Bool
  pending : Bool

/-- A transaction that closes items: a decision, a correction or the event consumer. -/
structure Closing where
  /-- Entries as they were loaded; `session.get` keeps what it has. -/
  loaded : EntryId → Option JournalEntry := fun _ => none
  reversed : List EntryId := []
  /-- Items `close_for_entry` found and has not locked yet. -/
  found : List ReviewId := []
  /-- Items locked and not closed yet. -/
  toClose : List Closure := []
  closed : List Closure := []
  looks : List Look := []

namespace Closing

def closedIds (session : Closing) : List ReviewId := session.closed.map Closure.itemId

/-- `entry.auto_review_pending = False` was written. -/
def Clears (session : Closing) (entryId : EntryId) : Prop :=
  ∃ look ∈ session.looks, look.entryId = entryId ∧ look.stillOpen = false ∧ look.pending = true

instance : Decidable (Clears session entryId) := by unfold Clears; infer_instance

/-- The entry as the transaction would load it now, its own writes included. -/
def view (state : ReviewState) (session : Closing) (entryId : EntryId) : Option JournalEntry :=
  state.entries[entryId]?.map fun entry =>
    { autoReviewPending := entry.autoReviewPending && !decide (session.Clears entryId)
      reversed := entry.reversed || decide (entryId ∈ session.reversed) }

/-- `session.get(JournalEntry, …)` -/
def get (state : ReviewState) (session : Closing) (entryId : EntryId) : Option JournalEntry :=
  (session.loaded entryId).or (session.view state entryId)

def load (state : ReviewState) (session : Closing) (entryId : EntryId) : Closing :=
  { session with loaded := Function.update session.loaded entryId (session.get state entryId) }

/-- The transaction drops what it loaded, as after a rollback to a savepoint. -/
def expire (session : Closing) (entryId : EntryId) : Closing :=
  { session with loaded := Function.update session.loaded entryId none }

/-- What `acc.reverse` does to the reversed entry. -/
def reverse (state : ReviewState) (session : Closing) (entryId : EntryId) : Result Closing := do
  let entry ← orRefuse (session.get state entryId) .resourceNotFound
  require (entry.reversed = false) .conflict (some "Der Satz ist bereits storniert oder selbst ein Storno.")
  pure { session with
    loaded := Function.update session.loaded entryId (some { entry with reversed := true })
    reversed := session.reversed ++ [entryId] }

/-- `decide` up to the closing of the locked item. -/
def decide (state : ReviewState) (session : Closing) (itemId : ReviewId) (outcome : ReviewStatus) (note : Option String)
    (userId : Option UserId) : Result Closing := do
  let row ← orRefuse state.reviews[itemId]? .resourceNotFound
  require (row.status = .isOpen ∧ itemId ∉ session.closedIds) .conflict
    (some "Die Nachkontrolle ist bereits abgeschlossen.")
  require (outcome ∈ [ReviewStatus.ok, .corrected, .cancelled]) .validation (some "Unbekanntes Ergebnis.")
  let reversed := (row.journalEntryId.bind (session.get state)).any JournalEntry.reversed
  require (outcome = .ok → reversed = false) .conflict
    (some "Die Buchung wurde storniert; Ergebnis ok ist nicht möglich.")
  require (outcome ≠ .ok → reversed = true) .conflict
    (some "Korrigiert oder aufgehoben setzt einen Storno voraus (Korrigieren nutzen).")
  let loaded := row.journalEntryId.elim session (session.load state)
  pure { loaded with toClose := [{ itemId, outcome, note, userId }] }

/-- The items `close_for_entry` selects. -/
def findOpen (state : ReviewState) (session : Closing) (entryId : EntryId) : Closing :=
  { session with found := openIds state.reviews entryId }

/-- The found items are locked, those still open are closed with the outcome. -/
def closeForEntry (state : ReviewState) (session : Closing) (outcome : ReviewStatus) (note : Option String)
    (userId : Option UserId) : Closing :=
  let rows := session.found.filter fun id =>
    (∃ review ∈ state.reviews[id]?, review.status = .isOpen) ∧ id ∉ session.closedIds
  { session with found := [], toClose := rows.map fun itemId => { itemId, outcome, note, userId } }

/-- `_release_entry` -/
def releaseEntry (state : ReviewState) (session : Closing) (itemId : ReviewId) (entryId : EntryId) : Closing :=
  if ∃ other ∈ openIds state.reviews entryId, other ∉ session.closedIds ∧ other ≠ itemId then
    { session with looks := session.looks ++ [⟨entryId, true, false⟩] }
  else
    match session.get state entryId with
    | none => session
    | some entry =>
      { session with
        loaded := Function.update session.loaded entryId (some { entry with autoReviewPending := false })
        looks := session.looks ++ [⟨entryId, false, entry.autoReviewPending⟩] }

/-- The next locked item is closed and its entry released. -/
def release (state : ReviewState) (session : Closing) : Closing :=
  match session.toClose with
  | [] => session
  | closure :: rest =>
    let after := { session with toClose := rest, closed := session.closed ++ [closure] }
    match state.reviews[closure.itemId]?.bind AutoPostingReview.journalEntryId with
    | none => after
    | some entryId => after.releaseEntry state closure.itemId entryId

end Closing

/-- Steps of a transaction that closes items; `correct` and the consumer call `close_for_entry`. -/
inductive ClosingOp
  | load (entryId : EntryId)
  | expire (entryId : EntryId)
  | reverse (entryId : EntryId)
  | decide (itemId : ReviewId) (outcome : ReviewStatus) (note : Option String) (userId : Option UserId)
  | findOpen (entryId : EntryId)
  | correct (note : Option String) (userId : Option UserId)
  | cancel (note : Option String) (userId : Option UserId)

def Closing.begin (state : ReviewState) (session : Closing) : ClosingOp → Result Closing
  | .load entryId => pure (session.load state entryId)
  | .expire entryId => pure (session.expire entryId)
  | .reverse entryId => session.reverse state entryId
  | .decide itemId outcome note userId => session.decide state itemId outcome note userId
  | .findOpen entryId => pure (session.findOpen state entryId)
  | .correct note userId => pure (session.closeForEntry state .corrected note userId)
  | .cancel note userId => pure (session.closeForEntry state .cancelled note userId)

def Closure.close (closure : Closure) (review : AutoPostingReview) : AutoPostingReview :=
  { review with status := closure.outcome, note := closure.note, reviewedBy := closure.userId }

/-- The commit of a closing; an entry is reversed once by a unique index. -/
def Closing.commit (state : ReviewState) (session : Closing) : Result ReviewState := do
  require (∀ entryId ∈ session.reversed, ∀ entry ∈ state.entries[entryId]?, entry.reversed = false) .databaseRefused
  pure {
    entries := state.entries.mapIdx fun entryId entry =>
      { autoReviewPending := entry.autoReviewPending && !Decidable.decide (session.Clears entryId)
        reversed := entry.reversed || Decidable.decide (entryId ∈ session.reversed) }
    reviews := state.reviews.mapIdx fun id review =>
      ((session.closed.find? fun closure => closure.itemId = id).map fun closure => closure.close review).getD review }

/-- A review of kind return, and the flag of the entry as it was loaded. -/
structure Registered where
  returnTransactionId : BankTransactionId
  bankTransactionId : BankTransactionId
  entryId : EntryId
  pending : Bool

/-- The transaction of `register_returns`. -/
structure Returns where
  loaded : EntryId → Option JournalEntry := fun _ => none
  /-- A return that has no review yet, with its original movement and entry. -/
  found : Option (BankTransactionId × BankTransactionId × EntryId) := none
  registered : List Registered := []

namespace Returns

/-- `entry.auto_review_pending = True` was written. -/
def Raises (session : Returns) (entryId : EntryId) : Prop :=
  ∃ row ∈ session.registered, row.entryId = entryId ∧ row.pending = false

instance : Decidable (Raises session entryId) := by unfold Raises; infer_instance

def view (state : ReviewState) (session : Returns) (entryId : EntryId) : Option JournalEntry :=
  state.entries[entryId]?.map fun entry =>
    { entry with autoReviewPending := entry.autoReviewPending || decide (session.Raises entryId) }

def get (state : ReviewState) (session : Returns) (entryId : EntryId) : Option JournalEntry :=
  (session.loaded entryId).or (session.view state entryId)

def load (state : ReviewState) (session : Returns) (entryId : EntryId) : Returns :=
  { session with loaded := Function.update session.loaded entryId (session.get state entryId) }

/-- A return without a review; which posting it returns is found among the movements. -/
def findReturn (state : ReviewState) (session : Returns) (returnId originalId : BankTransactionId) (entryId : EntryId) :
    Returns :=
  if (∃ review ∈ state.reviews, review.returnTransactionId = some returnId) ∨
      ∃ row ∈ session.registered, row.returnTransactionId = returnId then
    { session with found := none }
  else { session with found := some (returnId, originalId, entryId) }

/-- The review of the found return, unless its posting is reversed. -/
def register (state : ReviewState) (session : Returns) : Returns :=
  match session.found with
  | none => session
  | some (returnId, originalId, entryId) =>
    match session.get state entryId with
    | none => { session with found := none }
    | some entry =>
      if entry.reversed then { session with found := none }
      else
        { loaded := Function.update session.loaded entryId (some { entry with autoReviewPending := true })
          found := none
          registered := session.registered ++ [⟨returnId, originalId, entryId, entry.autoReviewPending⟩] }

def commit (state : ReviewState) (session : Returns) : ReviewState :=
  { entries := state.entries.mapIdx fun entryId entry =>
      { entry with autoReviewPending := entry.autoReviewPending || decide (session.Raises entryId) }
    reviews := state.reviews ++ session.registered.map fun row =>
      { bankTransactionId := row.bankTransactionId, journalEntryId := some row.entryId, kind := .isReturn
        returnTransactionId := some row.returnTransactionId } }

end Returns

inductive Task
  | run
  | close
  | returns

/-- A transaction of the runner, of a closing or of the returns. -/
inductive Session
  | run (posted : List Posted)
  | close (session : Closing)
  | returns (session : Returns)

inductive Op
  | post (posted : Posted)
  | close (op : ClosingOp)
  | release
  | load (entryId : EntryId)
  | findReturn (returnId originalId : BankTransactionId) (entryId : EntryId)
  | register

def opened : Task → Session
  | .run => .run []
  | .close => .close {}
  | .returns => .returns {}

/-- One step of a transaction; a locked item is closed before anything else is done. -/
def work (state : ReviewState) : Session → Op → Result Session
  | .run posted, .post next => pure (.run (posted ++ [next]))
  | .close session, .close op => do
      require (session.toClose = []) .internal
      let next ← session.begin state op
      pure (.close next)
  | .close session, .release => pure (.close (session.release state))
  | .returns session, .load entryId => pure (.returns (session.load state entryId))
  | .returns session, .findReturn returnId originalId entryId =>
    pure (.returns (session.findReturn state returnId originalId entryId))
  | .returns session, .register => pure (.returns (session.register state))
  | _, _ => throw { error := .internal }

/-- The items a transaction holds. Writers of one entry wait for each other; they may commit in any order here. -/
def locks : Session → List ReviewId
  | .close session => (session.closed ++ session.toClose).map Closure.itemId
  | _ => []

def commit (state : ReviewState) : Session → Result ReviewState
  | .run posted => pure (posted.foldl ReviewState.post state)
  | .close session => do
      require (session.toClose = []) .internal
      session.commit state
  | .returns session => pure (session.commit state)

def engine : Engine ReviewState Task Session Op ReviewId ProblemError where
  opened := opened
  work := work
  locks := locks
  commit := commit

end Mhvp.Banking.Review
