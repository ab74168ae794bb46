import Mhvp.Accounting.PaymentModels
import Mhvp.Lib.Table

namespace Mhvp.Billing

open Core

def StatementStatus.value : StatementStatus → String
  | .draft => "draft"
  | .calculated => "calculated"
  | .internallyApproved => "internally_approved"
  | .boardReviewed => "board_reviewed"
  | .resolved => "resolved"
  | .issued => "issued"
  | .due => "due"
  | .posted => "posted"
  | .locked => "locked"

inductive ResolutionStatus
  | positive
  | negative
  | final
  | contested
  | annulled
  | legallyBinding
  | deleted
  | irrelevant
  | void
  deriving DecidableEq

def resolutionStatusesForPosting : List ResolutionStatus := [.positive, .final, .legallyBinding]

/-- `_NEXT` -/
def StatementStatus.next : StatementStatus → List StatementStatus
  | .draft => [.calculated]
  | .calculated => [.internallyApproved]
  | .internallyApproved => [.boardReviewed, .resolved, .issued]
  | .boardReviewed => [.resolved, .issued]
  | .resolved => [.issued]
  | .issued => [.due]
  | .due => [.posted]
  | .posted => [.locked]
  | .locked => []

theorem StatementStatus.draft_not_next (current : StatementStatus) : .draft ∉ current.next := by
  cases current <;> decide

/-- The reason of a `TransitionError`, unless the transition is allowed. -/
def checkTransition (current target : StatementStatus) (isHoa : Bool)
    (resolutionStatus : Option ResolutionStatus) (resolutionSnapshotMatches : Bool) : Option String :=
  if target ∉ current.next then
    let rule := if isHoa ∧ target = .posted then "D13, 6.9.3" else "6.9.3"
    some (current.value ++ " -> " ++ target.value ++ " is not allowed (" ++ rule ++ ")")
  else if isHoa then
    if target = .issued ∧ current ≠ .resolved then
      some "WEG statements are issued as result only after the resolution (W06)"
    else if target = .resolved ∧ !resolutionSnapshotMatches then
      some "the resolution must refer to this snapshot version (D14)"
    else if target = .posted ∧ (∀ status ∈ resolutionStatus, status ∉ resolutionStatusesForPosting) then
      some "posting needs a positive, final or legally binding resolution (D13)"
    else none
  else if target = .resolved then some "only WEG statements are resolved by the owners (6.9.3)"
  else none

/-- A `TransitionError` becomes a conflict. -/
def permit (reason : Option String) : Result Unit :=
  match reason with
  | none => .ok ()
  | some detail => .error { error := .conflict, detail := some detail }

@[simp] theorem permit_ok : permit reason = .ok result ↔ reason = none := by
  cases reason <;> simp [permit]

theorem checkTransition_next (allowed : checkTransition current target isHoa status matching = none) :
    target ∈ current.next := by
  by_contra outside
  simp [checkTransition, outside] at allowed

/-- Where a community may move to, and what it needs there. -/
structure HoaAllowed (current target : StatementStatus) (status : Option ResolutionStatus) (matching : Bool) : Prop where
  next : target ∈ current.next
  issued : target = .issued → current = .resolved
  resolved : target = .resolved → matching = true
  posted : target = .posted → ∃ held ∈ status, held ∈ resolutionStatusesForPosting

theorem checkTransition_hoa :
    checkTransition current target true status matching = none ↔ HoaAllowed current target status matching := by
  constructor
  · intro allowed
    have next := checkTransition_next allowed
    simp only [checkTransition, next, not_true_eq_false, if_false, if_true] at allowed
    split at allowed
    · cases allowed
    · rename_i issued
      split at allowed
      · cases allowed
      · rename_i resolved
        split at allowed
        · cases allowed
        · rename_i posted
          refine ⟨next, ?_, ?_, ?_⟩
          · intro isIssued
            by_contra other
            exact issued ⟨isIssued, other⟩
          · intro isResolved
            cases matching with
            | true => rfl
            | false => exact absurd ⟨isResolved, rfl⟩ resolved
          · intro isPosted
            by_contra unbound
            apply posted
            refine ⟨isPosted, ?_⟩
            intro held isHeld isBinding
            exact unbound ⟨held, isHeld, isBinding⟩
  · rintro ⟨next, issued, resolved, posted⟩
    have notIssued : ¬ (target = .issued ∧ current ≠ .resolved) := fun both => both.2 (issued both.1)
    have notResolved : ¬ (target = .resolved ∧ (!matching) = true) := by
      rintro ⟨isResolved, unmatched⟩
      simp [resolved isResolved] at unmatched
    have notPosted : ¬ (target = .posted ∧ ∀ held ∈ status, held ∉ resolutionStatusesForPosting) := by
      rintro ⟨isPosted, unbound⟩
      obtain ⟨held, isHeld, isBinding⟩ := posted isPosted
      exact unbound held isHeld isBinding
    simp only [checkTransition, next, not_true_eq_false, if_false, if_true, notIssued, notResolved, notPosted]

open Accounting Lib Lib.Calendar

abbrev StatementId := ℕ

/-- `idempotency_key` -/
inductive ResultKey
  | rentStatement (statementId : StatementId) (contractId : ContractId)
  | rentStatementOffset (statementId : StatementId) (contractId : ContractId)
  | hoaStatement (statementId : StatementId) (unitId : UnitId)
  deriving DecidableEq

/-- `amount` is the debit of the debtor, negative for a credit. -/
structure ResultEntry where
  ledgerId : LedgerId
  bookingDate : Date
  dueDate : Option Date := none
  accrualDate : Date
  text : String
  contractId : ContractId
  idempotencyKey : ResultKey
  debtor : AccountId
  amount : Decimal
  posted : Bool := false
  reversed : Bool := false

abbrev ResultEntries := List (Option ResultEntry)

/-- `session.get(JournalEntry, entry_id)` -/
def storedEntry (entries : ResultEntries) (entryId : EntryId) : Option ResultEntry := entries[entryId]?.join

/-- Drafts, and what is posted and not reversed. -/
def ResultEntry.InForce (entry : ResultEntry) : Prop := entry.reversed = false

instance : DecidablePred ResultEntry.InForce := fun _ => by unfold ResultEntry.InForce; infer_instance

/-- Some entry of the ledger has the key, whatever became of it. -/
def Keyed (entries : ResultEntries) (ledgerId : LedgerId) (key : ResultKey) : Prop :=
  ∃ row ∈ entries, ∃ entry ∈ row, entry.ledgerId = ledgerId ∧ entry.idempotencyKey = key

instance : Decidable (Keyed entries ledgerId key) := by unfold Keyed; infer_instance

def foundEntry (entries : ResultEntries) (entryId : EntryId) : Result ResultEntry :=
  orRefuse (storedEntry entries entryId) .resourceNotFound

/-- `post`, where accounting accepts it. -/
def postEntry (entries : ResultEntries) (entryId : EntryId) : Result ResultEntries := do
  let entry ← foundEntry entries entryId
  require (entry.posted = false) .accPostedImmutable
  pure (entries.set entryId (some { entry with posted := true }))

/-- `reverse`, where accounting accepts it. -/
def reverseEntry (entries : ResultEntries) (entryId : EntryId) : Result ResultEntries := do
  let entry ← foundEntry entries entryId
  require (entry.posted = true) .conflict (some "Nur gebuchte Sätze können storniert werden.")
  require (entry.reversed = false) .conflict (some "Der Satz ist bereits storniert oder selbst ein Storno.")
  pure (entries.set entryId (some { entry with reversed := true }))

/-- `delete_entry` -/
def deleteEntry (entries : ResultEntries) (entryId : EntryId) : Result ResultEntries := do
  let entry ← foundEntry entries entryId
  require (entry.posted = false) .accPostedImmutable
  pure (entries.set entryId none)

inductive EntryCall
  | post (entryId : EntryId)
  | reverse (entryId : EntryId)
  | delete (entryId : EntryId)

def EntryCall.serve (entries : ResultEntries) : EntryCall → Result ResultEntries
  | .post entryId => postEntry entries entryId
  | .reverse entryId => reverseEntry entries entryId
  | .delete entryId => deleteEntry entries entryId

/-- What is claimed of an entry: whom it belongs to and how much it is. -/
def ResultEntry.SameClaim (entry other : ResultEntry) : Prop :=
  entry.ledgerId = other.ledgerId ∧ entry.contractId = other.contractId ∧
    entry.idempotencyKey = other.idempotencyKey ∧ entry.amount = other.amount

/-- An entry in force, under its id. -/
def Standing (entries : ResultEntries) (entryId : EntryId) (entry : ResultEntry) : Prop :=
  storedEntry entries entryId = some entry ∧ entry.InForce

theorem storedEntry_eq_some :
    storedEntry entries entryId = some entry ↔ entries[entryId]? = some (some entry) := Option.join_eq_some_iff

theorem foundEntry_ok :
    foundEntry entries entryId = .ok entry ↔ entries[entryId]? = some (some entry) := by
  rw [foundEntry, orRefuse_ok, storedEntry_eq_some]

/-- A call replaces one row by none, or by a row that claims the same and stands only where the old one stood. -/
theorem EntryCall.serve_ok {call : EntryCall} (served : call.serve entries = .ok next) :
    ∃ entryId entry row, entries[entryId]? = some (some entry) ∧ next = entries.set entryId row ∧
      ∀ left ∈ row, left.SameClaim entry ∧ (left.InForce → entry.InForce) := by
  cases call with
  | post entryId =>
    simp only [serve, postEntry, bind_ok, foundEntry_ok, exists_unit, require_ok, pure_ok] at served
    obtain ⟨entry, found, -, rfl⟩ := served
    exact ⟨entryId, entry, _, found, rfl, by rintro _ ⟨⟩; exact ⟨⟨rfl, rfl, rfl, rfl⟩, id⟩⟩
  | reverse entryId =>
    simp only [serve, reverseEntry, bind_ok, foundEntry_ok, exists_unit, require_ok, pure_ok] at served
    obtain ⟨entry, found, -, -, rfl⟩ := served
    exact ⟨entryId, entry, _, found, rfl, by rintro _ ⟨⟩; exact ⟨⟨rfl, rfl, rfl, rfl⟩, fun stands => by cases stands⟩⟩
  | delete entryId =>
    simp only [serve, deleteEntry, bind_ok, foundEntry_ok, exists_unit, require_ok, pure_ok] at served
    obtain ⟨entry, found, -, rfl⟩ := served
    exact ⟨entryId, entry, none, found, rfl, fun _ left => by cases left⟩

theorem EntryCall.standing_before {call : EntryCall} (served : call.serve entries = .ok next)
    (stands : Standing next entryId entry) : ∃ before, Standing entries entryId before ∧ entry.SameClaim before := by
  obtain ⟨place, old, row, found, rfl, left⟩ := call.serve_ok served
  obtain ⟨stored, inForce⟩ := stands
  rcases (Table.found_set found).mp (storedEntry_eq_some.mp stored) with ⟨rfl, rfl⟩ | ⟨-, kept⟩
  · obtain ⟨same, stood⟩ := left entry rfl
    exact ⟨old, ⟨storedEntry_eq_some.mpr found, stood inForce⟩, same⟩
  · exact ⟨entry, ⟨storedEntry_eq_some.mpr kept, inForce⟩, rfl, rfl, rfl, rfl⟩

end Mhvp.Billing
