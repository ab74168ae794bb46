import Mhvp.Billing.RentRuns

namespace Mhvp.Billing.RentStatements

open Core Accounting Lib Lib.Calendar Lib.Transition

/-- The access recorded for the contract lies after the deadline, and no exception is effective. -/
def AccessLate (state : RentState) (statementId : StatementId) (statement : RentStatement) (contractId : ContractId) :
    Prop :=
  (∃ day ∈ access state statementId statement contractId, deadline statement.periodTo < day) ∧
    statement.deadlineExceptionEffective = false

instance : Decidable (AccessLate state statementId statement contractId) := by unfold AccessLate; infer_instance

/-- The call writes the entry. -/
def WrittenBy (moment : Moment RentState RentCall) (entry : ResultEntry) : Prop :=
  ∃ entryId, moment.before.entries.length ≤ entryId ∧ moment.after.entries[entryId]? = some (some entry)

/-- While late claims are blocked, the call writes no additional payment whose access is late. -/
def NoLateClaim (moment : Moment RentState RentCall) : Prop :=
  moment.before.policy = .blockClaims → ∀ entry, WrittenBy moment entry → 0 < entry.amount →
    ∀ statementId contractId, entry.idempotencyKey = .rentStatement statementId contractId →
      ∀ statement, moment.before.statements[statementId]? = some statement →
        ¬ AccessLate moment.before statementId statement contractId

/-- Where late claims are blocked, every additional payment that is booked now and whose access is late was marked by
the calculation already. -/
def LateMarked (state : RentState) : RentCall → Prop
  | .createResultEntries statementId _ _ _ =>
    state.policy = .blockClaims → ∀ statement ∈ state.statements[statementId]?, ∀ snapshot ∈ statement.snapshot,
      ∀ row ∈ snapshot.rows, 0 < row.balance → Pending state.entries statement.ledgerId statementId row →
        AccessLate state statementId statement row.contractId → row.lateClaimBlocked = true
  | _ => True

theorem writtenBy_booking (step : Step moment.before moment.after moment.call)
    (written : WrittenBy moment entry) : ∃ statementId bookingDate dueDate surroundings,
      moment.call = .createResultEntries statementId bookingDate dueDate surroundings := by
  obtain ⟨entryId, isNew, found⟩ := written
  rcases step.entries_length with isBooking | sameLength
  · exact isBooking
  · have inside := Table.found_lt found
    rw [sameLength] at inside
    exact absurd inside (not_lt.mpr isNew)

section

variable (booking : Booking state statementId next statement snapshot added offsets ids)
include booking

theorem Booking.writtenBy {call : RentCall} {keyed : StatementId} (written : WrittenBy ⟨state, call, next⟩ entry)
    (isKey : entry.idempotencyKey = .rentStatement keyed contractId) :
    ∃ row ∈ snapshot.rows, Pending state.entries statement.ledgerId statementId row ∧
      Books statement statementId row entry := by
  obtain ⟨entryId, isNew, found⟩ := written
  rw [booking.isNext, List.append_assoc] at found
  obtain old | ⟨-, member⟩ := Table.found_append_cases found
  · exact absurd (Table.found_lt old) (not_lt.mpr isNew)
  · rw [← List.map_append] at member
    obtain ⟨row, isAdded, same⟩ := List.mem_map.mp member
    obtain rfl := Option.some.inj same
    rcases List.mem_append.mp isAdded with isResult | isOffset
    · exact booking.written.books row isResult
    · obtain ⟨offsetContract, offsetKey⟩ := booking.isOffset row isOffset
      rw [offsetKey] at isKey
      cases isKey

theorem Booking.mem_written (call : RentCall) (member : entry ∈ added) : WrittenBy ⟨state, call, next⟩ entry := by
  obtain ⟨place, found⟩ := List.mem_iff_getElem?.mp member
  refine ⟨state.entries.length + place, Nat.le_add_right .., ?_⟩
  rw [booking.isNext]
  apply Table.found_append
  rw [List.getElem?_append_right (Nat.le_add_right ..), Nat.add_sub_cancel_left, List.getElem?_map, found]
  rfl

theorem Booking.noLateClaim_iff :
    NoLateClaim ⟨state, .createResultEntries statementId bookingDate dueDate surroundings, next⟩ ↔
      LateMarked state (.createResultEntries statementId bookingDate dueDate surroundings) := by
  constructor
  · intro noLate blocks held isHeld result isResult row member positive pending late
    obtain rfl : statement = held := Option.mem_unique booking.found isHeld
    obtain rfl : snapshot = result := Option.mem_unique booking.isSnapshot isResult
    obtain ⟨entry, isAdded, books⟩ := booking.written.booked row member pending
    have claimed : 0 < entry.amount := books.amount ▸ positive
    exact absurd late (noLate blocks entry (booking.mem_written _ isAdded) claimed statementId row.contractId books.key
      statement booking.found)
  · intro marked blocks entry written positive keyed contractId isKey held isHeld late
    obtain ⟨row, member, pending, books⟩ := booking.writtenBy written isKey
    have sameKey := books.key.symm.trans isKey
    injection sameKey with sameStatement sameContract
    subst sameStatement sameContract
    obtain rfl : statement = held := Option.mem_unique booking.found isHeld
    have additional : 0 < row.balance := books.amount ▸ positive
    have isMarked := marked blocks statement booking.found snapshot booking.isSnapshot row member additional pending late
    have unblocked := booking.written.unblocked row member (ne_of_gt additional)
    have effective := late.2
    simp [SnapshotRow.blocked, show state.policy = .blockClaims from blocks, additional, isMarked, effective] at unblocked

end

theorem noLateClaim_iff (accepted : serve moment.before moment.call = .ok moment.after) :
    NoLateClaim moment ↔ LateMarked moment.before moment.call := by
  have step := serve_step accepted
  by_cases isBooking : ∃ statementId bookingDate dueDate surroundings,
      moment.call = .createResultEntries statementId bookingDate dueDate surroundings
  · obtain ⟨before, call, after⟩ := moment
    obtain ⟨statementId, bookingDate, dueDate, surroundings, rfl⟩ := isBooking
    obtain ⟨statement, snapshot, added, offsets, ids, booking⟩ := createResultEntries_ok accepted
    exact booking.noLateClaim_iff
  · constructor
    · intro _
      cases isCall : moment.call with
      | createResultEntries statementId bookingDate dueDate surroundings =>
        exact absurd ⟨statementId, bookingDate, dueDate, surroundings, isCall⟩ isBooking
      | _ => trivial
    · intro _ _ entry written
      exact absurd (writtenBy_booking step written) isBooking

/-- A run claims nothing late exactly if every booking finds marked what is late. -/
theorem late_claims_iff (state : RentState) (calls : List RentCall) :
    (∀ moment ∈ trace serve state calls, NoLateClaim moment) ↔
      ∀ moment ∈ trace serve state calls, LateMarked moment.before moment.call := by
  have accepted : ∀ moment ∈ trace serve state calls, True ∧ serve moment.before moment.call = .ok moment.after :=
    trace_invariant (fun _ _ _ _ _ => trivial) calls trivial
  constructor
  · intro noLate moment member
    exact (noLateClaim_iff (accepted moment member).2).mp (noLate moment member)
  · intro marked moment member
    exact (noLateClaim_iff (accepted moment member).2).mpr (marked moment member)

/-- The access of the tenant turns out to be after the deadline. -/
def lateAccess : RentCall := .putDelivery 0 0 (Date.ofYmd 2026 2 1) [] {}

def lateBooking : RentCall := .createResultEntries 0 (Date.ofYmd 2026 3 1) (Date.ofYmd 2026 4 1) sampleOffice

def lateState : RentState := run serve {} (sampleCreated :: broughtDue 0 ++ [lateAccess])

/-- The additional payment is booked although the recorded access is late. -/
theorem late_access_claimed : ¬ ∀ calls, ∀ moment ∈ trace serve {} calls, NoLateClaim moment := by
  intro noLate
  have booked : ∃ next ∈ answer? (serve lateState lateBooking), ∃ entry ∈ (next.entries[0]?).join,
      0 < entry.amount ∧ entry.idempotencyKey = .rentStatement 0 0 := by decide +kernel
  obtain ⟨next, isNext, entry, found, positive, isKey⟩ := booked
  have accepted : serve lateState lateBooking = .ok next := answer?_eq_some.mp isNext
  have member := accepted_mem_trace (sampleCreated :: broughtDue 0 ++ [lateAccess]) accepted
  have blocks : lateState.policy = .blockClaims := by decide +kernel
  have nothing : lateState.entries.length ≤ 0 := by decide +kernel
  have late : ∃ statement ∈ lateState.statements[0]?, AccessLate lateState 0 statement 0 := by decide +kernel
  obtain ⟨statement, isStatement, isLate⟩ := late
  exact noLate _ _ member blocks entry ⟨0, nothing, Option.join_eq_some_iff.mp found⟩ positive 0 0 isKey statement
    isStatement isLate

end Mhvp.Billing.RentStatements
