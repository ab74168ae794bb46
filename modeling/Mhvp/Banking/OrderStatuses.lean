import Mhvp.Accounting.Routers
import Mhvp.Banking.BankFeedback
import Mhvp.Banking.OrderApprovals

namespace Mhvp.Banking.Payments

open Core Accounting Lib.Calendar Lib.Locking Lib.Table Lib.Transition Option
open List hiding after

/-- Where an order may go from each status. -/
def nextStatuses : OrderStatus → List OrderStatus
  | .draft => [.approved, .cancelled]
  | .approved => [.draft, .exported, .cancelled]
  | .exported => [.submitted, .acceptedByBank, .executed, .partiallyExecuted, .rejected]
  | .submitted => [.acceptedByBank, .executed, .partiallyExecuted, .rejected]
  | .acceptedByBank => [.executed, .partiallyExecuted, .rejected]
  | .executed => [.returned]
  | .partiallyExecuted => [.returned]
  | .rejected => []
  | .returned => []
  | .cancelled => []

inductive OrderCall
  | payment (request : PaymentRequest)
  | download (batchId : BatchId) (gateOpen intact : Bool)
  | submit (batchId : BatchId) (gateOpen : Bool) (channel : Option Channel) (flagged : Bool)
      (reference : Option String) (userId : UserId) (now : Instant)
  | bankStatus (batchId : BatchId) (body : BankStatusIn) (userId : Option UserId) (today : Date) (now : Instant)
  /-- A request on the journal; a reversal cancels the orders waiting on its entry. -/
  | journal (call : JournalCall)

/-- Serve one request on payment orders. -/
def orderStep (db : Db) : OrderCall → Result Db
  | .payment request => paymentProtocol.serve db request
  | .download batchId gateOpen intact => downloadBatchFile db batchId gateOpen intact
  | .submit batchId gateOpen channel flagged reference userId now =>
    submitBatch db batchId gateOpen channel flagged reference userId now
  | .bankStatus batchId body userId today now => bankStatus db batchId body userId today now
  | .journal call => journalStep db call

structure Moves (edges : OrderStatus → List OrderStatus) (old order : PaymentOrder) : Prop where
  batch : order.batchId = old.batchId
  status : order.status = old.status ∨ order.status ∈ edges old.status

structure Steps (edges : OrderStatus → List OrderStatus) (rows later : List PaymentOrder) : Prop where
  onward : Onward (Moves edges) rows later
  length : later.length = rows.length

def Closed (edges : OrderStatus → List OrderStatus) : Prop :=
  ∀ first second third, second ∈ edges first → third ∈ edges second → third ∈ edges first

section Rows

variable {edges : OrderStatus → List OrderStatus} {rows later last : List PaymentOrder} {old order : PaymentOrder}
  {index : ℕ}

theorem Moves.refl (order : PaymentOrder) : Moves edges order order := ⟨rfl, Or.inl rfl⟩

theorem Moves.trans (closed : Closed edges) (first : Moves edges old between) (second : Moves edges between order) :
    Moves edges old order where
  batch := second.batch.trans first.batch
  status := by
    rcases second.status with same | moved
    · rw [same]
      exact first.status
    · rcases first.status with same | before
      · rw [same] at moved
        exact Or.inr moved
      · exact Or.inr (closed _ _ _ before moved)

theorem Steps.refl (rows : List PaymentOrder) : Steps edges rows rows := ⟨Onward.refl Moves.refl rows, rfl⟩

theorem Steps.trans (closed : Closed edges) (first : Steps edges rows later) (second : Steps edges later last) :
    Steps edges rows last :=
  ⟨Onward.trans (fun _ _ _ => Moves.trans closed) first.onward second.onward, second.length.trans first.length⟩

theorem Steps.set (found : rows[index]? = some old) (moves : Moves edges old order) :
    Steps edges rows (rows.set index order) :=
  ⟨Onward.set Moves.refl found moves, length_set⟩

theorem Steps.map (moves : ∀ order, Moves edges order (change order)) :
    Steps edges rows (rows.map change) := by
  refine ⟨?_, length_map _⟩
  intro place row found
  exact ⟨change row, by rw [List.getElem?_map, found]; rfl, moves row⟩

theorem Steps.back (steps : Steps edges rows later) (found : later[index]? = some order) :
    ∃ old, rows[index]? = some old ∧ Moves edges old order := by
  have inRows : index < rows.length := steps.length ▸ found_lt found
  obtain ⟨next, foundNext, moves⟩ := steps.onward index _ (List.getElem?_eq_getElem inRows)
  obtain rfl : order = next := mem_unique found foundNext
  exact ⟨_, List.getElem?_eq_getElem inRows, moves⟩

end Rows

def reportedStatuses : OrderStatus → List OrderStatus
  | .exported => [.acceptedByBank, .rejected]
  | .submitted => [.acceptedByBank, .rejected]
  | .acceptedByBank => [.rejected]
  | _ => []

/-- A return also cancels the orders that wait on the reversed posting. -/
def answeredStatuses (answer : ManualStatus) (status : OrderStatus) : List OrderStatus :=
  match answer with
  | .submitted => if status = .exported then [.submitted] else []
  | .acceptedByBank => if status ∈ [.exported, OrderStatus.submitted] then [.acceptedByBank] else []
  | .rejected => if status ∈ sentStatuses ∨ status = .returned then [.rejected] else []
  | .executed => if status ∈ sentStatuses then executedStatuses else []
  | .returned =>
    if status ∈ executedStatuses then [.returned]
    else if status ∈ [.draft, OrderStatus.approved] then [.cancelled] else []

theorem reportedStatuses_closed : Closed reportedStatuses := by
  intro first second third moved again
  cases first with
  | exported | submitted =>
    simp only [reportedStatuses, mem_cons, not_mem_nil, or_false] at moved
    rcases moved with rfl | rfl <;> simp_all [reportedStatuses]
  | acceptedByBank =>
    simp only [reportedStatuses, mem_cons, not_mem_nil, or_false] at moved
    rw [moved] at again
    simp [reportedStatuses] at again
  | _ => simp [reportedStatuses] at moved

/-- The status an answer names. -/
def namedStatus : ManualStatus → OrderStatus
  | .submitted => .submitted
  | .acceptedByBank => .acceptedByBank
  | .rejected => .rejected
  | .executed => .executed
  | .returned => .returned

theorem answered_cases (moved : later ∈ answeredStatuses answer status) :
    later = namedStatus answer ∨ (answer = .executed ∧ later = .partiallyExecuted) ∨
      (answer = .returned ∧ later = .cancelled ∧ status ∈ [.draft, OrderStatus.approved]) := by
  cases answer with
  | submitted | acceptedByBank | rejected =>
    simp only [answeredStatuses] at moved
    split at moved
    · exact Or.inl (mem_singleton.mp moved)
    · cases moved
  | executed =>
    simp only [answeredStatuses] at moved
    split at moved
    · simp only [executedStatuses, mem_cons, not_mem_nil, or_false] at moved
      rcases moved with whole | part
      · exact Or.inl whole
      · exact Or.inr (Or.inl ⟨rfl, part⟩)
    · cases moved
  | returned =>
    simp only [answeredStatuses] at moved
    split at moved
    · exact Or.inl (mem_singleton.mp moved)
    · split at moved
      · rename_i waiting
        exact Or.inr (Or.inr ⟨rfl, mem_singleton.mp moved, waiting⟩)
      · cases moved

theorem answeredStatuses_closed (answer : ManualStatus) : Closed (answeredStatuses answer) := by
  intro first second third moved again
  have final : answeredStatuses answer second = [] := by
    rcases answered_cases moved with rfl | ⟨rfl, rfl⟩ | ⟨rfl, rfl, -⟩
    · cases answer <;> rfl
    · rfl
    · rfl
  rw [final] at again
  cases again

theorem applyTransfer_moves (order : PaymentOrder) (line : StatusLine) :
    Moves reportedStatuses order (BankStatus.applyTransfer order line) := by
  obtain ⟨reasonCode, same | ⟨status, same, moved⟩⟩ := BankStatus.applyTransfer_cases order line
  · rw [same]
    exact ⟨rfl, Or.inl rfl⟩
  · rw [same]
    refine ⟨rfl, Or.inr ?_⟩
    simp only [mem_cons, not_mem_nil, or_false] at moved
    rcases moved with ⟨rfl, sent | sent⟩ | ⟨rfl, sent | sent | sent⟩ <;> simp [sent, reportedStatuses]

theorem reverse_steps {next} (reversed : reverse db ledgerId entryId userId reason day code = .ok (reversalId, next))
    (answer : ManualStatus) (returns : answer = .returned) :
    Steps (answeredStatuses answer) db.orders next.orders := by
  obtain ⟨entry, ledger, reversal, posting, orders, -, -, -, waiting, rfl⟩ := reverse_ok reversed
  simp only [ordersOfEntry, bind_ok, exists_unit, require_ok, pure_ok] at waiting
  obtain ⟨unsent, rfl⟩ := waiting
  refine ⟨?_, length_mapIdx⟩
  intro place order found
  refine ⟨_, by rw [cancelOrders, List.getElem?_mapIdx, found]; rfl, ?_⟩
  split
  · rename_i named
    obtain ⟨⟨row, index⟩, listed, rfl⟩ := mem_map.mp named
    have status := unsent _ listed
    have present := mk_mem_zipIdx_iff_getElem?.mp (mem_filter.mp listed).1
    obtain rfl : order = row := mem_unique found present
    refine ⟨rfl, Or.inr ?_⟩
    simp only [mem_cons, not_mem_nil, or_false] at status
    rcases status with status | status <;> simp [returns, status, answeredStatuses, executedStatuses]
  · exact Moves.refl order

section Feedback

variable {db next : Db} {order after : PaymentOrder} {orderId : OrderId} {body : BankStatusIn} {status : OrderStatus}

theorem acknowledged_moves (order : PaymentOrder) :
    Moves (answeredStatuses .submitted) order (acknowledged order .submitted) ∧
      Moves (answeredStatuses .acceptedByBank) order (acknowledged order .acceptedByBank) := by
  unfold acknowledged
  split
  · rename_i sent
    simp only [mem_cons, not_mem_nil, or_false] at sent
    rcases sent with sent | sent
    · exact ⟨⟨rfl, Or.inr (by simp [answeredStatuses, sent])⟩, ⟨rfl, Or.inr (by simp [answeredStatuses, sent])⟩⟩
    · exact ⟨⟨rfl, Or.inl sent.symm⟩, ⟨rfl, Or.inr (by simp [answeredStatuses, sent])⟩⟩
  · exact ⟨Moves.refl order, Moves.refl order⟩

theorem filed_cases (filed : order.status ∉ unfiledStatuses) :
    order.status ∈ sentStatuses ∨ order.status ∈ executedStatuses ∨ order.status = .rejected ∨
      order.status = .returned := by
  cases status : order.status <;> simp [status, unfiledStatuses, sentStatuses, executedStatuses] at filed ⊢

theorem rejected_moves (filed : order.status ∉ unfiledStatuses) (accepted : rejected order = .ok after) :
    Moves (answeredStatuses .rejected) order after := by
  simp only [rejected, bind_ok, exists_unit, require_ok, pure_ok] at accepted
  obtain ⟨unexecuted, rfl⟩ := accepted
  split
  · exact Moves.refl order
  · rename_i standing
    refine ⟨rfl, Or.inr ?_⟩
    rcases filed_cases filed with sent | executed | same | returned
    · simp [answeredStatuses, sent]
    · exact absurd executed unexecuted
    · exact absurd same standing
    · simp [answeredStatuses, returned]

theorem writeBooking_orders (written : Matching.writeBooking db booking = .ok (entryId, next)) :
    next.orders = db.orders := by
  simp only [Matching.writeBooking, bind_ok, pure_ok, Prod.mk.injEq] at written
  obtain ⟨-, -, -, -, -, rfl⟩ := written
  rfl

section

variable (found : db.orders[orderId]? = some order)
include found

theorem recordExecution_steps (accepted : recordExecution db orderId order txId userId = .ok next) :
    Steps (answeredStatuses .executed) db.orders next.orders := by
  unfold recordExecution at accepted
  split at accepted
  · obtain rfl := pure_ok.mp accepted
    exact Steps.refl db.orders
  · simp only [bind_ok, exists_unit, require_ok, orRefuse_ok, pure_ok] at accepted
    obtain ⟨sent, tx, -, -, counter, -, booking, -, ⟨entryId, booked⟩, written, rfl⟩ := accepted
    have same := writeBooking_orders written
    have moves : Moves (answeredStatuses .executed) order (executed order (-tx.amount) txId entryId) := by
      refine ⟨rfl, Or.inr ?_⟩
      simp only [answeredStatuses, if_pos sent, executed, executedStatuses]
      split <;> simp
    change Steps _ db.orders (booked.orders.set orderId _)
    rw [same]
    exact Steps.set found moves

theorem recordReturn_steps {next} (accepted : recordReturn db orderId order reason txId userId day = .ok next) :
    Steps (answeredStatuses .returned) db.orders next.orders := by
  unfold recordReturn at accepted
  split at accepted
  · obtain rfl := pure_ok.mp accepted
    exact Steps.refl db.orders
  · simp only [bind_ok, exists_unit, require_ok, orRefuse_ok, pure_ok] at accepted
    obtain ⟨entryId, -, isExecuted, -, -, -, -, -, ⟨reversalId, reversed⟩, reverses, rfl⟩ := accepted
    have waiting := reverse_steps reverses .returned rfl
    obtain ⟨row, foundRow, moved⟩ := waiting.onward orderId order found
    refine waiting.trans (answeredStatuses_closed .returned) (Steps.set foundRow ⟨moved.batch.symm, ?_⟩)
    rcases moved.status with same | changed
    · exact Or.inr (by simp [same, answeredStatuses, isExecuted])
    · rw [answeredStatuses, if_pos isExecuted] at changed
      exact Or.inl (mem_singleton.mp changed).symm

theorem feedback_steps (filed : order.status ∉ unfiledStatuses)
    (accepted : feedback db body userId today orderId = .ok next) :
    Steps (answeredStatuses body.status) db.orders next.orders := by
  simp only [feedback, orderOf, bind_ok, orRefuse_ok] at accepted
  obtain ⟨row, present, accepted⟩ := accepted
  obtain rfl : order = row := mem_unique found present
  cases answer : body.status with
  | submitted =>
    rw [answer] at accepted
    obtain rfl := pure_ok.mp accepted
    exact Steps.set found (acknowledged_moves order).1
  | acceptedByBank =>
    rw [answer] at accepted
    obtain rfl := pure_ok.mp accepted
    exact Steps.set found (acknowledged_moves order).2
  | rejected =>
    rw [answer] at accepted
    simp only [bind_ok, pure_ok] at accepted
    obtain ⟨after, isRejected, rfl⟩ := accepted
    exact Steps.set found (rejected_moves filed isRejected)
  | executed =>
    rw [answer] at accepted
    simp only [bind_ok, orRefuse_ok] at accepted
    obtain ⟨txId, -, executes⟩ := accepted
    exact recordExecution_steps found executes
  | returned =>
    rw [answer] at accepted
    exact recordReturn_steps found accepted

end

theorem answered_filed (filed : status ∉ unfiledStatuses) (moved : later ∈ answeredStatuses answer status) :
    later ∉ unfiledStatuses := by
  rcases answered_cases moved with rfl | ⟨-, rfl⟩ | ⟨-, -, waiting⟩
  · cases answer <;> decide
  · decide
  · refine absurd ?_ filed
    simp only [mem_cons, not_mem_nil, or_false] at waiting
    rcases waiting with waiting | waiting <;> simp [waiting, unfiledStatuses]

/-- No order of a file is a draft, approved or cancelled. -/
def Filed (orders : List PaymentOrder) : Prop :=
  ∀ (orderId : OrderId) (order : PaymentOrder), orders[orderId]? = some order → order.batchId.isSome →
    order.status ∉ unfiledStatuses

theorem Filed.steps (filed : Filed db.orders) (answer : ManualStatus)
    (steps : Steps (answeredStatuses answer) db.orders next.orders) : Filed next.orders := by
  intro orderId order found inFile
  obtain ⟨old, foundOld, moves⟩ := steps.back found
  rw [moves.batch] at inFile
  have before := filed orderId old foundOld inFile
  rcases moves.status with same | moved
  · rw [same]
    exact before
  · exact answered_filed before moved

theorem feedbackAll_steps (filed : Filed db.orders)
    (inFile : ∀ orderId ∈ orderIds, ∃ order, db.orders[orderId]? = some order ∧ order.batchId.isSome)
    (accepted : feedbackAll db body userId today orderIds = .ok next) :
    Steps (answeredStatuses body.status) db.orders next.orders := by
  induction orderIds generalizing db with
  | nil =>
    obtain rfl := pure_ok.mp accepted
    exact Steps.refl db.orders
  | cons orderId rest ih =>
    simp only [feedbackAll, bind_ok] at accepted
    obtain ⟨between, first, others⟩ := accepted
    obtain ⟨order, found, isIn⟩ := inFile orderId mem_cons_self
    have steps := feedback_steps found (filed orderId order found isIn) first
    refine steps.trans (answeredStatuses_closed body.status) (ih (filed.steps body.status steps) ?_ others)
    intro other member
    obtain ⟨old, foundOld, inOld⟩ := inFile other (mem_cons_of_mem _ member)
    obtain ⟨row, foundRow, moves⟩ := steps.onward other old foundOld
    exact ⟨row, foundRow, by rw [moves.batch]; exact inOld⟩

theorem ordersOfBatch_found (listed : orderId ∈ ordersOfBatch db batchId chosen) :
    ∃ order, db.orders[orderId]? = some order ∧ order.batchId = some batchId := by
  have ofFile : orderId ∈ (db.orders.zipIdx.filter fun found => found.1.batchId = some batchId).map Prod.snd := by
    unfold ordersOfBatch at listed
    split at listed
    · exact (mem_filter.mp listed).1
    · exact listed
  obtain ⟨⟨order, place⟩, member, rfl⟩ := mem_map.mp ofFile
  obtain ⟨found, named⟩ := mem_filter.mp member
  exact ⟨order, mk_mem_zipIdx_iff_getElem?.mp found, of_decide_eq_true named⟩

theorem bankStatus_steps (filed : Filed db.orders) (accepted : bankStatus db batchId body userId today now = .ok next) :
    Steps (answeredStatuses body.status) db.orders next.orders := by
  simp only [bankStatus, bind_ok, orRefuse_ok, pure_ok] at accepted
  obtain ⟨batch, -, answered, applied, rfl⟩ := accepted
  apply feedbackAll_steps filed ?_ applied
  intro orderId listed
  obtain ⟨order, found, named⟩ := ordersOfBatch_found listed
  exact ⟨order, found, by rw [named]; rfl⟩

theorem submittedIn_moves (batchId : BatchId) (order : PaymentOrder) :
    Moves (answeredStatuses .submitted) order (submittedIn batchId order) := by
  unfold submittedIn
  split
  · rename_i waiting
    exact ⟨rfl, Or.inr (by simp [answeredStatuses, waiting.2])⟩
  · exact Moves.refl order

theorem submitBatch_steps (accepted : submitBatch db batchId gateOpen channel flagged reference userId now = .ok next) :
    Steps (answeredStatuses .submitted) db.orders next.orders := by
  simp only [submitBatch, bind_ok, exists_unit, require_ok, pure_ok] at accepted
  obtain ⟨-, batch, -, -, sent, -, rfl⟩ := accepted
  exact Steps.map (submittedIn_moves batchId)

theorem journalStep_steps {next} (accepted : journalStep db call = .ok next) :
    Steps (answeredStatuses .returned) db.orders next.orders := by
  cases call with
  | reverseEntry ledgerId entryId userId reason bookingDate reasonCode today =>
    simp only [journalStep, reverseEntry, bind_ok, pure_ok] at accepted
    obtain ⟨⟨reversalId, reversed⟩, ⟨ledger, -, reverses⟩, rfl⟩ := accepted
    exact reverse_steps reverses .returned rfl
  | createEntry | updateEntry | writeDraft | approveEntry | postEntry | lockPeriod | createAccount
  | setAccountActive =>
    simp only [journalStep, bind_ok, pure_ok] at accepted
    obtain ⟨result, -, rfl⟩ := accepted
    exact Steps.refl db.orders

end Feedback

section Requests

variable {db next : Db} {old order changed : PaymentOrder} {orderId : OrderId}

theorem orderFromInvoice_unfiled (accepted : orderFromInvoice db invoiceId bankAccountId day endToEndId = .ok order) :
    order.batchId = none := by
  simp only [orderFromInvoice, bind_ok, exists_unit, require_ok, orRefuse_ok, pure_ok] at accepted
  obtain ⟨invoice, -, -, iban, -, -, ledger, -, bank, -, -, item, -, rest, -, -, rfl⟩ := accepted
  rfl

theorem orderForPayout_unfiled (accepted : orderForPayout db openItemId contactBankAccountId bankAccountId day reason
    purpose endToEndId = .ok order) : order.batchId = none := by
  simp only [orderForPayout, bind_ok, exists_unit, require_ok, orRefuse_ok, pure_ok] at accepted
  obtain ⟨item, -, -, -, -, rest, -, -, ledger, -, bank, -, -, payee, -, -, -, -, rfl⟩ := accepted
  rfl

theorem changeAmount_batch (accepted : changeAmount db order amount = .ok changed) : changed.batchId = order.batchId := by
  cases amount with
  | none =>
    obtain rfl := pure_ok.mp accepted
    rfl
  | some value =>
    rw [changeAmount] at accepted
    split at accepted <;>
    · simp only [bind_ok, exists_unit, require_ok, pure_ok] at accepted
      obtain ⟨rest, -, -, rfl⟩ := accepted
      rfl

theorem changeIban_batch (accepted : changeIban db order iban = .ok changed) : changed.batchId = order.batchId := by
  cases iban with
  | none =>
    obtain rfl := pure_ok.mp accepted
    rfl
  | some value =>
    simp only [changeIban, bind_ok, exists_unit, require_ok, pure_ok] at accepted
    obtain ⟨known, -, -, rfl⟩ := accepted
    rfl

theorem fallBack_batch (order : PaymentOrder) : (fallBack order).batchId = order.batchId := by
  unfold fallBack
  split
  · rfl
  · rfl

theorem changeOrder_batch (found : db.orders[orderId]? = some order)
    (accepted : changeOrder db orderId patch = .ok (changed, voids)) : changed.batchId = order.batchId := by
  simp only [changeOrder, orderOf, bind_ok, exists_unit, require_ok, orRefuse_ok] at accepted
  obtain ⟨row, present, -, withAmount, amountChange, withIban, ibanChange, accepted⟩ := accepted
  obtain rfl : order = row := mem_unique found present
  have kept := (changeIban_batch ibanChange).trans (changeAmount_batch amountChange)
  split at accepted
  · obtain ⟨rfl, -⟩ := Prod.mk.inj (pure_ok.mp accepted)
    exact (fallBack_batch _).trans kept
  · obtain ⟨rfl, -⟩ := Prod.mk.inj (pure_ok.mp accepted)
    exact kept

theorem approve_batch (found : db.orders[orderId]? = some order)
    (accepted : approve db orderId userId isPlatformAdmin = .ok (some (approval, changed))) :
    changed.batchId = order.batchId := by
  simp only [approve, orderOf, bind_ok, exists_unit, require_ok, orRefuse_ok] at accepted
  obtain ⟨row, present, -, -, accepted⟩ := accepted
  obtain rfl : order = row := mem_unique found present
  split at accepted
  · cases pure_ok.mp accepted
  · simp only [bind_ok, exists_unit, pure_ok, some.injEq, Prod.mk.injEq] at accepted
    obtain ⟨-, -, rfl⟩ := accepted
    split
    · rfl
    · rfl

/-- An order enters a file with the export only. -/
def KeepsFile (db : Db) : PaymentWork → Prop
  | .insert order => order.batchId = none
  | .rewrite orderId order _ _ => ∀ old, db.orders[orderId]? = some old → order.batchId = old.batchId
  | _ => True

theorem readPayment_keepsFile (read : readPayment db request = .ok work) : KeepsFile db work := by
  cases request with
  | createOrder invoiceId bankAccountId day endToEndId =>
    simp only [readPayment, bind_ok, pure_ok] at read
    obtain ⟨order, accepted, rfl⟩ := read
    exact orderFromInvoice_unfiled accepted
  | createPayout openItemId payee bankAccountId day reason purpose endToEndId =>
    simp only [readPayment, bind_ok, pure_ok] at read
    obtain ⟨order, accepted, rfl⟩ := read
    exact orderForPayout_unfiled accepted
  | changeOrder orderId patch =>
    simp only [readPayment, bind_ok, pure_ok] at read
    obtain ⟨⟨order, voids⟩, accepted, rfl⟩ := read
    exact fun old found => changeOrder_batch found accepted
  | approveOrder orderId userId isPlatformAdmin =>
    simp only [readPayment, orderOf, bind_ok, orRefuse_ok] at read
    obtain ⟨order, present, answer, accepted, read⟩ := read
    cases answer with
    | none =>
      obtain rfl := pure_ok.mp read
      intro old found
      obtain rfl : order = old := mem_unique present found
      rfl
    | some pair =>
      obtain rfl := pure_ok.mp read
      exact fun old found => approve_batch found accepted
  | cancelOrder orderId =>
    simp only [readPayment, cancelOrder, orderOf, bind_ok, exists_unit, require_ok, orRefuse_ok, pure_ok] at read
    obtain ⟨order, ⟨row, present, -, rfl⟩, rfl⟩ := read
    intro old found
    obtain rfl : row = old := mem_unique present found
    rfl
  | createBatch orderIds gateOpen messageId =>
    simp only [readPayment, bind_ok, pure_ok] at read
    obtain ⟨⟨batch, ids⟩, -, rfl⟩ := read
    trivial
  | importReport checksum report =>
    simp only [readPayment] at read
    split at read
    · obtain rfl := pure_ok.mp read
      trivial
    · obtain rfl := pure_ok.mp read
      trivial
  | elsewhere tables =>
    obtain rfl := pure_ok.mp read
    trivial

end Requests

/-- A person enters a rejection. -/
def RejectsByHand : OrderCall → Prop
  | .bankStatus _ body _ _ _ => body.status = .rejected
  | _ => False

/-- A step along the statuses; a rejection by hand may also reach an order that came back. -/
def MovesOn (call : OrderCall) (old order : PaymentOrder) : Prop :=
  order.status = old.status ∨ order.status ∈ nextStatuses old.status ∨
    (RejectsByHand call ∧ old.status = .returned ∧ order.status = .rejected)

structure CallMoves (call : OrderCall) (db next : Db) : Prop where
  rows : ∀ (orderId : OrderId) (order : PaymentOrder), next.orders[orderId]? = some order →
    (∃ old, db.orders[orderId]? = some old ∧ MovesOn call old order) ∨
      (db.orders[orderId]? = none ∧ order.status = .draft)
  stays : db.orders.length ≤ next.orders.length

section Calls

variable {db next : Db} {old order : PaymentOrder} {call : OrderCall}

theorem reported_next (moved : later ∈ reportedStatuses status) : later ∈ nextStatuses status := by
  cases status with
  | exported | submitted | acceptedByBank =>
    simp only [reportedStatuses, mem_cons, not_mem_nil, or_false] at moved
    simp only [nextStatuses, mem_cons, not_mem_nil, or_false]
    tauto
  | _ => cases moved

theorem answered_next (moved : later ∈ answeredStatuses answer status) :
    later ∈ nextStatuses status ∨ (answer = .rejected ∧ status = .returned ∧ later = .rejected) := by
  cases answer with
  | executed =>
    refine Or.inl ?_
    simp only [answeredStatuses] at moved
    split at moved
    · rename_i sent
      simp only [sentStatuses, executedStatuses, mem_cons, not_mem_nil, or_false] at sent moved
      rcases sent with rfl | rfl | rfl <;> rcases moved with rfl | rfl <;> simp [nextStatuses]
    · cases moved
  | submitted | acceptedByBank | rejected | returned =>
    cases status <;> simp_all [answeredStatuses, nextStatuses, sentStatuses, executedStatuses]

theorem Steps.callMoves (steps : Steps (answeredStatuses answer) db.orders next.orders)
    (byHand : answer = .rejected → RejectsByHand call) : CallMoves call db next where
  rows := by
    intro orderId order found
    obtain ⟨old, foundOld, moves⟩ := steps.back found
    refine Or.inl ⟨old, foundOld, ?_⟩
    rcases moves.status with same | moved
    · exact Or.inl same
    · rcases answered_next moved with step | ⟨isRejected, returned, rejected⟩
      · exact Or.inr (Or.inl step)
      · exact Or.inr (Or.inr ⟨byHand isRejected, returned, rejected⟩)
  stays := steps.length.ge

theorem Unfiled.movesOn (unfiled : Unfiled db orderId old order voids approval) : MovesOn call old order := by
  have before := unfiled.before
  have after := unfiled.after
  simp only [mem_cons, not_mem_nil, or_false] at before
  simp only [unfiledStatuses, mem_cons, not_mem_nil, or_false] at after
  unfold MovesOn
  rcases before with before | before
  · rcases after with after | after | after <;> simp [before, after, nextStatuses]
  · rcases after with after | after | after <;> simp [before, after, nextStatuses]

theorem writePayment_moves (ready : PaymentReady db work) (written : writePayment db work = .ok next) :
    CallMoves call db next := by
  cases work with
  | insert added =>
    obtain rfl := pure_ok.mp written
    refine ⟨?_, by simp⟩
    intro orderId order found
    rcases found_append_one.mp found with present | ⟨last, rfl⟩
    · exact Or.inl ⟨order, present, Or.inl rfl⟩
    · exact Or.inr ⟨by simp [last], ready.1⟩
  | rewrite place changed voids approval =>
    obtain rfl := pure_ok.mp written
    obtain ⟨old, present, unfiled⟩ := ready
    refine ⟨?_, by simp⟩
    intro orderId order found
    rcases (found_set present).mp found with ⟨rfl, rfl⟩ | ⟨-, kept⟩
    · exact Or.inl ⟨old, present, unfiled.movesOn⟩
    · exact Or.inl ⟨order, kept, Or.inl rfl⟩
  | file orderIds batch =>
    obtain rfl := pure_ok.mp written
    refine ⟨?_, by simp⟩
    intro orderId order found
    simp only [List.getElem?_mapIdx, map_eq_some_iff] at found
    obtain ⟨old, present, rfl⟩ := found
    refine Or.inl ⟨old, present, ?_⟩
    by_cases filed : orderId ∈ orderIds
    · obtain ⟨approved, same, full⟩ := ready orderId filed
      obtain rfl : old = approved := mem_unique present same
      have isApproved : old.status = .approved := full.1
      rw [if_pos filed]
      exact Or.inr (Or.inl (by simp [exportedIn, isApproved, nextStatuses]))
    · rw [if_neg filed]
      exact Or.inl rfl
  | report checksum lines =>
    obtain rfl := pure_ok.mp written
    refine ⟨?_, (applyLines_length _ _).ge⟩
    intro orderId order found
    obtain ⟨old, present, moves⟩ := applyLines_relates Moves.refl
      (fun _ _ _ => Moves.trans reportedStatuses_closed) applyTransfer_moves found
    refine Or.inl ⟨old, present, ?_⟩
    rcases moves.status with same | moved
    · exact Or.inl same
    · exact Or.inr (Or.inl (reported_next moved))
  | elsewhere tables =>
    obtain rfl := pure_ok.mp written
    exact ⟨fun orderId order found => Or.inl ⟨order, found, Or.inl rfl⟩, le_rfl⟩

theorem filed_write (filed : Filed db.orders) (ready : PaymentReady db work) (keeps : KeepsFile db work)
    (written : writePayment db work = .ok next) : Filed next.orders := by
  cases work with
  | insert added =>
    obtain rfl := pure_ok.mp written
    intro orderId order found inFile
    rcases found_append_one.mp found with present | ⟨-, rfl⟩
    · exact filed orderId order present inFile
    · rw [show order.batchId = none from keeps] at inFile
      cases inFile
  | rewrite place changed voids approval =>
    obtain rfl := pure_ok.mp written
    obtain ⟨old, present, unfiled⟩ := ready
    intro orderId order found inFile
    rcases (found_set present).mp found with ⟨rfl, rfl⟩ | ⟨-, kept⟩
    · rw [keeps old present] at inFile
      exact absurd (unfiled_of_open unfiled.before) (filed _ old present inFile)
    · exact filed orderId order kept inFile
  | file orderIds batch =>
    obtain rfl := pure_ok.mp written
    intro orderId order found inFile
    simp only [List.getElem?_mapIdx, map_eq_some_iff] at found
    obtain ⟨old, present, rfl⟩ := found
    split
    · simp [exportedIn, unfiledStatuses]
    · rename_i apart
      rw [if_neg apart] at inFile
      exact filed orderId old present inFile
  | report checksum lines =>
    obtain rfl := pure_ok.mp written
    intro orderId order found inFile
    obtain ⟨old, present, moves⟩ := applyLines_relates Moves.refl
      (fun _ _ _ => Moves.trans reportedStatuses_closed) applyTransfer_moves found
    rw [moves.batch] at inFile
    obtain ⟨same, foundSame, reported⟩ := applyLines_row found
    obtain rfl : old = same := mem_unique present foundSame
    exact reported.unfiled (filed orderId old present inFile)
  | elsewhere tables =>
    obtain rfl := pure_ok.mp written
    exact filed

theorem orderStep_moves (filed : Filed db.orders) (accepted : orderStep db call = .ok next) :
    CallMoves call db next ∧ Filed next.orders := by
  cases call with
  | payment request =>
    obtain ⟨work, read, written⟩ := Protocol.serve_ok.mp accepted
    have ready := readPayment_ready read
    exact ⟨writePayment_moves ready written, filed_write filed ready (readPayment_keepsFile read) written⟩
  | download batchId gateOpen intact =>
    simp only [orderStep, downloadBatchFile, bind_ok, exists_unit, require_ok, pure_ok] at accepted
    obtain ⟨-, batch, -, -, rfl⟩ := accepted
    exact ⟨⟨fun orderId order found => Or.inl ⟨order, found, Or.inl rfl⟩, le_rfl⟩, filed⟩
  | submit batchId gateOpen channel flagged reference userId now =>
    have steps := submitBatch_steps accepted
    exact ⟨steps.callMoves (by simp), filed.steps .submitted steps⟩
  | bankStatus batchId body userId today now =>
    have steps := bankStatus_steps filed accepted
    exact ⟨steps.callMoves id, filed.steps body.status steps⟩
  | journal request =>
    have steps := journalStep_steps accepted
    exact ⟨steps.callMoves (by simp), filed.steps .returned steps⟩

end Calls

/-- The feedback by hand leaves the order in this status. -/
def LeadsTo (answer : Result Db) (orderId : OrderId) (status : OrderStatus) : Prop :=
  ∃ next order, answer = .ok next ∧ next.orders[orderId]? = some order ∧ order.status = status

/-- Acceptance and rejection change an order alike, whether imported or entered by hand. By hand the rejection of an
executed order is refused, where a report leaves it; nothing else that is reported changes a status. -/
structure FeedbackAgrees (db : Db) (orderId : OrderId) (order : PaymentOrder) : Prop where
  accepted : ∀ (line : StatusLine) (body : BankStatusIn) (userId : Option UserId) (today : Date),
    line.status = .accepted → body.status = .acceptedByBank →
      LeadsTo (feedback db body userId today orderId) orderId (BankStatus.applyTransfer order line).status
  rejected : ∀ (line : StatusLine) (body : BankStatusIn) (userId : Option UserId) (today : Date),
    line.status = .rejected → body.status = .rejected → order.status ∉ executedStatuses →
      LeadsTo (feedback db body userId today orderId) orderId (BankStatus.applyTransfer order line).status
  executed : ∀ (line : StatusLine) (body : BankStatusIn) (userId : Option UserId) (today : Date),
    line.status = .rejected → body.status = .rejected → order.status ∈ executedStatuses →
      (∀ next, feedback db body userId today orderId ≠ .ok next) ∧
        (BankStatus.applyTransfer order line).status = order.status
  silent : ∀ line : StatusLine, line.status ≠ .accepted → line.status ≠ .rejected →
    (BankStatus.applyTransfer order line).status = order.status

section Agreement

variable {db : Db} {order : PaymentOrder} {line : StatusLine} {orderId : OrderId}

theorem applyTransfer_status : (BankStatus.applyTransfer order line).status =
    match line.status with
    | .accepted => (acknowledged order .acceptedByBank).status
    | .rejected => if order.status ∈ sentStatuses then .rejected else order.status
    | _ => order.status := by
  unfold BankStatus.applyTransfer acknowledged
  cases line.status with
  | accepted =>
    dsimp only
    split
    · rfl
    · split <;> rfl
  | rejected =>
    have same : order.status ∈ sentStatuses ↔ order.status ∈ [.exported, .submitted, OrderStatus.acceptedByBank] := by
      simp only [sentStatuses, mem_cons, not_mem_nil, or_false]
      tauto
    simp only [same]
    split
    · rfl
    · split <;> rfl
  | collected | returned | debited | info =>
    dsimp only
    split <;> rfl

theorem leadsTo_put (found : db.orders[orderId]? = some order)
    (served : answer = .ok (putOrder db orderId after)) : LeadsTo answer orderId after.status :=
  ⟨_, after, served, List.getElem?_set_self (found_lt found), rfl⟩

theorem feedback_agrees (found : db.orders[orderId]? = some order) (filed : order.status ∉ unfiledStatuses)
    (standing : order.status ≠ .returned) : FeedbackAgrees db orderId order where
  accepted := by
    intro line body userId today isAccepted answer
    have served : feedback db body userId today orderId =
        .ok (putOrder db orderId (acknowledged order .acceptedByBank)) := by
      simp only [feedback, orderOf, bind_ok, orRefuse_ok]
      exact ⟨order, found, by rw [answer]; rfl⟩
    rw [applyTransfer_status, isAccepted]
    exact leadsTo_put found served
  rejected := by
    intro line body userId today isRejected answer unexecuted
    have isAfter : rejected order =
        .ok (if order.status = .rejected then order else { order with status := .rejected }) := by
      simp only [rejected, bind_ok, exists_unit, require_ok, pure_ok]
      exact ⟨unexecuted, trivial⟩
    have served : feedback db body userId today orderId = .ok (putOrder db orderId
        (if order.status = .rejected then order else { order with status := .rejected })) := by
      simp only [feedback, orderOf, bind_ok, orRefuse_ok]
      exact ⟨order, found, by rw [answer, isAfter]; rfl⟩
    have reported : (BankStatus.applyTransfer order line).status = .rejected := by
      rw [applyTransfer_status, isRejected]
      rcases filed_cases filed with sent | isExecuted | same | returned
      · simp [sent]
      · exact absurd isExecuted unexecuted
      · simp [same]
      · exact absurd returned standing
    have after : (if order.status = .rejected then order else { order with status := .rejected }).status =
        OrderStatus.rejected := by
      split
      · assumption
      · rfl
    rw [reported, ← after]
    exact leadsTo_put found served
  executed := by
    intro line body userId today isRejected answer isExecuted
    have unsent : order.status ∉ sentStatuses := by
      simp only [executedStatuses, mem_cons, not_mem_nil, or_false] at isExecuted
      rcases isExecuted with same | same <;> simp [same, sentStatuses]
    refine ⟨?_, ?_⟩
    · intro next accepted
      simp only [feedback, orderOf, bind_ok, orRefuse_ok, found, some.injEq, exists_eq_left', answer,
        rejected, exists_unit, require_ok] at accepted
      obtain ⟨-, ⟨unexecuted, -⟩, -⟩ := accepted
      exact unexecuted isExecuted
    · rw [applyTransfer_status, isRejected]
      simp [unsent]
  silent := by
    intro line unaccepted unrejected
    rw [applyTransfer_status]
    cases answer : line.status with
    | accepted => exact absurd answer unaccepted
    | rejected => exact absurd answer unrejected
    | collected | returned | debited | info => rfl

end Agreement

theorem filed_run (noOrders : start.orders = []) (calls : List OrderCall) :
    Filed (run orderStep start calls).orders := by
  have filed : Filed start.orders := by
    intro orderId order found
    simp [noOrders] at found
  have preserved : ∀ (db : Db) (call : OrderCall) (next : Db), Filed db.orders → orderStep db call = .ok next →
      Filed next.orders := fun _ _ _ holds accepted => (orderStep_moves holds accepted).2
  exact run_invariant preserved calls filed

/-- In every run a new order is a draft and an order moves along the statuses only, except that a rejection by hand may
reach an order that came back; until then manual and imported acceptances and rejections of the orders of a file agree,
while execution and return are entered by hand only. -/
theorem order_statuses (start : Db) (noOrders : start.orders = []) (calls : List OrderCall) :
    (∀ (call : OrderCall) (next : Db), orderStep (run orderStep start calls) call = .ok next →
      CallMoves call (run orderStep start calls) next) ∧
    ∀ (orderId : OrderId) (order : PaymentOrder), (run orderStep start calls).orders[orderId]? = some order →
      order.batchId.isSome → order.status ≠ .returned → FeedbackAgrees (run orderStep start calls) orderId order := by
  have filed := filed_run noOrders calls
  refine ⟨fun call next accepted => (orderStep_moves filed accepted).1, ?_⟩
  intro orderId order found inFile standing
  exact feedback_agrees found (filed orderId order found inFile) standing

def sampleDebit : BankTransaction where
  propertyBankAccountId := 0
  legalEntityId := 0
  bookingDate := .ofYmd 2026 2 3
  amount := -100
  endToEndId := some "E2E1"
  hash := { iban := "DE02120300000000202051", bookingDate := .ofYmd 2026 2 3, amount := -100, purpose := "",
            endToEndId := "E2E1", counterpartIban := "" }

def payingTenant : Db :=
  { sampleTenant with
    books := { sampleTenant.books with
      accounts := sampleTenant.books.accounts ++
        [{ ledgerId := 0, number := "120000", category := .bank, propertyBankAccountId := some 0 }] }
    bankTransactions := [sampleDebit] }

def exportCalls : List OrderCall :=
  [.payment (.createOrder 0 0 (.ofYmd 2026 2 2) "E2E1"), .payment (.approveOrder 0 0 false),
   .payment (.approveOrder 0 1 false), .payment (.createBatch [0] true "MSG1")]

def paidByHand : OrderCall :=
  .bankStatus 0 { status := .executed, bankTransactionId := some 0 } (some 7) (.ofYmd 2026 2 4) 0

def reportedDebited : OrderCall :=
  .payment (.importReport "F1" { lines := [{ endToEndId := some "E2E1", status := .debited }] })

def statusesOf (db : Db) : List OrderStatus := db.orders.map PaymentOrder.status

/-- The same debit executes the order when it is entered by hand, and not when it is reported. -/
theorem executed_by_hand_only :
    statusesOf (run orderStep payingTenant exportCalls) = [.exported] ∧
      statusesOf (run orderStep payingTenant (exportCalls ++ [paidByHand])) = [.executed] ∧
      statusesOf (run orderStep payingTenant (exportCalls ++ [reportedDebited])) = [.exported] := by
  decide +kernel

theorem sample_order_statuses :
    ∃ order, (run orderStep payingTenant exportCalls).orders[0]? = some order ∧
      FeedbackAgrees (run orderStep payingTenant exportCalls) 0 order := by
  have exported : (run orderStep payingTenant exportCalls).orders[0]?.map
      (fun order => (order.status, order.batchId)) = some (.exported, some 0) := by decide +kernel
  obtain ⟨order, found, facts⟩ := map_eq_some_iff.mp exported
  obtain ⟨status, inFile⟩ := Prod.mk.inj facts
  refine ⟨order, found, ?_⟩
  exact (order_statuses payingTenant rfl exportCalls).2 0 order found (by rw [inFile]; rfl) (by rw [status]; decide)

end Mhvp.Banking.Payments
