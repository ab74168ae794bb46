import Mhvp.Accounting.OpenAmounts
import Mhvp.Banking.OrderApprovals

namespace Mhvp.Banking.Payments

open Core Accounting Lib.Calendar Lib.Locking Lib.Transition List Option

/-- The day is not after the discount date of the invoice. -/
def WithinDiscount (db : Db) (invoiceId : Option InvoiceId) (day : Date) : Prop :=
  ∃ id ∈ invoiceId, ∃ invoice ∈ db.invoices[id]?, ∃ last ∈ invoice.discountUntil, day ≤ last

instance : Decidable (WithinDiscount db invoiceId day) := by unfold WithinDiscount; infer_instance

/-- The open item covers amount and discount, and a discount is taken in time. -/
structure OrderCovered (db : Db) (order : PaymentOrder) : Prop where
  item : ∃ itemId ∈ order.openItemId, OpenBy db.books itemId (order.amount + order.discount)
  discount : order.discount ≠ 0 → WithinDiscount db order.invoiceId order.executionDate

instance : Decidable (OrderCovered db order) :=
  decidable_of_iff ((∃ itemId ∈ order.openItemId, OpenBy db.books itemId (order.amount + order.discount)) ∧
      (order.discount ≠ 0 → WithinDiscount db order.invoiceId order.executionDate))
    ⟨fun covered => ⟨covered.1, covered.2⟩, fun covered => ⟨covered.item, covered.discount⟩⟩

/-- The order a request is about to write. -/
def writtenOrder : PaymentWork → Option PaymentOrder
  | .insert order => some order
  | .rewrite _ order _ _ => some order
  | _ => none

def isOpenOrder (order : PaymentOrder) : Bool := order.status ∈ [.draft, OrderStatus.approved]

/-- Orders that may still be written to a file. -/
def ordersInWork (config : PaymentConfig) : List PaymentOrder :=
  config.state.orders.filter isOpenOrder ++ config.pending.filterMap writtenOrder

/-- A new execution date is in time for the discount, unless a new amount drops it. -/
def DiscountInTime (db : Db) (order : PaymentOrder) (patch : OrderPatch) : Prop :=
  order.discount ≠ 0 → ∀ day ∈ patch.executionDate, WithinDiscount db order.invoiceId day ∨
    ∃ amount ∈ patch.amount, ∃ itemId ∈ order.openItemId,
      answer? (remaining db.books itemId none) ≠ some (amount + order.discount)

instance : Decidable (DiscountInTime db order patch) := by unfold DiscountInTime; infer_instance

/-- The request leaves the orders in work covered. -/
def LeavesCovered (config : PaymentConfig) : PaymentWork → Prop
  | .elsewhere tables => ∀ order ∈ ordersInWork config, OrderCovered config.state order → OrderCovered tables order
  | _ => True

instance (config : PaymentConfig) (work : PaymentWork) : Decidable (LeavesCovered config work) := by
  cases work <;> unfold LeavesCovered <;> infer_instance

/-- What the requests do not check: the item of an invoice is not written off, a new date keeps the discount in
time, and the requests of other parts leave the orders in work covered. -/
def KeepsCovered (config : PaymentConfig) : Move PaymentRequest → Prop
  | .start (.createOrder invoiceId _ _ _) => ∀ invoice ∈ config.state.invoices[invoiceId]?,
      ∀ found ∈ payableOf config.state.books invoice, found.1.writtenOff = false
  | .start (.changeOrder orderId patch) => ∀ order ∈ config.state.orders[orderId]?,
      DiscountInTime config.state order patch
  | .commit place => ∀ work ∈ config.pending[place]?, LeavesCovered config work
  | _ => True

instance (config : PaymentConfig) (move : Move PaymentRequest) : Decidable (KeepsCovered config move) := by
  cases move with
  | start request => cases request <;> unfold KeepsCovered <;> infer_instance
  | commit place => unfold KeepsCovered; infer_instance
  | rollback place => unfold KeepsCovered; infer_instance

/-- The orders of a file are covered. -/
def FileCovered (db : Db) : PaymentWork → Prop
  | .file orderIds _ => ∀ orderId ∈ orderIds, ∃ order ∈ db.orders[orderId]?, OrderCovered db order
  | _ => True

instance (db : Db) (work : PaymentWork) : Decidable (FileCovered db work) := by
  cases work <;> unfold FileCovered <;> infer_instance

/-- Every order of a file in the making is covered. -/
def FilesCovered (config : PaymentConfig) : Prop := ∀ work ∈ config.pending, FileCovered config.state work

instance (config : PaymentConfig) : Decidable (FilesCovered config) := by unfold FilesCovered; infer_instance

section Reads

variable {db : Db} {order changed : PaymentOrder}

theorem openBy_remaining (found : books.openItems[itemId]? = some item)
    (unwritten : item.writtenOff = false) (read : remaining books itemId none = .ok rest) (within : amount ≤ rest) :
    OpenBy books itemId amount := by
  obtain ⟨same, foundSame, rfl⟩ := WriteOffs.remaining_ok read
  obtain rfl : item = same := mem_unique found foundSame
  exact ⟨item, found, unwritten, within⟩

theorem payableOf_found (found : payableOf books invoice = some (item, itemId)) :
    books.openItems[itemId]? = some item :=
  mk_mem_zipIdx_iff_getElem?.mp (mem_of_find?_eq_some found)

theorem discount_in_time (granted : discount invoice day ≠ 0) :
    ∃ last ∈ invoice.discountUntil, day ≤ last := by
  unfold discount at granted
  split at granted
  · rename_i percent last _ isLast
    refine ⟨last, isLast, ?_⟩
    by_contra late
    rw [if_pos (not_le.mp late)] at granted
    exact granted rfl
  · exact absurd rfl granted

theorem orderFromInvoice_covered (accepted : orderFromInvoice db invoiceId bankAccountId day endToEndId = .ok order)
    (unwritten : ∀ invoice ∈ db.invoices[invoiceId]?, ∀ found ∈ payableOf db.books invoice,
      found.1.writtenOff = false) : OrderCovered db order := by
  simp only [orderFromInvoice, bind_ok, exists_unit, require_ok, orRefuse_ok, pure_ok, Prod.exists] at accepted
  obtain ⟨invoice, found, -, iban, -, -, ledger, -, bank, -, -, item, itemId, payable, rest, read, -, rfl⟩ := accepted
  constructor
  · refine ⟨itemId, rfl, openBy_remaining (payableOf_found payable) (unwritten invoice found _ payable) read ?_⟩
    rw [sub_add_cancel]
  · intro granted
    have given : discount invoice day ≠ 0 := by
      intro none
      apply granted
      dsimp only
      split
      · exact none
      · rfl
    obtain ⟨last, isLast, inTime⟩ := discount_in_time given
    exact ⟨invoiceId, rfl, invoice, found, last, isLast, inTime⟩

theorem orderForPayout_covered (accepted : orderForPayout db openItemId contactBankAccountId bankAccountId day reason
      purpose endToEndId = .ok order) : OrderCovered db order := by
  simp only [orderForPayout, bind_ok, exists_unit, require_ok, orRefuse_ok, pure_ok] at accepted
  obtain ⟨item, found, ⟨-, unwritten⟩, -, -, rest, read, -, ledger, -, bank, -, -, payee, -, -, -, -, rfl⟩ := accepted
  constructor
  · refine ⟨openItemId, rfl, openBy_remaining found unwritten read ?_⟩
    rw [add_zero]
  · intro granted
    exact absurd rfl granted

/-- The terms of an order that decide whether it is covered. -/
structure SameTerms (old order : PaymentOrder) : Prop where
  item : order.openItemId = old.openItemId
  invoice : order.invoiceId = old.invoiceId
  amount : order.amount = old.amount
  discount : order.discount = old.discount
  date : order.executionDate = old.executionDate

theorem OrderCovered.same (covered : OrderCovered db old) (same : SameTerms old order) : OrderCovered db order := by
  constructor
  · rw [same.item, same.amount, same.discount]
    exact covered.item
  · rw [same.discount, same.invoice, same.date]
    exact covered.discount

theorem changeIban_terms (accepted : changeIban db order iban = .ok changed) : SameTerms order changed := by
  cases iban with
  | none =>
    obtain rfl := pure_ok.mp accepted
    exact ⟨rfl, rfl, rfl, rfl, rfl⟩
  | some value =>
    simp only [changeIban, bind_ok, exists_unit, require_ok, pure_ok] at accepted
    obtain ⟨known, -, -, rfl⟩ := accepted
    exact ⟨rfl, rfl, rfl, rfl, rfl⟩

/-- A changed amount is covered, and keeps the discount only with the whole open amount. -/
theorem changeAmount_covered (covered : OrderCovered db order) (accepted : changeAmount db order amount = .ok changed) :
    OrderCovered db changed ∧ changed.invoiceId = order.invoiceId ∧ changed.executionDate = order.executionDate ∧
      (changed.discount ≠ 0 → changed.discount = order.discount ∧ ∀ value ∈ amount, ∀ itemId ∈ order.openItemId,
        answer? (remaining db.books itemId none) = some (value + order.discount)) := by
  cases amount with
  | none =>
    obtain rfl := pure_ok.mp accepted
    exact ⟨covered, rfl, rfl, fun _ => ⟨rfl, fun value none => nomatch none⟩⟩
  | some value =>
    obtain ⟨⟨itemId, isItem, item, found, unwritten, -⟩, inTime⟩ := covered
    simp only [changeAmount, mem_def.mp isItem, bind_ok, exists_unit, require_ok, pure_ok] at accepted
    obtain ⟨rest, read, within, rfl⟩ := accepted
    by_cases whole : value + order.discount = rest
    · refine ⟨⟨⟨itemId, rfl, openBy_remaining found unwritten read ?_⟩, ?_⟩, rfl, rfl, ?_⟩
      · rw [if_neg (not_not.mpr whole)]
        exact whole.le
      · rw [if_neg (not_not.mpr whole)]
        exact inTime
      · intro _
        rw [if_neg (not_not.mpr whole)]
        refine ⟨rfl, ?_⟩
        intro same isSame otherId isOther
        cases isSame
        obtain rfl : itemId = otherId := mem_unique isItem isOther
        rw [read, whole]
        rfl
    · refine ⟨⟨⟨itemId, rfl, openBy_remaining found unwritten read ?_⟩, ?_⟩, rfl, rfl, ?_⟩
      · rw [if_pos whole, add_zero]
        exact within
      · intro kept
        rw [if_pos whole] at kept
        exact absurd rfl kept
      · intro kept
        rw [if_pos whole] at kept
        exact absurd rfl kept

theorem fallBack_terms (order : PaymentOrder) : SameTerms order (fallBack order) := by
  unfold fallBack
  split
  · exact ⟨rfl, rfl, rfl, rfl, rfl⟩
  · exact ⟨rfl, rfl, rfl, rfl, rfl⟩

theorem changeOrder_covered (accepted : changeOrder db orderId patch = .ok (changed, voids))
    (covered : ∀ order, db.orders[orderId]? = some order → isOpenOrder order → OrderCovered db order)
    (inTime : ∀ order ∈ db.orders[orderId]?, DiscountInTime db order patch) : OrderCovered db changed := by
  simp only [changeOrder, orderOf, bind_ok, exists_unit, require_ok, orRefuse_ok] at accepted
  obtain ⟨order, found, isOpen, withAmount, newAmount, withIban, newIban, accepted⟩ := accepted
  have before := covered order found (decide_eq_true isOpen)
  obtain ⟨amountCovered, sameInvoice, sameDate, keeps⟩ := changeAmount_covered before newAmount
  have terms := changeIban_terms newIban
  have ibanCovered := amountCovered.same terms
  have dated : OrderCovered db { withIban with
      executionDate := patch.executionDate.getD withIban.executionDate
      purpose := patch.purpose.getD withIban.purpose } := by
    refine ⟨ibanCovered.item, ?_⟩
    intro granted
    dsimp only at granted ⊢
    cases newDate : patch.executionDate with
    | none => exact ibanCovered.discount granted
    | some day =>
      obtain ⟨kept, whole⟩ := keeps (terms.discount ▸ granted)
      have discounted : order.discount ≠ 0 := by rwa [terms.discount, kept] at granted
      rcases inTime order found discounted day newDate with within | ⟨amount, isAmount, itemId, isItem, drops⟩
      · rw [terms.invoice, sameInvoice]
        exact within
      · exact absurd (whole amount isAmount itemId isItem) drops
  split at accepted
  · obtain ⟨rfl, -⟩ := Prod.mk.inj (pure_ok.mp accepted)
    exact dated.same (fallBack_terms _)
  · obtain ⟨rfl, -⟩ := Prod.mk.inj (pure_ok.mp accepted)
    exact dated

theorem approve_terms (accepted : approve db orderId userId isPlatformAdmin = .ok (some (approval, changed)))
    (found : db.orders[orderId]? = some order) : SameTerms order changed ∧ isOpenOrder order := by
  simp only [approve, orderOf, bind_ok, exists_unit, require_ok, orRefuse_ok] at accepted
  obtain ⟨row, same, isOpen, -, accepted⟩ := accepted
  obtain rfl : order = row := mem_unique found same
  refine ⟨?_, decide_eq_true isOpen⟩
  split at accepted
  · cases pure_ok.mp accepted
  · simp only [bind_ok, exists_unit] at accepted
    obtain ⟨-, rfl⟩ := Prod.mk.inj (some.inj (pure_ok.mp accepted.2))
    split
    · exact ⟨rfl, rfl, rfl, rfl, rfl⟩
    · exact ⟨rfl, rfl, rfl, rfl, rfl⟩

theorem readPayment_covered (read : readPayment config.state request = .ok work)
    (keeps : KeepsCovered config (.start request))
    (covered : ∀ order ∈ ordersInWork config, OrderCovered config.state order) :
    ∀ order ∈ writtenOrder work, OrderCovered config.state order := by
  have stored : ∀ (orderId : OrderId) (order : PaymentOrder), config.state.orders[orderId]? = some order →
      isOpenOrder order → OrderCovered config.state order := by
    intro orderId order found isOpen
    exact covered order (mem_append_left _ (mem_filter.mpr ⟨mem_of_getElem? found, isOpen⟩))
  intro order written
  cases request with
  | createOrder invoiceId bankAccountId day endToEndId =>
    simp only [readPayment, bind_ok, pure_ok] at read
    obtain ⟨drafted, accepted, rfl⟩ := read
    cases written
    exact orderFromInvoice_covered accepted keeps
  | createPayout openItemId payee bankAccountId day reason purpose endToEndId =>
    simp only [readPayment, bind_ok, pure_ok] at read
    obtain ⟨drafted, accepted, rfl⟩ := read
    cases written
    exact orderForPayout_covered accepted
  | changeOrder orderId patch =>
    simp only [readPayment, bind_ok, pure_ok] at read
    obtain ⟨⟨changed, voids⟩, accepted, rfl⟩ := read
    cases written
    exact changeOrder_covered accepted (stored orderId) keeps
  | approveOrder orderId userId isPlatformAdmin =>
    simp only [readPayment, orderOf, bind_ok, orRefuse_ok] at read
    obtain ⟨old, found, answer, accepted, read⟩ := read
    have isOpen := (approve_ok accepted found).1
    have before := stored orderId old found (decide_eq_true isOpen)
    cases answer with
    | none =>
      obtain rfl := pure_ok.mp read
      cases written
      exact before
    | some pair =>
      obtain rfl := pure_ok.mp read
      cases written
      exact before.same (approve_terms accepted found).1
  | cancelOrder orderId =>
    simp only [readPayment, cancelOrder, orderOf, bind_ok, exists_unit, require_ok, orRefuse_ok, pure_ok] at read
    obtain ⟨cancelled, ⟨old, found, isOpen, rfl⟩, rfl⟩ := read
    cases written
    exact (stored orderId old found (decide_eq_true isOpen)).same ⟨rfl, rfl, rfl, rfl, rfl⟩
  | createBatch orderIds gateOpen messageId =>
    simp only [readPayment, bind_ok, pure_ok] at read
    obtain ⟨made, -, rfl⟩ := read
    cases written
  | importReport checksum report =>
    simp only [readPayment] at read
    split at read
    · obtain rfl := pure_ok.mp read
      cases written
    · obtain rfl := pure_ok.mp read
      cases written
  | elsewhere tables =>
    obtain rfl := pure_ok.mp read
    cases written

end Reads

section Writes

variable {db next : Db} {work : PaymentWork} {order : PaymentOrder}

/-- The terms stay, and the order is not opened again. -/
structure StaysClosed (old order : PaymentOrder) : Prop extends SameTerms old order where
  closed : isOpenOrder order → isOpenOrder old

theorem StaysClosed.refl (order : PaymentOrder) : StaysClosed order order := ⟨⟨rfl, rfl, rfl, rfl, rfl⟩, id⟩

theorem StaysClosed.trans (early : StaysClosed first second) (late : StaysClosed second third) :
    StaysClosed first third where
  item := late.item.trans early.item
  invoice := late.invoice.trans early.invoice
  amount := late.amount.trans early.amount
  discount := late.discount.trans early.discount
  date := late.date.trans early.date
  closed := fun isOpen => early.closed (late.closed isOpen)

theorem applyTransfer_terms (order : PaymentOrder) (line : StatusLine) :
    StaysClosed order (BankStatus.applyTransfer order line) := by
  obtain ⟨reasonCode, same | ⟨status, same, moved⟩⟩ := BankStatus.applyTransfer_cases order line
  · rw [same]
    exact ⟨⟨rfl, rfl, rfl, rfl, rfl⟩, id⟩
  · have closed : status ∉ [.draft, OrderStatus.approved] := by
      rcases moved with ⟨rfl, -⟩ | ⟨rfl, -⟩
      · decide
      · decide
    rw [same]
    exact ⟨⟨rfl, rfl, rfl, rfl, rfl⟩, fun isOpen => absurd (of_decide_eq_true isOpen) closed⟩

theorem writePayment_open (written : writePayment db work = .ok next) (member : order ∈ next.orders)
    (isOpen : isOpenOrder order) :
    order ∈ writtenOrder work ∨ ∃ old ∈ db.orders, isOpenOrder old ∧ SameTerms old order := by
  cases work with
  | insert added =>
    obtain rfl := pure_ok.mp written
    rcases mem_append.mp member with old | new
    · exact Or.inr ⟨order, old, isOpen, rfl, rfl, rfl, rfl, rfl⟩
    · exact Or.inl (mem_def.mpr (congrArg some (mem_singleton.mp new).symm))
  | rewrite orderId changed voids approval =>
    obtain rfl := pure_ok.mp written
    rcases mem_or_eq_of_mem_set member with old | rfl
    · exact Or.inr ⟨order, old, isOpen, rfl, rfl, rfl, rfl, rfl⟩
    · exact Or.inl rfl
  | file orderIds batch =>
    obtain rfl := pure_ok.mp written
    obtain ⟨place, found⟩ := mem_iff_getElem?.mp member
    rw [List.getElem?_mapIdx, map_eq_some_iff] at found
    obtain ⟨old, foundOld, rfl⟩ := found
    split at isOpen
    · exact absurd (of_decide_eq_true isOpen) (by simp [exportedIn])
    · rename_i other
      rw [if_neg other]
      exact Or.inr ⟨old, mem_of_getElem? foundOld, isOpen, rfl, rfl, rfl, rfl, rfl⟩
  | report checksum lines =>
    obtain rfl := pure_ok.mp written
    obtain ⟨place, found⟩ := mem_iff_getElem?.mp member
    obtain ⟨old, foundOld, same⟩ :=
      applyLines_relates StaysClosed.refl (fun _ _ _ => StaysClosed.trans) applyTransfer_terms found
    exact Or.inr ⟨old, mem_of_getElem? foundOld, same.closed isOpen, same.toSameTerms⟩
  | elsewhere tables =>
    obtain rfl := pure_ok.mp written
    exact Or.inr ⟨order, member, isOpen, rfl, rfl, rfl, rfl, rfl⟩

theorem writePayment_covered (written : writePayment db work = .ok next) (covered : OrderCovered db order)
    (keeps : ∀ tables, work = .elsewhere tables → OrderCovered tables order) : OrderCovered next order := by
  cases work with
  | insert | rewrite | file | report =>
    obtain rfl := pure_ok.mp written
    exact ⟨covered.item, covered.discount⟩
  | elsewhere tables =>
    obtain rfl := pure_ok.mp written
    have after := keeps tables rfl
    exact ⟨after.item, after.discount⟩

end Writes

/-- Requests on the journal and on write offs leave an order covered whose item they leave open. -/
theorem OrderCovered.afterBooks {next} (covered : OrderCovered db order) (sound : db.books.Sound)
    (accepted : writeOffStep db call = .ok next)
    (leaves : ∀ itemId ∈ order.openItemId, LeavesItem db itemId (order.amount + order.discount) call) :
    OrderCovered next order := by
  obtain ⟨⟨itemId, isItem, isOpen⟩, inTime⟩ := covered
  have invoices : next.invoices = db.invoices := by rw [writeOffStep_frame accepted]
  constructor
  · exact ⟨itemId, isItem, writeOffStep_openBy sound accepted (leaves itemId isItem) isOpen⟩
  · intro granted
    rw [WithinDiscount, invoices]
    exact inTime granted

/-- The invariant of the orders in work. -/
structure CoverHolds (config : PaymentConfig) : Prop where
  payments : PaymentsHold config
  covered : ∀ order ∈ ordersInWork config, OrderCovered config.state order

theorem CoverHolds.step {next} (holds : CoverHolds config)
    (keeps : KeepsCovered config move) (moved : paymentProtocol.step config move = .ok next) : CoverHolds next := by
  refine ⟨payment_step config move next holds.payments moved, ?_⟩
  cases Protocol.step_ok moved with
  | start request work read free =>
    intro order member
    rcases mem_append.mp member with stored | pending
    · exact holds.covered order (mem_append_left _ stored)
    · rw [filterMap_append] at pending
      rcases mem_append.mp pending with old | new
      · exact holds.covered order (mem_append_right _ old)
      · obtain ⟨same, isWork, written⟩ := mem_filterMap.mp new
        obtain rfl := mem_singleton.mp isWork
        exact readPayment_covered read keeps holds.covered order written
  | commit place work state found written =>
    have leaves : LeavesCovered config work := keeps work found
    have stays : ∀ order ∈ ordersInWork config, OrderCovered state order := by
      intro order member
      refine writePayment_covered written (holds.covered order member) ?_
      rintro tables rfl
      exact leaves order member (holds.covered order member)
    intro order member
    rcases mem_append.mp member with stored | pending
    · obtain ⟨inOrders, isOpen⟩ := mem_filter.mp stored
      rcases writePayment_open written inOrders isOpen with isWritten | ⟨old, inOld, wasOpen, same⟩
      · apply stays order
        apply mem_append_right
        exact mem_filterMap.mpr ⟨work, mem_of_getElem? found, isWritten⟩
      · exact (stays old (mem_append_left _ (mem_filter.mpr ⟨inOld, wasOpen⟩))).same same
    · obtain ⟨other, isPending, isWritten⟩ := mem_filterMap.mp pending
      apply stays order
      apply mem_append_right
      exact mem_filterMap.mpr ⟨other, mem_of_mem_eraseIdx isPending, isWritten⟩
  | rollback place =>
    intro order member
    rcases mem_append.mp member with stored | pending
    · exact holds.covered order (mem_append_left _ stored)
    · obtain ⟨other, isPending, isWritten⟩ := mem_filterMap.mp pending
      apply holds.covered order
      apply mem_append_right
      exact mem_filterMap.mpr ⟨other, mem_of_mem_eraseIdx isPending, isWritten⟩

theorem CoverHolds.files (holds : CoverHolds config) : FilesCovered config := by
  intro work isPending
  cases work with
  | file orderIds batch =>
    intro orderId member
    obtain ⟨order, found, approved, -⟩ := holds.payments.ready _ isPending orderId member
    refine ⟨order, found, holds.covered order ?_⟩
    apply mem_append_left
    refine mem_filter.mpr ⟨mem_of_getElem? found, decide_eq_true ?_⟩
    rw [approved]
    exact mem_cons_of_mem _ mem_cons_self
  | insert | rewrite | report | elsewhere => trivial

theorem payment_files_covered (noOrders : db.orders = []) (noApprovals : db.approvals = [])
    (moves : List (Move PaymentRequest)) (keeps : Guarded paymentProtocol.step KeepsCovered ⟨db, []⟩ moves) :
    FilesCovered (run paymentProtocol.step ⟨db, []⟩ moves) := by
  have start : CoverHolds ⟨db, []⟩ := by
    refine ⟨Protocol.holds_initial (paymentSound_start noOrders noApprovals), ?_⟩
    intro order member
    simp [ordersInWork, noOrders] at member
  have holds : CoverHolds (run paymentProtocol.step ⟨db, []⟩ moves) := by
    refine Guarded.invariant ?_ moves keeps start
    intro config move next holds keeps moved
    exact holds.step keeps moved
  exact holds.files

end Mhvp.Banking.Payments
