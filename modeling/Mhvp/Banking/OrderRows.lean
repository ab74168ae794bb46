import Mhvp.Banking.OrderRequests

namespace Mhvp.Banking.Payments

open Core Accounting Lib.Table List

/-- States of an order that was not written to a file. -/
def unfiledStatuses : List OrderStatus := [.draft, .approved, .cancelled]

/-- The row of an order may advance so without a new approval. -/
structure Advanced (old order : PaymentOrder) : Prop where
  item : order.openItemId = old.openItemId
  snapshot : snapshot order = snapshot old
  active : order.status ∈ activeOrderStatuses → old.status ∈ activeOrderStatuses
  unfiled : old.status ∉ unfiledStatuses → order.status ∉ unfiledStatuses

/-- The row advances without being filed. -/
structure Reported (old order : PaymentOrder) : Prop extends Advanced old order where
  filed : order.status ∉ unfiledStatuses → old.status ∉ unfiledStatuses
  limited : order.status ∈ limitStatuses → old.status ∈ limitStatuses

theorem Reported.refl (order : PaymentOrder) : Reported order order :=
  ⟨⟨rfl, rfl, id, id⟩, id, id⟩

theorem Reported.trans (first : Reported old between) (second : Reported between order) : Reported old order where
  item := second.item.trans first.item
  snapshot := second.snapshot.trans first.snapshot
  active := fun active => first.active (second.active active)
  unfiled := fun filed => second.unfiled (first.unfiled filed)
  filed := fun filed => first.filed (second.filed filed)
  limited := fun limited => first.limited (second.limited limited)

theorem applyTransfer_reported (order : PaymentOrder) (line : StatusLine) :
    Reported order (BankStatus.applyTransfer order line) := by
  obtain ⟨reasonCode, same | ⟨status, same, moved⟩⟩ := BankStatus.applyTransfer_cases order line
  · rw [same]
    exact ⟨⟨rfl, rfl, id, id⟩, id, id⟩
  · rw [same]
    refine ⟨⟨rfl, rfl, fun _ => ?_, fun _ => ?_⟩, fun _ => ?_, fun _ => ?_⟩
    all_goals
      simp only [mem_cons, not_mem_nil, or_false] at moved
      rcases moved with ⟨rfl, sent | sent⟩ | ⟨rfl, sent | sent | sent⟩ <;>
        simp [sent, activeOrderStatuses, unfiledStatuses, limitStatuses]

section Approvals

variable {db next : Db} {order : PaymentOrder}

theorem validApprovals_same (same : next.approvals = db.approvals) (snapshots : snapshot order = snapshot old) :
    validApprovals next orderId order = validApprovals db orderId old := by
  unfold validApprovals
  rw [same, snapshots]

theorem validApprovals_added (added : next.approvals = db.approvals ++ [approval]) :
    validApprovals next orderId order = validApprovals db orderId order ++
      if approval.orderId = orderId ∧ approval.invalidated = false ∧ approval.snapshotHash = snapshot order
      then [approval] else [] := by
  unfold validApprovals
  rw [added, filter_append, filter_singleton]
  simp

theorem validApprovals_voided (void : next.approvals = invalidateApprovals [orderId] db.approvals) :
    validApprovals next orderId order = [] := by
  apply filter_eq_nil_iff.mpr
  intro approval member
  rw [void, invalidateApprovals, mem_map] at member
  obtain ⟨old, _, rfl⟩ := member
  by_cases own : old.orderId = orderId
  · simp [own]
  · simp [own]

theorem validApprovals_voided_other (void : next.approvals = invalidateApprovals [voided] db.approvals)
    (apart : orderId ≠ voided) : validApprovals next orderId order = validApprovals db orderId order := by
  unfold validApprovals
  rw [void, invalidateApprovals]
  induction db.approvals with
  | nil => rfl
  | cons approval rest ih =>
    rw [map_cons, filter_cons, filter_cons, ih]
    by_cases own : approval.orderId = voided
    · have other : approval.orderId ≠ orderId := fun same => apart (same.symm.trans own)
      simp [own, Ne.symm apart]
    · simp [own]

end Approvals

/-- A rewritten order that is in no file, and the approval that comes with it. -/
structure Unfiled (db : Db) (orderId : OrderId) (old order : PaymentOrder) (voids : Bool)
    (approval : Option PaymentApproval) : Prop where
  before : old.status ∈ [.draft, OrderStatus.approved]
  after : order.status ∈ unfiledStatuses
  item : order.openItemId = old.openItemId
  snapshot : voids = false → snapshot order = snapshot old
  grants : ∀ given ∈ approval, voids = false ∧ given.orderId = orderId ∧ given.invalidated = false ∧
    given.snapshotHash = Banking.snapshot old ∧ ∀ valid ∈ validApprovals db orderId old,
      given.userId ≠ valid.userId ∧ ¬ SamePerson db given.userId valid.userId

/-- What a request found under its locks still holds when it writes. -/
def PaymentReady (db : Db) : PaymentWork → Prop
  | .insert order => order.status = .draft ∧
      ∃ itemId, order.openItemId = some itemId ∧ openOrders db itemId = []
  | .rewrite orderId order voids approval =>
    ∃ old, db.orders[orderId]? = some old ∧ Unfiled db orderId old order voids approval
  | .file orderIds _ => ∀ orderId ∈ orderIds, ∃ order,
      db.orders[orderId]? = some order ∧ FullyApproved db (order, orderId)
  | .report _ _ => True
  | .elsewhere _ => True

/-- The ways a write changes a row of the orders. -/
inductive Rewritten (db next : Db) (orderId : OrderId) (old : PaymentOrder) : PaymentOrder → Prop
  | stands (order : PaymentOrder) (advanced : Advanced old order)
      (filed : order.status ∉ unfiledStatuses → old.status ∉ unfiledStatuses ∨ FullyApproved db (old, orderId))
      (approvals : validApprovals next orderId order = validApprovals db orderId old) :
      Rewritten db next orderId old order
  | approved (order : PaymentOrder) (approval : PaymentApproval) (advanced : Advanced old order)
      (unfiled : order.status ∈ unfiledStatuses)
      (apart : ∀ valid ∈ validApprovals db orderId old, ¬ SamePerson db approval.userId valid.userId)
      (approvals : validApprovals next orderId order = validApprovals db orderId old ++ [approval]) :
      Rewritten db next orderId old order
  | voided (order : PaymentOrder) (item : order.openItemId = old.openItemId)
      (active : old.status ∈ activeOrderStatuses) (unfiled : order.status ∈ unfiledStatuses)
      (before : old.status ∈ unfiledStatuses) (approvals : validApprovals next orderId order = [])
      (void : ∀ (place : ℕ) (approval : PaymentApproval), db.approvals[place]? = some approval →
        approval.orderId = orderId → ∃ later, next.approvals[place]? = some later ∧ later.invalidated = true) :
      Rewritten db next orderId old order

section Write

variable {db next : Db} {orderId : OrderId} {old order : PaymentOrder} {voids : Bool}
  {approval : Option PaymentApproval} {work : PaymentWork}

theorem applyLines_relates {Post : PaymentOrder → PaymentOrder → Prop} (refl : ∀ order, Post order order)
    (trans : ∀ first second third, Post first second → Post second third → Post first third)
    (each : ∀ order line, Post order (BankStatus.applyTransfer order line)) {lines : List (OrderId × StatusLine)}
    {orders : List PaymentOrder} (found : (BankStatus.applyLines orders lines)[orderId]? = some order) :
    ∃ old, orders[orderId]? = some old ∧ Post old order := by
  induction lines generalizing orders with
  | nil => exact ⟨order, found, refl order⟩
  | cons line rest ih =>
    have inRest : (BankStatus.applyLines (orders.modify line.1 fun order => BankStatus.applyTransfer order line.2)
        rest)[orderId]? = some order := found
    obtain ⟨between, present, later⟩ := ih inRest
    rw [List.getElem?_modify] at present
    cases row : orders[orderId]? with
    | none => simp [row] at present
    | some old =>
      by_cases here : line.1 = orderId
      · obtain rfl : BankStatus.applyTransfer old line.2 = between := by simpa [row, here] using present
        exact ⟨old, rfl, trans old _ order (each old line.2) later⟩
      · obtain rfl : old = between := by simpa [row, here] using present
        exact ⟨old, rfl, later⟩

theorem applyLines_row {lines : List (OrderId × StatusLine)} {orders : List PaymentOrder}
    (found : (BankStatus.applyLines orders lines)[orderId]? = some order) :
    ∃ old, orders[orderId]? = some old ∧ Reported old order :=
  applyLines_relates Reported.refl (fun _ _ _ => Reported.trans) applyTransfer_reported found

theorem applyLines_other (apart : ∀ line ∈ lines, line.1 ≠ orderId) :
    (BankStatus.applyLines orders lines)[orderId]? = orders[orderId]? := by
  induction lines generalizing orders with
  | nil => rfl
  | cons line rest ih =>
    have here := apart line mem_cons_self
    have later : (BankStatus.applyLines (orders.modify line.1 fun order => BankStatus.applyTransfer order line.2)
        rest)[orderId]? = (orders.modify line.1 fun order => BankStatus.applyTransfer order line.2)[orderId]? :=
      ih fun other member => apart other (mem_cons_of_mem _ member)
    refine later.trans ?_
    rw [List.getElem?_modify]
    simp [here]

theorem applyLines_length (orders : List PaymentOrder) (lines : List (OrderId × StatusLine)) :
    (BankStatus.applyLines orders lines).length = orders.length := by
  induction lines generalizing orders with
  | nil => rfl
  | cons line rest ih =>
    refine (ih (orders.modify line.1 fun order => BankStatus.applyTransfer order line.2)).trans ?_
    rw [length_modify]

theorem exportedIn_advanced (batchId : BatchId) (approved : order.status = .approved) :
    Advanced order (exportedIn batchId order) where
  item := rfl
  snapshot := rfl
  active := fun _ => by simp [approved, activeOrderStatuses]
  unfiled := fun _ => by simp [exportedIn, unfiledStatuses]

theorem Unfiled.rewritten (unfiled : Unfiled db orderId old order voids approval)
    (approvals : next.approvals =
      (if voids then invalidateApprovals [orderId] db.approvals else db.approvals) ++ approval.toList) :
    Rewritten db next orderId old order := by
  have active : old.status ∈ activeOrderStatuses := by
    have before := unfiled.before
    simp only [mem_cons, not_mem_nil, or_false] at before
    rcases before with before | before <;> simp [before, activeOrderStatuses]
  have before : old.status ∈ unfiledStatuses := by
    have before := unfiled.before
    simp only [mem_cons, not_mem_nil, or_false] at before
    rcases before with before | before <;> simp [before, unfiledStatuses]
  cases voids with
  | true =>
    cases approval with
    | some given => exact absurd (unfiled.grants given rfl).1 (by simp)
    | none =>
      have void : next.approvals = invalidateApprovals [orderId] db.approvals := by simpa using approvals
      refine .voided order unfiled.item active unfiled.after before (validApprovals_voided void) ?_
      intro place approval found own
      rw [void, invalidateApprovals, List.getElem?_map, found]
      simp [own]
  | false =>
    have snapshots := unfiled.snapshot rfl
    have advanced : Advanced old order :=
      ⟨unfiled.item, snapshots, fun _ => active, fun filed => absurd before filed⟩
    cases approval with
    | none =>
      refine .stands order advanced (fun filed => absurd unfiled.after filed) ?_
      exact validApprovals_same (by simpa using approvals) snapshots
    | some given =>
      obtain ⟨_, own, inForce, hash, apart⟩ := unfiled.grants given rfl
      refine .approved order given advanced unfiled.after (fun valid member => (apart valid member).2) ?_
      rw [validApprovals_added (by simpa using approvals), if_pos ⟨own, inForce, hash.trans snapshots.symm⟩]
      exact congrArg (· ++ [given]) (validApprovals_same rfl snapshots)

theorem Unfiled.others (unfiled : Unfiled db place old changed voids approval)
    (approvals : next.approvals =
      (if voids then invalidateApprovals [place] db.approvals else db.approvals) ++ approval.toList)
    (apart : orderId ≠ place) : validApprovals next orderId order = validApprovals db orderId order := by
  cases voids with
  | true =>
    cases approval with
    | some given => exact absurd (unfiled.grants given rfl).1 (by simp)
    | none => exact validApprovals_voided_other (by simpa using approvals) apart
  | false =>
    cases approval with
    | none => exact validApprovals_same (by simpa using approvals) rfl
    | some given =>
      have own := (unfiled.grants given rfl).2.1
      rw [validApprovals_added (by simpa using approvals), if_neg fun same => apart (same.1.symm.trans own),
        append_nil]

/-- Every approval is for an order of the table. -/
def ApprovalsKnown (db : Db) : Prop := ∀ approval ∈ db.approvals, approval.orderId < db.orders.length

/-- A row after a write: rewritten in one of the ways above, or the new row without approvals. -/
theorem writePayment_row (ready : PaymentReady db work) (known : ApprovalsKnown db)
    (written : writePayment db work = .ok next) (found : next.orders[orderId]? = some order) :
    (∃ old, db.orders[orderId]? = some old ∧ Rewritten db next orderId old order) ∨
      (orderId = db.orders.length ∧ work = .insert order ∧ validApprovals next orderId order = []) := by
  cases work with
  | insert added =>
    obtain rfl := pure_ok.mp written
    rcases found_append_one.mp found with present | ⟨last, rfl⟩
    · exact Or.inl ⟨order, present, .stands order (Reported.refl order).toAdvanced Or.inl rfl⟩
    · refine Or.inr ⟨last, rfl, ?_⟩
      apply filter_eq_nil_iff.mpr
      intro approval member
      have other : approval.orderId ≠ db.orders.length := Nat.ne_of_lt (known approval member)
      simp [last, other]
  | rewrite place changed voids approval =>
    obtain rfl := pure_ok.mp written
    obtain ⟨old, present, unfiled⟩ := ready
    rcases (found_set present).mp found with ⟨rfl, rfl⟩ | ⟨apart, present⟩
    · exact Or.inl ⟨old, present, unfiled.rewritten rfl⟩
    · refine Or.inl ⟨order, present, .stands order (Reported.refl order).toAdvanced Or.inl ?_⟩
      exact unfiled.others rfl apart
  | file orderIds batch =>
    obtain rfl := pure_ok.mp written
    simp only [List.getElem?_mapIdx, Option.map_eq_some_iff] at found
    obtain ⟨old, present, rfl⟩ := found
    refine Or.inl ⟨old, present, ?_⟩
    by_cases filed : orderId ∈ orderIds
    · obtain ⟨approved, same, full⟩ := ready orderId filed
      obtain rfl : old = approved := Option.mem_unique present same
      rw [if_pos filed]
      exact .stands _ (exportedIn_advanced _ full.1) (fun _ => Or.inr full) rfl
    · rw [if_neg filed]
      exact .stands _ (Reported.refl old).toAdvanced Or.inl rfl
  | report checksum lines =>
    obtain rfl := pure_ok.mp written
    obtain ⟨old, present, reported⟩ := applyLines_row found
    refine Or.inl ⟨old, present, .stands order reported.toAdvanced (fun filed => Or.inl (reported.filed filed)) ?_⟩
    exact validApprovals_same rfl reported.snapshot
  | elsewhere tables =>
    obtain rfl := pure_ok.mp written
    exact Or.inl ⟨order, found, .stands order (Reported.refl order).toAdvanced Or.inl rfl⟩

theorem writePayment_keeps (ready : PaymentReady db work) (written : writePayment db work = .ok next)
    (unlocked : .order orderId ∉ paymentLocks work) (found : db.orders[orderId]? = some order) :
    next.orders[orderId]? = some order ∧ validApprovals next orderId order = validApprovals db orderId order := by
  cases work with
  | insert added =>
    obtain rfl := pure_ok.mp written
    exact ⟨found_append_one.mpr (Or.inl found), rfl⟩
  | rewrite place changed voids approval =>
    obtain rfl := pure_ok.mp written
    obtain ⟨old, present, unfiled⟩ := ready
    have apart : orderId ≠ place := fun same => unlocked (by simp [paymentLocks, same])
    exact ⟨(found_set present).mpr (Or.inr ⟨apart, found⟩), unfiled.others rfl apart⟩
  | file orderIds batch =>
    obtain rfl := pure_ok.mp written
    have apart : orderId ∉ orderIds := fun same => unlocked (by simp [paymentLocks, same])
    refine ⟨?_, rfl⟩
    rw [List.getElem?_mapIdx, found, Option.map_some, if_neg apart]
  | report checksum lines =>
    obtain rfl := pure_ok.mp written
    refine ⟨?_, rfl⟩
    refine (applyLines_other fun line member same => unlocked ?_).trans found
    rw [← same]
    exact mem_map_of_mem member
  | elsewhere tables =>
    obtain rfl := pure_ok.mp written
    exact ⟨found, rfl⟩

end Write

end Mhvp.Banking.Payments
