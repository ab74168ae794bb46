import Mhvp.Banking.OrderRows

namespace Mhvp.Banking.Payments

open Core Accounting Lib.Locking Lib.Table Lib.Transition List

section Reads

variable {db : Db} {order changed : PaymentOrder}

theorem orderFromInvoice_ok (accepted : orderFromInvoice db invoiceId bankAccountId day endToEndId = .ok order) :
    order.status = .draft ∧ ∃ itemId, order.openItemId = some itemId ∧ openOrders db itemId = [] := by
  simp only [orderFromInvoice, bind_ok, exists_unit, require_ok, orRefuse_ok, pure_ok] at accepted
  obtain ⟨invoice, _, _, iban, _, _, ledger, _, bank, _, _, item, _, rest, _, free, rfl⟩ := accepted
  exact ⟨rfl, item.2, rfl, free⟩

theorem orderForPayout_ok (accepted : orderForPayout db openItemId contactBankAccountId bankAccountId day reason
      purpose endToEndId = .ok order) :
    order.status = .draft ∧ ∃ itemId, order.openItemId = some itemId ∧ openOrders db itemId = [] := by
  simp only [orderForPayout, bind_ok, exists_unit, require_ok, orRefuse_ok, pure_ok] at accepted
  obtain ⟨item, _, _, _, free, rest, _, _, ledger, _, bank, _, _, payee, _, _, _, _, rfl⟩ := accepted
  exact ⟨rfl, openItemId, rfl, free⟩

theorem changeAmount_ok (accepted : changeAmount db order amount = .ok changed) :
    changed.openItemId = order.openItemId ∧ changed.status = order.status := by
  cases amount with
  | none =>
    obtain rfl := pure_ok.mp accepted
    exact ⟨rfl, rfl⟩
  | some value =>
    rw [changeAmount] at accepted
    cases item : order.openItemId with
    | none | some =>
      simp only [item, bind_ok, exists_unit, require_ok, pure_ok] at accepted
      obtain ⟨rest, _, _, rfl⟩ := accepted
      exact ⟨rfl, rfl⟩

theorem changeIban_ok (accepted : changeIban db order iban = .ok changed) :
    changed.openItemId = order.openItemId ∧ changed.status = order.status := by
  cases iban with
  | none =>
    obtain rfl := pure_ok.mp accepted
    exact ⟨rfl, rfl⟩
  | some value =>
    simp only [changeIban, bind_ok, exists_unit, require_ok, pure_ok] at accepted
    obtain ⟨known, _, _, rfl⟩ := accepted
    exact ⟨rfl, rfl⟩

theorem unfiled_of_open (isOpen : order.status ∈ [.draft, OrderStatus.approved]) :
    order.status ∈ unfiledStatuses := by
  simp only [mem_cons, not_mem_nil, or_false] at isOpen
  rcases isOpen with isOpen | isOpen <;> simp [isOpen, unfiledStatuses]

theorem fallBack_kept (order : PaymentOrder) :
    (fallBack order).openItemId = order.openItemId ∧ snapshot (fallBack order) = snapshot order ∧
      (order.status ∈ unfiledStatuses → (fallBack order).status ∈ unfiledStatuses) := by
  unfold fallBack
  split
  · exact ⟨rfl, rfl, fun _ => by simp [unfiledStatuses]⟩
  · exact ⟨rfl, rfl, id⟩

theorem changeOrder_ok (accepted : changeOrder db orderId patch = .ok (changed, voids)) :
    PaymentReady db (.rewrite orderId changed voids none) := by
  simp only [changeOrder, orderOf, bind_ok, exists_unit, require_ok, orRefuse_ok] at accepted
  obtain ⟨order, present, isOpen, withAmount, amountChange, withIban, ibanChange, accepted⟩ := accepted
  obtain ⟨amountItem, amountStatus⟩ := changeAmount_ok amountChange
  obtain ⟨ibanItem, ibanStatus⟩ := changeIban_ok ibanChange
  have item := ibanItem.trans amountItem
  have after : withIban.status ∈ unfiledStatuses := by
    rw [ibanStatus, amountStatus]
    exact unfiled_of_open isOpen
  split at accepted
  · obtain ⟨rfl, rfl⟩ := Prod.mk.inj (pure_ok.mp accepted)
    refine ⟨order, present, isOpen, (fallBack_kept _).2.2 after, (fallBack_kept _).1.trans item, ?_, ?_⟩
    · intro kept
      cases kept
    · intro given none
      cases none
  · rename_i same
    obtain ⟨rfl, rfl⟩ := Prod.mk.inj (pure_ok.mp accepted)
    refine ⟨order, present, isOpen, after, item, fun _ => not_not.mp same, ?_⟩
    intro given none
    cases none

theorem ensureDifferentPerson_ok (checked : ensureDifferentPerson db userId others = .ok ())
    (new : userId ∉ others) : ∀ other ∈ others, ¬ SamePerson db userId other := by
  rw [ensureDifferentPerson, if_neg new, require_ok] at checked
  exact checked

theorem mem_approvers :
    userId ∈ approvers approvals ↔ ∃ approval ∈ approvals, approval.userId = userId := by
  simp [approvers]

theorem approve_ok (accepted : approve db orderId userId isPlatformAdmin = .ok answer)
    (present : db.orders[orderId]? = some order) :
    order.status ∈ [.draft, OrderStatus.approved] ∧ ∀ approval approved, answer = some (approval, approved) →
      PaymentReady db (.rewrite orderId approved false (some approval)) := by
  simp only [approve, orderOf, bind_ok, exists_unit, require_ok, orRefuse_ok] at accepted
  obtain ⟨row, same, isOpen, _, accepted⟩ := accepted
  obtain rfl : order = row := Option.mem_unique present same
  refine ⟨isOpen, ?_⟩
  intro approval approved isNew
  split at accepted
  · rw [← pure_ok.mp accepted] at isNew
    cases isNew
  · rename_i absent
    simp only [bind_ok, exists_unit] at accepted
    obtain ⟨checked, accepted⟩ := accepted
    rw [← pure_ok.mp accepted] at isNew
    obtain ⟨rfl, rfl⟩ := Prod.mk.inj (Option.some.inj isNew)
    have different := ensureDifferentPerson_ok checked absent
    have kept : ∀ reached : Prop, [Decidable reached] →
        (if reached then { order with status := .approved } else order).status ∈ unfiledStatuses ∧
        (if reached then { order with status := .approved } else order).openItemId = order.openItemId ∧
        snapshot (if reached then { order with status := .approved } else order) = snapshot order := by
      intro reached _
      split
      · exact ⟨by simp [unfiledStatuses], rfl, rfl⟩
      · exact ⟨unfiled_of_open isOpen, rfl, rfl⟩
    refine ⟨order, present, isOpen, (kept _).1, (kept _).2.1, fun _ => (kept _).2.2, ?_⟩
    intro given isGiven
    cases isGiven
    refine ⟨rfl, rfl, rfl, rfl, ?_⟩
    intro valid member
    have isApprover : valid.userId ∈ approvers (validApprovals db orderId order) :=
      mem_approvers.mpr ⟨valid, member, rfl⟩
    refine ⟨?_, different valid.userId isApprover⟩
    intro same
    change userId = valid.userId at same
    rw [same] at absent
    exact absent isApprover

theorem cancelOrder_ok (accepted : cancelOrder db orderId = .ok changed) :
    PaymentReady db (.rewrite orderId changed true none) := by
  simp only [cancelOrder, orderOf, bind_ok, exists_unit, require_ok, orRefuse_ok, pure_ok] at accepted
  obtain ⟨order, present, isOpen, rfl⟩ := accepted
  refine ⟨order, present, isOpen, by simp [unfiledStatuses], rfl, ?_, ?_⟩
  · intro kept
    cases kept
  · intro given none
    cases none

theorem lockedOrders_ok (read : lockedOrders db ids = .ok found) :
    found.map Prod.snd = ids ∧ ∀ each ∈ found, db.orders[each.2]? = some each.1 := by
  induction ids generalizing found with
  | nil =>
    obtain rfl := pure_ok.mp read
    exact ⟨rfl, by simp⟩
  | cons orderId rest ih =>
    simp only [lockedOrders, orderOf, bind_ok, orRefuse_ok, pure_ok] at read
    obtain ⟨order, present, others, readRest, rfl⟩ := read
    obtain ⟨ids, rows⟩ := ih readRest
    refine ⟨by rw [map_cons, ids], ?_⟩
    intro each member
    rcases mem_cons.mp member with rfl | later
    · exact present
    · exact rows each later

theorem createBatch_ok (accepted : createBatch db orderIds gateOpen messageId = .ok (batch, ids)) :
    ∀ orderId ∈ ids, ∃ order, db.orders[orderId]? = some order ∧ FullyApproved db (order, orderId) := by
  simp only [createBatch, bind_ok, exists_unit, require_ok] at accepted
  obtain ⟨_, found, locked, accepted⟩ := accepted
  obtain ⟨foundIds, rows⟩ := lockedOrders_ok locked
  split at accepted
  · simp only [bind_ok, exists_unit, require_ok, orRefuse_ok, pure_ok, Prod.mk.injEq] at accepted
    obtain ⟨full, _, _, _, _, _, _, _, rfl⟩ := accepted
    intro orderId member
    rw [← foundIds] at member
    obtain ⟨each, isFound, rfl⟩ := mem_map.mp member
    exact ⟨each.1, rows each isFound, full each isFound⟩
  · cases accepted

theorem readPayment_ready (read : readPayment db request = .ok work) : PaymentReady db work := by
  cases request with
  | createOrder invoiceId bankAccountId day endToEndId =>
    simp only [readPayment, bind_ok, pure_ok] at read
    obtain ⟨order, accepted, rfl⟩ := read
    exact orderFromInvoice_ok accepted
  | createPayout openItemId payee bankAccountId day reason purpose endToEndId =>
    simp only [readPayment, bind_ok, pure_ok] at read
    obtain ⟨order, accepted, rfl⟩ := read
    exact orderForPayout_ok accepted
  | changeOrder orderId patch =>
    simp only [readPayment, bind_ok, pure_ok] at read
    obtain ⟨⟨order, voids⟩, accepted, rfl⟩ := read
    exact changeOrder_ok accepted
  | approveOrder orderId userId isPlatformAdmin =>
    simp only [readPayment, orderOf, bind_ok, orRefuse_ok] at read
    obtain ⟨order, present, answer, accepted, read⟩ := read
    obtain ⟨isOpen, ready⟩ := approve_ok accepted present
    cases answer with
    | none =>
      obtain rfl := pure_ok.mp read
      refine ⟨order, present, isOpen, unfiled_of_open isOpen, rfl, fun _ => rfl, ?_⟩
      intro given none
      cases none
    | some pair =>
      obtain rfl := pure_ok.mp read
      exact ready pair.1 pair.2 rfl
  | cancelOrder orderId =>
    simp only [readPayment, bind_ok, pure_ok] at read
    obtain ⟨order, accepted, rfl⟩ := read
    exact cancelOrder_ok accepted
  | createBatch orderIds gateOpen messageId =>
    simp only [readPayment, bind_ok, pure_ok] at read
    obtain ⟨⟨batch, ids⟩, accepted, rfl⟩ := read
    exact createBatch_ok accepted
  | importReport checksum report =>
    simp only [readPayment] at read
    split at read
    · obtain rfl := pure_ok.mp read
      trivial
    · obtain rfl := pure_ok.mp read
      trivial
  | elsewhere tables =>
    obtain rfl := pure_ok.mp read
    trivial

end Reads

structure PaymentSound (db : Db) : Prop where
  known : ApprovalsKnown db
  /-- An open item has one active order at most. -/
  activeOnce : ∀ (first second : OrderId) (order other : PaymentOrder) (itemId : OpenItemId),
    db.orders[first]? = some order → db.orders[second]? = some other → order.openItemId = some itemId →
    other.openItemId = some itemId → order.status ∈ activeOrderStatuses → other.status ∈ activeOrderStatuses →
    first = second
  /-- Valid approvals of two accounts are approvals of two persons. -/
  persons : ∀ (orderId : OrderId) (order : PaymentOrder), db.orders[orderId]? = some order → ∀ first ∈ validApprovals db orderId order,
    ∀ second ∈ validApprovals db orderId order, first.userId ≠ second.userId →
      ¬ SamePerson db first.userId second.userId
  filed : ∀ (orderId : OrderId) (order : PaymentOrder), db.orders[orderId]? = some order → order.status ∉ unfiledStatuses →
    2 ≤ (approvers (validApprovals db orderId order)).length

section Invariant

variable {db next : Db} {old order : PaymentOrder} {work other : PaymentWork}

theorem SamePerson.symm (same : SamePerson db first second) : SamePerson db second first := by
  rcases same with ⟨present, equal⟩ | ⟨present, equal⟩
  · exact Or.inl ⟨equal ▸ present, equal.symm⟩
  · exact Or.inr ⟨equal ▸ present, equal.symm⟩

theorem samePerson_members (same : next.members = db.members) :
    SamePerson next first second ↔ SamePerson db first second := by
  simp only [SamePerson, identity, same]

theorem writePayment_members (written : writePayment db work = .ok next) : next.members = db.members := by
  cases work with
  | insert | rewrite | file | report | elsewhere =>
    obtain rfl := pure_ok.mp written
    rfl

section

variable (row : Rewritten db next orderId old order)
include row

theorem Rewritten.item : order.openItemId = old.openItemId := by
  cases row with
  | stands advanced _ _ => exact advanced.item
  | approved _ advanced _ _ _ => exact advanced.item
  | voided item _ _ _ _ _ => exact item

theorem Rewritten.active (active : order.status ∈ activeOrderStatuses) : old.status ∈ activeOrderStatuses := by
  cases row with
  | stands advanced _ _ => exact advanced.active active
  | approved _ advanced _ _ _ => exact advanced.active active
  | voided _ active _ _ _ _ => exact active

theorem Rewritten.persons (persons : ∀ first ∈ validApprovals db orderId old, ∀ second ∈ validApprovals db orderId old,
      first.userId ≠ second.userId → ¬ SamePerson db first.userId second.userId) :
    ∀ first ∈ validApprovals next orderId order, ∀ second ∈ validApprovals next orderId order,
      first.userId ≠ second.userId → ¬ SamePerson db first.userId second.userId := by
  cases row with
  | stands _ _ approvals =>
    rw [approvals]
    exact persons
  | approved approval _ _ apart approvals =>
    rw [approvals]
    intro first inFirst second inSecond differ
    rcases mem_append.mp inFirst with oldFirst | newFirst
    · rcases mem_append.mp inSecond with oldSecond | newSecond
      · exact persons first oldFirst second oldSecond differ
      · rw [mem_singleton.mp newSecond]
        exact fun same => apart first oldFirst same.symm
    · rw [mem_singleton.mp newFirst] at differ ⊢
      rcases mem_append.mp inSecond with oldSecond | newSecond
      · exact apart second oldSecond
      · exact absurd (congrArg PaymentApproval.userId (mem_singleton.mp newSecond)).symm differ
  | voided _ _ _ _ approvals _ => simp [approvals]

theorem Rewritten.filed (filed : old.status ∉ unfiledStatuses → 2 ≤ (approvers (validApprovals db orderId old)).length)
    (isFiled : order.status ∉ unfiledStatuses) :
    2 ≤ (approvers (validApprovals next orderId order)).length := by
  cases row with
  | stands _ whence approvals =>
    rw [approvals]
    rcases whence isFiled with before | full
    · exact filed before
    · exact full.2
  | approved _ _ unfiled _ _ => exact absurd unfiled isFiled
  | voided _ _ unfiled _ _ _ => exact absurd unfiled isFiled

end

theorem openOrders_nil : openOrders db itemId = [] ↔ ∀ (orderId : OrderId) (order : PaymentOrder),
    db.orders[orderId]? = some order → order.openItemId = some itemId → order.status ∉ activeOrderStatuses := by
  simp only [openOrders, filter_eq_nil_iff, decide_eq_true_eq, not_and]
  constructor
  · intro free orderId order found
    exact free order (mem_of_getElem? found)
  · intro free order member
    obtain ⟨orderId, found⟩ := mem_iff_getElem?.mp member
    exact free orderId order found

theorem writePayment_grows (written : writePayment db work = .ok next) :
    db.orders.length ≤ next.orders.length := by
  cases work with
  | insert | rewrite | file =>
    obtain rfl := pure_ok.mp written
    simp
  | report checksum lines =>
    obtain rfl := pure_ok.mp written
    exact le_of_eq (applyLines_length db.orders lines).symm
  | elsewhere tables =>
    obtain rfl := pure_ok.mp written
    exact le_rfl

theorem writePayment_known (ready : PaymentReady db work) (known : ApprovalsKnown db)
    (written : writePayment db work = .ok next) : ApprovalsKnown next := by
  have grows := writePayment_grows written
  have stay : ∀ approval ∈ db.approvals, approval.orderId < next.orders.length :=
    fun approval member => lt_of_lt_of_le (known approval member) grows
  cases work with
  | insert | file | report | elsewhere =>
    obtain rfl := pure_ok.mp written
    exact stay
  | rewrite orderId order voids approval =>
    obtain rfl := pure_ok.mp written
    obtain ⟨old, present, unfiled⟩ := ready
    intro row member
    rcases mem_append.mp member with kept | isNew
    · split at kept
      · rw [invalidateApprovals, mem_map] at kept
        obtain ⟨before, inBefore, rfl⟩ := kept
        have := stay before inBefore
        split <;> exact this
      · exact stay row kept
    · have own := (unfiled.grants row (Option.mem_toList.mp isNew)).2.1
      rw [own, length_set]
      exact found_lt present

theorem PaymentSound.write (sound : PaymentSound db) (ready : PaymentReady db work)
    (written : writePayment db work = .ok next) : PaymentSound next where
  known := writePayment_known ready sound.known written
  activeOnce := by
    intro first second order other itemId found foundOther item itemOther active activeOther
    have fresh : ∀ (orderId place : OrderId) (old new : PaymentOrder), work = .insert new →
        db.orders[orderId]? = some old → old.openItemId = some itemId → new.openItemId = some itemId →
        old.status ∉ activeOrderStatuses := by
      intro orderId place old new isInsert present itemOld itemNew
      subst isInsert
      obtain ⟨_, locked, itemLocked, free⟩ := ready
      obtain rfl : locked = itemId := Option.mem_unique itemLocked itemNew
      exact openOrders_nil.mp free orderId old present itemOld
    rcases writePayment_row ready sound.known written found with ⟨old, present, row⟩ | ⟨last, isInsert, _⟩
    · rcases writePayment_row ready sound.known written foundOther with
        ⟨oldOther, presentOther, rowOther⟩ | ⟨lastOther, isInsert, _⟩
      · exact sound.activeOnce first second old oldOther itemId present presentOther (row.item ▸ item)
          (rowOther.item ▸ itemOther) (row.active active) (rowOther.active activeOther)
      · exact absurd (row.active active) (fresh first second old other isInsert present (row.item ▸ item) itemOther)
    · rcases writePayment_row ready sound.known written foundOther with
        ⟨oldOther, presentOther, rowOther⟩ | ⟨lastOther, _, _⟩
      · exact absurd (rowOther.active activeOther)
          (fresh second first oldOther order isInsert presentOther (rowOther.item ▸ itemOther) item)
      · exact last.trans lastOther.symm
  persons := by
    intro orderId order found
    simp only [samePerson_members (writePayment_members written)]
    rcases writePayment_row ready sound.known written found with ⟨old, present, row⟩ | ⟨_, _, none⟩
    · exact row.persons (sound.persons orderId old present)
    · simp [none]
  filed := by
    intro orderId order found isFiled
    rcases writePayment_row ready sound.known written found with ⟨old, present, row⟩ | ⟨_, isInsert, _⟩
    · exact row.filed (sound.filed orderId old present) isFiled
    · subst isInsert
      exact absurd (by simp [ready.1, unfiledStatuses]) isFiled

theorem PaymentReady.beside (sound : PaymentSound db) (ready : PaymentReady db work)
    (readyOther : PaymentReady db other) (free : paymentProtocol.Free work other)
    (written : writePayment db work = .ok next) : PaymentReady next other := by
  have unlocked : ∀ row ∈ paymentLocks other, row ∉ paymentLocks work :=
    fun row inOther inWork => free row inWork inOther
  cases other with
  | insert order =>
    obtain ⟨isDraft, itemId, item, nothing⟩ := readyOther
    refine ⟨isDraft, itemId, item, openOrders_nil.mpr ?_⟩
    intro orderId row found itemRow active
    rcases writePayment_row ready sound.known written found with ⟨old, present, rewritten⟩ | ⟨_, isInsert, _⟩
    · exact openOrders_nil.mp nothing orderId old present (rewritten.item ▸ itemRow) (rewritten.active active)
    · subst isInsert
      exact unlocked (.item itemId) (by simp [paymentLocks, item]) (by simp [paymentLocks, itemRow])
  | rewrite orderId order voids approval =>
    obtain ⟨old, present, unfiled⟩ := readyOther
    have apart := unlocked (.order orderId) (by simp [paymentLocks])
    obtain ⟨stays, approvals⟩ := writePayment_keeps ready written apart present
    refine ⟨old, stays, unfiled.before, unfiled.after, unfiled.item, unfiled.snapshot, ?_⟩
    simp only [approvals, samePerson_members (writePayment_members written)]
    exact unfiled.grants
  | file orderIds batch =>
    intro orderId member
    obtain ⟨order, present, full⟩ := readyOther orderId member
    have apart := unlocked (.order orderId) (by simp [paymentLocks, member])
    obtain ⟨stays, approvals⟩ := writePayment_keeps ready written apart present
    refine ⟨order, stays, full.1, ?_⟩
    rw [approvals]
    exact full.2
  | report checksum lines => trivial
  | elsewhere tables => trivial

end Invariant

/-- The orders and approvals of a state in a later one. -/
structure PaymentsLater (db next : Db) : Prop where
  orders : ∀ (orderId : OrderId) (order : PaymentOrder), db.orders[orderId]? = some order →
    ∃ later, next.orders[orderId]? = some later ∧
      (order.status ∉ unfiledStatuses → later.status ∉ unfiledStatuses ∧ snapshot later = snapshot order) ∧
      (snapshot later ≠ snapshot order → ∀ (place : ℕ) (approval : PaymentApproval),
        db.approvals[place]? = some approval → approval.orderId = orderId →
        ∃ void, next.approvals[place]? = some void ∧ void.invalidated = true)
  approvals : ∀ (place : ℕ) (approval : PaymentApproval), db.approvals[place]? = some approval →
    ∃ later, next.approvals[place]? = some later ∧ later.orderId = approval.orderId ∧
      (approval.invalidated = true → later.invalidated = true)

theorem PaymentsLater.refl (db : Db) : PaymentsLater db db where
  orders := fun _ order found => ⟨order, found, fun filed => ⟨filed, rfl⟩, fun changed => absurd rfl changed⟩
  approvals := fun _ approval found => ⟨approval, found, rfl, id⟩

theorem PaymentsLater.trans {next} (first : PaymentsLater db between) (second : PaymentsLater between next) :
    PaymentsLater db next where
  orders := by
    intro orderId order found
    obtain ⟨middle, present, filed, void⟩ := first.orders orderId order found
    obtain ⟨later, presentLater, filedLater, voidLater⟩ := second.orders orderId middle present
    refine ⟨later, presentLater, ?_, ?_⟩
    · intro isFiled
      obtain ⟨stays, same⟩ := filed isFiled
      obtain ⟨staysLater, sameLater⟩ := filedLater stays
      exact ⟨staysLater, sameLater.trans same⟩
    · intro changed place approval granted own
      obtain ⟨kept, presentKept, owner, _⟩ := first.approvals place approval granted
      by_cases same : snapshot middle = snapshot order
      · exact voidLater (fun sameLater => changed (sameLater.trans same)) place kept presentKept (owner.trans own)
      · obtain ⟨voided, presentVoid, isVoid⟩ := void same place approval granted own
        obtain ⟨last, presentLast, _, stays⟩ := second.approvals place voided presentVoid
        exact ⟨last, presentLast, stays isVoid⟩
  approvals := by
    intro place approval found
    obtain ⟨middle, present, owner, void⟩ := first.approvals place approval found
    obtain ⟨later, presentLater, ownerLater, voidLater⟩ := second.approvals place middle present
    exact ⟨later, presentLater, ownerLater.trans owner, fun isVoid => voidLater (void isVoid)⟩

theorem writePayment_approvals {next} (written : writePayment db work = .ok next) (place : ℕ) (approval : PaymentApproval)
    (found : db.approvals[place]? = some approval) :
    ∃ later, next.approvals[place]? = some later ∧ later.orderId = approval.orderId ∧
      (approval.invalidated = true → later.invalidated = true) := by
  cases work with
  | insert | file | report | elsewhere =>
    obtain rfl := pure_ok.mp written
    exact ⟨approval, found, rfl, id⟩
  | rewrite orderId order voids given =>
    obtain rfl := pure_ok.mp written
    cases voids with
    | true =>
      refine ⟨_, found_append (by rw [if_pos rfl, invalidateApprovals, List.getElem?_map, found]; rfl), ?_, ?_⟩
      · dsimp only
        split <;> rfl
      · intro isVoid
        dsimp only
        split
        · rfl
        · exact isVoid
    | false => exact ⟨approval, found_append found, rfl, id⟩

theorem writePayment_later {next} (sound : PaymentSound db) (ready : PaymentReady db work)
    (written : writePayment db work = .ok next) : PaymentsLater db next where
  approvals := writePayment_approvals written
  orders := by
    intro orderId order found
    have inNext : orderId < next.orders.length := lt_of_lt_of_le (found_lt found) (writePayment_grows written)
    refine ⟨next.orders[orderId], List.getElem?_eq_getElem inNext, ?_⟩
    rcases writePayment_row ready sound.known written (List.getElem?_eq_getElem inNext) with
      ⟨old, present, row⟩ | ⟨last, _, _⟩
    · obtain rfl : order = old := Option.mem_unique found present
      cases row with
      | stands advanced _ _ | approved _ advanced _ _ _ =>
        exact ⟨fun filed => ⟨advanced.unfiled filed, advanced.snapshot⟩, fun changed => absurd advanced.snapshot changed⟩
      | voided _ _ _ before _ void => exact ⟨fun filed => absurd before filed, fun _ => void⟩
    · exact absurd (found_lt found) (last ▸ lt_irrefl _)

theorem paymentSound_start (noOrders : db.orders = []) (noApprovals : db.approvals = []) : PaymentSound db where
  known := by simp [ApprovalsKnown, noApprovals]
  activeOnce := by simp [noOrders]
  persons := by simp [noOrders]
  filed := by simp [noOrders]

abbrev PaymentConfig := Config Db PaymentWork

abbrev PaymentsHold : PaymentConfig → Prop := Protocol.Holds PaymentSound PaymentReady paymentProtocol.Free

theorem payment_step (config : PaymentConfig) (move : Move PaymentRequest) (next : PaymentConfig)
    (holds : PaymentsHold config) (moved : paymentProtocol.step config move = .ok next) : PaymentsHold next := by
  apply Protocol.interleaving_step ?_ ?_ ?_ config move next holds moved
  · intro db request work _ read
    exact readPayment_ready read
  · intro db work next sound ready written
    exact sound.write ready written
  · intro db work other next sound ready readyOther free written
    exact ready.beside sound readyOther free written

section

variable (holds : PaymentsHold config) (moves : List (Move PaymentRequest))
include holds moves

theorem payments_hold :
    PaymentsHold (run paymentProtocol.step config moves) :=
  run_invariant payment_step moves holds

theorem payments_later :
    PaymentsLater config.state (run paymentProtocol.step config moves).state :=
  Protocol.interleaving_relates holds payment_step PaymentsLater.refl (fun _ _ _ => PaymentsLater.trans)
    (fun _ _ _ sound ready written => writePayment_later sound ready written) moves

end

theorem PaymentSound.openOrders_length (sound : PaymentSound db) (itemId : OpenItemId) :
    (openOrders db itemId).length ≤ 1 := by
  apply filter_length_le_one
  intro first second order other found foundOther selected selectedOther
  simp only [decide_eq_true_eq] at selected selectedOther
  exact sound.activeOnce first second order other itemId found foundOther selected.1 selectedOther.1 selected.2
    selectedOther.2

theorem PaymentSound.approvers_apart (sound : PaymentSound db)
    (found : db.orders[orderId]? = some order) :
    (approvers (validApprovals db orderId order)).Pairwise fun first second =>
      first ≠ second ∧ ¬ SamePerson db first second := by
  have distinct : (approvers (validApprovals db orderId order)).Pairwise (· ≠ ·) := nodup_dedup _
  refine distinct.imp_of_mem ?_
  intro first second inFirst inSecond differ
  refine ⟨differ, ?_⟩
  obtain ⟨approval, valid, rfl⟩ := mem_approvers.mp inFirst
  obtain ⟨other, validOther, rfl⟩ := mem_approvers.mp inSecond
  exact sound.persons orderId order found approval valid other validOther differ

/-- Under every interleaving an item has one active order at most, a filed order keeps the snapshot that at
least two persons approved, and a changed snapshot voids all earlier approvals for good. -/
theorem payment_orders_four_eyes {db : Db} (noOrders : db.orders = []) (noApprovals : db.approvals = [])
    (moves between rest : List (Move PaymentRequest)) :
    let now := run paymentProtocol.step ⟨db, []⟩ moves
    let later := run paymentProtocol.step now between
    let last := run paymentProtocol.step later rest
    (∀ itemId, (openOrders now.state itemId).length ≤ 1) ∧
    (∀ (orderId : OrderId) (order : PaymentOrder), now.state.orders[orderId]? = some order →
      order.status ∉ unfiledStatuses →
        2 ≤ (approvers (validApprovals now.state orderId order)).length ∧
        (approvers (validApprovals now.state orderId order)).Pairwise fun first second =>
          first ≠ second ∧ ¬ SamePerson now.state first second) ∧
    (∀ (orderId : OrderId) (order changed : PaymentOrder), now.state.orders[orderId]? = some order →
      later.state.orders[orderId]? = some changed →
        (order.status ∉ unfiledStatuses → snapshot changed = snapshot order) ∧
        (snapshot changed ≠ snapshot order → ∀ (place : ℕ) (approval : PaymentApproval),
          now.state.approvals[place]? = some approval → approval.orderId = orderId →
          ∃ void, last.state.approvals[place]? = some void ∧ void.invalidated = true)) := by
  intro now later last
  have holds : PaymentsHold now := payments_hold (Protocol.holds_initial (paymentSound_start noOrders noApprovals)) moves
  refine ⟨holds.state.openOrders_length, ?_, ?_⟩
  · intro orderId order found isFiled
    exact ⟨holds.state.filed orderId order found isFiled, holds.state.approvers_apart found⟩
  · intro orderId order changed found foundLater
    obtain ⟨row, present, filed, void⟩ := (payments_later holds between).orders orderId order found
    obtain rfl : row = changed := Option.mem_unique present foundLater
    refine ⟨fun isFiled => (filed isFiled).2, ?_⟩
    intro changed place approval granted own
    obtain ⟨voided, presentVoid, isVoid⟩ := void changed place approval granted own
    obtain ⟨final, presentFinal, _, stays⟩ :=
      (payments_later (payments_hold holds between) rest).approvals place voided presentVoid
    exact ⟨final, presentFinal, stays isVoid⟩

def sampleInvoiceEntry : JournalEntry where
  bookingDate := .ofYmd 2026 1 5
  text := "Rechnung"
  kind := .invoice
  ledgerId := 0
  status := .posted { fiscalYear := 2026, number := 1, postedBy := some 7 }
  lines := [{ accountId := 0, debit := 100, credit := 0, oneSidePositive := hundred_debited },
    { accountId := 1, debit := 0, credit := 100, oneSidePositive := hundred_credited }]
  reversalRef := by decide

def samplePayable (entryId : EntryId) : OpenItem where
  ledgerId := 0
  accountId := 1
  journalEntryId := entryId
  kind := .payable
  bookingDate := .ofYmd 2026 1 5
  dueDate := .ofYmd 2026 2 5
  amount := 100
  amountPositive := by decide +kernel

def sampleInvoice (number : String) (entryId : EntryId) : Invoice where
  ledgerId := 0
  number
  gross := 100
  payeeIban := some "DE89370400440532013000"
  postingStatus := .posted
  journalEntryId := some entryId

def sampleTenant : Db where
  books := {
    ledgers := [{ leadingSystem := .mhvp }]
    accounts := [{ ledgerId := 0, number := "600000", category := .cost },
      { ledgerId := 0, number := "300000", category := .creditor }]
    entries := [sampleInvoiceEntry, sampleInvoiceEntry]
    openItems := [samplePayable 0, samplePayable 1] }
  invoices := [sampleInvoice "R1" 0, sampleInvoice "R2" 1]
  bankAccounts := [{ legalEntityId := 0, iban := "DE02120300000000202051", holder := "WEG" }]
  bankConfigs := [{ propertyBankAccountId := 0, dailyLimit := some 150 }]
  contacts := [{ displayName := "Dachdecker" }]
  members := [{ email := "anna@example.org" }, { email := "ben@example.org" }]

/-- A request that reads and commits before the next one starts. -/
def alone (request : PaymentRequest) : List (Move PaymentRequest) := [.start request, .commit 0]

/-- Order `orderId` of invoice `invoiceId` for one day, approved by both users. -/
def sampleApproved (invoiceId : InvoiceId) (orderId : OrderId) (endToEndId : String) : List (Move PaymentRequest) :=
  alone (.createOrder invoiceId 0 (.ofYmd 2026 2 2) endToEndId) ++ alone (.approveOrder orderId 0 false) ++
    alone (.approveOrder orderId 1 false)

def sampleExport : List (Move PaymentRequest) :=
  sampleApproved 0 0 "E2E1" ++ alone (.createBatch [0] true "MSG1")

theorem sample_four_eyes :
    let now := (run paymentProtocol.step ⟨sampleTenant, []⟩ sampleExport).state
    ∃ order, now.orders[0]? = some order ∧ order.status = .exported ∧
      2 ≤ (approvers (validApprovals now 0 order)).length := by
  intro now
  have found : (now.orders[0]?.map PaymentOrder.status) = some OrderStatus.exported := by decide +kernel
  obtain ⟨order, present, exported⟩ := Option.map_eq_some_iff.mp found
  refine ⟨order, present, exported, ?_⟩
  have noOrders : sampleTenant.orders = [] := rfl
  have guarantee := payment_orders_four_eyes noOrders rfl sampleExport [] []
  exact (guarantee.2.1 0 order present (by rw [exported]; decide)).1

end Mhvp.Banking.Payments
