import Mhvp.Banking.OrderApprovals

namespace Mhvp.Banking.Payments

open Core Accounting Lib.Calendar Lib.Aggregate Lib.Locking Lib.Table List
  Mhvp.Lib.Transition PaymentRun

/-- The named orders for one day. -/
def namedTotal (db : Db) (orderIds : List OrderId) (day : Date) : Decimal :=
  sumWhere (fun found : PaymentOrder × OrderId => found.2 ∈ orderIds ∧ found.1.executionDate = day)
    (fun found => found.1.amount) db.orders.zipIdx

/-- A file within the limits, counted with the orders handed out before. -/
structure FileWithin (db : Db) (orderIds : List OrderId) (batch : PaymentBatch) : Prop where
  rows : ∀ orderId ∈ orderIds, ∃ order, db.orders[orderId]? = some order ∧ order.status = .approved ∧
    order.propertyBankAccountId = batch.propertyBankAccountId ∧ 0 < order.amount ∧
    ∀ config ∈ bankConfig db batch.propertyBankAccountId, ∀ limit ∈ config.singleOrderLimit, order.amount ≤ limit
  days : ∀ config ∈ bankConfig db batch.propertyBankAccountId, ∀ limit ∈ config.dailyLimit,
    ∀ orderId ∈ orderIds, ∀ order ∈ db.orders[orderId]?,
      alreadyOut db batch.propertyBankAccountId orderIds order.executionDate +
        namedTotal db orderIds order.executionDate ≤ limit

section Checks

variable {db : Db} {orders : List PaymentOrder} {config : PaymentBankConfig}

theorem mem_executionDays : day ∈ executionDays orders ↔ ∃ order ∈ orders, order.executionDate = day := by
  unfold executionDays
  rw [(perm_insertionSort _ _).mem_iff, mem_dedup, mem_map]

theorem amount_positive (clean : fileProblems bank orders = []) (member : order ∈ orders) : 0 < order.amount := by
  unfold fileProblems at clean
  obtain ⟨byDay, _⟩ := append_eq_nil_iff.mp clean
  have ofDay := flatMap_eq_nil_iff.mp byDay order.executionDate (mem_executionDays.mpr ⟨order, member, rfl⟩)
  obtain ⟨_, transfers⟩ := append_eq_nil_iff.mp ofDay
  have none := flatMap_eq_nil_iff.mp transfers order (mem_filter.mpr ⟨member, by simp⟩)
  obtain ⟨_, amounts⟩ := append_eq_nil_iff.mp none
  by_contra notPositive
  simp [not_lt.mp notPositive] at amounts

theorem limitFindings_single (clean : limitFindings orders config already = [])
    (limited : config.singleOrderLimit = some limit) (member : order ∈ orders) : order.amount ≤ limit := by
  unfold limitFindings at clean
  obtain ⟨single, _⟩ := append_eq_nil_iff.mp clean
  rw [limited] at single
  have none := filterMap_eq_nil_iff.mp single order member
  by_contra above
  simp [singleFinding, not_le.mp above] at none

theorem limitFindings_daily (clean : limitFindings orders config already = [])
    (limited : config.dailyLimit = some limit) (member : order ∈ orders) :
    already order.executionDate + dayTotal orders order.executionDate ≤ limit := by
  unfold limitFindings at clean
  obtain ⟨_, daily⟩ := append_eq_nil_iff.mp clean
  rw [limited] at daily
  have none := filterMap_eq_nil_iff.mp daily order.executionDate (mem_executionDays.mpr ⟨order, member, rfl⟩)
  by_contra above
  simp [dailyFinding, not_le.mp above] at none

theorem dayTotal_locked {found : List (PaymentOrder × OrderId)} (ids : found.map Prod.snd = orderIds)
    (rows : ∀ each ∈ found, db.orders[each.2]? = some each.1) (distinct : orderIds.Nodup) (day : Date) :
    dayTotal (found.map Prod.fst) day = namedTotal db orderIds day := by
  have places : (db.orders.zipIdx.filter fun each => each.2 ∈ orderIds).Perm found := by
    apply (perm_ext_iff_of_nodup ?_ ?_).mpr
    · intro each
      rw [mem_filter, mem_zipIdx_iff_getElem?]
      constructor
      · rintro ⟨present, named⟩
        rw [decide_eq_true_eq, ← ids] at named
        obtain ⟨other, member, same⟩ := mem_map.mp named
        have row := rows other member
        rw [same] at row
        obtain rfl : each = other := Prod.ext (Option.mem_unique present row) same.symm
        exact member
      · intro member
        refine ⟨rows each member, ?_⟩
        rw [decide_eq_true_eq, ← ids]
        exact mem_map_of_mem member
    · apply List.Nodup.filter
      apply List.Nodup.of_map Prod.snd
      rw [zipIdx_map_snd]
      exact nodup_range'
    · apply List.Nodup.of_map Prod.snd
      rw [ids]
      exact distinct
  unfold dayTotal namedTotal
  rw [sumWhere_map]
  have summed : sumWhere (fun each : PaymentOrder × OrderId => each.1.executionDate = day) (fun each => each.1.amount)
      (db.orders.zipIdx.filter fun each => each.2 ∈ orderIds) =
        sumWhere (fun each : PaymentOrder × OrderId => each.1.executionDate = day) (fun each => each.1.amount) found :=
    ((places.filter _).map _).sum_eq
  rw [← summed, sumWhere_filter]
  exact sumWhere_congr (fun each _ => and_comm) fun _ _ _ => rfl

theorem createBatch_within (accepted : createBatch db orderIds gateOpen messageId = .ok (batch, ids)) :
    FileWithin db ids batch := by
  simp only [createBatch, bind_ok, exists_unit, require_ok] at accepted
  obtain ⟨_, found, locked, accepted⟩ := accepted
  obtain ⟨foundIds, rows⟩ := lockedOrders_ok locked
  split at accepted
  · rename_i bankId oneBank
    simp only [bind_ok, exists_unit, require_ok, orRefuse_ok, pure_ok, Prod.mk.injEq] at accepted
    obtain ⟨full, _, within, bank, _, _, clean, rfl, rfl⟩ := accepted
    have distinct : (orderIds.dedup.insertionSort fun first second => first ≤ second).Nodup :=
      (perm_insertionSort _ _).nodup_iff.mpr (nodup_dedup _)
    have ofBank : ∀ each ∈ found, each.1.propertyBankAccountId = bankId := by
      intro each member
      have account : each.1.propertyBankAccountId ∈
          ((found.map Prod.fst).map PaymentOrder.propertyBankAccountId).dedup :=
        mem_dedup.mpr (mem_map_of_mem (mem_map_of_mem member))
      rw [oneBank] at account
      exact mem_singleton.mp account
    have all : (found.filter fun each => each.1.propertyBankAccountId = bankId) = found :=
      filter_eq_self.mpr fun each member => by simp [ofBank each member]
    have findings : ∀ config ∈ bankConfig db bankId, limitFindings (found.map Prod.fst) config
        (alreadyOut db bankId (orderIds.dedup.insertionSort fun first second => first ≤ second)) = [] := by
      intro config isConfig
      simp only [ensureWithinLimits, ensureAccountLimits, all, Option.mem_def.mp isConfig, oneBank, bind_ok,
        exists_unit, require_ok, foundIds] at within
      exact within.1
    refine ⟨?_, ?_⟩
    · intro orderId member
      rw [← foundIds] at member
      obtain ⟨each, isFound, rfl⟩ := mem_map.mp member
      have isOrder : each.1 ∈ found.map Prod.fst := mem_map_of_mem isFound
      refine ⟨each.1, rows each isFound, (full each isFound).1, ofBank each isFound, amount_positive clean isOrder, ?_⟩
      intro config isConfig limit limited
      exact limitFindings_single (findings config isConfig) limited isOrder
    · intro config isConfig limit limited orderId member order isRow
      rw [← foundIds] at member
      obtain ⟨each, isFound, rfl⟩ := mem_map.mp member
      obtain rfl : each.1 = order := Option.some.inj ((rows each isFound).symm.trans isRow)
      rw [← dayTotal_locked foundIds rows distinct]
      exact limitFindings_daily (findings config isConfig) limited (mem_map_of_mem isFound)
  · cases accepted

end Checks

section Filed

variable {db next : Db} {order : PaymentOrder} {work : PaymentWork}

theorem filed_of_limited (limited : order.status ∈ limitStatuses) : order.status ∉ unfiledStatuses := by
  revert limited
  cases order.status <;> simp [limitStatuses, unfiledStatuses]

theorem writePayment_filed (ready : PaymentReady db work) (written : writePayment db work = .ok next)
    (found : next.orders[orderId]? = some order) (isFiled : order.status ∉ unfiledStatuses) :
    (∃ old, db.orders[orderId]? = some old ∧ old.status ∉ unfiledStatuses ∧ snapshot order = snapshot old ∧
      (order.status ∈ limitStatuses → old.status ∈ limitStatuses)) ∨
    ∃ orderIds batch old, work = .file orderIds batch ∧ orderId ∈ orderIds ∧ db.orders[orderId]? = some old ∧
      order = exportedIn db.batches.length old := by
  cases work with
  | insert added =>
    obtain rfl := pure_ok.mp written
    rcases found_append_one.mp found with present | ⟨_, rfl⟩
    · exact Or.inl ⟨order, present, isFiled, rfl, id⟩
    · exact absurd (by simp [ready.1, unfiledStatuses]) isFiled
  | rewrite place changed voids approval =>
    obtain rfl := pure_ok.mp written
    obtain ⟨_, _, unfiled⟩ := ready
    rcases (found_set (by assumption)).mp found with ⟨_, rfl⟩ | ⟨_, present⟩
    · exact absurd unfiled.after isFiled
    · exact Or.inl ⟨order, present, isFiled, rfl, id⟩
  | file orderIds batch =>
    obtain rfl := pure_ok.mp written
    simp only [List.getElem?_mapIdx, Option.map_eq_some_iff] at found
    obtain ⟨old, present, rfl⟩ := found
    by_cases named : orderId ∈ orderIds
    · exact Or.inr ⟨orderIds, batch, old, rfl, named, present, by rw [if_pos named]⟩
    · rw [if_neg named] at isFiled ⊢
      exact Or.inl ⟨old, present, isFiled, rfl, id⟩
  | report checksum lines =>
    obtain rfl := pure_ok.mp written
    obtain ⟨old, present, reported⟩ := applyLines_row found
    exact Or.inl ⟨old, present, reported.filed isFiled, reported.snapshot, reported.limited⟩
  | elsewhere tables =>
    obtain rfl := pure_ok.mp written
    exact Or.inl ⟨order, found, isFiled, rfl, id⟩

theorem writePayment_configs (written : writePayment db work = .ok next) : next.bankConfigs = db.bankConfigs := by
  cases work with
  | insert | rewrite | file | report | elsewhere =>
    obtain rfl := pure_ok.mp written
    rfl

theorem bankConfig_kept (written : writePayment db work = .ok next) (accountId : BankAccountId) :
    bankConfig next accountId = bankConfig db accountId := by
  unfold bankConfig
  rw [writePayment_configs written]

end Filed

/-- Account of the file a request is about to write. -/
def fileAccount : PaymentWork → Option BankAccountId
  | .file _ batch => some batch.propertyBankAccountId
  | _ => none

/-- No two files of one account at the same time. -/
def FilesApart (work other : PaymentWork) : Prop :=
  ∀ accountId, fileAccount work = some accountId → fileAccount other ≠ some accountId

structure WithinLimits (db : Db) : Prop where
  positive : ∀ (orderId : OrderId) (order : PaymentOrder), db.orders[orderId]? = some order →
    order.status ∉ unfiledStatuses → 0 < order.amount
  single : ∀ (orderId : OrderId) (order : PaymentOrder), db.orders[orderId]? = some order →
    order.status ∉ unfiledStatuses → ∀ config ∈ bankConfig db order.propertyBankAccountId,
      ∀ limit ∈ config.singleOrderLimit, order.amount ≤ limit
  daily : ∀ (orderId : OrderId) (order : PaymentOrder), db.orders[orderId]? = some order →
    order.status ∈ limitStatuses → ∀ config ∈ bankConfig db order.propertyBankAccountId,
      ∀ limit ∈ config.dailyLimit, alreadyOut db order.propertyBankAccountId [] order.executionDate ≤ limit

def LimitReady (db : Db) : PaymentWork → Prop
  | .file orderIds batch => FileWithin db orderIds batch
  | _ => True

section Limits

variable {db next : Db} {work other : PaymentWork}

theorem readPayment_file (read : readPayment db request = .ok (.file ids batch)) :
    ∃ orderIds gateOpen messageId, request = .createBatch orderIds gateOpen messageId ∧
      createBatch db orderIds gateOpen messageId = .ok (batch, ids) := by
  cases request with
  | createBatch orderIds gateOpen messageId =>
    simp only [readPayment, bind_ok, pure_ok] at read
    obtain ⟨⟨made, named⟩, accepted, same⟩ := read
    obtain ⟨rfl, rfl⟩ := PaymentWork.file.inj same
    exact ⟨orderIds, gateOpen, messageId, rfl, accepted⟩
  | createOrder | createPayout | changeOrder | cancelOrder =>
    simp only [readPayment, bind_ok, pure_ok] at read
    obtain ⟨_, _, isFile⟩ := read
    cases isFile
  | approveOrder orderId userId isPlatformAdmin =>
    simp only [readPayment, bind_ok] at read
    obtain ⟨_, _, answer, _, isFile⟩ := read
    cases answer with
    | none => cases pure_ok.mp isFile
    | some pair => cases pure_ok.mp isFile
  | importReport checksum report =>
    simp only [readPayment] at read
    split at read
    · cases pure_ok.mp read
    · cases pure_ok.mp read
  | elsewhere tables => cases pure_ok.mp read

theorem readPayment_within (read : readPayment db request = .ok work) : LimitReady db work := by
  cases work with
  | file ids batch =>
    obtain ⟨_, _, _, _, accepted⟩ := readPayment_file read
    exact createBatch_within accepted
  | insert order => trivial
  | rewrite orderId order voids approval => trivial
  | report checksum lines => trivial
  | elsewhere tables => trivial

theorem createBatch_account (accepted : createBatch db orderIds gateOpen messageId = .ok (batch, ids)) :
    ∃ orderId ∈ orderIds, ∃ order ∈ db.orders[orderId]?,
      order.propertyBankAccountId = batch.propertyBankAccountId := by
  have within := createBatch_within accepted
  simp only [createBatch, bind_ok, exists_unit, require_ok] at accepted
  obtain ⟨_, found, locked, accepted⟩ := accepted
  obtain ⟨foundIds, _⟩ := lockedOrders_ok locked
  split at accepted
  · rename_i bankId oneBank
    simp only [bind_ok, exists_unit, require_ok, orRefuse_ok, pure_ok, Prod.mk.injEq] at accepted
    obtain ⟨_, _, _, _, _, _, _, _, rfl⟩ := accepted
    cases found with
    | nil => cases oneBank
    | cons first rest =>
      have named : first.2 ∈ orderIds.dedup.insertionSort fun first second => first ≤ second := by
        rw [← foundIds]
        exact mem_cons_self
      obtain ⟨order, present, _, account, _⟩ := within.rows first.2 named
      refine ⟨first.2, ?_, order, present, account⟩
      exact mem_dedup.mp ((perm_insertionSort _ _).mem_iff.mp named)
  · cases accepted

theorem snapshot_fields (same : snapshot first = snapshot second) :
    first.amount = second.amount ∧ first.propertyBankAccountId = second.propertyBankAccountId ∧
      first.executionDate = second.executionDate :=
  ⟨congrArg Snapshot.amount same, congrArg Snapshot.bank same, congrArg Snapshot.date same⟩

theorem alreadyOut_le (ready : PaymentReady db work) (within : LimitReady db work)
    (positive : ∀ (orderId : OrderId) (order : PaymentOrder), db.orders[orderId]? = some order →
      order.status ∉ unfiledStatuses → 0 < order.amount)
    (written : writePayment db work = .ok next) (apart : fileAccount work ≠ some accountId)
    (exclude : List OrderId) (day : Date) :
    alreadyOut next accountId exclude day ≤ alreadyOut db accountId exclude day := by
  unfold alreadyOut
  apply sumWhere_places_le
  · intro orderId order found
    rintro ⟨account, date, limited, included⟩
    rcases writePayment_filed ready written found (filed_of_limited limited) with
      ⟨old, present, _, same, wasLimited⟩ | ⟨orderIds, batch, old, isFile, named, present, isOrder⟩
    · obtain ⟨amount, bank, dates⟩ := snapshot_fields same
      exact ⟨old, present, ⟨bank ▸ account, dates ▸ date, wasLimited limited, included⟩, le_of_eq amount⟩
    · subst isFile
      obtain ⟨row, isRow, _, ofBatch, _⟩ := within.rows orderId named
      obtain rfl : old = row := Option.mem_unique present isRow
      rw [isOrder] at account
      exact absurd (congrArg some (ofBatch.symm.trans account)) apart
  · rintro ⟨order, orderId⟩ member ⟨_, _, limited, _⟩
    exact le_of_lt (positive orderId order (mem_zipIdx_iff_getElem?.mp member) (filed_of_limited limited))

theorem alreadyOut_file (within : FileWithin db orderIds batch)
    (positive : ∀ (orderId : OrderId) (order : PaymentOrder), db.orders[orderId]? = some order →
      order.status ∉ unfiledStatuses → 0 < order.amount)
    (written : writePayment db (.file orderIds batch) = .ok next) (accountId : BankAccountId) (day : Date) :
    alreadyOut next accountId [] day ≤ alreadyOut db accountId orderIds day + namedTotal db orderIds day := by
  obtain rfl := pure_ok.mp written
  have selected : sumWhere (fun found : PaymentOrder × OrderId =>
        (found.1.propertyBankAccountId = accountId ∧ found.1.executionDate = day ∧
          found.1.status ∈ limitStatuses ∧ found.2 ∉ orderIds) ∨ found.2 ∈ orderIds ∧ found.1.executionDate = day)
      (fun found => found.1.amount) db.orders.zipIdx =
      alreadyOut db accountId orderIds day + namedTotal db orderIds day := by
    rw [sumWhere_split fun found : PaymentOrder × OrderId => found.2 ∉ orderIds]
    congr 1
    · apply sumWhere_congr ?_ fun _ _ _ => rfl
      intro found _
      tauto
    · apply sumWhere_congr ?_ fun _ _ _ => rfl
      intro found _
      tauto
  rw [← selected]
  apply sumWhere_places_le
  · intro orderId order found
    rintro ⟨account, date, limited, _⟩
    simp only [List.getElem?_mapIdx, Option.map_eq_some_iff] at found
    obtain ⟨old, present, rfl⟩ := found
    rw [Nat.zero_add]
    by_cases named : orderId ∈ orderIds
    · rw [if_pos named] at date ⊢
      exact ⟨old, present, Or.inr ⟨named, date⟩, le_rfl⟩
    · rw [if_neg named] at account date limited ⊢
      exact ⟨old, present, Or.inl ⟨account, date, limited, named⟩, le_rfl⟩
  · rintro ⟨order, orderId⟩ member picked
    have present := mem_zipIdx_iff_getElem?.mp member
    rcases picked with ⟨_, _, limited, _⟩ | ⟨named, _⟩
    · exact le_of_lt (positive orderId order present (filed_of_limited limited))
    · obtain ⟨row, isRow, _, _, amount, _⟩ := within.rows orderId named
      obtain rfl : order = row := Option.mem_unique present isRow
      exact le_of_lt amount

section

variable (limits : WithinLimits db) (ready : PaymentReady db work) (within : LimitReady db work)
include limits ready within

theorem WithinLimits.write (written : writePayment db work = .ok next) : WithinLimits next where
  positive := by
    intro orderId order found isFiled
    rcases writePayment_filed ready written found isFiled with
      ⟨old, present, wasFiled, same, _⟩ | ⟨orderIds, batch, old, isFile, named, present, isOrder⟩
    · rw [(snapshot_fields same).1]
      exact limits.positive orderId old present wasFiled
    · subst isFile
      obtain ⟨row, isRow, _, _, amount, _⟩ := within.rows orderId named
      obtain rfl : old = row := Option.mem_unique present isRow
      rw [isOrder]
      exact amount
  single := by
    intro orderId order found isFiled
    rw [bankConfig_kept written]
    rcases writePayment_filed ready written found isFiled with
      ⟨old, present, wasFiled, same, _⟩ | ⟨orderIds, batch, old, isFile, named, present, isOrder⟩
    · obtain ⟨amount, bank, _⟩ := snapshot_fields same
      rw [amount, bank]
      exact limits.single orderId old present wasFiled
    · subst isFile
      obtain ⟨row, isRow, _, ofBatch, _, single⟩ := within.rows orderId named
      obtain rfl : old = row := Option.mem_unique present isRow
      rw [isOrder]
      change ∀ config ∈ bankConfig db old.propertyBankAccountId, ∀ limit ∈ config.singleOrderLimit, old.amount ≤ limit
      rw [ofBatch]
      exact single
  daily := by
    intro orderId order found limited config isConfig limit isLimit
    rw [bankConfig_kept written] at isConfig
    rcases writePayment_filed ready written found (filed_of_limited limited) with
      ⟨old, present, _, same, wasLimited⟩ | ⟨orderIds, batch, old, isFile, named, present, isOrder⟩
    · obtain ⟨_, bank, date⟩ := snapshot_fields same
      rw [bank] at isConfig ⊢
      rw [date]
      have before := limits.daily orderId old present (wasLimited limited) config isConfig limit isLimit
      by_cases ofAccount : fileAccount work = some old.propertyBankAccountId
      · cases work with
        | file orderIds batch =>
          have account : batch.propertyBankAccountId = old.propertyBankAccountId := Option.some.inj ofAccount
          have handedOut := alreadyOut_file within limits.positive written old.propertyBankAccountId old.executionDate
          by_cases sameDay : ∃ named ∈ orderIds, ∃ row ∈ db.orders[named]?, row.executionDate = old.executionDate
          · obtain ⟨named, member, row, isRow, day⟩ := sameDay
            rw [← account] at isConfig
            have bounded := within.days config isConfig limit isLimit named member row isRow
            rw [day, account] at bounded
            exact handedOut.trans bounded
          · have noneNamed : namedTotal db orderIds old.executionDate = 0 := by
              apply sumWhere_eq_zero
              rintro ⟨row, place⟩ member ⟨isNamed, day⟩
              exact absurd ⟨place, isNamed, row, mem_zipIdx_iff_getElem?.mp member, day⟩ sameDay
            have fewer : alreadyOut db old.propertyBankAccountId orderIds old.executionDate ≤
                alreadyOut db old.propertyBankAccountId [] old.executionDate := by
              apply sumWhere_mono
              · rintro found _ ⟨account, day, counted, _⟩
                exact ⟨account, day, counted, not_mem_nil⟩
              · rintro ⟨row, place⟩ member ⟨_, _, counted, _⟩
                exact le_of_lt (limits.positive place row (mem_zipIdx_iff_getElem?.mp member)
                  (filed_of_limited counted))
            rw [noneNamed, add_zero] at handedOut
            exact (handedOut.trans fewer).trans before
        | insert order => cases ofAccount
        | rewrite orderId order voids approval => cases ofAccount
        | report checksum lines => cases ofAccount
        | elsewhere tables => cases ofAccount
      · exact (alreadyOut_le ready within limits.positive written ofAccount [] _).trans before
    · subst isFile
      obtain ⟨row, isRow, _, ofBatch, _, _⟩ := within.rows orderId named
      obtain rfl : old = row := Option.mem_unique present isRow
      have account : order.propertyBankAccountId = batch.propertyBankAccountId := by
        rw [isOrder]
        exact ofBatch
      have date : order.executionDate = old.executionDate := by
        rw [isOrder]
        rfl
      rw [account] at isConfig ⊢
      rw [date]
      exact (alreadyOut_file within limits.positive written _ _).trans
        (within.days config isConfig limit isLimit orderId named old present)

/-- A file within the limits stays so while requests write that hand out nothing of its account. -/
theorem LimitReady.beside (withinOther : LimitReady db other) (free : paymentProtocol.Free work other) (apart : FilesApart work other)
    (written : writePayment db work = .ok next) : LimitReady next other := by
  cases other with
  | file orderIds batch =>
    have rows : ∀ orderId ∈ orderIds, next.orders[orderId]? = db.orders[orderId]? := by
      intro orderId named
      obtain ⟨order, present, _⟩ := withinOther.rows orderId named
      have unlocked : .order orderId ∉ paymentLocks work := fun locked =>
        free (.order orderId) locked (by simp [paymentProtocol, paymentLocks, named])
      exact (writePayment_keeps ready written unlocked present).1.trans present.symm
    have otherAccount : fileAccount work ≠ some batch.propertyBankAccountId :=
      fun same => apart batch.propertyBankAccountId same rfl
    refine ⟨?_, ?_⟩
    · intro orderId named
      rw [rows orderId named, bankConfig_kept written]
      exact withinOther.rows orderId named
    · intro config isConfig limit isLimit orderId named order isOrder
      rw [bankConfig_kept written] at isConfig
      rw [rows orderId named] at isOrder
      refine le_trans (add_le_add ?_ ?_) (withinOther.days config isConfig limit isLimit orderId named order isOrder)
      · exact alreadyOut_le ready within limits.positive written otherAccount orderIds order.executionDate
      · apply sumWhere_places_le
        · intro place row found
          rintro ⟨isNamed, day⟩
          rw [Nat.zero_add] at isNamed ⊢
          rw [rows place isNamed] at found
          exact ⟨row, found, ⟨isNamed, day⟩, le_rfl⟩
        · rintro ⟨row, place⟩ member ⟨isNamed, _⟩
          obtain ⟨order, present, _, _, amount, _⟩ := withinOther.rows place isNamed
          obtain rfl : row = order := Option.some.inj ((mem_zipIdx_iff_getElem?.mp member).symm.trans present)
          exact le_of_lt amount
  | insert order => trivial
  | rewrite orderId order voids approval => trivial
  | report checksum lines => trivial
  | elsewhere tables => trivial

end

/-- While no status report was imported, every order in a file counts against the limit. -/
def Unreported (db : Db) : Prop :=
  db.reports = [] → ∀ order ∈ db.orders, order.status ∉ unfiledStatuses → order.status ∈ limitStatuses

theorem Unreported.write (unreported : Unreported db) (ready : PaymentReady db work)
    (written : writePayment db work = .ok next) : Unreported next := by
  intro noReports order member isFiled
  obtain ⟨orderId, found⟩ := mem_iff_getElem?.mp member
  cases work with
  | insert added =>
    obtain rfl := pure_ok.mp written
    rcases mem_append.mp member with old | isNew
    · exact unreported noReports order old isFiled
    · rw [mem_singleton.mp isNew] at isFiled
      exact absurd (by simp [ready.1, unfiledStatuses]) isFiled
  | rewrite place changed voids approval =>
    obtain rfl := pure_ok.mp written
    obtain ⟨_, _, unfiled⟩ := ready
    rcases mem_or_eq_of_mem_set member with old | rfl
    · exact unreported noReports order old isFiled
    · exact absurd unfiled.after isFiled
  | file orderIds batch =>
    obtain rfl := pure_ok.mp written
    simp only [List.getElem?_mapIdx, Option.map_eq_some_iff] at found
    obtain ⟨old, present, rfl⟩ := found
    by_cases named : orderId ∈ orderIds
    · rw [if_pos named]
      simp [exportedIn, limitStatuses]
    · rw [if_neg named] at isFiled ⊢
      exact unreported noReports old (mem_of_getElem? present) isFiled
  | report checksum lines =>
    obtain rfl := pure_ok.mp written
    change (if checksum ∈ db.reports then db.reports else db.reports ++ [checksum]) = [] at noReports
    split at noReports
    · rename_i known
      rw [noReports] at known
      cases known
    · simp at noReports
  | elsewhere tables =>
    obtain rfl := pure_ok.mp written
    exact unreported noReports order member isFiled

end Limits

/-- A file of an account is created while no other file of the account is. -/
def FilesOneByOne (config : PaymentConfig) : Move PaymentRequest → Prop
  | .start (.createBatch orderIds _ _) => ∀ orderId ∈ orderIds, ∀ order ∈ config.state.orders[orderId]?,
      ∀ other ∈ config.pending, fileAccount other ≠ some order.propertyBankAccountId
  | _ => True

theorem withinLimits_start (noOrders : db.orders = []) : WithinLimits db where
  positive := by simp [noOrders]
  single := by simp [noOrders]
  daily := by simp [noOrders]

theorem filesOneByOne_apart (oneByOne : FilesOneByOne config (.start request))
    (read : readPayment config.state request = .ok work) : ∀ other ∈ config.pending, FilesApart other work := by
  intro other member accountId ofOther ofWork
  cases work with
  | file ids batch =>
    obtain rfl : batch.propertyBankAccountId = accountId := Option.some.inj ofWork
    obtain ⟨orderIds, gateOpen, messageId, rfl, accepted⟩ := readPayment_file read
    obtain ⟨orderId, named, order, present, account⟩ := createBatch_account accepted
    exact oneByOne orderId named order present other member (account ▸ ofOther)
  | insert order => cases ofWork
  | rewrite orderId order voids approval => cases ofWork
  | report checksum lines => cases ofWork
  | elsewhere tables => cases ofWork

abbrev LimitsHold : PaymentConfig → Prop :=
  Protocol.Holds (fun db => PaymentSound db ∧ WithinLimits db ∧ Unreported db)
    (fun db work => PaymentReady db work ∧ LimitReady db work)
    fun work other => paymentProtocol.Free work other ∧ FilesApart work other

theorem limits_hold (holds : LimitsHold config) (moves : List (Move PaymentRequest))
    (oneByOne : Guarded paymentProtocol.step FilesOneByOne config moves) :
    LimitsHold (run paymentProtocol.step config moves) := by
  apply Protocol.guarded_interleaving_invariant holds ?_ ?_ ?_ ?_ ?_ moves oneByOne
  · rintro work other ⟨free, apart⟩
    exact ⟨fun row inOther inWork => free row inWork inOther,
      fun accountId ofOther ofWork => apart accountId ofWork ofOther⟩
  · intro config request work admitted read free other member
    exact ⟨fun row inOther inWork => free other member row inWork inOther,
      filesOneByOne_apart admitted read other member⟩
  · intro db request work _ read
    exact ⟨readPayment_ready read, readPayment_within read⟩
  · intro db work next sound ready written
    exact ⟨sound.1.write ready.1 written, sound.2.1.write ready.1 ready.2 written, sound.2.2.write ready.1 written⟩
  · intro db work other next sound ready readyOther apart written
    exact ⟨ready.1.beside sound.1 readyOther.1 apart.1 written,
      ready.2.beside sound.2.1 ready.1 readyOther.2 apart.1 apart.2 written⟩

/-- Everything written to files of an account for one day. -/
def filedTotal (db : Db) (accountId : BankAccountId) (day : Date) : Decimal :=
  sumWhere (fun order => order.propertyBankAccountId = accountId ∧ order.executionDate = day ∧
    order.status ∉ unfiledStatuses) PaymentOrder.amount db.orders

theorem filedTotal_unreported (unreported : Unreported db) (noReports : db.reports = []) :
    filedTotal db accountId day = alreadyOut db accountId [] day := by
  unfold filedTotal alreadyOut
  have orders : db.orders.zipIdx.map Prod.fst = db.orders := zipIdx_map_fst 0 db.orders
  rw [← congrArg (sumWhere _ _) orders, sumWhere_map]
  apply sumWhere_congr ?_ fun _ _ _ => rfl
  intro found member
  have inOrders : found.1 ∈ db.orders := fst_mem_of_mem_zipIdx member
  constructor
  · rintro ⟨account, date, isFiled⟩
    exact ⟨account, date, unreported noReports found.1 inOrders isFiled, not_mem_nil⟩
  · rintro ⟨account, date, limited, _⟩
    exact ⟨account, date, filed_of_limited limited⟩

/-- Files of one account created one after the other stay within its limits: each order within the limit
per order; what is handed out for a day, and neither rejected nor returned, within the limit per day; and
all orders in files, while the bank has reported nothing. -/
theorem payment_files_within_limits {db : Db} (noOrders : db.orders = []) (noApprovals : db.approvals = [])
    (moves : List (Move PaymentRequest)) (oneByOne : Guarded paymentProtocol.step FilesOneByOne ⟨db, []⟩ moves) :
    let now := (run paymentProtocol.step ⟨db, []⟩ moves).state
    ∀ (orderId : OrderId) (order : PaymentOrder), now.orders[orderId]? = some order →
      order.status ∉ unfiledStatuses → ∀ config ∈ bankConfig now order.propertyBankAccountId,
        (∀ limit ∈ config.singleOrderLimit, order.amount ≤ limit) ∧
        ∀ limit ∈ config.dailyLimit,
          (order.status ∈ limitStatuses →
            alreadyOut now order.propertyBankAccountId [] order.executionDate ≤ limit) ∧
          (now.reports = [] → filedTotal now order.propertyBankAccountId order.executionDate ≤ limit) := by
  intro now orderId order found isFiled config isConfig
  have started : LimitsHold ⟨db, []⟩ := Protocol.holds_initial
    ⟨paymentSound_start noOrders noApprovals, withinLimits_start noOrders, fun _ => by simp [noOrders]⟩
  obtain ⟨_, limits, unreported⟩ := (limits_hold started moves oneByOne).state
  refine ⟨limits.single orderId order found isFiled config isConfig, ?_⟩
  intro limit isLimit
  have handedOut := fun limited => limits.daily orderId order found limited config isConfig limit isLimit
  refine ⟨handedOut, ?_⟩
  intro noReports
  rw [filedTotal_unreported unreported noReports]
  exact handedOut (unreported noReports order (mem_of_getElem? found) isFiled)

/-- The orders of both sample invoices for one day, approved. -/
def sampleTwoApproved : List (Move PaymentRequest) := sampleApproved 0 0 "E2E1" ++ sampleApproved 1 1 "E2E2"

/-- Two files of one account, each created before the other commits. -/
def sampleTwoFiles : List (Move PaymentRequest) :=
  sampleTwoApproved ++ [.start (.createBatch [0] true "MSG1"), .start (.createBatch [1] true "MSG2"),
    .commit 0, .commit 0]

theorem concurrent_files_exceed_limit :
    let now := (run paymentProtocol.step ⟨sampleTenant, []⟩ sampleTwoFiles).state
    (bankConfig now 0).map PaymentBankConfig.dailyLimit = some (some 150) ∧ now.reports = [] ∧
      filedTotal now 0 (.ofYmd 2026 2 2) = 200 := by
  decide +kernel

theorem sample_within_limits :
    filedTotal (run paymentProtocol.step ⟨sampleTenant, []⟩ sampleExport).state 0 (.ofYmd 2026 2 2) ≤ 150 := by
  have oneByOne : Guarded paymentProtocol.step FilesOneByOne ⟨sampleTenant, []⟩ sampleExport := by
    refine ⟨trivial, trivial, trivial, trivial, trivial, trivial, ?_, trivial, trivial⟩
    intro orderId named order present other member
    have nonePending : (run paymentProtocol.step ⟨sampleTenant, []⟩ (sampleExport.take 6)).pending.length = 0 := by
      decide +kernel
    have noWork := length_eq_zero_iff.mp nonePending
    have pending : other ∈ (run paymentProtocol.step ⟨sampleTenant, []⟩ (sampleExport.take 6)).pending := member
    rw [noWork] at pending
    cases pending
  have limited := payment_files_within_limits rfl rfl sampleExport oneByOne
  let now := (run paymentProtocol.step ⟨sampleTenant, []⟩ sampleExport).state
  have found : (now.orders[0]?.map fun order =>
      (order.status, order.propertyBankAccountId, order.executionDate)) =
        some (OrderStatus.exported, 0, .ofYmd 2026 2 2) := by
    decide +kernel
  obtain ⟨order, present, same⟩ := Option.map_eq_some_iff.mp found
  obtain ⟨exported, account, date⟩ : order.status = .exported ∧ order.propertyBankAccountId = 0 ∧
      order.executionDate = .ofYmd 2026 2 2 := by simpa using same
  have isFiled : order.status ∉ unfiledStatuses := by
    rw [exported]
    decide
  have isConfig : bankConfig now order.propertyBankAccountId =
      some { propertyBankAccountId := 0, dailyLimit := some 150 } := by
    rw [account]
    decide +kernel
  have total := ((limited 0 order present isFiled _ isConfig).2 150 rfl).2 (by decide +kernel)
  rwa [account, date] at total

end Mhvp.Banking.Payments
