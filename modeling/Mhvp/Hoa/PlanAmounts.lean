import Mhvp.Hoa.PlanTakeover

namespace Mhvp.Hoa.PlanTakeover

open Core Contracts Lib Lib.Calendar Lib.Validity List
open Accounting (UnitId ContractId)
open Receivables (PaymentInterval)

variable {plan : EconomicPlan} {before : ContractRows} {state next : Takeover} {entry : ApplyRow}
  {contractId : ContractId} {contract : Contract} {interval : PaymentInterval}

theorem applyRow_columns (rows : ContractRows) (plan : EconomicPlan) (unit : PlanUnit) (component : Component) :
    (applyRow rows plan unit component).unitId = unit.unitId ∧
      (applyRow rows plan unit component).component = component ∧
      (applyRow rows plan unit component).new = unit.monthly component := by
  unfold applyRow
  dsimp only
  split
  · exact ⟨rfl, rfl, rfl⟩
  · split
    · exact ⟨rfl, rfl, rfl⟩
    · exact ⟨rfl, rfl, rfl⟩

/-- The amount already starts on the day. -/
def StartsAlready (rows : ContractRows) (plan : EconomicPlan) (contractId : ContractId) (code : String)
    (amount : Decimal) : Prop :=
  ∃ payment ∈ rows.payments, payment.owner = contractId ∧ payment.key = code ∧ payment.Covers plan.validFrom ∧
    payment.validFrom = plan.validFrom ∧ payment.content.gross = amount

theorem applyRow_positive (positive : 0 < unit.monthly component)
    (owner : ownerAt before unit.unitId plan.validFrom = some (contract, contractId)) :
    (applyRow before plan unit component).action = .create ∨
      StartsAlready before plan contractId (typeCode component) (unit.monthly component) := by
  unfold applyRow
  simp only [owner, if_neg (not_le.mpr positive)]
  split
  · rename_i unchanged
    obtain ⟨payment, found, starts, same⟩ := unchanged
    obtain ⟨member, isOwner, isKey, covers⟩ := Held.found_standing found
    exact Or.inr ⟨payment, member, isOwner, isKey, covers, starts, same⟩
  · exact Or.inl rfl

theorem applyRow_create
    (creates : (applyRow before plan unit component).action = .create) : 0 < unit.monthly component := by
  unfold applyRow at creates
  dsimp only at creates
  split at creates
  · cases creates
  · split at creates
    · cases creates
    · rename_i positive
      exact not_le.mp positive

theorem mem_preview : entry ∈ planApplyPreview before plan ↔
    ∃ unit ∈ plan.units, ∃ component, entry = applyRow before plan unit component := by
  simp only [planApplyPreview, mem_flatMap, mem_map]
  constructor
  · rintro ⟨unit, isUnit, component, -, rfl⟩
    exact ⟨unit, isUnit, component, rfl⟩
  · rintro ⟨unit, isUnit, component, rfl⟩
    refine ⟨unit, isUnit, component, ?_, rfl⟩
    cases component with
    | hoaFee => exact mem_cons_self
    | reserve => exact mem_cons_of_mem _ mem_cons_self

def planSchedule (plan : EconomicPlan) (contractId : ContractId) (interval : PaymentInterval) : PaymentSchedule where
  owner := contractId
  key := ()
  content := { interval, dueDay := plan.dueDay }
  validFrom := plan.validFrom

/-- What happened to the schedule of a contract with a new amount. -/
inductive ScheduleStep (plan : EconomicPlan) (contractId : ContractId) (state next : Takeover) : Prop
  | monthly (rhythm : rhythmInterval plan.paymentRhythm = none)
      (schedules : next.tables.schedules = state.tables.schedules) (scheduled : next.scheduled = state.scheduled)
  | known (known : contractId ∈ state.scheduled.map Prod.fst)
      (schedules : next.tables.schedules = state.tables.schedules) (scheduled : next.scheduled = state.scheduled)
  | kept (interval : PaymentInterval) (rhythm : rhythmInterval plan.paymentRhythm = some interval)
      (isNew : contractId ∉ state.scheduled.map Prod.fst) (schedule : PaymentSchedule) (member : schedule ∈ state.tables.schedules) (owner : schedule.owner = contractId)
      (covers : schedule.Covers plan.validFrom) (same : schedule.content.interval = interval)
      (schedules : next.tables.schedules = state.tables.schedules)
      (scheduled : next.scheduled = state.scheduled ++ [(contractId, false)])
  | set (interval : PaymentInterval) (rhythm : rhythmInterval plan.paymentRhythm = some interval)
      (isNew : contractId ∉ state.scheduled.map Prod.fst)
      (schedules : next.tables.schedules =
        state.tables.schedules.map (Held.closeOpen contractId () plan.validFrom) ++
          [planSchedule plan contractId interval])
      (scheduled : next.scheduled = state.scheduled ++ [(contractId, true)])

theorem scheduleOnce_ok (accepted : scheduleOnce plan contract contractId state = .ok next) :
    next.tables.contracts = state.tables.contracts ∧ next.tables.payments = state.tables.payments ∧
      ScheduleStep plan contractId state next := by
  unfold scheduleOnce at accepted
  split at accepted
  · rename_i rhythm
    cases accepted
    exact ⟨rfl, rfl, .monthly rhythm rfl rfl⟩
  · rename_i interval rhythm
    split at accepted
    · rename_i known
      cases accepted
      exact ⟨rfl, rfl, .known known rfl rfl⟩
    · rename_i isNew
      simp only [bind_ok, pure_ok] at accepted
      obtain ⟨⟨tables, changed⟩, ensured, rfl⟩ := accepted
      unfold ensureSchedule at ensured
      dsimp only at ensured
      split at ensured
      · rename_i standing
        cases ensured
        obtain ⟨schedule, found, same⟩ := standing
        obtain ⟨member, isOwner, -, covers⟩ := Held.found_standing found
        exact ⟨rfl, rfl, .kept interval rhythm isNew schedule member isOwner covers same rfl rfl⟩
      · simp only [addSchedule, bind_ok, exists_unit, require_ok, pure_ok, Prod.mk.injEq] at ensured
        obtain ⟨-, sent, flushed, rfl, rfl⟩ := ensured
        have rows := flush_ok flushed
        have contracts := congrArg ContractRows.contracts rows
        have payments := congrArg ContractRows.payments rows
        have schedules := congrArg ContractRows.schedules rows
        exact ⟨contracts, payments, .set interval rhythm isNew schedules rfl⟩

/-- What one row of the preview did: nothing, or a new amount and perhaps a schedule. -/
inductive RowStep (plan : EconomicPlan) (state : Takeover) (entry : ApplyRow) (next : Takeover) : Prop
  | skipped (nothing : ∀ owner, entry.action = .create →
      ownerAt state.tables.toContractRows entry.unitId plan.validFrom ≠ some owner) (same : next = state)
  | created (contract : Contract) (contractId : ContractId) (creates : entry.action = .create)
      (owner : ownerAt state.tables.toContractRows entry.unitId plan.validFrom = some (contract, contractId))
      (contracts : next.tables.contracts = state.tables.contracts)
      (payments : next.tables.payments =
        state.tables.payments.map (Held.closeOpen contractId (typeCode entry.component) plan.validFrom) ++
          [planPayment plan contractId entry])
      (schedule : ScheduleStep plan contractId state next)

theorem takeOverRow_ok (accepted : takeOverRow plan state entry = .ok next) : RowStep plan state entry next := by
  unfold takeOverRow at accepted
  split at accepted
  · rename_i contract contractId creates owner
    simp only [addPayment, invalid, bind_ok, exists_unit, require_ok] at accepted
    obtain ⟨tables, ⟨-, flushed⟩, scheduled⟩ := accepted
    have rows := flush_ok flushed
    obtain ⟨contracts, payments, step⟩ := scheduleOnce_ok scheduled
    have sameContracts := congrArg ContractRows.contracts rows
    have newPayments := congrArg ContractRows.payments rows
    have sameSchedules := congrArg ContractRows.schedules rows
    refine .created contract contractId creates owner (contracts.trans sameContracts) (payments.trans newPayments) ?_
    cases step with
    | monthly rhythm schedules scheduled => exact .monthly rhythm (schedules.trans sameSchedules) scheduled
    | known known schedules scheduled => exact .known known (schedules.trans sameSchedules) scheduled
    | kept interval rhythm isNew schedule member isOwner covers same schedules scheduled =>
      have member : schedule ∈ tables.schedules := member
      rw [sameSchedules] at member
      exact .kept interval rhythm isNew schedule member isOwner covers same (schedules.trans sameSchedules) scheduled
    | set interval rhythm isNew schedules scheduled =>
      have schedules : next.tables.schedules = tables.schedules.map (Held.closeOpen contractId () plan.validFrom) ++
        [planSchedule plan contractId interval] := schedules
      rw [sameSchedules] at schedules
      exact .set interval rhythm isNew schedules scheduled
  · rename_i other
    cases accepted
    refine .skipped ?_ rfl
    intro owner creates isOwner
    exact other owner.1 owner.2 creates isOwner

/-- A row of the preview creates an amount of the type on the contract. -/
def Creates (plan : EconomicPlan) (before : ContractRows) (entry : ApplyRow) (contractId : ContractId) : Prop :=
  entry.action = .create ∧ ∃ contract, ownerAt before entry.unitId plan.validFrom = some (contract, contractId)

/-- What holds of the payments when some rows of the preview are done. -/
structure PaymentsTaken (plan : EconomicPlan) (before : ContractRows) (done : List ApplyRow) (state : Takeover) : Prop
    where
  contracts : state.tables.contracts = before.contracts
  kept : ∀ contractId code on content,
    (on < plan.validFrom ∨ ∀ entry ∈ done, Creates plan before entry contractId → typeCode entry.component ≠ code) →
      (Held.On state.tables.payments contractId code on content ↔ Held.On before.payments contractId code on content)
  later : ∀ payment ∈ before.payments, plan.validFrom ≤ payment.validFrom → payment ∈ state.tables.payments
  made : ∀ entry ∈ done, ∀ contractId, Creates plan before entry contractId →
    planPayment plan contractId entry ∈ state.tables.payments

theorem ownerAt_congr (same : rows.contracts = other.contracts) (unitId : UnitId)
    (day : Date) : ownerAt rows unitId day = ownerAt other unitId day := by
  rw [ownerAt, ownerAt, same]

theorem PaymentsTaken.step (taken : PaymentsTaken plan before done state) (step : RowStep plan state entry next) :
    PaymentsTaken plan before (done ++ [entry]) next := by
  have sameOwner := ownerAt_congr taken.contracts entry.unitId plan.validFrom
  cases step with
  | skipped nothing same =>
    subst same
    have creates (contractId : ContractId) : ¬ Creates plan before entry contractId := by
      rintro ⟨isCreate, contract, owner⟩
      exact nothing _ isCreate (sameOwner.trans owner)
    refine ⟨taken.contracts, ?_, taken.later, ?_⟩
    · intro contractId code on content elsewhere
      apply taken.kept contractId code on content
      exact elsewhere.imp id fun others other isDone => others other (mem_append_left _ isDone)
    · intro other isDone contractId isCreated
      rcases mem_append.mp isDone with old | isLast
      · exact taken.made other old contractId isCreated
      · rw [mem_singleton.mp isLast] at isCreated
        exact absurd isCreated (creates contractId)
  | created contract owner creates isOwner contracts payments schedule =>
    have isCreated : Creates plan before entry owner := ⟨creates, contract, sameOwner.symm.trans isOwner⟩
    have kept {payment : ContractPayment} (member : payment ∈ state.tables.payments)
        (late : plan.validFrom ≤ payment.validFrom) : payment ∈ next.tables.payments := by
      rw [payments]
      exact mem_append_left _ (Held.mem_closed member (Or.inr late))
    refine ⟨contracts.trans taken.contracts, ?_, ?_, ?_⟩
    · intro contractId code on content elsewhere
      rw [payments]
      have inserted : on < (planPayment plan owner entry).validFrom ∨
          (contractId, code) ≠ ((planPayment plan owner entry).owner, (planPayment plan owner entry).key) := by
        refine elsewhere.imp id fun others same => ?_
        obtain ⟨isOwner, isCode⟩ := Prod.mk.inj same
        subst isOwner
        exact others entry (mem_append_right _ mem_cons_self) isCreated isCode.symm
      refine (Held.on_inserted inserted).trans (taken.kept contractId code on content ?_)
      exact elsewhere.imp id fun others other isDone => others other (mem_append_left _ isDone)
    · exact fun payment member late => kept (taken.later payment member late) late
    · intro other isDone contractId created
      rcases mem_append.mp isDone with old | isLast
      · exact kept (taken.made other old contractId created) (le_refl plan.validFrom)
      · obtain rfl := mem_singleton.mp isLast
        obtain ⟨-, _, isOther⟩ := created
        obtain ⟨-, _, isOwner⟩ := isCreated
        obtain rfl : contractId = owner := congrArg Prod.snd (Option.mem_unique isOther isOwner)
        rw [payments]
        exact mem_append_right _ mem_cons_self

/-- What holds of the schedules when some rows of the preview are done. -/
structure SchedulesTaken (plan : EconomicPlan) (before : ContractRows) (done : List ApplyRow) (state : Takeover) : Prop
    where
  contracts : state.tables.contracts = before.contracts
  monthly : rhythmInterval plan.paymentRhythm = none → state.tables.schedules = before.schedules
  kept : ∀ contractId on content, (on < plan.validFrom ∨ contractId ∉ state.scheduled.map Prod.fst) →
    (Held.On state.tables.schedules contractId () on content ↔ Held.On before.schedules contractId () on content)
  origin : ∀ schedule ∈ state.tables.schedules, schedule.owner ∉ state.scheduled.map Prod.fst →
    schedule ∈ before.schedules
  stands : ∀ interval, rhythmInterval plan.paymentRhythm = some interval → ∀ contractId ∈ state.scheduled.map Prod.fst,
    ∃ schedule ∈ state.tables.schedules, schedule.owner = contractId ∧ schedule.Covers plan.validFrom ∧
      schedule.content.interval = interval ∧
      (schedule ∈ before.schedules ∨ schedule = planSchedule plan contractId interval)
  seen : rhythmInterval plan.paymentRhythm ≠ none → ∀ entry ∈ done, ∀ contractId,
    Creates plan before entry contractId → contractId ∈ state.scheduled.map Prod.fst
  created : ∀ contractId ∈ state.scheduled.map Prod.fst, ∃ entry ∈ done, Creates plan before entry contractId

section

variable (taken : SchedulesTaken plan before done state)
include taken

theorem SchedulesTaken.unchanged (contracts : next.tables.contracts = state.tables.contracts)
    (schedules : next.tables.schedules = state.tables.schedules) (scheduled : next.scheduled = state.scheduled)
    (seen : rhythmInterval plan.paymentRhythm ≠ none → ∀ contractId, Creates plan before entry contractId →
      contractId ∈ state.scheduled.map Prod.fst) : SchedulesTaken plan before (done ++ [entry]) next where
  contracts := contracts.trans taken.contracts
  monthly := fun rhythm => schedules.trans (taken.monthly rhythm)
  kept := by
    rw [schedules, scheduled]
    exact taken.kept
  origin := by
    rw [schedules, scheduled]
    exact taken.origin
  stands := by
    rw [schedules, scheduled]
    exact taken.stands
  seen := by
    intro rhythm other isDone contractId creates
    rw [scheduled]
    rcases mem_append.mp isDone with old | isLast
    · exact taken.seen rhythm other old contractId creates
    · rw [mem_singleton.mp isLast] at creates
      exact seen rhythm contractId creates
  created := by
    intro contractId isScheduled
    rw [scheduled] at isScheduled
    obtain ⟨other, isDone, creates⟩ := taken.created contractId isScheduled
    exact ⟨other, mem_append_left _ isDone, creates⟩

theorem SchedulesTaken.looked (creates : Creates plan before entry contractId) (rhythm : rhythmInterval plan.paymentRhythm = some interval)
    (contracts : next.tables.contracts = state.tables.contracts)
    (scheduled : next.scheduled = state.scheduled ++ [(contractId, changed)])
    (kept : ∀ other on content, (on < plan.validFrom ∨ other ≠ contractId) →
      (Held.On next.tables.schedules other () on content ↔ Held.On state.tables.schedules other () on content))
    (origin : ∀ schedule ∈ next.tables.schedules, schedule.owner ≠ contractId → schedule ∈ state.tables.schedules)
    (others : ∀ schedule ∈ state.tables.schedules, schedule.owner ≠ contractId → schedule ∈ next.tables.schedules)
    (isNew : contractId ∉ state.scheduled.map Prod.fst)
    (stands : ∃ schedule ∈ next.tables.schedules, schedule.owner = contractId ∧ schedule.Covers plan.validFrom ∧
      schedule.content.interval = interval ∧
      (schedule ∈ before.schedules ∨ schedule = planSchedule plan contractId interval)) :
    SchedulesTaken plan before (done ++ [entry]) next := by
  have isScheduled (other : ContractId) : other ∈ next.scheduled.map Prod.fst ↔
      other ∈ state.scheduled.map Prod.fst ∨ other = contractId := by
    rw [scheduled, map_append, mem_append]
    simp
  refine ⟨contracts.trans taken.contracts, ?_, ?_, ?_, ?_, ?_, ?_⟩
  · intro isMonthly
    rw [isMonthly] at rhythm
    cases rhythm
  · intro other on content elsewhere
    rw [isScheduled, not_or] at elsewhere
    refine (kept other on content (elsewhere.imp id And.right)).trans ?_
    exact taken.kept other on content (elsewhere.imp id And.left)
  · intro schedule member absent
    rw [isScheduled, not_or] at absent
    exact taken.origin schedule (origin schedule member absent.2) absent.1
  · intro wanted isWanted other isOther
    rcases (isScheduled other).mp isOther with old | rfl
    · obtain ⟨schedule, member, isOwner, rest⟩ := taken.stands wanted isWanted other old
      refine ⟨schedule, others schedule member ?_, isOwner, rest⟩
      rw [isOwner]
      exact fun same => isNew (same ▸ old)
    · obtain rfl : interval = wanted := Option.mem_unique rhythm isWanted
      exact stands
  · intro isRhythm other isDone made createsOther
    rw [isScheduled]
    rcases mem_append.mp isDone with old | isLast
    · exact Or.inl (taken.seen isRhythm other old made createsOther)
    · obtain rfl := mem_singleton.mp isLast
      obtain ⟨-, _, isOwner⟩ := creates
      obtain ⟨-, _, isOther⟩ := createsOther
      exact Or.inr (congrArg Prod.snd (Option.mem_unique isOther isOwner))
  · intro other isOther
    rcases (isScheduled other).mp isOther with old | rfl
    · obtain ⟨made, isDone, createsMade⟩ := taken.created other old
      exact ⟨made, mem_append_left _ isDone, createsMade⟩
    · exact ⟨entry, mem_append_right _ mem_cons_self, creates⟩

theorem SchedulesTaken.step (step : RowStep plan state entry next) :
    SchedulesTaken plan before (done ++ [entry]) next := by
  have sameOwner := ownerAt_congr taken.contracts entry.unitId plan.validFrom
  cases step with
  | skipped nothing same =>
    subst same
    refine taken.unchanged rfl rfl rfl fun _ contractId => ?_
    rintro ⟨isCreate, contract, owner⟩
    exact absurd (sameOwner.trans owner) (nothing _ isCreate)
  | created contract owner creates isOwner contracts payments schedule =>
    have isCreated : Creates plan before entry owner := ⟨creates, contract, sameOwner.symm.trans isOwner⟩
    have onlyOwner {other : ContractId} (createsOther : Creates plan before entry other) : other = owner := by
      obtain ⟨-, _, isOther⟩ := createsOther
      exact congrArg Prod.snd (Option.some.inj (isOther.symm.trans (sameOwner.symm.trans isOwner)))
    cases schedule with
    | monthly rhythm schedules scheduled =>
      exact taken.unchanged contracts schedules scheduled fun notMonthly => absurd rhythm notMonthly
    | known known schedules scheduled =>
      exact taken.unchanged contracts schedules scheduled fun _ other createsOther =>
        onlyOwner createsOther ▸ known
    | kept interval rhythm isNew held member isHeld covers same schedules scheduled =>
      apply taken.looked isCreated rhythm contracts scheduled ?_ ?_ ?_ isNew
      · have held' := member
        rw [← schedules] at held'
        exact ⟨held, held', isHeld, covers, same, Or.inl (taken.origin held member (isHeld ▸ isNew))⟩
      · exact fun _ _ _ _ => by rw [schedules]
      · exact fun _ member _ => schedules ▸ member
      · exact fun _ member _ => schedules ▸ member
    | set interval rhythm isNew schedules scheduled =>
      apply taken.looked isCreated rhythm contracts scheduled ?_ ?_ ?_ isNew
      · refine ⟨planSchedule plan owner interval, ?_, rfl, ⟨le_refl _, ?_⟩, rfl, Or.inr rfl⟩
        · rw [schedules]
          exact mem_append_right _ mem_cons_self
        · exact within_none
      · intro other on content elsewhere
        have inserted : on < (planSchedule plan owner interval).validFrom ∨
            (other, ()) ≠ ((planSchedule plan owner interval).owner, (planSchedule plan owner interval).key) :=
          elsewhere.imp id fun differs same => differs (congrArg Prod.fst same)
        rw [schedules]
        exact Held.on_inserted inserted
      · intro row member differs
        rw [schedules] at member
        rcases mem_append.mp member with mapped | isLast
        · obtain ⟨old, isOld, rfl⟩ := mem_map.mp mapped
          have untouched : (old.owner, old.key) ≠ (owner, ()) := by
            intro same
            apply differs
            unfold Held.closeOpen
            split
            · exact congrArg Prod.fst same
            · exact congrArg Prod.fst same
          rw [Held.closeOpen_eq_self (Or.inl untouched)]
          exact isOld
        · rw [mem_singleton.mp isLast] at differs
          exact absurd rfl differs
      · intro row member differs
        rw [schedules]
        apply mem_append_left
        exact Held.mem_closed member (Or.inl fun same => differs (congrArg Prod.fst same))

end

theorem loop_taken (accepted : preview.foldlM (takeOverRow plan) state = .ok next)
    (payments : PaymentsTaken plan before done state) (schedules : SchedulesTaken plan before done state) :
    PaymentsTaken plan before (done ++ preview) next ∧ SchedulesTaken plan before (done ++ preview) next := by
  induction preview generalizing state done with
  | nil =>
    rw [foldlM_nil, pure_ok] at accepted
    subst accepted
    rw [append_nil]
    exact ⟨payments, schedules⟩
  | cons entry rest ih =>
    rw [foldlM_cons, bind_ok] at accepted
    obtain ⟨between, now, later⟩ := accepted
    have step := takeOverRow_ok now
    have goesOn := ih later (payments.step step) (schedules.step step)
    rw [append_assoc] at goesOn
    exact goesOn

/-- The plan is in force: a positive amount stands from its first day, alone on every day of its period; amounts that
the plan does not set and earlier days are as before. A contract with a new amount has a schedule of the plan's rhythm
when this is not monthly. -/
structure PlanInForce (plan : EconomicPlan) (before after : ContractRows) : Prop where
  amounts : ∀ unit ∈ plan.units, ∀ contract contractId,
    ownerAt before unit.unitId plan.validFrom = some (contract, contractId) →
      ∀ component, 0 < unit.monthly component →
        ∃ payment ∈ after.payments, payment.validFrom = plan.validFrom ∧
          payment.content.gross = unit.monthly component ∧
          (StartsAlready before plan contractId (typeCode component) (unit.monthly component) ∨
            payment.validTo = none) ∧ payment.Covers plan.validFrom ∧
          ∀ day, payment.Covers day →
            Held.contents after.payments contractId (typeCode component) day = [payment.content]
  others : ∀ contractId code day,
    (day < plan.validFrom ∨ ∀ unit ∈ plan.units, ∀ contract,
      ownerAt before unit.unitId plan.validFrom = some (contract, contractId) →
        ∀ component, typeCode component = code → unit.monthly component ≤ 0) →
      Held.contents after.payments contractId code day = Held.contents before.payments contractId code day
  monthly : plan.paymentRhythm = .monthly → after.schedules = before.schedules
  rhythm : ∀ interval, rhythmInterval plan.paymentRhythm = some interval → ∀ unit ∈ plan.units,
    ∀ contract contractId, ownerAt before unit.unitId plan.validFrom = some (contract, contractId) →
      ∀ component, 0 < unit.monthly component →
        ¬ StartsAlready before plan contractId (typeCode component) (unit.monthly component) →
          ∃ schedule ∈ after.schedules, schedule.content.interval = interval ∧ schedule.Covers plan.validFrom ∧
            (schedule ∈ before.schedules ∨ schedule = planSchedule plan contractId interval) ∧
            ∀ day, schedule.Covers day → Held.contents after.schedules contractId () day = [schedule.content]
  earlierSchedules : ∀ contractId day, day < plan.validFrom →
    Held.contents after.schedules contractId () day = Held.contents before.schedules contractId () day

theorem creates_of_positive (owner : ownerAt before unit.unitId plan.validFrom = some (contract, contractId))
    (creates : (applyRow before plan unit component).action = .create) :
    Creates plan before (applyRow before plan unit component) contractId := by
  refine ⟨creates, contract, ?_⟩
  rw [(applyRow_columns before plan unit component).1]
  exact owner

theorem loop_in_force {before after : ContractTables} {taken : Takeover} (result : taken.tables = after)
    (payments : PaymentsTaken plan before.toContractRows (planApplyPreview before.toContractRows plan) taken)
    (schedules : SchedulesTaken plan before.toContractRows (planApplyPreview before.toContractRows plan) taken) :
    PlanInForce plan before.toContractRows after.toContractRows := by
  subst result
  have paid := taken.tables.constraints.payments.1
  have scheduled := taken.tables.constraints.schedules.1
  constructor
  · intro unit isUnit contract contractId owner component positive
    rcases applyRow_positive positive owner with creates | already
    · obtain ⟨-, isComponent, isNew⟩ := applyRow_columns before.toContractRows plan unit component
      have made := payments.made _ (mem_preview.mpr ⟨unit, isUnit, component, rfl⟩) contractId
        (creates_of_positive owner creates)
      refine ⟨_, made, rfl, isNew, Or.inr rfl, ⟨le_refl _, within_none⟩, fun day covers => ?_⟩
      exact Held.contents_eq paid made ⟨rfl, congrArg typeCode isComponent, covers, rfl⟩
    · have already' := already
      obtain ⟨payment, member, isOwner, isKey, covers, starts, same⟩ := already
      have still := payments.later payment member starts.ge
      refine ⟨payment, still, starts, same, Or.inl already', covers, fun day covers => ?_⟩
      exact Held.contents_eq paid still ⟨isOwner, isKey, covers, rfl⟩
  · intro contractId code day elsewhere
    apply Held.contents_congr paid before.constraints.payments.1
    intro content
    apply payments.kept
    refine elsewhere.imp id fun none entry isEntry creates same => ?_
    obtain ⟨unit, isUnit, component, rfl⟩ := mem_preview.mp isEntry
    obtain ⟨isUnitId, isComponent, -⟩ := applyRow_columns before.toContractRows plan unit component
    obtain ⟨isCreate, contract, owner⟩ := creates
    rw [isUnitId] at owner
    rw [isComponent] at same
    exact absurd (applyRow_create isCreate) (not_lt.mpr (none unit isUnit contract owner component same))
  · intro isMonthly
    exact schedules.monthly (congrArg rhythmInterval isMonthly)
  · intro interval isRhythm unit isUnit contract contractId owner component positive notAlready
    have creates := (applyRow_positive positive owner).resolve_right notAlready
    have notMonthly : rhythmInterval plan.paymentRhythm ≠ none := by simp [isRhythm]
    have seen := schedules.seen notMonthly _ (mem_preview.mpr ⟨unit, isUnit, component, rfl⟩) contractId
      (creates_of_positive owner creates)
    obtain ⟨schedule, member, isOwner, covers, same, origin⟩ := schedules.stands interval isRhythm contractId seen
    refine ⟨schedule, member, same, covers, origin, fun day covers => ?_⟩
    exact Held.contents_eq scheduled member ⟨isOwner, rfl, covers, rfl⟩
  · intro contractId day earlier
    apply Held.contents_congr scheduled before.constraints.schedules.1
    intro content
    exact schedules.kept contractId day content (Or.inl earlier)

theorem applyPlan_ok {state next : PlanState} (found : state.plans[planId]? = some plan) (isOpen : plan.appliedAt = none)
    (accepted : applyPlan state planId body userId now = .ok next) :
    PlanInForce plan state.tables.toContractRows next.tables.toContractRows ∧
      next.plans = (state.plans.set planId { plan with appliedAt := some now }).zipIdx.map
        (supersededBy planId plan now) := by
  simp only [applyPlan, found, isOpen, bind_ok, exists_unit, require_ok, orRefuse_ok, pure_ok, Option.isSome_none,
    Option.some.injEq, Bool.false_eq_true, if_false, exists_eq_left'] at accepted
  obtain ⟨-, -, -, -, -, taken, looped, rfl⟩ := accepted
  have startPayments : PaymentsTaken plan state.tables.toContractRows [] { tables := state.tables } :=
    ⟨rfl, fun _ _ _ _ _ => Iff.rfl, fun _ member _ => member, fun _ member => by cases member⟩
  have startSchedules : SchedulesTaken plan state.tables.toContractRows [] { tables := state.tables } :=
    ⟨rfl, fun _ => rfl, fun _ _ _ _ => Iff.rfl, fun _ member _ => member, by simp, by simp, by simp⟩
  obtain ⟨payments, schedules⟩ := loop_taken looped startPayments startSchedules
  exact ⟨loop_in_force rfl payments schedules, rfl⟩

/-- An accepted takeover puts the plan into force, and the plan is not taken over a second time. -/
theorem plan_in_force {state next : PlanState} (found : state.plans[planId]? = some plan)
    (isOpen : plan.appliedAt = none) (accepted : applyPlan state planId body userId now = .ok next) :
    PlanInForce plan state.tables.toContractRows next.tables.toContractRows ∧
      ∀ again someone later, applyPlan next planId again someone later = .ok next := by
  obtain ⟨inForce, plans⟩ := applyPlan_ok found isOpen accepted
  refine ⟨inForce, fun again someone later => ?_⟩
  have applied : next.plans[planId]? = some { plan with appliedAt := some now } := by
    have inside := Table.found_lt found
    rw [plans, List.getElem?_map, List.getElem?_zipIdx, List.getElem?_set_self inside]
    simp [supersededBy]
  simp [applyPlan, applied, orRefuse]

def sampleUnit : PlanUnit where
  unitId := 0
  unitNumber := "01"
  annual := fun
    | .hoaFee => 3840
    | .reserve => 0
  monthly := fun
    | .hoaFee => 320
    | .reserve => 0
  roundingDifference := fun _ => 0
  monthlyRates := none
  reserveSplit := []

def samplePlan : EconomicPlan where
  ledgerId := 0
  validFrom := .ofYmd 2026 1 1
  status := .resolved
  snapshot := some { units := [sampleUnit], totals := fun _ => 0 }
  snapshotHash := some "6f1e"
  createdBy := some 0

def sampleOwner : ContractRows where
  contracts := [{
    kind := .ownership, unitId := 0, partyId := 0, legalEntityId := 0, number := 1
    startDate := .ofYmd 2020 1 1, titleTransferDate := some (.ofYmd 2020 1 1) }]
  payments := [
    { owner := 0, key := "hoa_fee", content := { net := 300, gross := 300 }, validFrom := .ofYmd 2025 1 1 },
    { owner := 0, key := "reserve", content := { net := 50, gross := 50 }, validFrom := .ofYmd 2025 1 1 }]
  schedules := [{ owner := 0, key := (), content := { interval := .quarterly, dueDay := 3 }, validFrom := .ofYmd 2025 1 1 }]

def sampleState : PlanState := { tables := ⟨sampleOwner, by decide +kernel⟩, plans := [samplePlan] }

def sampleConfirmation : PlanApplyIn := { confirm := true, snapshotHash := some "6f1e" }

/-- The reserve of the earlier plan and the quarterly schedule stand on after the takeover. -/
theorem earlier_reserve_stands :
    (answer? (applyPlan sampleState 0 sampleConfirmation 1 0)).map (fun next =>
      ((Held.contents next.tables.payments 0 "reserve" (.ofYmd 2026 2 1)).map PaymentTerms.gross,
        (Held.contents next.tables.schedules 0 () (.ofYmd 2026 2 1)).map ScheduleTerms.interval)) =
      some ([50], [.quarterly]) := by
  decide +kernel

theorem sample_in_force : ∃ next, applyPlan sampleState 0 sampleConfirmation 1 0 = .ok next ∧
    PlanInForce samplePlan sampleState.tables.toContractRows next.tables.toContractRows := by
  have isApplied : (answer? (applyPlan sampleState 0 sampleConfirmation 1 0)).isSome := by decide +kernel
  have accepted := accepted_of_isSome isApplied
  exact ⟨_, accepted, (plan_in_force rfl rfl accepted).1⟩

end Mhvp.Hoa.PlanTakeover
