import Mhvp.Core.Cents
import Mhvp.Hoa.LevyChains

namespace Mhvp.Hoa.Levies

open Core Accounting Lib.Aggregate Lib.Calendar Lib.Table Lib.Transition List

abbrev RefundId := ℕ

inductive RefundStatus
  | proposed
  | withdrawn
  deriving DecidableEq

structure LevyRefund where
  levyId : LevyId
  unitId : Option UnitId
  amount : Decimal
  reason : String
  resolutionId : ResolutionId
  status : RefundStatus := .proposed
  withdrawnReason : Option String := none
  positive : 0 < amount

structure LevyRefundIn where
  unitId : Option UnitId := none
  amount : Decimal
  reason : String
  resolutionId : ResolutionId
  positive : 0 < amount

structure RefundState where
  levy : LevyState
  /-- What was paid on the special levies of a unit in a month, as `advances` adds it up. -/
  paid : UnitId → Date → Decimal := fun _ _ => 0
  refunds : List LevyRefund := []
  enabled : Bool := false

def RefundState.pay (state : RefundState) (unitId : UnitId) (first : Date) (amount : Decimal) : RefundState :=
  let paid other day := state.paid other day + if other = unitId ∧ day = first then amount else 0
  { state with paid }

/-- `_chain_months`: the loop walks from a levy to the first version. -/
def chainMonths (levies : List SpecialLevy) : ℕ → LevyId → Finset Date
  | 0, _ => ∅
  | steps + 1, levyId =>
    match levies[levyId]? with
    | none => ∅
    | some levy =>
      match levy.supersedesId with
      | none => ((List.range levy.instalments).map (month levy.firstDue)).toFinset
      | some previousId => levy.differenceDue.toFinset ∪ chainMonths levies steps previousId

/-- Received of a unit over the months of the chain. -/
def received (state : RefundState) (levyId : LevyId) (unitId : UnitId) : Decimal :=
  ∑ first ∈ chainMonths state.levy.levies (levyId + 1) levyId, roundCents (state.paid unitId first)

/-- `_proposed` of one unit, or without unit. -/
def proposed (refunds : List LevyRefund) (levyId : LevyId) (unitId : Option UnitId) : Decimal :=
  sumWhere (fun refund => (refund.levyId = levyId ∧ refund.status = .proposed) ∧ refund.unitId = unitId)
    LevyRefund.amount refunds

def proposedTotal (refunds : List LevyRefund) (levyId : LevyId) : Decimal :=
  sumWhere (fun refund => refund.levyId = levyId ∧ refund.status = .proposed) LevyRefund.amount refunds

/-- What a proposal may take: of a unit, or of all units together. -/
def available (state : RefundState) (levyId : LevyId) (levy : SpecialLevy) (unitId : Option UnitId) : Result Decimal :=
  match unitId with
  | some unitId => do
      let unit ← orRefuse (levy.units.find? fun unit => unit.unitId = unitId) .validation
        (some "Einheit ist nicht an der Sonderumlage beteiligt.")
      pure (received state levyId unit.unitId - proposed state.refunds levyId (some unit.unitId))
  | none =>
      pure ((levy.units.map fun unit => received state levyId unit.unitId).sum - proposedTotal state.refunds levyId)

def proposeLevyRefund (state : RefundState) (levyId : LevyId) (body : LevyRefundIn) : Result RefundState := do
  let levy ← levyOf state.levy levyId
  require (state.enabled = true) .hoaLevyRefundDisabled
  require (levy.status = .applied) .conflict (some "Erstattung nur zu einer übernommenen Sonderumlage.")
  let resolution ← orRefuse ((state.levy.office.resolutions[body.resolutionId]?).filter fun resolution =>
    resolution.legalEntityId = levy.legalEntityId) .validation (some "Beschluss fehlt.")
  require (resolution.status ∈ binding) .conflict (some "Beschluss ist nicht positiv gefasst.")
  let available ← available state levyId levy body.unitId
  require (body.amount ≤ available) .validation
    (some ("Erstattung über dem eingegangenen, nicht vorgeschlagenen Betrag (" ++ available.text ++ " EUR)."))
  pure { state with
    refunds := state.refunds ++ [{
      levyId, unitId := body.unitId, amount := body.amount, reason := body.reason, resolutionId := body.resolutionId
      positive := body.positive }] }

def withdrawLevyRefund (state : RefundState) (levyId : LevyId) (refundId : RefundId) (reason : String) :
    Result RefundState := do
  let refund ← orRefuse ((state.refunds[refundId]?).filter fun refund => refund.levyId = levyId) .resourceNotFound
  require (refund.status = .proposed) .conflict (some "Vorschlag ist bereits zurückgezogen.")
  pure { state with
    refunds := state.refunds.set refundId { refund with status := .withdrawn, withdrawnReason := some reason } }

inductive RefundCall
  | propose (levyId : LevyId) (body : LevyRefundIn)
  | withdraw (levyId : LevyId) (refundId : RefundId) (reason : String)
  | setEnabled (enabled : Bool)
  /-- A payment on the items of a unit in a month. -/
  | pay (unitId : UnitId) (first : Date) (amount : Decimal) (positive : 0 < amount)
  | levy (call : LevyCall)

def refundStep (state : RefundState) : RefundCall → Result RefundState
  | .propose levyId body => proposeLevyRefund state levyId body
  | .withdraw levyId refundId reason => withdrawLevyRefund state levyId refundId reason
  | .setEnabled enabled => pure { state with enabled }
  | .pay unitId first amount _ => pure (state.pay unitId first amount)
  | .levy call => do
      let levy ← levyStep state.levy call
      pure { state with levy }

/-- An open proposal of the chain of a levy. -/
def OpenIn (state : RefundState) (levyId : LevyId) (refund : LevyRefund) : Prop :=
  refund.levyId ∈ chain state.levy.levies levyId ∧ refund.status = .proposed

instance : DecidablePred (OpenIn state levyId) := fun _ => inferInstanceAs (Decidable (_ ∧ _))

/-- Open proposals of the chain are within what was received on it, in total and for every unit. -/
structure Covered (state : RefundState) (levyId : LevyId) : Prop where
  total : ∀ levy ∈ state.levy.levies[levyId]?, sumWhere (OpenIn state levyId) LevyRefund.amount state.refunds ≤
    (levy.units.map fun unit => received state levyId unit.unitId).sum
  units : ∀ unitId, sumWhere (fun refund => OpenIn state levyId refund ∧ refund.unitId = some unitId) LevyRefund.amount
    state.refunds ≤ received state levyId unitId

/-- Open proposals of the chain are all of the levy itself and, where a unit gets one, all for units. -/
def Counted (state : RefundState) : RefundCall → Prop
  | .propose levyId body => ∀ refund ∈ state.refunds, OpenIn state levyId refund →
      refund.levyId = levyId ∧ (body.unitId.isSome → refund.unitId.isSome)
  | _ => True

instance : Decidable (Counted state call) := by cases call <;> unfold Counted <;> infer_instance

section Levies

variable {state next : LevyState} {levies later : List SpecialLevy} {levyId : LevyId}

/-- Once a levy is no draft its distribution stays, and its dates stay anyway. -/
structure Fixed (old new : SpecialLevy) : Prop where
  firstDue : new.firstDue = old.firstDue
  instalments : new.instalments = old.instalments
  supersedesId : new.supersedesId = old.supersedesId
  differenceDue : new.differenceDue = old.differenceDue
  snapshot : old.status ≠ .draft → new.status ≠ .draft ∧ new.snapshot = old.snapshot

theorem Fixed.refl (levy : SpecialLevy) : Fixed levy levy := ⟨rfl, rfl, rfl, rfl, fun ready => ⟨ready, rfl⟩⟩

theorem setStatus_onward (levies : List SpecialLevy) (levyId : LevyId) (ready : status ≠ .draft) :
    Onward Fixed levies (setStatus levies levyId status) :=
  Onward.modify .refl fun _ _ => ⟨rfl, rfl, rfl, rfl, fun _ => ⟨ready, rfl⟩⟩

theorem Fixed.trans (early : Fixed first second) (late : Fixed second third) :
    Fixed first third where
  firstDue := late.firstDue.trans early.firstDue
  instalments := late.instalments.trans early.instalments
  supersedesId := late.supersedesId.trans early.supersedesId
  differenceDue := late.differenceDue.trans early.differenceDue
  snapshot := fun ready =>
    have middle := early.snapshot ready
    ⟨(late.snapshot middle.1).1, (late.snapshot middle.1).2.trans middle.2⟩

theorem levies_onward (accepted : levyStep state call = .ok next) :
    Onward Fixed state.levies next.levies := by
  cases call with
  | create body =>
    simp only [levyStep, createLevy, bind_ok, exists_unit, require_ok, pure_ok] at accepted
    obtain ⟨-, ledger, -, terms, -, rfl⟩ := accepted
    exact Onward.append .refl _ _
  | calculate levyId =>
    simp only [levyStep, calculateLevy, levyOf, bind_ok, orRefuse_ok, exists_unit, require_ok, pure_ok] at accepted
    obtain ⟨levy, found, draft, snapshot, -, rfl⟩ := accepted
    exact Onward.set .refl found ⟨rfl, rfl, rfl, rfl, fun ready => absurd draft ready⟩
  | resolve levyId resolutionId =>
    simp only [levyStep, resolveLevy, levyOf, bind_ok, orRefuse_ok, exists_unit, require_ok, pure_ok] at accepted
    obtain ⟨levy, found, -, resolution, -, -, -, rfl⟩ := accepted
    exact Onward.set .refl found ⟨rfl, rfl, rfl, rfl, fun _ => ⟨LevyStatus.noConfusion, rfl⟩⟩
  | apply levyId =>
    simp only [levyStep, applyLevy, bind_ok] at accepted
    obtain ⟨levy, -, accepted⟩ := accepted
    split at accepted
    · rw [← pure_ok.mp accepted]
      exact Onward.refl .refl _
    · simp only [bind_ok, exists_unit, require_ok] at accepted
      obtain ⟨-, -, charged⟩ := accepted
      split at charged
      · simp only [bind_ok, pure_ok, applyAmendment, orRefuse_ok] at charged
        obtain ⟨after, ⟨due, -, booked⟩, rfl⟩ := charged
        have same := (charges_book (fun _ _ _ => chargeDifference_books) booked).1
        rw [(syncDebtorAccounts_net state levy.ledgerId).1] at same
        dsimp only
        rw [same]
        exact (setStatus_onward _ levyId LevyStatus.noConfusion).trans (fun _ _ _ => Fixed.trans)
          (setStatus_onward _ _ LevyStatus.noConfusion)
      · simp only [bind_ok, pure_ok] at charged
        obtain ⟨after, booked, rfl⟩ := charged
        dsimp only
        rw [(charges_book (fun _ _ _ => chargeInstalments_books) booked).1]
        exact setStatus_onward _ _ LevyStatus.noConfusion
  | amend levyId body =>
    simp only [levyStep, amendLevy, bind_ok, exists_unit, require_ok, pure_ok] at accepted
    obtain ⟨-, old, -, -, -, rfl⟩ := accepted
    exact Onward.append .refl _ _
  | addPayment payment =>
    simp only [levyStep, bind_ok, pure_ok] at accepted
    obtain ⟨payments, -, rfl⟩ := accepted
    exact Onward.refl .refl _
  | setOffice | setBooks =>
    rw [← pure_ok.mp accepted]
    exact Onward.refl .refl _

theorem chainMonths_onward (onward : Onward Fixed levies later) (steps : ℕ) :
    ∀ levyId, chainMonths levies steps levyId ⊆ chainMonths later steps levyId := by
  induction steps with
  | zero => exact fun _ => Finset.Subset.refl _
  | succ steps ih =>
    intro levyId
    unfold chainMonths
    cases found : levies[levyId]? with
    | none => exact Finset.empty_subset _
    | some levy =>
      obtain ⟨now, foundNow, fixed⟩ := onward levyId levy found
      rw [foundNow]
      dsimp only
      rw [fixed.supersedesId, fixed.firstDue, fixed.instalments, fixed.differenceDue]
      split
      · exact Finset.Subset.refl _
      · exact Finset.union_subset_union_right (ih _)

end Levies

/-- Open proposals of a levy are for its units, and none of these gets more than was received of it. -/
structure Backed (state : RefundState) : Prop where
  nonneg : ∀ unitId first, 0 ≤ state.paid unitId first
  known : ∀ refund ∈ state.refunds, ∃ levy, state.levy.levies[refund.levyId]? = some levy ∧ levy.status ≠ .draft ∧
    ∀ unitId ∈ refund.unitId, unitId ∈ levy.units.map LevyUnit.unitId
  units : ∀ levyId unitId, proposed state.refunds levyId (some unitId) ≤ received state levyId unitId

section Runs

variable {state next : RefundState} {levyId : LevyId} {body : LevyRefundIn}

theorem proposed_append (refunds : List LevyRefund) (added : LevyRefund) (levyId : LevyId) (unitId : Option UnitId) :
    proposed (refunds ++ [added]) levyId unitId = proposed refunds levyId unitId +
      if (added.levyId = levyId ∧ added.status = .proposed) ∧ added.unitId = unitId then added.amount else 0 := by
  rw [proposed, sumWhere_append, sumWhere_singleton, proposed]

theorem received_mono (nonneg : ∀ unitId first, 0 ≤ state.paid unitId first)
    (onward : Onward Fixed state.levy.levies next.levy.levies)
    (more : ∀ unitId first, state.paid unitId first ≤ next.paid unitId first) (levyId : LevyId) (unitId : UnitId) :
    received state levyId unitId ≤ received next levyId unitId := by
  unfold received
  calc ∑ first ∈ chainMonths state.levy.levies (levyId + 1) levyId, roundCents (state.paid unitId first)
      ≤ ∑ first ∈ chainMonths state.levy.levies (levyId + 1) levyId, roundCents (next.paid unitId first) :=
        Finset.sum_le_sum fun first _ => roundCents_mono (nonneg unitId first) (more unitId first)
    _ ≤ ∑ first ∈ chainMonths next.levy.levies (levyId + 1) levyId, roundCents (next.paid unitId first) :=
        Finset.sum_le_sum_of_subset_of_nonneg (chainMonths_onward onward _ levyId) fun first _ _ =>
          roundCents_nonneg ((nonneg unitId first).trans (more unitId first))

/-- What an accepted proposal met. -/
structure Proposed (state : RefundState) (levyId : LevyId) (body : LevyRefundIn) (levy : SpecialLevy)
    (next : RefundState) (added : LevyRefund) : Prop where
  found : state.levy.levies[levyId]? = some levy
  ready : levy.status ≠ .draft
  unit : ∀ unitId ∈ body.unitId, unitId ∈ levy.units.map LevyUnit.unitId ∧
    body.amount ≤ received state levyId unitId - proposed state.refunds levyId (some unitId)
  total : body.unitId = none → body.amount ≤
    (levy.units.map fun unit => received state levyId unit.unitId).sum - proposedTotal state.refunds levyId
  isNew : added.levyId = levyId ∧ added.status = .proposed ∧ added.unitId = body.unitId ∧ added.amount = body.amount
  isNext : next = { state with refunds := state.refunds ++ [added] }

theorem propose_ok (accepted : proposeLevyRefund state levyId body = .ok next) :
    ∃ levy added, Proposed state levyId body levy next added := by
  simp only [proposeLevyRefund, levyOf, bind_ok, orRefuse_ok, exists_unit, require_ok, pure_ok] at accepted
  obtain ⟨levy, found, -, applied, resolution, -, -, amount, isAvailable, enough, rfl⟩ := accepted
  refine ⟨levy, _, found, by rw [applied]; exact LevyStatus.noConfusion, ?_, ?_, ⟨rfl, rfl, rfl, rfl⟩, rfl⟩
  · intro unitId isUnit
    rw [Option.mem_def.mp isUnit] at isAvailable
    simp only [available, bind_ok, orRefuse_ok, pure_ok] at isAvailable
    obtain ⟨unit, foundUnit, rfl⟩ := isAvailable
    have isUnit := List.find?_some foundUnit
    obtain rfl : unit.unitId = unitId := of_decide_eq_true isUnit
    exact ⟨mem_map_of_mem (mem_of_find?_eq_some foundUnit), enough⟩
  · intro noUnit
    rw [noUnit] at isAvailable
    rw [pure_ok.mp isAvailable]
    exact enough

theorem Backed.propose (backed : Backed state) (accepted : proposeLevyRefund state levyId body = .ok next) :
    Backed next := by
  obtain ⟨levy, added, proposal⟩ := propose_ok accepted
  obtain ⟨isLevy, isOpen, isUnit, isAmount⟩ := proposal.isNew
  rw [proposal.isNext]
  refine ⟨backed.nonneg, fun refund member => ?_, fun otherId unitId => ?_⟩
  · rcases mem_append.mp member with old | new
    · exact backed.known refund old
    · obtain rfl := mem_singleton.mp new
      rw [isLevy, isUnit]
      exact ⟨levy, proposal.found, proposal.ready, fun unitId isUnit => (proposal.unit unitId isUnit).1⟩
  · change proposed (state.refunds ++ [added]) otherId (some unitId) ≤ received state otherId unitId
    have before := backed.units otherId unitId
    rw [proposed_append]
    split
    · rename_i isHere
      obtain rfl := isLevy.symm.trans isHere.1.1
      have enough := (proposal.unit unitId (isUnit.symm.trans isHere.2)).2
      rw [isAmount]
      linarith
    · linarith

theorem Backed.withdraw (backed : Backed state)
    (accepted : withdrawLevyRefund state levyId refundId reason = .ok next) : Backed next := by
  simp only [withdrawLevyRefund, bind_ok, orRefuse_ok, exists_unit, require_ok, pure_ok,
    Option.filter_eq_some_iff] at accepted
  obtain ⟨refund, ⟨found, -⟩, -, rfl⟩ := accepted
  refine ⟨backed.nonneg, fun other member => ?_, fun otherId unitId => ?_⟩
  · rcases mem_or_eq_of_mem_set member with old | rfl
    · exact backed.known other old
    · exact backed.known refund (mem_of_getElem? found)
  · refine le_trans ?_ (backed.units otherId unitId)
    unfold proposed
    dsimp only
    have withdrawn : ¬ ((refund.levyId = otherId ∧ RefundStatus.withdrawn = .proposed) ∧ refund.unitId = some unitId) :=
      fun isOpen => RefundStatus.noConfusion isOpen.1.2
    rw [sumWhere_set found, if_neg withdrawn]
    have := refund.positive
    split <;> linarith

theorem Backed.step (backed : Backed state) (accepted : refundStep state call = .ok next) :
    Backed next := by
  cases call with
  | propose levyId body => exact backed.propose accepted
  | withdraw levyId refundId reason => exact backed.withdraw accepted
  | setEnabled enabled =>
    rw [← pure_ok.mp accepted]
    exact ⟨backed.nonneg, backed.known, backed.units⟩
  | pay unitId first amount positive =>
    rw [← pure_ok.mp accepted]
    have more : ∀ other day, state.paid other day ≤ (state.pay unitId first amount).paid other day := by
      intro other day
      unfold RefundState.pay
      dsimp only
      split <;> linarith
    refine ⟨fun other day => (backed.nonneg other day).trans (more other day), backed.known, fun levyId other => ?_⟩
    apply (backed.units levyId other).trans
    exact @received_mono state (state.pay unitId first amount) backed.nonneg (Onward.refl .refl _) more levyId other
  | levy call =>
    simp only [refundStep, bind_ok, pure_ok] at accepted
    obtain ⟨levy, served, rfl⟩ := accepted
    have onward := levies_onward served
    refine ⟨backed.nonneg, fun refund member => ?_, fun levyId unitId => ?_⟩
    · obtain ⟨old, found, ready, isUnit⟩ := backed.known refund member
      obtain ⟨now, foundNow, fixed⟩ := onward _ old found
      refine ⟨now, foundNow, (fixed.snapshot ready).1, ?_⟩
      rw [SpecialLevy.units, (fixed.snapshot ready).2]
      exact isUnit
    · apply (backed.units levyId unitId).trans
      exact @received_mono state { state with levy } backed.nonneg onward (fun _ _ => le_rfl) levyId unitId

/-- Where all open proposals of a levy are for units of a list, they sum to at most the sums of the units. -/
theorem proposedTotal_le {refunds : List LevyRefund} {units : List UnitId}
    (known : ∀ refund ∈ refunds, refund.levyId = levyId → refund.status = .proposed →
      ∃ unitId ∈ units, refund.unitId = some unitId) :
    proposedTotal refunds levyId ≤ (units.map fun unitId => proposed refunds levyId (some unitId)).sum := by
  induction refunds with
  | nil => simp [proposedTotal, proposed]
  | cons refund rest ih =>
    have later := ih fun other member => known other (mem_cons_of_mem _ member)
    unfold proposedTotal proposed at later ⊢
    simp only [sumWhere_cons, sum_map_add]
    apply add_le_add _ later
    have parts (unitId : UnitId) : 0 ≤ if (refund.levyId = levyId ∧ refund.status = .proposed) ∧
        refund.unitId = some unitId then refund.amount else 0 := by
      have := refund.positive
      split <;> linarith
    split
    · rename_i isOpen
      obtain ⟨unitId, member, isUnit⟩ := known refund mem_cons_self isOpen.1 isOpen.2
      refine le_trans (le_of_eq ?_) (single_le_sum ?_ _ (mem_map_of_mem member))
      · rw [if_pos ⟨isOpen, isUnit⟩]
      · intro part isPart
        obtain ⟨other, -, rfl⟩ := mem_map.mp isPart
        exact parts other
    · apply sum_nonneg
      intro part isPart
      obtain ⟨other, -, rfl⟩ := mem_map.mp isPart
      exact parts other

theorem Backed.covered (backed : Backed state) (counted : Counted state (.propose levyId body))
    (accepted : proposeLevyRefund state levyId body = .ok next) : Covered next levyId := by
  have after := backed.propose accepted
  obtain ⟨levy, added, proposal⟩ := propose_ok accepted
  obtain ⟨isLevy, isOpen, isUnit, isAmount⟩ := proposal.isNew
  have isNext := proposal.isNext
  have own : ∀ refund ∈ next.refunds,
      OpenIn next levyId refund ↔ refund.levyId = levyId ∧ refund.status = .proposed := by
    intro refund member
    refine ⟨fun isOpen => ⟨?_, isOpen.2⟩, fun isOpen => ⟨?_, isOpen.2⟩⟩
    · rw [isNext] at member isOpen
      rcases mem_append.mp member with old | new
      · exact (counted refund old isOpen).1
      · rw [mem_singleton.mp new]
        exact isLevy
    · rw [isOpen.1]
      exact mem_cons_self
  constructor
  · intro current isCurrent
    rw [sumWhere_congr own fun _ _ _ => rfl]
    change proposedTotal next.refunds levyId ≤ _
    obtain rfl : levy = current := by
      rw [isNext] at isCurrent
      exact Option.mem_unique proposal.found isCurrent
    cases hasUnit : body.unitId with
    | none =>
      have enough := proposal.total hasUnit
      have grown : proposedTotal next.refunds levyId = proposedTotal state.refunds levyId + body.amount := by
        rw [isNext, proposedTotal, sumWhere_append, sumWhere_singleton, if_pos ⟨isLevy, isOpen⟩, isAmount]
        rfl
      rw [grown, isNext]
      exact le_sub_iff_add_le'.mp enough
    | some unitId =>
      have known : ∀ refund ∈ next.refunds, refund.levyId = levyId → refund.status = .proposed →
          ∃ unitId ∈ levy.units.map LevyUnit.unitId, refund.unitId = some unitId := by
        intro refund member isHere stillOpen
        have someUnit : refund.unitId.isSome := by
          rw [isNext] at member
          rcases mem_append.mp member with old | new
          · refine (counted refund old ⟨?_, stillOpen⟩).2 (by rw [hasUnit]; rfl)
            rw [isHere]
            exact mem_cons_self
          · rw [mem_singleton.mp new, isUnit, hasUnit]
            rfl
        obtain ⟨unitId, isSome⟩ := Option.isSome_iff_exists.mp someUnit
        obtain ⟨found, isFound, -, units⟩ := after.known refund member
        rw [isHere, isNext] at isFound
        obtain rfl := Option.mem_unique proposal.found isFound
        exact ⟨unitId, units unitId isSome, isSome⟩
      refine (proposedTotal_le known).trans ?_
      rw [map_map]
      exact sum_le_sum fun unit _ => after.units levyId unit.unitId
  · intro unitId
    refine le_trans (le_of_eq ?_) (after.units levyId unitId)
    exact sumWhere_congr (fun refund member => and_congr_left' (own refund member)) fun _ _ _ => rfl

end Runs

/-- Right after every accepted proposal of a run whose accepted proposals all find no open one that their check does not
count, the open proposals of the chain are covered. -/
theorem refunds_covered (start : RefundState) (fresh : start.refunds = [])
    (nonneg : ∀ unitId first, 0 ≤ start.paid unitId first) (calls : List RefundCall)
    (counted : ∀ moment ∈ trace refundStep start calls, Counted moment.before moment.call) :
    ∀ moment ∈ trace refundStep start calls, ∀ levyId body, moment.call = .propose levyId body →
      Covered moment.after levyId := by
  have backed : Backed start := by
    refine ⟨nonneg, ?_, fun levyId unitId => ?_⟩
    · rw [fresh]
      exact fun _ member => absurd member not_mem_nil
    · rw [fresh]
      exact Finset.sum_nonneg fun first _ => roundCents_nonneg (nonneg unitId first)
  intro moment member levyId body isCall
  obtain ⟨before, accepted⟩ := trace_guarded (fun _ _ _ backed _ accepted => Backed.step backed accepted) calls backed
    counted moment member
  have admitted := counted moment member
  rw [isCall] at accepted admitted
  exact before.covered admitted accepted

/-- A levy is applied, and a unit pays ten of its first instalment. -/
def samplePaid : List RefundCall :=
  (applied (threeUnits 1 1 1) [.create (sampleLevy 100 isMoney_hundred hundred_pos), .calculate 0] 0).map .levy ++
    [.setEnabled true, .pay 0 (.ofYmd 2026 3 1) 10 (by norm_num)]

def sampleRefundStart : RefundState where
  levy := sampleStart (threeUnits 1 1 1)

def tenTo (unitId : Option UnitId) : RefundCall :=
  .propose 0 { unitId, amount := 10, reason := "Rest", resolutionId := 0, positive := by norm_num }

/-- The answer to a proposal of ten to the unit, after other calls. -/
def tenToUnit (calls : List RefundCall) : Option RefundState :=
  answer? (refundStep (run refundStep sampleRefundStart calls) (tenTo (some 0)))

theorem ten_proposed : (tenToUnit samplePaid).isSome := by decide +kernel

theorem ten_covered : Covered ((tenToUnit samplePaid).get ten_proposed) 0 :=
  refunds_covered sampleRefundStart rfl (fun _ _ => le_rfl) (samplePaid ++ [tenTo (some 0)]) (by decide +kernel) _
    (accepted_mem_trace samplePaid (answer?_eq_some.mp (Option.some_get ten_proposed).symm)) 0 _ rfl

/-- Ten are proposed to all owners, and the same ten to the unit that paid them. -/
theorem proposed_twice : ¬ ∀ (start : RefundState) (calls : List RefundCall), start.refunds = [] →
    (∀ unitId first, 0 ≤ start.paid unitId first) → ∀ moment ∈ trace refundStep start calls, ∀ levyId body,
      moment.call = .propose levyId body → Covered moment.after levyId := by
  intro covered
  have twice : ∃ next ∈ tenToUnit (samplePaid ++ [tenTo none]), ∃ levy ∈ next.levy.levies[0]?,
      ¬ sumWhere (OpenIn next 0) LevyRefund.amount next.refunds ≤
        (levy.units.map fun unit => received next 0 unit.unitId).sum := by
    decide +kernel
  obtain ⟨next, isNext, levy, isLevy, above⟩ := twice
  have member := accepted_mem_trace (samplePaid ++ [tenTo none]) (answer?_eq_some.mp isNext)
  exact above ((covered _ _ rfl (fun _ _ => le_rfl) _ member 0 _ rfl).total levy isLevy)

end Mhvp.Hoa.Levies
