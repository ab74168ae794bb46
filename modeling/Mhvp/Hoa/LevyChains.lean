import Mhvp.Hoa.LevySums

namespace Mhvp.Hoa.Levies

open Core Accounting Billing Hoa Lib.Calendar Lib.Aggregate Lib.Transition List Option
open Lib.Table

variable {state next : LevyState} {levy : SpecialLevy} {levyId : LevyId} {unit : LevyUnit} {due : Date}

/-- Payments added for the unit by the levy, less the credits. -/
def net (state : LevyState) (levyId : LevyId) (unitId : UnitId) : Decimal :=
  sumWhere (fun payment => payment.levy = some (levyId, unitId)) ContractPayment.gross state.payments -
    sumWhere (fun credit => credit.levyId = levyId ∧ credit.unitId = unitId) LevyCredit.amount state.credits

/-- The unit is charged or credited what the levy books for it, and nothing else moves. -/
structure UnitBooked (levyId : LevyId) (unit : LevyUnit) (state next : LevyState) : Prop where
  levies : next.levies = state.levies
  net : ∀ otherId unitId, net next otherId unitId =
    net state otherId unitId + if otherId = levyId ∧ unit.unitId = unitId then unit.booked else 0

theorem insertPayments_ok {payments rows later : List ContractPayment}
    (accepted : rows.foldlM insertPayment payments = .ok later) : later = payments ++ rows := by
  induction rows generalizing payments with
  | nil =>
    rw [foldlM_nil, pure_ok] at accepted
    rw [← accepted, append_nil]
  | cons row rest ih =>
    simp only [foldlM_cons, bind_ok, insertPayment, exists_unit, require_ok, pure_ok] at accepted
    obtain ⟨inserted, ⟨-, -, rfl⟩, rest'⟩ := accepted
    rw [ih rest', append_assoc, singleton_append]

theorem chargeInstalments_books (accepted : chargeInstalments levyId levy state unit = .ok next) :
    UnitBooked levyId unit state next := by
  simp only [chargeInstalments, bind_ok, orRefuse_ok] at accepted
  obtain ⟨contractId, -, charged⟩ := accepted
  cases isCharge : unit.charge with
  | difference previous difference =>
    rw [isCharge] at charged
    cases charged
  | instalments rates =>
    rw [isCharge] at charged
    simp only [bind_ok, pure_ok] at charged
    obtain ⟨payments, inserted, rfl⟩ := charged
    refine ⟨rfl, fun otherId unitId => ?_⟩
    unfold net LevyUnit.booked
    rw [isCharge, insertPayments_ok inserted, sumWhere_append, sumWhere_map]
    dsimp only
    by_cases same : otherId = levyId ∧ unit.unitId = unitId
    · obtain ⟨rfl, rfl⟩ := same
      have all : sumWhere (fun rate : Date × Decimal =>
          (levyPayment otherId unit contractId rate.1 rate.2).levy = some (otherId, unit.unitId))
          (fun rate => (levyPayment otherId unit contractId rate.1 rate.2).gross) (rates.filter fun rate => 0 < rate.2) =
          ((rates.filter fun rate => 0 < rate.2).map Prod.snd).sum := by
        simp [sumWhere, levyPayment]
      rw [all, if_pos ⟨rfl, rfl⟩]
      ring
    · have nothing : sumWhere (fun rate : Date × Decimal =>
          (levyPayment levyId unit contractId rate.1 rate.2).levy = some (otherId, unitId))
          (fun rate => (levyPayment levyId unit contractId rate.1 rate.2).gross)
          (rates.filter fun rate => 0 < rate.2) = 0 := by
        apply sumWhere_eq_zero
        intro rate _ isLevy
        simp only [levyPayment, some.injEq, Prod.mk.injEq] at isLevy
        exact absurd ⟨isLevy.1.symm, isLevy.2⟩ same
      rw [nothing, if_neg same]
      ring

theorem chargeDifference_books (accepted : chargeDifference levyId levy due state unit = .ok next) :
    UnitBooked levyId unit state next := by
  unfold chargeDifference at accepted
  cases isCharge : unit.charge with
  | instalments rates =>
    rw [isCharge] at accepted
    cases accepted
  | difference previous difference =>
    rw [isCharge] at accepted
    have booked : unit.booked = difference := by
      unfold LevyUnit.booked
      rw [isCharge]
    dsimp only at accepted
    split at accepted
    · rename_i zero
      rw [pure_ok] at accepted
      subst accepted
      exact ⟨rfl, fun otherId unitId => by rw [booked, zero, ite_self, add_zero]⟩
    · simp only [bind_ok, orRefuse_ok] at accepted
      obtain ⟨contractId, -, charged⟩ := accepted
      split at charged
      · simp only [bind_ok, pure_ok, insertPayment, exists_unit, require_ok] at charged
        obtain ⟨payments, ⟨-, -, rfl⟩, rfl⟩ := charged
        refine ⟨rfl, fun otherId unitId => ?_⟩
        unfold net
        dsimp only
        rw [sumWhere_append, sumWhere_singleton, booked]
        simp only [levyPayment, some.injEq, Prod.mk.injEq, eq_comm (a := levyId)]
        ring
      · simp only [creditDraft, bind_ok, orRefuse_ok, pure_ok] at charged
        obtain ⟨mapping, -, reservation, -, debtor, -, draft, -, rfl⟩ := charged
        refine ⟨rfl, fun otherId unitId => ?_⟩
        unfold net
        dsimp only
        rw [sumWhere_append, sumWhere_singleton, booked]
        simp only [eq_comm (a := levyId)]
        split <;> ring

theorem charges_book {charge : LevyState → LevyUnit → Result LevyState} {units : List LevyUnit}
    (books : ∀ state unit next, charge state unit = .ok next → UnitBooked levyId unit state next)
    (accepted : units.foldlM charge state = .ok next) :
    next.levies = state.levies ∧ ∀ otherId unitId, net next otherId unitId =
      net state otherId unitId + if otherId = levyId then bookedOf units unitId else 0 := by
  induction units generalizing state with
  | nil =>
    rw [foldlM_nil, pure_ok] at accepted
    subst accepted
    exact ⟨rfl, fun otherId unitId => by simp [bookedOf]⟩
  | cons unit rest ih =>
    simp only [foldlM_cons, bind_ok] at accepted
    obtain ⟨charged, isCharged, later⟩ := accepted
    have one := books state unit charged isCharged
    obtain ⟨levies, nets⟩ := ih later
    refine ⟨levies.trans one.levies, fun otherId unitId => ?_⟩
    rw [nets, one.net]
    unfold bookedOf
    rw [sumWhere_cons]
    by_cases same : otherId = levyId
    · simp only [same, true_and, if_true]
      ring
    · simp [same]

/-- Applied, and perhaps superseded since. -/
def Settled (levy : SpecialLevy) : Prop := levy.status = .applied ∨ levy.status = .superseded

/-- A levy supersedes an earlier one that was applied, and from its calculation on it has a snapshot. -/
structure LevySound (levies : List SpecialLevy) (levyId : LevyId) (levy : SpecialLevy) : Prop where
  supersedes : ∀ previousId, levy.supersedesId = some previousId →
    previousId < levyId ∧ ∃ previous, levies[previousId]? = some previous ∧ Settled previous
  calculated : ∀ snapshot, levy.snapshot = some snapshot → Calculated levies levy snapshot
  ready : levy.status ≠ .draft → levy.snapshot.isSome

/-- Every unit was charged, by each settled levy, the difference to the levy before. -/
structure LevyInv (state : LevyState) : Prop where
  sound : ∀ (levyId : LevyId) levy, state.levies[levyId]? = some levy → LevySound state.levies levyId levy
  nets : ∀ (levyId : LevyId) levy, state.levies[levyId]? = some levy → Settled levy → ∀ unitId,
    net state levyId unitId = amountOf levy.units unitId - previousAmount state.levies levy unitId
  unbooked : ∀ levyId : LevyId, (∀ levy, state.levies[levyId]? = some levy → ¬ Settled levy) → ∀ unitId,
    net state levyId unitId = 0

/-- A settled levy stays settled and keeps its snapshot. -/
def Kept (old new : SpecialLevy) : Prop := Settled old → Settled new ∧ new.snapshot = old.snapshot

theorem Kept.refl (levy : SpecialLevy) : Kept levy levy := fun settled => ⟨settled, rfl⟩

variable {levies later : List SpecialLevy}

theorem previousAmount_onward (sound : LevySound levies levyId levy) (onward : Onward Kept levies later)
    (unitId : UnitId) : previousAmount later levy unitId = previousAmount levies levy unitId := by
  unfold previousAmount
  split
  · rfl
  · rename_i previousId isPrevious
    obtain ⟨-, previous, found, settled⟩ := sound.supersedes previousId isPrevious
    obtain ⟨now, foundNow, kept⟩ := onward previousId previous found
    rw [found, foundNow]
    simp only [map_some, getD_some, SpecialLevy.units, (kept settled).2]

theorem LevySound.onward (sound : LevySound levies levyId levy) (onward : Onward Kept levies later) :
    LevySound later levyId levy where
  supersedes := by
    intro previousId isPrevious
    obtain ⟨earlier, previous, found, settled⟩ := sound.supersedes previousId isPrevious
    obtain ⟨now, foundNow, kept⟩ := onward previousId previous found
    exact ⟨earlier, now, foundNow, (kept settled).1⟩
  calculated := by
    intro snapshot isSnapshot
    have calculated := sound.calculated snapshot isSnapshot
    refine ⟨calculated.unique, calculated.total, calculated.spread, fun unitId => ?_⟩
    rw [previousAmount_onward sound onward]
    exact calculated.booked unitId
  ready := sound.ready

theorem LevyInv.append (inv : LevyInv state) (draft : added.status = .draft)
    (empty : added.snapshot = none) (supersedes : ∀ previousId, added.supersedesId = some previousId →
      ∃ previous, state.levies[previousId]? = some previous ∧ Settled previous) :
    LevyInv { state with levies := state.levies ++ [added] } := by
  have onward : Onward Kept state.levies (state.levies ++ [added]) := Onward.append Kept.refl _ _
  have notSettled : ¬ Settled added := by
    rintro (applied | superseded)
    · rw [draft] at applied
      cases applied
    · rw [draft] at superseded
      cases superseded
  refine ⟨fun levyId levy found => ?_, fun levyId levy found settled unitId => ?_, fun levyId none unitId => ?_⟩
  · rcases found_append_one.mp found with old | ⟨rfl, rfl⟩
    · exact (inv.sound levyId levy old).onward onward
    · refine ⟨fun previousId isPrevious => ?_, fun snapshot isSnapshot => ?_, fun ready => absurd draft ready⟩
      · obtain ⟨previous, foundPrevious, settled⟩ := supersedes previousId isPrevious
        exact ⟨found_lt foundPrevious, previous, found_append foundPrevious, settled⟩
      · rw [empty] at isSnapshot
        cases isSnapshot
  · rcases found_append_one.mp found with old | ⟨-, rfl⟩
    · rw [previousAmount_onward (inv.sound levyId levy old) onward]
      exact inv.nets levyId levy old settled unitId
    · exact absurd settled notSettled
  · exact inv.unbooked levyId (fun levy found => none levy (found_append found)) unitId

theorem LevyInv.set (inv : LevyInv state) (found : state.levies[levyId]? = some old)
    (open' : ¬ Settled old) (stillOpen : ¬ Settled new) (sound : LevySound state.levies levyId new) :
    LevyInv { state with levies := state.levies.set levyId new } := by
  have onward : Onward Kept state.levies (state.levies.set levyId new) :=
    Onward.set Kept.refl found fun settled => absurd settled open'
  refine ⟨fun otherId levy foundLater => ?_, fun otherId levy foundLater settled unitId => ?_,
    fun otherId none unitId => ?_⟩
  · rcases (found_set found).mp foundLater with ⟨rfl, rfl⟩ | ⟨-, unchanged⟩
    · exact sound.onward onward
    · exact (inv.sound otherId levy unchanged).onward onward
  · rcases (found_set found).mp foundLater with ⟨rfl, rfl⟩ | ⟨-, unchanged⟩
    · exact absurd settled stillOpen
    · rw [previousAmount_onward (inv.sound otherId levy unchanged) onward]
      exact inv.nets otherId levy unchanged settled unitId
  · apply inv.unbooked otherId
    intro levy foundBefore
    by_cases same : otherId = levyId
    · subst same
      obtain rfl : old = levy := mem_unique found foundBefore
      exact open'
    · exact none levy ((found_set found).mpr (Or.inr ⟨same, foundBefore⟩))

theorem setStatus_found (levies : List SpecialLevy) (levyId otherId : LevyId) (status : LevyStatus) :
    (setStatus levies levyId status)[otherId]? = (levies[otherId]?).map fun levy =>
      { levy with status := if otherId = levyId then status else levy.status } := by
  unfold setStatus
  rw [List.getElem?_modify]
  by_cases same : levyId = otherId
  · simp [same]
  · simp [same, Ne.symm same]

theorem Settled.not_draft (settled : Settled levy) : levy.status ≠ .draft := by
  rcases settled with applied | superseded
  · rw [applied]
    exact LevyStatus.noConfusion
  · rw [superseded]
    exact LevyStatus.noConfusion

/-- A levy is applied: its units are charged what it books, and only the status of levies changes. -/
theorem LevyInv.applied (inv : LevyInv state) (found : state.levies[levyId]? = some levy)
    (open' : ¬ Settled levy) (ready : levy.status ≠ .draft) {status : LevyId → SpecialLevy → LevyStatus}
    (levies : ∀ otherId : LevyId, next.levies[otherId]? =
      (state.levies[otherId]?).map fun other => { other with status := status otherId other })
    (settles : ∀ (otherId : LevyId) other, state.levies[otherId]? = some other →
      (Settled { other with status := status otherId other } ↔ otherId = levyId ∨ Settled other))
    (drafts : ∀ (otherId : LevyId) other, state.levies[otherId]? = some other → status otherId other ≠ .draft →
      other.status ≠ .draft ∨ otherId = levyId)
    (nets : ∀ otherId unitId, net next otherId unitId =
      net state otherId unitId + if otherId = levyId then bookedOf levy.units unitId else 0) : LevyInv next := by
  have onward : Onward Kept state.levies next.levies := by
    intro otherId other foundOther
    refine ⟨{ other with status := status otherId other }, by rw [levies, foundOther]; rfl, fun settled => ?_⟩
    exact ⟨(settles otherId other foundOther).mpr (Or.inr settled), rfl⟩
  have before : ∀ (otherId : LevyId) later, next.levies[otherId]? = some later →
      ∃ other, state.levies[otherId]? = some other ∧ later = { other with status := status otherId other } := by
    intro otherId later foundLater
    rw [levies, map_eq_some_iff] at foundLater
    obtain ⟨other, foundOther, rfl⟩ := foundLater
    exact ⟨other, foundOther, rfl⟩
  refine ⟨fun otherId later foundLater => ?_, fun otherId later foundLater settled unitId => ?_,
    fun otherId none unitId => ?_⟩
  · obtain ⟨other, foundOther, rfl⟩ := before otherId later foundLater
    have sound := (inv.sound otherId other foundOther).onward onward
    refine ⟨sound.supersedes, fun snapshot isSnapshot => ?_, fun notDraft => ?_⟩
    · have calculated := sound.calculated snapshot isSnapshot
      exact ⟨calculated.unique, calculated.total, calculated.spread, calculated.booked⟩
    · rcases drafts otherId other foundOther notDraft with was | rfl
      · exact sound.ready was
      · obtain rfl : levy = other := mem_unique found foundOther
        exact sound.ready ready
  · obtain ⟨other, foundOther, rfl⟩ := before otherId later foundLater
    have same : previousAmount next.levies { other with status := status otherId other } unitId =
        previousAmount state.levies other unitId :=
      previousAmount_onward (inv.sound otherId other foundOther) onward unitId
    rw [nets, same]
    by_cases isLevy : otherId = levyId
    · subst isLevy
      obtain rfl : levy = other := mem_unique found foundOther
      have noneBefore := inv.unbooked otherId (fun earlier foundEarlier => by
        obtain rfl : levy = earlier := mem_unique found foundEarlier
        exact open') unitId
      obtain ⟨snapshot, isSnapshot⟩ := isSome_iff_exists.mp ((inv.sound otherId levy found).ready ready)
      have booked := ((inv.sound otherId levy found).calculated snapshot isSnapshot).booked unitId
      have units : levy.units = snapshot.units := by
        unfold SpecialLevy.units
        rw [isSnapshot]
        rfl
      rw [noneBefore, if_pos rfl, zero_add, units, booked]
      rw [← units]
      rfl
    · rw [if_neg isLevy, add_zero]
      have was := ((settles otherId other foundOther).mp settled).resolve_left isLevy
      exact inv.nets otherId other foundOther was unitId
  · have different : otherId ≠ levyId := by
      rintro rfl
      exact none _ (by rw [levies, found]; rfl) ((settles otherId levy found).mpr (Or.inl rfl))
    rw [nets, if_neg different, add_zero]
    apply inv.unbooked otherId
    intro other foundOther settled
    exact none _ (by rw [levies, foundOther]; rfl) ((settles otherId other foundOther).mpr (Or.inr settled))

/-- Calculations read a key without negative values. -/
def NonnegWeights (state : LevyState) (call : LevyCall) : Prop :=
  match call with
  | .calculate levyId => ∀ levy ∈ state.levies[levyId]?, NonnegKey state.office.register levy.allocationKeyId
  | _ => True

instance : Decidable (NonnegWeights state call) := by
  unfold NonnegWeights NonnegKey
  cases call <;> infer_instance

theorem syncDebtorAccounts_net (state : LevyState) (ledgerId : LedgerId) :
    (syncDebtorAccounts state ledgerId).levies = state.levies ∧
      ∀ levyId unitId, net (syncDebtorAccounts state ledgerId) levyId unitId = net state levyId unitId := by
  unfold syncDebtorAccounts
  cases state.books.ledgers[ledgerId]? <;> exact ⟨rfl, fun _ _ => rfl⟩

section

variable (inv : LevyInv state)
include inv

theorem LevyInv.calculate (nonneg : NonnegWeights state (.calculate levyId))
    (accepted : calculateLevy state levyId = .ok next) : LevyInv next := by
  simp only [calculateLevy, levyOf, bind_ok, orRefuse_ok, exists_unit, require_ok, pure_ok] at accepted
  obtain ⟨levy, found, isDraft, snapshot, isSnapshot, rfl⟩ := accepted
  have sound := inv.sound levyId levy found
  have uniqueBefore : ∀ previousId previous, levy.supersedesId = some previousId →
      state.levies[previousId]? = some previous → (previous.units.map LevyUnit.unitId).Nodup := by
    intro previousId previous _ foundPrevious
    cases isBefore : previous.snapshot with
    | none => simp [SpecialLevy.units, isBefore]
    | some earlier =>
      have unique := ((inv.sound previousId previous foundPrevious).calculated earlier isBefore).unique
      simpa [SpecialLevy.units, isBefore] using unique
  have calculated := snapshotOf_calculated (nonneg levy found) uniqueBefore isSnapshot
  apply inv.set found
  · rintro (applied | superseded)
    · rw [isDraft] at applied
      cases applied
    · rw [isDraft] at superseded
      cases superseded
  · rintro (applied | superseded)
    · cases applied
    · cases superseded
  · refine ⟨sound.supersedes, fun other isOther => ?_, fun _ => rfl⟩
    cases isOther
    exact ⟨calculated.unique, calculated.total, calculated.spread, calculated.booked⟩

theorem LevyInv.resolve (accepted : resolveLevy state levyId resolutionId = .ok next) :
    LevyInv next := by
  simp only [resolveLevy, levyOf, bind_ok, orRefuse_ok, exists_unit, require_ok, pure_ok] at accepted
  obtain ⟨levy, found, isCalculated, resolution, -, -, -, rfl⟩ := accepted
  have sound := inv.sound levyId levy found
  apply inv.set found
  · rintro (applied | superseded)
    · rw [isCalculated] at applied
      cases applied
    · rw [isCalculated] at superseded
      cases superseded
  · rintro (applied | superseded)
    · cases applied
    · cases superseded
  · refine ⟨sound.supersedes, fun snapshot isSnapshot => ?_, fun _ => ?_⟩
    · have calculated := sound.calculated snapshot isSnapshot
      exact ⟨calculated.unique, calculated.total, calculated.spread, calculated.booked⟩
    · exact sound.ready (by rw [isCalculated]; exact LevyStatus.noConfusion)

theorem LevyInv.apply (accepted : applyLevy state levyId = .ok next) : LevyInv next := by
  simp only [applyLevy, levyOf, bind_ok, orRefuse_ok] at accepted
  obtain ⟨levy, found, accepted⟩ := accepted
  split at accepted
  · rw [pure_ok] at accepted
    rw [← accepted]
    exact inv
  · simp only [bind_ok, exists_unit, require_ok] at accepted
    obtain ⟨isResolved, -, charged⟩ := accepted
    have open' : ¬ Settled levy := by
      rintro (applied | superseded)
      · rw [isResolved] at applied
        cases applied
      · rw [isResolved] at superseded
        cases superseded
    have ready : levy.status ≠ .draft := by
      rw [isResolved]
      exact LevyStatus.noConfusion
    split at charged
    · rename_i previousId isPrevious
      simp only [bind_ok, pure_ok, applyAmendment, orRefuse_ok] at charged
      obtain ⟨after, ⟨due, -, booked⟩, rfl⟩ := charged
      obtain ⟨sameLevies, nets⟩ := charges_book (fun _ _ _ => chargeDifference_books) booked
      obtain ⟨syncedLevies, syncedNets⟩ := syncDebtorAccounts_net state levy.ledgerId
      obtain ⟨earlier, previous, foundPrevious, settled⟩ := (inv.sound levyId levy found).supersedes previousId isPrevious
      let status (otherId : LevyId) (other : SpecialLevy) : LevyStatus :=
        if otherId = previousId then .superseded else if otherId = levyId then .applied else other.status
      have levies : ∀ otherId : LevyId,
          (setStatus (setStatus after.levies levyId .applied) previousId .superseded)[otherId]? =
            (state.levies[otherId]?).map fun other => { other with status := status otherId other } := by
        intro otherId
        rw [setStatus_found, setStatus_found, sameLevies, syncedLevies, Option.map_map]
        rfl
      refine inv.applied found open' ready levies ?_ ?_ fun otherId unitId => (nets otherId unitId).trans ?_
      · intro otherId other foundOther
        by_cases isLast : otherId = previousId
        · subst isLast
          obtain rfl : previous = other := mem_unique foundPrevious foundOther
          exact ⟨fun _ => Or.inr settled, fun _ => Or.inr (by simp [status])⟩
        · by_cases isLevy : otherId = levyId
          · exact ⟨fun _ => Or.inl isLevy, fun _ => Or.inl (by simp only [status, if_neg isLast, if_pos isLevy])⟩
          · simp [Settled, status, isLast, isLevy]
      · intro otherId other foundOther notDraft
        by_cases isLast : otherId = previousId
        · subst isLast
          obtain rfl : previous = other := mem_unique foundPrevious foundOther
          exact Or.inl settled.not_draft
        · by_cases isLevy : otherId = levyId
          · exact Or.inr isLevy
          · exact Or.inl (by simpa [status, isLast, isLevy] using notDraft)
      · rw [syncedNets]
    · simp only [bind_ok, pure_ok] at charged
      obtain ⟨after, booked, rfl⟩ := charged
      obtain ⟨sameLevies, nets⟩ := charges_book (fun _ _ _ => chargeInstalments_books) booked
      have levies : ∀ otherId : LevyId, (setStatus after.levies levyId .applied)[otherId]? =
          (state.levies[otherId]?).map fun other =>
            { other with status := if otherId = levyId then .applied else other.status } := by
        intro otherId
        rw [setStatus_found, sameLevies]
      refine inv.applied found open' ready levies ?_ ?_ nets
      · intro otherId other _
        by_cases isLevy : otherId = levyId
        · exact ⟨fun _ => Or.inl isLevy, fun _ => Or.inl (by simp [isLevy])⟩
        · simp [Settled, isLevy]
      · intro otherId other _ notDraft
        by_cases isLevy : otherId = levyId
        · exact Or.inr isLevy
        · exact Or.inl (by simpa [isLevy] using notDraft)

theorem LevyInv.step (nonneg : NonnegWeights state call)
    (accepted : levyStep state call = .ok next) : LevyInv next := by
  cases call with
  | create body =>
    simp only [levyStep, createLevy, bind_ok, exists_unit, require_ok, pure_ok] at accepted
    obtain ⟨-, ledger, -, terms, -, rfl⟩ := accepted
    exact inv.append rfl rfl fun _ isPrevious => by cases isPrevious
  | calculate levyId => exact inv.calculate nonneg accepted
  | resolve levyId resolutionId => exact inv.resolve accepted
  | apply levyId => exact inv.apply accepted
  | amend levyId body =>
    simp only [levyStep, amendLevy, levyOf, bind_ok, orRefuse_ok, exists_unit, require_ok, pure_ok] at accepted
    obtain ⟨-, old, found, applied, -, rfl⟩ := accepted
    apply inv.append rfl rfl
    intro previousId isPrevious
    obtain rfl : levyId = previousId := some.inj isPrevious
    exact ⟨old, found, Or.inl applied⟩
  | addPayment payment =>
    simp only [levyStep, insertPayment, bind_ok, exists_unit, require_ok, pure_ok] at accepted
    obtain ⟨payments, ⟨-, -, rfl⟩, rfl⟩ := accepted
    have same (levyId : LevyId) (unitId : UnitId) :
        net { state with payments := state.payments ++ [{ payment with levy := none }] } levyId unitId =
          net state levyId unitId := by
      unfold net
      rw [sumWhere_append, sumWhere_singleton, if_neg (by simp), add_zero]
    refine ⟨inv.sound, fun levyId levy found settled unitId => ?_, fun levyId none unitId => ?_⟩
    · rw [same]
      exact inv.nets levyId levy found settled unitId
    · rw [same]
      exact inv.unbooked levyId none unitId
  | setOffice | setBooks =>
    simp only [levyStep, pure_ok] at accepted
    rw [← accepted]
    exact ⟨inv.sound, inv.nets, inv.unbooked⟩

end

/-- A community before its first levy. -/
structure LevyState.Fresh (state : LevyState) : Prop where
  levies : state.levies = []
  payments : state.payments = []
  credits : state.credits = []

theorem LevyInv.start (fresh : state.Fresh) : LevyInv state := by
  have noLevy : ∀ levyId : LevyId, state.levies[levyId]? = none := by
    intro levyId
    rw [fresh.levies]
    rfl
  refine ⟨fun levyId levy found => ?_, fun levyId levy found => ?_, fun levyId _ unitId => ?_⟩
  · rw [noLevy] at found
    cases found
  · rw [noLevy] at found
    cases found
  · unfold net
    rw [fresh.payments, fresh.credits, sumWhere_nil, sumWhere_nil, sub_zero]

theorem run_inv (fresh : state.Fresh) (calls : List LevyCall) (guarded : Guarded levyStep NonnegWeights state calls) :
    LevyInv (run levyStep state calls) :=
  Guarded.invariant (fun _ _ _ inv nonneg accepted => LevyInv.step inv nonneg accepted) calls guarded (.start fresh)

/-- A levy and all that it supersedes, the last one first; each supersedes an earlier one. -/
def chainUpTo (levies : List SpecialLevy) : ℕ → LevyId → List LevyId
  | 0, _ => []
  | steps + 1, levyId =>
    levyId :: match (levies[levyId]?).bind SpecialLevy.supersedesId with
      | some previousId => chainUpTo levies steps previousId
      | none => []

def chain (levies : List SpecialLevy) (levyId : LevyId) : List LevyId := chainUpTo levies (levyId + 1) levyId

theorem LevyInv.chain_net (inv : LevyInv state) (unitId : UnitId) (steps : ℕ) :
    ∀ (levyId : LevyId) (levy : SpecialLevy), levyId < steps → state.levies[levyId]? = some levy → Settled levy →
      ((chainUpTo state.levies steps levyId).map fun link => net state link unitId).sum = amountOf levy.units unitId := by
  induction steps with
  | zero => exact fun levyId levy below => absurd below (Nat.not_lt_zero _)
  | succ steps ih =>
    intro levyId levy below found settled
    have own := inv.nets levyId levy found settled unitId
    rw [chainUpTo, map_cons, sum_cons, own, found, bind_some]
    unfold previousAmount
    cases isPrevious : levy.supersedesId with
    | none => simp
    | some previousId =>
      obtain ⟨earlier, previous, foundPrevious, previousSettled⟩ :=
        (inv.sound levyId levy found).supersedes previousId isPrevious
      dsimp only
      rw [ih previousId previous (earlier.trans_le (Nat.le_of_lt_succ below)) foundPrevious previousSettled, foundPrevious]
      simp

/-- In every run whose calculations read no negative value of a unit, the amounts of a calculated levy add up to it, the
instalments of a unit add up to its amount and are not negative, and once the levy is applied, every unit has been
charged over the whole chain, less its credits, its amount in that levy. -/
theorem levy_chain_sums (start : LevyState) (fresh : start.Fresh) (calls : List LevyCall)
    (guarded : Guarded levyStep NonnegWeights start calls) (levyId : LevyId) (levy : SpecialLevy)
    (found : (run levyStep start calls).levies[levyId]? = some levy) :
    (∀ snapshot, levy.snapshot = some snapshot → (snapshot.units.map LevyUnit.amount).sum = levy.total) ∧
    (∀ unit ∈ levy.units, ∀ rates, unit.charge = .instalments rates →
      (rates.map Prod.snd).sum = unit.amount ∧ ∀ rate ∈ rates, 0 ≤ rate.2) ∧
    (Settled levy → ∀ unitId,
      ((chain (run levyStep start calls).levies levyId).map fun link => net (run levyStep start calls) link unitId).sum =
        amountOf levy.units unitId) := by
  have inv := run_inv fresh calls guarded
  have sound := inv.sound levyId levy found
  refine ⟨fun snapshot isSnapshot => (sound.calculated snapshot isSnapshot).total, ?_, fun settled unitId => ?_⟩
  · intro unit member rates isCharge
    unfold SpecialLevy.units at member
    cases isSnapshot : levy.snapshot with
    | none =>
      rw [isSnapshot] at member
      cases member
    | some snapshot =>
      rw [isSnapshot] at member
      have spread := ((sound.calculated snapshot isSnapshot).spread unit member).2
      unfold LevyUnit.Spread at spread
      rw [isCharge] at spread
      exact spread
  · exact inv.chain_net unitId (levyId + 1) levyId levy (Nat.lt_succ_self _) found settled

def sampleOffice (register : PropertyRegister) (resolutions : List Resolution) : Office where
  register
  associations := [1]
  contracts := [⟨some 0, true, .ofYmd 2020 1 1, none, none, some 0⟩, ⟨some 1, true, .ofYmd 2020 1 1, none, none, some 1⟩,
    ⟨some 2, true, .ofYmd 2020 1 1, none, none, some 2⟩]
  reservations := [⟨1, "010001", "Eins", "1"⟩, ⟨1, "010002", "Zwei", "2"⟩, ⟨1, "010003", "Drei", "3"⟩]
  typeAccounts := [⟨0, code, 0⟩]
  resolutions

def sampleStart (register : PropertyRegister) : LevyState where
  office := sampleOffice register []
  books := { ledgers := [{ legalEntityId := 1, propertyId := some 0 }], properties := [0],
             accounts := [{ ledgerId := 0, number := "080000", category := .revenue }] }

theorem sampleStart_fresh (register : PropertyRegister) : (sampleStart register).Fresh := ⟨rfl, rfl, rfl⟩

def sampleLevy (total : Decimal) (isMoney : IsMoney total) (positive : 0 < total) : LevyIn :=
  { ledgerId := 0, purpose := "Aufzug", total, allocationKeyId := 0, firstDue := .ofYmd 2026 3 1, instalments := 3,
    isMoney, positive }

/-- The owners resolve on the snapshot of the levy, and it is applied. -/
def applied (register : PropertyRegister) (calls : List LevyCall) (levyId : LevyId) : List LevyCall :=
  let snapshot := ((run levyStep (sampleStart register) calls).levies[levyId]?).bind SpecialLevy.snapshot
  calls ++ [.setOffice (sampleOffice register [⟨1, "positive", .ofYmd 2026 2 10, snapshot⟩]), .resolve levyId 0,
    .apply levyId]

theorem isMoney_ninety : IsMoney 90 := ⟨by decide +kernel, by norm_num⟩

def sampleAmendment : LevyAmendIn :=
  { total := 90, differenceDue := .ofYmd 2026 7 1, reason := "Angebot", isMoney := isMoney_ninety,
    positive := by norm_num }

theorem hundred_pos : (0 : Decimal) < 100 := by norm_num

def sampleCalls : List LevyCall :=
  let register := threeUnits 1 1 1
  let first := applied register [.create (sampleLevy 100 isMoney_hundred hundred_pos), .calculate 0] 0
  applied register (first ++ [.amend 0 sampleAmendment, .calculate 1]) 1

theorem sample_amended : ((run levyStep (sampleStart (threeUnits 1 1 1)) sampleCalls).levies[1]?).isSome := by
  decide +kernel

/-- The first unit paid 33.34 in instalments and is credited 3.34. -/
theorem sample_levy_chain_sums :
    ((chain (run levyStep (sampleStart (threeUnits 1 1 1)) sampleCalls).levies 1).map fun link =>
        net (run levyStep (sampleStart (threeUnits 1 1 1)) sampleCalls) link 0).sum =
      amountOf (((run levyStep (sampleStart (threeUnits 1 1 1)) sampleCalls).levies[1]?).get sample_amended).units 0 :=
  (levy_chain_sums _ (sampleStart_fresh _) sampleCalls (by decide +kernel) 1 _ (some_get sample_amended).symm).2.2
    (Or.inl (by decide +kernel)) 0

def centLevy : List LevyCall := [.create (sampleLevy (1 / 100) isMoney_cent (by norm_num)), .calculate 0]

theorem cent_levy_calculated :
    ((run levyStep (sampleStart (threeUnits 4 (-1) (-1))) centLevy).levies[0]?.bind SpecialLevy.snapshot).isSome := by
  decide +kernel

/-- One cent over the weights 4, -1 and -1: the amounts of the units add up to four cents. -/
theorem negative_weights_levy_not_exact :
    ¬ ∀ (start : LevyState) (calls : List LevyCall) (levyId : LevyId) (levy : SpecialLevy), start.Fresh →
      (run levyStep start calls).levies[levyId]? = some levy →
      (∀ snapshot, levy.snapshot = some snapshot → (snapshot.units.map LevyUnit.amount).sum = levy.total) ∧
      (∀ unit ∈ levy.units, ∀ rates, unit.charge = .instalments rates →
        (rates.map Prod.snd).sum = unit.amount ∧ ∀ rate ∈ rates, 0 ≤ rate.2) ∧
      (Settled levy → ∀ unitId,
        ((chain (run levyStep start calls).levies levyId).map fun link => net (run levyStep start calls) link unitId).sum =
          amountOf levy.units unitId) := by
  intro claimed
  obtain ⟨levy, found, isSnapshot⟩ := bind_eq_some_iff.mp (some_get cent_levy_calculated).symm
  have same := (claimed _ centLevy 0 levy (sampleStart_fresh _) found).1 _ isSnapshot
  have total : levy.total = 1 / 100 := by
    have known : ((run levyStep (sampleStart (threeUnits 4 (-1) (-1))) centLevy).levies[0]?).map SpecialLevy.total =
        some (1 / 100) := by
      decide +kernel
    rw [found] at known
    exact some.inj known
  rw [total] at same
  revert same
  decide +kernel

end Mhvp.Hoa.Levies
