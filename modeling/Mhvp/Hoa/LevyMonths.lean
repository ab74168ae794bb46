import Mhvp.Hoa.LevyChains

namespace Mhvp.Hoa.Levies

open Core Accounting Hoa Lib.Calendar Lib.Transition Lib.Table
open List hiding after

variable {state next : LevyState} {levy : SpecialLevy} {levyId : LevyId} {unit : LevyUnit} {due : Date}
  {payments rows later : List ContractPayment} {levies : List SpecialLevy}

def Covers (payment : ContractPayment) (day : Date) : Prop :=
  payment.validFrom ≤ day ∧ ∀ last ∈ payment.validTo, day ≤ last

instance : Decidable (Covers payment day) := inferInstanceAs (Decidable (_ ∧ _))

/-- Special levy of a contract that is due on a day. -/
def DueOn (contractId : ContractId) (day : Date) (payment : ContractPayment) : Prop :=
  payment.contractId = contractId ∧ payment.paymentTypeCode = code ∧ Covers payment day

instance : DecidablePred (DueOn contractId day) := fun _ => inferInstanceAs (Decidable (_ ∧ _ ∧ _))

/-- A payment of a levy is due from its day to the end of the month. -/
def ForMonth (payment : ContractPayment) : Prop :=
  payment.levy.isSome → payment.paymentTypeCode = code ∧ payment.validTo = some (monthEnd payment.validFrom)

/-- No two payments of one contract and type share a day, and a payment of a levy is for one month. -/
structure PaymentsInv (payments : List ContractPayment) : Prop where
  disjoint : payments.Pairwise fun first second => ¬ Clashes first second
  months : ∀ payment ∈ payments, ForMonth payment

theorem PaymentsInv.insert (inv : PaymentsInv payments) (forMonth : ForMonth payment)
    (inserted : insertPayment payments payment = .ok later) : PaymentsInv later := by
  simp only [insertPayment, bind_ok, exists_unit, require_ok, pure_ok] at inserted
  obtain ⟨-, free, rfl⟩ := inserted
  constructor
  · rw [pairwise_append]
    refine ⟨inv.disjoint, pairwise_singleton .., fun held member other isOther => ?_⟩
    rw [mem_singleton.mp isOther]
    exact free held member
  · intro other member
    rcases mem_append.mp member with held | added
    · exact inv.months other held
    · rw [mem_singleton.mp added]
      exact forMonth

theorem PaymentsInv.insertAll (inv : PaymentsInv payments) (forMonths : ∀ row ∈ rows, ForMonth row)
    (inserted : rows.foldlM insertPayment payments = .ok later) : PaymentsInv later := by
  induction rows generalizing payments with
  | nil =>
    rw [foldlM_nil, pure_ok] at inserted
    rw [← inserted]
    exact inv
  | cons row rest ih =>
    simp only [foldlM_cons, bind_ok] at inserted
    obtain ⟨middle, one, others⟩ := inserted
    exact ih (inv.insert (forMonths row mem_cons_self) one)
      (fun other member => forMonths other (mem_cons_of_mem _ member)) others

theorem levyPayment_forMonth (levyId : LevyId) (unit : LevyUnit) (contractId : ContractId) (first : Date)
    (amount : Decimal) : ForMonth (levyPayment levyId unit contractId first amount) :=
  fun _ => ⟨rfl, rfl⟩

theorem chargeInstalments_payments (inv : PaymentsInv state.payments)
    (accepted : chargeInstalments levyId levy state unit = .ok next) : PaymentsInv next.payments := by
  simp only [chargeInstalments, bind_ok, orRefuse_ok] at accepted
  obtain ⟨contractId, -, charged⟩ := accepted
  cases isCharge : unit.charge with
  | difference previous difference =>
    rw [isCharge] at charged
    cases charged
  | instalments rates =>
    rw [isCharge] at charged
    simp only [bind_ok, pure_ok] at charged
    obtain ⟨payments, inserted, rfl⟩ := charged
    refine inv.insertAll (fun row member => ?_) inserted
    obtain ⟨rate, -, rfl⟩ := mem_map.mp member
    exact levyPayment_forMonth _ _ _ _ _

theorem chargeDifference_payments (inv : PaymentsInv state.payments)
    (accepted : chargeDifference levyId levy due state unit = .ok next) : PaymentsInv next.payments := by
  unfold chargeDifference at accepted
  cases isCharge : unit.charge with
  | instalments rates =>
    rw [isCharge] at accepted
    cases accepted
  | difference previous difference =>
    rw [isCharge] at accepted
    dsimp only at accepted
    split at accepted
    · rw [pure_ok] at accepted
      rw [← accepted]
      exact inv
    · simp only [bind_ok, orRefuse_ok] at accepted
      obtain ⟨contractId, -, charged⟩ := accepted
      split at charged
      · simp only [bind_ok, pure_ok] at charged
        obtain ⟨payments, inserted, rfl⟩ := charged
        exact inv.insert (levyPayment_forMonth _ _ _ _ _) inserted
      · simp only [creditDraft, bind_ok, orRefuse_ok, pure_ok] at charged
        obtain ⟨mapping, -, reservation, -, debtor, -, draft, -, rfl⟩ := charged
        exact inv

theorem charges_payments {charge : LevyState → LevyUnit → Result LevyState} {units : List LevyUnit}
    (keeps : ∀ state unit next, PaymentsInv state.payments → charge state unit = .ok next → PaymentsInv next.payments)
    (inv : PaymentsInv state.payments) (accepted : units.foldlM charge state = .ok next) :
    PaymentsInv next.payments := by
  induction units generalizing state with
  | nil =>
    rw [foldlM_nil, pure_ok] at accepted
    rw [← accepted]
    exact inv
  | cons unit rest ih =>
    simp only [foldlM_cons, bind_ok] at accepted
    obtain ⟨charged, isCharged, others⟩ := accepted
    exact ih (keeps state unit charged inv isCharged) others

theorem syncDebtorAccounts_payments (state : LevyState) (ledgerId : LedgerId) :
    (syncDebtorAccounts state ledgerId).payments = state.payments := by
  unfold syncDebtorAccounts
  cases state.books.ledgers[ledgerId]? <;> rfl

theorem payments_step {call : LevyCall} (inv : PaymentsInv state.payments)
    (accepted : levyStep state call = .ok next) : PaymentsInv next.payments := by
  cases call with
  | create body =>
    simp only [levyStep, createLevy, bind_ok, exists_unit, require_ok, pure_ok] at accepted
    obtain ⟨-, ledger, -, terms, -, rfl⟩ := accepted
    exact inv
  | calculate levyId =>
    simp only [levyStep, calculateLevy, bind_ok, exists_unit, require_ok, pure_ok] at accepted
    obtain ⟨levy, -, -, snapshot, -, rfl⟩ := accepted
    exact inv
  | resolve levyId resolutionId =>
    simp only [levyStep, resolveLevy, bind_ok, exists_unit, require_ok, pure_ok] at accepted
    obtain ⟨levy, -, -, resolution, -, -, -, rfl⟩ := accepted
    exact inv
  | apply levyId =>
    simp only [levyStep, applyLevy, bind_ok] at accepted
    obtain ⟨levy, -, accepted⟩ := accepted
    split at accepted
    · rw [pure_ok] at accepted
      rw [← accepted]
      exact inv
    · simp only [bind_ok, exists_unit, require_ok] at accepted
      obtain ⟨-, -, charged⟩ := accepted
      split at charged
      · simp only [bind_ok, pure_ok, applyAmendment, orRefuse_ok] at charged
        obtain ⟨after, ⟨due, -, booked⟩, rfl⟩ := charged
        have synced : PaymentsInv (syncDebtorAccounts state levy.ledgerId).payments := by
          rw [syncDebtorAccounts_payments]
          exact inv
        have kept : PaymentsInv after.payments :=
          charges_payments (fun _ _ _ => chargeDifference_payments) synced booked
        exact kept
      · simp only [bind_ok, pure_ok] at charged
        obtain ⟨after, booked, rfl⟩ := charged
        have kept : PaymentsInv after.payments :=
          charges_payments (fun _ _ _ => chargeInstalments_payments) inv booked
        exact kept
  | amend levyId body =>
    simp only [levyStep, amendLevy, bind_ok, exists_unit, require_ok, pure_ok] at accepted
    obtain ⟨-, old, -, -, -, rfl⟩ := accepted
    exact inv
  | addPayment payment =>
    simp only [levyStep, bind_ok, pure_ok] at accepted
    obtain ⟨payments, inserted, rfl⟩ := accepted
    exact inv.insert (fun isLevy => by simp at isLevy) inserted
  | setOffice | setBooks =>
    simp only [levyStep, pure_ok] at accepted
    rw [← accepted]
    exact inv

theorem PaymentsInv.due_once (inv : PaymentsInv payments) (contractId : ContractId) (day : Date) :
    (payments.filter (DueOn contractId day)).length ≤ 1 := by
  have apart := inv.disjoint.filter (DueOn contractId day)
  have each : ∀ payment ∈ payments.filter (DueOn contractId day), DueOn contractId day payment :=
    fun payment member => of_decide_eq_true (mem_filter.mp member).2
  cases isDue : payments.filter (DueOn contractId day) with
  | nil => exact Nat.zero_le 1
  | cons first rest =>
    cases rest with
    | nil => exact Nat.le_refl 1
    | cons second others =>
      rw [isDue] at apart each
      obtain ⟨firstContract, firstCode, firstFrom, firstTo⟩ := each first mem_cons_self
      obtain ⟨secondContract, secondCode, secondFrom, secondTo⟩ :=
        each second (mem_cons_of_mem _ mem_cons_self)
      have clash : Clashes first second :=
        ⟨firstContract.trans secondContract.symm, firstCode.trans secondCode.symm,
          fun last isLast => firstFrom.trans (secondTo last isLast),
          fun last isLast => secondFrom.trans (firstTo last isLast)⟩
      exact absurd clash (rel_of_pairwise_cons apart mem_cons_self)

/-- The instalment months of two applied levies of a community do not overlap. -/
def MonthsApart (levies : List SpecialLevy) : Prop :=
  ∀ (firstId secondId : LevyId) (first second : SpecialLevy), levies[firstId]? = some first →
    levies[secondId]? = some second → firstId ≠ secondId → first.status = .applied → second.status = .applied →
    first.legalEntityId = second.legalEntityId → ¬ Overlaps first second

theorem Overlaps.symm (overlaps : Overlaps first second) : Overlaps second first :=
  ⟨overlaps.2, overlaps.1⟩

section

variable (apart : MonthsApart levies)
include apart

/-- A levy that is not applied is added or replaced by another state that is not applied. -/
theorem MonthsApart.append (open' : added.status ≠ .applied) :
    MonthsApart (levies ++ [added]) := by
  intro firstId secondId first second foundFirst foundSecond different firstApplied secondApplied
  rcases found_append_one.mp foundFirst with isFirst | ⟨-, rfl⟩
  · rcases found_append_one.mp foundSecond with isSecond | ⟨-, rfl⟩
    · exact apart firstId secondId first second isFirst isSecond different firstApplied secondApplied
    · exact absurd secondApplied open'
  · exact absurd firstApplied open'

theorem MonthsApart.set (found : levies[levyId]? = some old)
    (open' : new.status ≠ .applied) : MonthsApart (levies.set levyId new) := by
  intro firstId secondId first second foundFirst foundSecond different firstApplied secondApplied
  rcases (found_set found).mp foundFirst with ⟨-, rfl⟩ | ⟨-, isFirst⟩
  · exact absurd firstApplied open'
  · rcases (found_set found).mp foundSecond with ⟨-, rfl⟩ | ⟨-, isSecond⟩
    · exact absurd secondApplied open'
    · exact apart firstId secondId first second isFirst isSecond different firstApplied secondApplied

theorem MonthsApart.applied (found : levies[levyId]? = some levy)
    (free : ∀ other ∈ levies.zipIdx, otherApplied levyId levy other → ¬ Overlaps other.1 levy)
    (status : LevyId → SpecialLevy → LevyStatus)
    (levies' : ∀ otherId : LevyId, after[otherId]? =
      (levies[otherId]?).map fun other => { other with status := status otherId other })
    (others : ∀ otherId other, status otherId other = .applied →
      otherId = levyId ∨ other.status = .applied ∧ levy.supersedesId ≠ some otherId) : MonthsApart after := by
  have before : ∀ (otherId : LevyId) now, after[otherId]? = some now → now.status = .applied →
      ∃ other, levies[otherId]? = some other ∧ now = { other with status := status otherId other } ∧
        (otherId = levyId ∨ other.status = .applied ∧ levy.supersedesId ≠ some otherId) := by
    intro otherId now foundNow isApplied
    rw [levies', Option.map_eq_some_iff] at foundNow
    obtain ⟨other, foundOther, rfl⟩ := foundNow
    exact ⟨other, foundOther, rfl, others otherId other isApplied⟩
  have against : ∀ (otherId : LevyId) other, levies[otherId]? = some other → otherId ≠ levyId →
      other.status = .applied → levy.supersedesId ≠ some otherId → other.legalEntityId = levy.legalEntityId →
      ¬ Overlaps other levy := by
    intro otherId other foundOther different isApplied notSuperseded sameEntity
    have member : (other, otherId) ∈ levies.zipIdx := mem_zipIdx_iff_getElem?.mpr foundOther
    exact free (other, otherId) member ⟨sameEntity, isApplied, different, notSuperseded⟩
  intro firstId secondId first second foundFirst foundSecond different firstApplied secondApplied sameEntity overlaps
  obtain ⟨one, foundOne, rfl, isOne⟩ := before firstId first foundFirst firstApplied
  obtain ⟨two, foundTwo, rfl, isTwo⟩ := before secondId second foundSecond secondApplied
  rcases isOne with rfl | ⟨oneApplied, oneKept⟩
  · obtain rfl : levy = one := Option.mem_unique found foundOne
    rcases isTwo with rfl | ⟨twoApplied, twoKept⟩
    · exact different rfl
    · exact against secondId two foundTwo (Ne.symm different) twoApplied twoKept sameEntity.symm overlaps.symm
  · rcases isTwo with rfl | ⟨twoApplied, -⟩
    · obtain rfl : levy = two := Option.mem_unique found foundTwo
      exact against firstId one foundOne different oneApplied oneKept sameEntity overlaps
    · exact apart firstId secondId one two foundOne foundTwo different oneApplied twoApplied sameEntity overlaps

end

theorem apply_apart (apart : MonthsApart state.levies) (accepted : applyLevy state levyId = .ok next) :
    MonthsApart next.levies := by
  simp only [applyLevy, levyOf, bind_ok, orRefuse_ok] at accepted
  obtain ⟨levy, found, accepted⟩ := accepted
  split at accepted
  · rw [pure_ok] at accepted
    rw [← accepted]
    exact apart
  · simp only [bind_ok, exists_unit, require_ok] at accepted
    obtain ⟨-, free, charged⟩ := accepted
    split at charged
    · rename_i previousId isPrevious
      simp only [bind_ok, pure_ok, applyAmendment, orRefuse_ok] at charged
      obtain ⟨after, ⟨due, -, booked⟩, rfl⟩ := charged
      obtain ⟨sameLevies, -⟩ := charges_book (fun _ _ _ => chargeDifference_books) booked
      obtain ⟨syncedLevies, -⟩ := syncDebtorAccounts_net state levy.ledgerId
      let status (otherId : LevyId) (other : SpecialLevy) : LevyStatus :=
        if otherId = previousId then .superseded else if otherId = levyId then .applied else other.status
      refine apart.applied found free status (fun otherId => ?_) fun otherId other isApplied => ?_
      · rw [setStatus_found, setStatus_found, sameLevies, syncedLevies, Option.map_map]
        rfl
      · by_cases isLast : otherId = previousId
        · simp [status, isLast] at isApplied
        · by_cases isLevy : otherId = levyId
          · exact Or.inl isLevy
          · have wasApplied : other.status = .applied := by simpa [status, isLast, isLevy] using isApplied
            refine Or.inr ⟨wasApplied, ?_⟩
            rw [isPrevious]
            exact fun same => isLast (Option.some.inj same).symm
    · rename_i isFirst
      simp only [bind_ok, pure_ok] at charged
      obtain ⟨after, booked, rfl⟩ := charged
      obtain ⟨sameLevies, -⟩ := charges_book (fun _ _ _ => chargeInstalments_books) booked
      let status (otherId : LevyId) (other : SpecialLevy) : LevyStatus :=
        if otherId = levyId then .applied else other.status
      refine apart.applied found free status (fun otherId => ?_) fun otherId other isApplied => ?_
      · rw [setStatus_found, sameLevies]
      · by_cases isLevy : otherId = levyId
        · exact Or.inl isLevy
        · have wasApplied : other.status = .applied := by simpa [status, isLevy] using isApplied
          refine Or.inr ⟨wasApplied, ?_⟩
          rw [isFirst]
          exact fun same => by cases same

theorem apart_step (apart : MonthsApart state.levies) (accepted : levyStep state call = .ok next) :
    MonthsApart next.levies := by
  cases call with
  | create body =>
    simp only [levyStep, createLevy, bind_ok, exists_unit, require_ok, pure_ok] at accepted
    obtain ⟨-, ledger, -, terms, -, rfl⟩ := accepted
    exact apart.append LevyStatus.noConfusion
  | calculate levyId =>
    simp only [levyStep, calculateLevy, levyOf, bind_ok, orRefuse_ok, exists_unit, require_ok, pure_ok] at accepted
    obtain ⟨levy, found, -, snapshot, -, rfl⟩ := accepted
    exact apart.set found LevyStatus.noConfusion
  | resolve levyId resolutionId =>
    simp only [levyStep, resolveLevy, levyOf, bind_ok, orRefuse_ok, exists_unit, require_ok, pure_ok] at accepted
    obtain ⟨levy, found, -, resolution, -, -, -, rfl⟩ := accepted
    exact apart.set found LevyStatus.noConfusion
  | apply levyId => exact apply_apart apart accepted
  | amend levyId body =>
    simp only [levyStep, amendLevy, bind_ok, exists_unit, require_ok, pure_ok] at accepted
    obtain ⟨-, old, -, -, -, rfl⟩ := accepted
    exact apart.append LevyStatus.noConfusion
  | addPayment payment =>
    simp only [levyStep, bind_ok, pure_ok] at accepted
    obtain ⟨payments, -, rfl⟩ := accepted
    exact apart
  | setOffice | setBooks =>
    simp only [levyStep, pure_ok] at accepted
    rw [← accepted]
    exact apart

/-- In every run a contract has at most one special levy due on any day, and what a levy adds is due from its day to the
end of the month; the months of any two applied levies of a community do not overlap. -/
theorem one_levy_per_month (start : LevyState) (fresh : start.Fresh) (calls : List LevyCall) :
    (∀ contractId day, ((run levyStep start calls).payments.filter (DueOn contractId day)).length ≤ 1) ∧
    (∀ payment ∈ (run levyStep start calls).payments, ForMonth payment) ∧
    MonthsApart (run levyStep start calls).levies := by
  have none : PaymentsInv start.payments := by
    rw [fresh.payments]
    exact ⟨List.Pairwise.nil, fun _ member => nomatch member⟩
  have paymentsKept : ∀ state call next, PaymentsInv state.payments → levyStep state call = .ok next →
      PaymentsInv next.payments :=
    fun _ _ _ => payments_step
  have payments := run_invariant paymentsKept calls none
  refine ⟨payments.due_once, payments.months, ?_⟩
  have noLevies : MonthsApart start.levies := by
    rw [fresh.levies]
    intro firstId secondId first second found
    cases found
  have leviesKept : ∀ state call next, MonthsApart state.levies → levyStep state call = .ok next →
      MonthsApart next.levies :=
    fun _ _ _ => apart_step
  exact run_invariant leviesKept calls noLevies

theorem sample_one_levy_per_month :
    ((run levyStep (sampleStart (threeUnits 1 1 1)) sampleCalls).payments.filter
      (DueOn 0 (.ofYmd 2026 3 15))).length ≤ 1 :=
  (one_levy_per_month _ (sampleStart_fresh _) sampleCalls).1 0 (.ofYmd 2026 3 15)

end Mhvp.Hoa.Levies
