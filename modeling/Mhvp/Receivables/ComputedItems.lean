import Mhvp.Receivables.Compute

namespace Mhvp.Receivables

open Accounting Lib.Calendar Option

variable {item : ItemDraft} {status : ItemStatus} {message : String}

/-- Neither posted nor reversed. -/
def ItemDraft.Computed (item : ItemDraft) : Prop := item.status ≠ .posted ∧ item.status ≠ .reversed

/-- Contract and payment type. -/
def ItemDraft.component (item : ItemDraft) : ContractId × String := (item.contractId, item.paymentTypeCode)

@[simp] theorem mark_component : (item.mark status message).component = item.component := by
  unfold ItemDraft.mark
  split <;> rfl

@[simp] theorem markIf_component [Decidable finding] :
    (item.markIf finding status message).component = item.component := by
  unfold ItemDraft.markIf
  split
  · exact mark_component
  · rfl

/-- A finding of a computation: a manual or a blocked item. -/
def Finding (status : ItemStatus) : Prop := status ≠ .posted ∧ status ≠ .reversed

instance : Decidable (Finding status) := inferInstanceAs (Decidable (_ ∧ _))

theorem mark_computed (computed : item.Computed) (finding : Finding status := by decide) :
    (item.mark status message).Computed := by
  unfold ItemDraft.mark
  split
  · exact finding
  · exact computed

theorem markIf_computed [Decidable found] (computed : item.Computed)
    (finding : Finding status := by decide) : (item.markIf found status message).Computed := by
  unfold ItemDraft.markIf
  split
  · exact mark_computed computed finding
  · exact computed

/-- The parts of a computation keep the component, and never post. -/
structure Refines (item found : ItemDraft) : Prop where
  component : found.component = item.component
  computed : item.Computed → found.Computed

theorem Refines.refl (item : ItemDraft) : Refines item item := ⟨rfl, id⟩

theorem Refines.trans (first : Refines item middle) (second : Refines middle found) :
    Refines item found :=
  ⟨second.component.trans first.component, fun computed => second.computed (first.computed computed)⟩

theorem mark_refines (finding : Finding status := by decide) : Refines item (item.mark status message) :=
  ⟨mark_component, fun computed => mark_computed computed finding⟩

theorem markIf_refines [Decidable found] (finding : Finding status := by decide) :
    Refines item (item.markIf found status message) :=
  ⟨markIf_component, fun computed => markIf_computed computed finding⟩

theorem withAccount_refines [Decidable blocked] : Refines item (withAccount item basis blocked) := by
  unfold withAccount
  split
  · exact mark_refines
  · split
    · exact mark_refines
    · exact markIf_refines

theorem withSchedule_refines : Refines item (withSchedule item schedule first) := by
  unfold withSchedule
  split
  · exact mark_refines
  · split
    · refine Refines.trans ?_ markIf_refines
      exact ⟨rfl, id⟩
    · exact mark_refines

theorem withVat_refines : Refines item (withVat item basis row ledger) := by
  unfold withVat
  split
  · exact .refl item
  · split
    · exact mark_refines
    · split
      · exact mark_refines
      · split
        · exact .refl item
        · split
          · exact mark_refines
          · exact markIf_refines

theorem withNet_refines : Refines item (withNet item net) := by
  cases net with
  | none => exact .refl item
  | some net => exact ⟨rfl, id⟩

theorem covered_refines (isFound : covered row method schedule first periods item = some (found, net)) :
    Refines item found := by
  unfold covered at isFound
  split at isFound
  · obtain ⟨rfl, -⟩ := Prod.mk.inj (some.inj isFound)
    exact mark_refines
  · obtain ⟨⟨start, last, total⟩, -, isItem⟩ := bind_eq_some_iff.mp isFound
    obtain ⟨rfl, -⟩ := Prod.mk.inj (some.inj isItem)
    refine Refines.trans ?_ markIf_refines
    exact ⟨rfl, id⟩

theorem plainItem_refines : Refines (startItem row (ledger.map Prod.snd) payment)
    (plainItem db basis row ledger schedule first last payment) := by
  dsimp only [plainItem]
  refine Refines.trans ?_ markIf_refines
  refine Refines.trans ?_ markIf_refines
  refine Refines.trans ?_ withSchedule_refines
  refine Refines.trans ?_ withAccount_refines
  exact markIf_refines

theorem startItem_computed : (startItem row ledgerId payment).Computed := ⟨ItemStatus.noConfusion, ItemStatus.noConfusion⟩

theorem ruledItem_refines (rows : ∀ payment ∈ payments, payment.1.paymentTypeCode = code)
    (isItem : ruledItem basis row ledger schedule first payments = some item) :
    item.component = (row.id, code) ∧ item.Computed := by
  unfold ruledItem at isItem
  obtain ⟨current, isCurrent, isItem⟩ := bind_eq_some_iff.mp isItem
  obtain ⟨⟨found, net⟩, isFound, isItem⟩ := bind_eq_some_iff.mp isItem
  have refines : Refines (startItem row (ledger.map Prod.snd) current) item := by
    rw [← some.inj isItem]
    refine Refines.trans ?_ markIf_refines
    refine Refines.trans ?_ withNet_refines
    refine Refines.trans ?_ withVat_refines
    refine Refines.trans ?_ markIf_refines
    exact (covered_refines isFound).trans withAccount_refines
  refine ⟨refines.component.trans ?_, refines.computed startItem_computed⟩
  exact congrArg (Prod.mk row.id) (rows current (List.mem_of_getLast? isCurrent))

theorem asDifference_manual (isFound : asDifference item posted = some found) :
    found.status = .manual := by
  dsimp only [asDifference] at isFound
  split at isFound
  · cases isFound
  · cases isFound
    rfl

/-- No posted item of the component in the month. -/
def Unposted (items : List RunItem) (first : Date) (component : ContractId × String) : Prop :=
  ∀ other ∈ items, other.periodMonth = first → other.status = .posted → other.component ≠ component

theorem postedFor_none (none : postedFor items first contractId code = none) : Unposted items first (contractId, code) := by
  unfold postedFor at none
  rw [map_eq_none_iff, List.find?_eq_none] at none
  intro other member sameMonth isPosted sameComponent
  obtain ⟨place, found⟩ := List.mem_iff_getElem?.mp member
  have absent := none (other, place) (List.mem_zipIdx_iff_getElem?.mpr found)
  obtain ⟨sameContract, sameCode⟩ := Prod.mk.inj sameComponent
  simp [sameMonth, isPosted, sameContract, sameCode] at absent

/-- What a run may keep of a component. -/
structure Proposed (items : List RunItem) (first : Date) (item : ItemDraft) : Prop where
  computed : item.Computed
  free : item.status = .ready → Unposted items first item.component

theorem manual_proposed (manual : item.status = .manual) : Proposed items first item := by
  constructor
  · rw [ItemDraft.Computed, manual]
    exact ⟨ItemStatus.noConfusion, ItemStatus.noConfusion⟩
  · intro ready
    rw [manual] at ready
    cases ready

theorem blockIf_proposed [Decidable blocked] (proposed : Proposed items first item) :
    Proposed items first (blockIf item blocked) := by
  constructor
  · exact markIf_computed proposed.computed
  · intro ready
    rw [blockIf, markIf_component]
    apply proposed.free
    unfold blockIf ItemDraft.markIf ItemDraft.mark at ready
    split at ready
    · split at ready
      · cases ready
      · exact ready
    · exact ready

theorem unlessPosted_proposed (computed : item.Computed)
    (isFound : unlessPosted item (postedFor items first item.contractId item.paymentTypeCode) = some found) :
    Proposed items first found := by
  cases posted : postedFor items first item.contractId item.paymentTypeCode with
  | none =>
    rw [posted] at isFound
    cases isFound
    exact ⟨computed, fun _ => postedFor_none posted⟩
  | some row =>
    rw [posted] at isFound
    exact manual_proposed (asDifference_manual isFound)

theorem contractItems_proposed (member : item ∈ contractItems db basis items first last row) :
    Proposed items first item := by
  dsimp only [contractItems] at member
  split at member
  · obtain ⟨code, -, isItem⟩ := List.mem_filterMap.mp member
    obtain ⟨ruled, isRuled, isItem⟩ := bind_eq_some_iff.mp isItem
    obtain ⟨found, isFound, isItem⟩ := bind_eq_some_iff.mp isItem
    cases isItem
    obtain ⟨isComponent, computed⟩ := ruledItem_refines
      (fun payment inRows => of_decide_eq_true (List.mem_filter.mp inRows).2) isRuled
    obtain ⟨sameContract, sameCode⟩ := Prod.mk.inj isComponent
    rw [← sameContract, ← sameCode] at isFound
    exact blockIf_proposed (unlessPosted_proposed computed isFound)
  · obtain ⟨payment, -, isItem⟩ := List.mem_filterMap.mp member
    split at isItem
    · exact manual_proposed (asDifference_manual isItem)
    · rename_i none
      cases isItem
      refine ⟨plainItem_refines.computed startItem_computed, fun _ => ?_⟩
      rw [plainItem_refines.component]
      exact postedFor_none none

theorem compute_proposed (member : item ∈ compute db basis items period scope scopeId) :
    Proposed items (monthFirst period) item := by
  obtain ⟨row, -, inRow⟩ := List.mem_flatMap.mp member
  exact contractItems_proposed inRow

end Mhvp.Receivables
