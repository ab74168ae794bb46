import Mathlib.Data.Prod.Lex
import Mhvp.Core.Decimal
import Mhvp.Core.Problem
import Mhvp.Lib.Aggregate
import Mhvp.Lib.Sorting

namespace Mhvp.Accounting.Settlement

open Core Lib.Calendar

abbrev ItemId := ℕ

inductive ClaimClass
  | costs
  | interest
  | principal
  deriving DecidableEq

/-- `_CLASS_RANK` -/
def classRank : ClaimClass → ℕ
  | .costs => 0
  | .interest => 1
  | .principal => 2

/-- One open receivable as of the cut-off day. -/
structure ProposalItem where
  openItemId : ItemId
  remaining : Decimal
  bookingDate : Date
  dueDate : Option Date := none
  claimClass : ClaimClass := .principal
  /-- In a sent dunning case. -/
  burdensome : Bool := false
  security : ℤ := 0
  deriving DecidableEq

/-- What the payer determined: an item, and an amount unless it is the remaining one. -/
structure Determination where
  openItemId : ItemId
  amount : Option Decimal := none

inductive Reason
  | determined
  | statutory

structure Allocation where
  openItemId : ItemId
  amount : Decimal
  remainingBefore : Decimal
  reason : Reason
  rank : ℕ
  dueDate : Option Date
  claimClass : ClaimClass

inductive Basis
  | statutoryOrder
  | determination
  | mixed
  | none

/-- The fingerprint, a hash of these values, is left out. -/
structure Proposal where
  amount : Decimal
  asOf : Date
  allocations : List Allocation
  unallocated : Decimal
  basis : Basis

abbrev StatutoryKey := Bool ×ₗ ℤ ×ₗ Bool ×ₗ Date ×ₗ ℕ ×ₗ Date ×ₗ ItemId

/-- Due before not yet due, less security first, more burdensome first, older first, costs before interest before
principal. -/
def statutoryKey (asOf : Date) (item : ProposalItem) : StatutoryKey :=
  let due := item.dueDate.getD item.bookingDate
  toLex (decide (asOf < due), toLex (item.security, toLex (!item.burdensome, toLex (due,
    toLex (classRank item.claimClass, toLex (item.bookingDate, item.openItemId))))))

def statutoryOrder (asOf : Date) (items : List ProposalItem) : List ProposalItem :=
  items.insertionSort fun first second => statutoryKey asOf first ≤ statutoryKey asOf second

/-- The variables of `propose`. -/
structure Progress where
  rest : Decimal
  left : ItemId → Decimal
  allocations : List Allocation := []

/-- What an item can take of the rest. -/
def Progress.value (progress : Progress) (item : ProposalItem) (wanted : Option Decimal) : Decimal :=
  let openAmount := progress.left item.openItemId
  min progress.rest (wanted.elim openAmount fun amount => min amount openAmount)

/-- `take` -/
def Progress.take (progress : Progress) (item : ProposalItem) (wanted : Option Decimal) (reason : Reason) : Progress :=
  let openAmount := progress.left item.openItemId
  let value := progress.value item wanted
  if value ≤ 0 then progress
  else
    { rest := progress.rest - value
      left := Function.update progress.left item.openItemId (openAmount - value)
      allocations := progress.allocations ++ [{
        openItemId := item.openItemId, amount := value, remainingBefore := openAmount, reason
        rank := progress.allocations.length + 1, dueDate := item.dueDate, claimClass := item.claimClass }] }

/-- `by_id`: the last item of an id. -/
def byId (items : List ProposalItem) (id : ItemId) : Option ProposalItem :=
  items.reverse.find? fun item => item.openItemId = id

/-- The amounts above zero by item. -/
def openAmounts (items : List ProposalItem) (id : ItemId) : Decimal :=
  ((items.reverse.find? fun item => item.openItemId = id ∧ 0 < item.remaining).map ProposalItem.remaining).getD 0

/-- The determined items, in the order of the payer. -/
def determine (items : List ProposalItem) (progress : Progress) : List Determination → Result Progress
  | [] => pure progress
  | named :: rest => do
      let item ← orRefuse (byId items named.openItemId) .validation
        (some "Die Tilgungsbestimmung nennt einen unbekannten offenen Posten.")
      require (∀ amount ∈ named.amount, 0 < amount) .validation (some "Der bestimmte Betrag muss größer 0 sein.")
      determine items (progress.take item named.amount .determined) rest

/-- The others, until nothing is left of the payment. -/
def serve (progress : Progress) : List ProposalItem → Progress
  | [] => progress
  | item :: rest =>
    if progress.rest ≤ 0 then progress else serve (progress.take item none .statutory) rest

def basisOf (determined statutory : ℕ) : Basis :=
  if determined ≠ 0 ∧ statutory ≠ 0 then .mixed
  else if determined ≠ 0 then .determination
  else if statutory ≠ 0 then .statutoryOrder
  else .none

def propose (items : List ProposalItem) (amount : Decimal) (asOf : Date) (determination : List Determination) :
    Result Proposal := do
  require (0 < amount) .validation (some "Der Zahlbetrag muss größer 0 sein.")
  let determined ← determine items { rest := amount, left := openAmounts items } determination
  let served := serve determined (statutoryOrder asOf items)
  let count := determined.allocations.length
  pure { amount, asOf, allocations := served.allocations, unallocated := served.rest
         basis := basisOf count (served.allocations.length - count) }

open Lib.Aggregate List

variable {items others : List ProposalItem} {progress next : Progress} {item : ProposalItem} {amount : Decimal}

/-- What the allocations give an item. -/
def served (allocations : List Allocation) (id : ItemId) : Decimal :=
  sumWhere (fun allocation => allocation.openItemId = id) Allocation.amount allocations

/-- What can be given to an item. -/
def ProposalItem.openAmount (item : ProposalItem) : Decimal := max item.remaining 0

/-- What the payer determined for an item: at most what is open. -/
def demanded (determination : List Determination) (item : ProposalItem) : Decimal :=
  min item.openAmount
    (sumWhere (fun named => named.openItemId = item.openItemId) (fun named => named.amount.getD item.openAmount) determination)

/-- The promise of a proposal. -/
structure Follows (items : List ProposalItem) (amount : Decimal) (asOf : Date) (determination : List Determination)
    (proposal : Proposal) : Prop where
  conserved : (proposal.allocations.map Allocation.amount).sum + proposal.unallocated = amount
  unallocated : 0 ≤ proposal.unallocated
  positive : ∀ allocation ∈ proposal.allocations, 0 < allocation.amount
  known : ∀ allocation ∈ proposal.allocations, allocation.openItemId ∈ items.map ProposalItem.openItemId
  within : ∀ item ∈ items, served proposal.allocations item.openItemId ≤ item.openAmount
  /-- The determined allocations stand first, and others only follow when every determination is met. -/
  determinedFirst : ∃ determined statutory, proposal.allocations = determined ++ statutory ∧
    (∀ allocation ∈ determined, allocation.reason = .determined) ∧
    (∀ allocation ∈ statutory, allocation.reason = .statutory) ∧
    (∀ item ∈ items, served determined item.openItemId ≤ demanded determination item) ∧
    (statutory ≠ [] ∨ 0 < proposal.unallocated →
      ∀ item ∈ items, served determined item.openItemId = demanded determination item)
  /-- In the statutory order an item gets money only when every earlier one is served in full. -/
  priority : ∀ earlier ∈ items, ∀ later ∈ items, statutoryKey asOf earlier < statutoryKey asOf later →
    (∃ allocation ∈ proposal.allocations, allocation.openItemId = later.openItemId ∧ allocation.reason = .statutory) →
    served proposal.allocations earlier.openItemId = earlier.openAmount
  /-- Money stays unallocated only when nothing is open. -/
  exhausted : 0 < proposal.unallocated → ∀ item ∈ items, served proposal.allocations item.openItemId = item.openAmount

theorem ProposalItem.openAmount_nonneg (item : ProposalItem) : 0 ≤ item.openAmount := le_max_right ..

theorem found_last (unique : (items.map ProposalItem.openItemId).Nodup) (selects : ProposalItem → Bool)
    (member : item ∈ items) (isSelected : selects item = true)
    (ofId : ∀ other, selects other = true → other.openItemId = item.openItemId) : items.reverse.find? selects = some item := by
  cases found : items.reverse.find? selects with
  | none =>
    have notSelected := List.find?_eq_none.mp found item (mem_reverse.mpr member)
    exact absurd isSelected notSelected
  | some other =>
    have otherMember := mem_reverse.mp (mem_of_find?_eq_some found)
    have same := inj_on_of_nodup_map unique otherMember member (ofId other (List.find?_some found))
    rw [same]

theorem byId_of_mem (unique : (items.map ProposalItem.openItemId).Nodup) (member : item ∈ items) :
    byId items item.openItemId = some item :=
  found_last unique _ member (by simp) (by simp)

theorem byId_mem {id : ItemId} (found : byId items id = some item) : item ∈ items ∧ item.openItemId = id := by
  constructor
  · exact mem_reverse.mp (mem_of_find?_eq_some found)
  · simpa using List.find?_some found

theorem byId_isSome (items : List ProposalItem) (id : ItemId) :
    (byId items id).isSome ↔ id ∈ items.map ProposalItem.openItemId := by
  unfold byId
  simp [List.find?_isSome]

theorem openAmounts_of_mem (unique : (items.map ProposalItem.openItemId).Nodup) (member : item ∈ items) :
    openAmounts items item.openItemId = item.openAmount := by
  unfold openAmounts ProposalItem.openAmount
  by_cases positive : 0 < item.remaining
  · have ofId : ∀ other : ProposalItem, decide (other.openItemId = item.openItemId ∧ 0 < other.remaining) = true →
        other.openItemId = item.openItemId := fun other isSelected => (of_decide_eq_true isSelected).1
    rw [found_last unique _ member (by simp [positive]) ofId, max_eq_left positive.le]
    rfl
  · rw [max_eq_right (le_of_not_gt positive)]
    cases found : items.reverse.find? fun other => other.openItemId = item.openItemId ∧ 0 < other.remaining with
    | none => rfl
    | some other =>
      have isSelected : other.openItemId = item.openItemId ∧ 0 < other.remaining := by
        simpa using List.find?_some found
      have otherMember := mem_reverse.mp (mem_of_find?_eq_some found)
      have same := inj_on_of_nodup_map unique otherMember member isSelected.1
      exact absurd (same ▸ isSelected.2) positive

theorem openAmounts_nonneg (items : List ProposalItem) (id : ItemId) : 0 ≤ openAmounts items id := by
  unfold openAmounts
  cases found : items.reverse.find? fun item => item.openItemId = id ∧ 0 < item.remaining with
  | none => exact le_refl _
  | some item =>
    have isSelected : item.openItemId = id ∧ 0 < item.remaining := by simpa using List.find?_some found
    exact isSelected.2.le

/-- What holds between any two steps. -/
structure Sound (items : List ProposalItem) (amount : Decimal) (progress : Progress) : Prop where
  conserved : (progress.allocations.map Allocation.amount).sum + progress.rest = amount
  rest : 0 ≤ progress.rest
  left : ∀ id, progress.left id = openAmounts items id - served progress.allocations id
  nonneg : ∀ id, 0 ≤ progress.left id
  positive : ∀ allocation ∈ progress.allocations, 0 < allocation.amount
  known : ∀ allocation ∈ progress.allocations, allocation.openItemId ∈ items.map ProposalItem.openItemId

/-- What a step changed: the item took the value, in an allocation of its own if there is any. -/
structure Taken (progress : Progress) (item : ProposalItem) (wanted : Option Decimal) (reason : Reason)
    (next : Progress) : Prop where
  rest : next.rest = progress.rest - progress.value item wanted
  left : next.left = Function.update progress.left item.openItemId
    (progress.left item.openItemId - progress.value item wanted)
  allocations : ∃ added, next.allocations = progress.allocations ++ added ∧
    (added.map Allocation.amount).sum = progress.value item wanted ∧
    ∀ allocation ∈ added, allocation.openItemId = item.openItemId ∧ allocation.reason = reason ∧ 0 < allocation.amount

theorem value_nonneg (sound : Sound items amount progress) (wanted : Option Decimal) (positive : ∀ asked ∈ wanted, 0 < asked) :
    0 ≤ progress.value item wanted := by
  unfold Progress.value
  refine le_min sound.rest ?_
  cases wanted with
  | none => exact sound.nonneg _
  | some asked => exact le_min (positive asked rfl).le (sound.nonneg _)

theorem value_le_left (wanted : Option Decimal) : progress.value item wanted ≤ progress.left item.openItemId := by
  unfold Progress.value
  refine (min_le_right _ _).trans ?_
  cases wanted with
  | none => exact le_refl _
  | some asked => exact min_le_right _ _

theorem value_le_rest (wanted : Option Decimal) : progress.value item wanted ≤ progress.rest := min_le_left _ _

theorem take_taken (nonneg : 0 ≤ progress.value item wanted) :
    Taken progress item wanted reason (progress.take item wanted reason) := by
  unfold Progress.take
  dsimp only
  split
  · rename_i nothing
    have zero := le_antisymm nothing nonneg
    constructor
    · rw [zero, sub_zero]
    · rw [zero, sub_zero, Function.update_eq_self]
    · exact ⟨[], (append_nil _).symm, zero.symm, fun _ none => absurd none not_mem_nil⟩
  · rename_i something
    constructor
    · rfl
    · rfl
    · refine ⟨_, rfl, by simp, ?_⟩
      intro allocation member
      rw [mem_singleton.mp member]
      exact ⟨rfl, rfl, lt_of_not_ge something⟩

theorem served_append (first second : List Allocation) (id : ItemId) :
    served (first ++ second) id = served first id + served second id :=
  sumWhere_append ..

theorem served_own (own : ∀ allocation ∈ added, allocation.openItemId = owner) (id : ItemId) :
    served added id = if owner = id then (added.map Allocation.amount).sum else 0 := by
  unfold served
  by_cases same : owner = id
  · have all : added.filter (fun allocation => allocation.openItemId = id) = added := by
      apply filter_eq_self.mpr
      exact fun allocation member => decide_eq_true ((own allocation member).trans same)
    rw [if_pos same, sumWhere, all]
  · rw [if_neg same]
    apply sumWhere_eq_zero
    exact fun allocation member isId => absurd ((own allocation member).symm.trans isId) same

theorem Taken.served (taken : Taken progress item wanted reason next) (id : ItemId) :
    served next.allocations id = served progress.allocations id +
      if item.openItemId = id then progress.value item wanted else 0 := by
  obtain ⟨added, allocations, sum, each⟩ := taken.allocations
  rw [allocations, served_append, served_own (fun allocation member => (each allocation member).1), sum]

theorem Taken.sound (sound : Sound items amount progress) (member : item ∈ items)
    (taken : Taken progress item wanted reason next) : Sound items amount next := by
  have serves := taken.served
  obtain ⟨added, allocations, sum, each⟩ := taken.allocations
  constructor
  · rw [allocations, map_append, sum_append, sum, taken.rest]
    linarith [sound.conserved]
  · rw [taken.rest]
    have fits : progress.value item wanted ≤ progress.rest := value_le_rest wanted
    linarith
  · intro id
    rw [serves, taken.left, Function.update_apply]
    by_cases same : id = item.openItemId
    · subst same
      rw [if_pos rfl, if_pos rfl, sound.left]
      ring
    · rw [if_neg same, if_neg (Ne.symm same), sound.left]
      ring
  · intro id
    rw [taken.left, Function.update_apply]
    split
    · have fits : progress.value item wanted ≤ progress.left item.openItemId := value_le_left wanted
      linarith
    · exact sound.nonneg id
  · intro allocation isAllocation
    rw [allocations] at isAllocation
    rcases mem_append.mp isAllocation with old | new
    · exact sound.positive allocation old
    · exact (each allocation new).2.2
  · intro allocation isAllocation
    rw [allocations] at isAllocation
    rcases mem_append.mp isAllocation with old | new
    · exact sound.known allocation old
    · rw [(each allocation new).1]
      exact mem_map_of_mem member

theorem served_nonneg (positive : ∀ allocation ∈ allocations, 0 < allocation.amount)
    (id : ItemId) : 0 ≤ served allocations id :=
  sumWhere_nonneg fun allocation member _ => (positive allocation member).le

theorem Sound.start (items : List ProposalItem) (positive : 0 < amount) :
    Sound items amount { rest := amount, left := openAmounts items } := by
  constructor
  · simp
  · exact positive.le
  · intro id
    simp [served]
  · exact openAmounts_nonneg items
  · exact fun _ none => absurd none not_mem_nil
  · exact fun _ none => absurd none not_mem_nil

structure Determined (items : List ProposalItem) (amount : Decimal) (determination : List Determination)
    (progress : Progress) : Prop where
  sound : Sound items amount progress
  reason : ∀ allocation ∈ progress.allocations, allocation.reason = .determined
  atMost : ∀ item ∈ items, served progress.allocations item.openItemId ≤ demanded determination item
  met : 0 < progress.rest → ∀ item ∈ items, served progress.allocations item.openItemId = demanded determination item

theorem demanded_append (determination : List Determination) (named : Determination) (item : ProposalItem) :
    demanded (determination ++ [named]) item = min item.openAmount
      (sumWhere (fun named => named.openItemId = item.openItemId) (fun named => named.amount.getD item.openAmount)
        determination + if named.openItemId = item.openItemId then named.amount.getD item.openAmount else 0) := by
  rw [demanded, sumWhere_append, sumWhere_singleton]

section

variable (unique : (items.map ProposalItem.openItemId).Nodup)
  (determined : Determined items amount determination progress)
include unique determined

theorem Determined.step (found : byId items named.openItemId = some item) (positive : ∀ asked ∈ named.amount, 0 < asked) :
    Determined items amount (determination ++ [named]) (progress.take item named.amount .determined) := by
  obtain ⟨member, isItem⟩ := byId_mem found
  have sound := determined.sound
  have valueNonneg : 0 ≤ progress.value item named.amount := value_nonneg sound named.amount positive
  have taken : Taken progress item named.amount .determined _ := take_taken valueNonneg
  have serves := taken.served
  have isLeft := sound.left item.openItemId
  rw [openAmounts_of_mem unique member] at isLeft
  have ownServed := served_nonneg sound.positive item.openItemId
  have ownAtMost := determined.atMost item member
  rw [demanded, le_min_iff] at ownAtMost
  -- for any other item nothing changes
  have other : ∀ one ∈ items, one ≠ item → served (progress.take item named.amount .determined).allocations one.openItemId =
      served progress.allocations one.openItemId ∧ demanded (determination ++ [named]) one = demanded determination one := by
    intro one isOne apart
    have different : item.openItemId ≠ one.openItemId := fun same =>
      apart (inj_on_of_nodup_map unique isOne member same.symm)
    rw [serves, demanded_append, ← isItem, if_neg different, if_neg different, add_zero, add_zero]
    exact ⟨rfl, rfl⟩
  constructor
  · exact taken.sound sound member
  · obtain ⟨added, allocations, -, each⟩ := taken.allocations
    rw [allocations]
    intro allocation isAllocation
    rcases mem_append.mp isAllocation with old | new
    · exact determined.reason allocation old
    · exact (each allocation new).2.1
  · intro one isOne
    by_cases same : one = item
    · subst same
      rw [serves, demanded_append, ← isItem, if_pos rfl, if_pos rfl, le_min_iff]
      have upToLeft : progress.value one named.amount ≤ progress.left one.openItemId := value_le_left named.amount
      constructor
      · linarith
      · cases isAmount : named.amount with
        | none =>
          rw [isAmount] at upToLeft
          simp only [Option.getD_none]
          linarith
        | some asked =>
          have upToAsked : progress.value one (some asked) ≤ asked := (min_le_right _ _).trans (min_le_left _ _)
          simp only [Option.getD_some]
          linarith
    · rw [(other one isOne same).1, (other one isOne same).2]
      exact determined.atMost one isOne
  · intro more one isOne
    rw [taken.rest, sub_pos] at more
    have before := determined.met (lt_of_le_of_lt valueNonneg more)
    by_cases same : one = item
    · subst same
      have met := before one member
      rw [demanded] at met
      rw [serves, demanded_append, ← isItem, if_pos rfl, if_pos rfl]
      -- the payment covers what is asked, so only the open amount limits it
      have isValue : progress.value one named.amount =
          named.amount.elim (progress.left one.openItemId) fun asked => min asked (progress.left one.openItemId) := by
        unfold Progress.value at more ⊢
        rcases min_choice progress.rest
          (named.amount.elim (progress.left one.openItemId) fun asked => min asked (progress.left one.openItemId)) with all | asks
        · rw [all] at more
          exact absurd more (lt_irrefl _)
        · exact asks
      rw [isValue, isLeft]
      generalize served progress.allocations one.openItemId = got at *
      generalize sumWhere (fun named : Determination => named.openItemId = one.openItemId)
        (fun named => named.amount.getD one.openAmount) determination = asked at *
      cases isAmount : named.amount with
      | none =>
        simp only [Option.elim_none, Option.getD_none]
        rw [min_eq_left (by linarith [ownAtMost.2])]
        ring
      | some more =>
        have morePositive := positive more isAmount
        simp only [Option.elim_some, Option.getD_some]
        rcases le_total asked one.openAmount with few | all
        · rw [min_eq_right few] at met
          rw [met, ← min_add_add_left, add_sub_cancel, min_comm]
        · rw [min_eq_left all] at met
          rw [met, sub_self, min_eq_right morePositive.le, add_zero, min_eq_left (by linarith)]
    · rw [(other one isOne same).1, (other one isOne same).2]
      exact before one isOne

theorem determine_ok (accepted : determine items progress rest = .ok next) :
    Determined items amount (determination ++ rest) next := by
  induction rest generalizing determination progress with
  | nil =>
    cases pure_ok.mp accepted
    rw [append_nil]
    exact determined
  | cons named rest ih =>
    simp only [determine, bind_ok, exists_unit, require_ok, orRefuse_ok] at accepted
    obtain ⟨item, found, positive, accepted⟩ := accepted
    have reached := ih (determined.step unique found positive) accepted
    rwa [append_assoc] at reached

end

/-- A determination is refused exactly if it names an unknown item or no amount above zero. -/
theorem determine_accepts (items : List ProposalItem) (progress : Progress) (determination : List Determination) :
    (∃ next, determine items progress determination = .ok next) ↔ ∀ named ∈ determination,
      named.openItemId ∈ items.map ProposalItem.openItemId ∧ ∀ asked ∈ named.amount, 0 < asked := by
  induction determination generalizing progress with
  | nil => simp [determine]
  | cons named rest ih =>
    simp only [determine, bind_ok, exists_unit, require_ok, orRefuse_ok, forall_mem_cons]
    rw [← byId_isSome, Option.isSome_iff_exists]
    constructor
    · rintro ⟨next, item, found, positive, accepted⟩
      exact ⟨⟨⟨item, found⟩, positive⟩, (ih _).mp ⟨next, accepted⟩⟩
    · rintro ⟨⟨⟨item, found⟩, positive⟩, others⟩
      obtain ⟨next, accepted⟩ := (ih (progress.take item named.amount .determined)).mpr others
      exact ⟨next, item, found, positive, accepted⟩

/-- What serving a list of items one after the other leaves. -/
structure Serving (items : List ProposalItem) (amount : Decimal) (progress : Progress) (list : List ProposalItem)
    (next : Progress) : Prop where
  sound : Sound items amount next
  allocations : ∃ added, next.allocations = progress.allocations ++ added ∧
    (∀ allocation ∈ added, allocation.reason = .statutory) ∧
    (∀ allocation ∈ added, allocation.openItemId ∈ list.map ProposalItem.openItemId) ∧ (added ≠ [] → 0 < progress.rest) ∧
    list.Pairwise fun earlier later =>
      (∃ allocation ∈ added, allocation.openItemId = later.openItemId) → next.left earlier.openItemId = 0
  exhausted : 0 < next.rest → ∀ item ∈ list, next.left item.openItemId = 0
  others : ∀ id, id ∉ list.map ProposalItem.openItemId → next.left id = progress.left id

theorem serve_serving (sound : Sound items amount progress) (among : list ⊆ items)
    (unique : (list.map ProposalItem.openItemId).Nodup) : Serving items amount progress list (serve progress list) := by
  induction list generalizing progress with
  | nil =>
    refine ⟨sound, ⟨[], (append_nil _).symm, ?_, ?_, ?_, List.Pairwise.nil⟩, ?_, fun _ _ => rfl⟩
    · exact fun _ none => absurd none not_mem_nil
    · exact fun _ none => absurd none not_mem_nil
    · exact fun some => absurd rfl some
    · exact fun _ _ none => absurd none not_mem_nil
  | cons item rest ih =>
    rw [map_cons, nodup_cons] at unique
    rw [serve]
    split
    · rename_i nothing
      refine ⟨sound, ⟨[], (append_nil _).symm, ?_, ?_, ?_, ?_⟩, ?_, fun _ _ => rfl⟩
      · exact fun _ none => absurd none not_mem_nil
      · exact fun _ none => absurd none not_mem_nil
      · exact fun some => absurd rfl some
      · apply pairwise_of_forall
        rintro _ _ ⟨allocation, none, -⟩
        exact absurd none not_mem_nil
      · exact fun more => absurd more (not_lt.mpr nothing)
    · rename_i something
      have member : item ∈ items := among mem_cons_self
      have valueNonneg : 0 ≤ progress.value item none := value_nonneg sound none (fun _ none => by cases none)
      have taken : Taken progress item none .statutory _ := take_taken valueNonneg
      have serving := ih (taken.sound sound member) (fun _ isRest => among (mem_cons_of_mem _ isRest)) unique.2
      obtain ⟨added, allocations, reasons, ids, some, ordered⟩ := serving.allocations
      obtain ⟨own, ownAllocations, -, each⟩ := taken.allocations
      have isLeft : (serve (progress.take item none .statutory) rest).left item.openItemId =
          progress.left item.openItemId - progress.value item none := by
        rw [serving.others _ unique.1, taken.left, Function.update_self]
      -- either the item is served in full or the payment is used up
      have full : 0 < (progress.take item none .statutory).rest →
          (serve (progress.take item none .statutory) rest).left item.openItemId = 0 := by
        intro more
        rw [taken.rest, sub_pos] at more
        have isValue : progress.value item none = progress.left item.openItemId := by
          unfold Progress.value at more ⊢
          rcases min_choice progress.rest ((none : Option Decimal).elim (progress.left item.openItemId) fun asked =>
            min asked (progress.left item.openItemId)) with all | asks
          · rw [all] at more
            exact absurd more (lt_irrefl _)
          · exact asks
        rw [isLeft, isValue, sub_self]
      have restUp : (serve (progress.take item none .statutory) rest).rest ≤ (progress.take item none .statutory).rest := by
        have before := (taken.sound sound member).conserved
        have after := serving.sound.conserved
        rw [allocations, map_append, sum_append] at after
        have addedNonneg : 0 ≤ (added.map Allocation.amount).sum := by
          apply sum_nonneg
          intro value isValue
          obtain ⟨allocation, isAdded, rfl⟩ := mem_map.mp isValue
          have inNext : allocation ∈ (serve (progress.take item none .statutory) rest).allocations := by
            rw [allocations]
            exact mem_append_right _ isAdded
          exact (serving.sound.positive allocation inNext).le
        linarith
      refine ⟨serving.sound, ⟨own ++ added, ?_, ?_, ?_, ?_, ?_⟩, ?_, ?_⟩
      · rw [allocations, ownAllocations, append_assoc]
      · intro allocation isAllocation
        rcases mem_append.mp isAllocation with isOwn | isAdded
        · exact (each allocation isOwn).2.1
        · exact reasons allocation isAdded
      · intro allocation isAllocation
        rw [map_cons, mem_cons]
        rcases mem_append.mp isAllocation with isOwn | isAdded
        · exact Or.inl (each allocation isOwn).1
        · exact Or.inr (ids allocation isAdded)
      · exact fun _ => lt_of_not_ge something
      · rw [pairwise_cons]
        constructor
        · rintro later isLater ⟨allocation, isAllocation, isId⟩
          have notOwn : allocation ∉ own := by
            intro isOwn
            apply unique.1
            rw [← (each allocation isOwn).1, isId]
            exact mem_map_of_mem isLater
          have isAdded := (mem_append.mp isAllocation).resolve_left notOwn
          exact full (some (ne_nil_of_mem isAdded))
        · refine ordered.imp_of_mem ?_
          rintro earlier later isEarlier isLater kept ⟨allocation, isAllocation, isId⟩
          have notOwn : allocation ∉ own := by
            intro isOwn
            apply unique.1
            rw [← (each allocation isOwn).1, isId]
            exact mem_map_of_mem isLater
          exact kept ⟨allocation, (mem_append.mp isAllocation).resolve_left notOwn, isId⟩
      · intro more other isOther
        rcases mem_cons.mp isOther with rfl | isRest
        · exact full (lt_of_lt_of_le more restUp)
        · exact serving.exhausted more other isRest
      · intro id notIn
        rw [map_cons, mem_cons, not_or] at notIn
        rw [serving.others id notIn.2, taken.left, Function.update_of_ne notIn.1]

section Order

variable {asOf : Date}

local instance : Std.Total fun first second : ProposalItem => statutoryKey asOf first ≤ statutoryKey asOf second where
  total _ _ := le_total _ _

local instance : IsTrans ProposalItem fun first second => statutoryKey asOf first ≤ statutoryKey asOf second where
  trans _ _ _ := le_trans

theorem statutoryOrder_sorted (asOf : Date) (items : List ProposalItem) :
    (statutoryOrder asOf items).Pairwise fun first second => statutoryKey asOf first ≤ statutoryKey asOf second :=
  pairwise_insertionSort ..

theorem statutoryOrder_perm (asOf : Date) (items : List ProposalItem) : (statutoryOrder asOf items).Perm items :=
  perm_insertionSort ..

theorem statutoryKey_id (same : statutoryKey asOf item = statutoryKey asOf other) : item.openItemId = other.openItemId := by
  simp only [statutoryKey, toLex_inj, Prod.mk.injEq] at same
  exact same.2.2.2.2.2.2

theorem statutoryOrder_eq (unique : (items.map ProposalItem.openItemId).Nodup) (perm : items.Perm others) :
    statutoryOrder asOf items = statutoryOrder asOf others := by
  refine Mhvp.Lib.Sorting.insertionSort_eq_of_perm perm ?_
  intro first isFirst second isSecond before after
  exact inj_on_of_nodup_map unique isFirst isSecond (statutoryKey_id (le_antisymm before after))

end Order

theorem byId_perm (unique : (items.map ProposalItem.openItemId).Nodup) (perm : items.Perm others) :
    byId items = byId others := by
  have uniqueOthers := (perm.map ProposalItem.openItemId).nodup_iff.mp unique
  funext id
  cases found : byId items id with
  | some item =>
    obtain ⟨member, rfl⟩ := byId_mem found
    exact (byId_of_mem uniqueOthers (perm.mem_iff.mp member)).symm
  | none =>
    cases foundOther : byId others id with
    | none => rfl
    | some item =>
      obtain ⟨member, rfl⟩ := byId_mem foundOther
      rw [byId_of_mem unique (perm.mem_iff.mpr member)] at found
      cases found

theorem openAmounts_of_not_mem {id : ItemId} (absent : id ∉ items.map ProposalItem.openItemId) :
    openAmounts items id = 0 := by
  unfold openAmounts
  have none : items.reverse.find? (fun item => item.openItemId = id ∧ 0 < item.remaining) = none := by
    apply List.find?_eq_none.mpr
    intro item member isSelected
    have isId := (of_decide_eq_true isSelected).1
    exact absent (isId ▸ mem_map_of_mem (mem_reverse.mp member))
  rw [none]
  rfl

section

variable (unique : (items.map ProposalItem.openItemId).Nodup)
include unique

theorem openAmounts_perm (perm : items.Perm others) :
    openAmounts items = openAmounts others := by
  have uniqueOthers := (perm.map ProposalItem.openItemId).nodup_iff.mp unique
  funext id
  by_cases present : id ∈ items.map ProposalItem.openItemId
  · obtain ⟨item, member, rfl⟩ := mem_map.mp present
    rw [openAmounts_of_mem unique member, openAmounts_of_mem uniqueOthers (perm.mem_iff.mp member)]
  · have absentOthers : id ∉ others.map ProposalItem.openItemId :=
      fun presentOthers => present ((perm.map ProposalItem.openItemId).mem_iff.mpr presentOthers)
    rw [openAmounts_of_not_mem present, openAmounts_of_not_mem absentOthers]

theorem determine_perm (perm : items.Perm others)
    (progress : Progress) (determination : List Determination) :
    determine items progress determination = determine others progress determination := by
  induction determination generalizing progress with
  | nil => rfl
  | cons named rest ih =>
    unfold determine
    rw [byId_perm unique perm]
    simp only [ih]

theorem propose_perm (perm : items.Perm others) (amount : Decimal)
    (asOf : Date) (determination : List Determination) :
    propose items amount asOf determination = propose others amount asOf determination := by
  unfold propose
  rw [openAmounts_perm unique perm, determine_perm unique perm, statutoryOrder_eq unique perm]

theorem Sound.served_eq (sound : Sound items amount progress)
    (member : item ∈ items) :
    served progress.allocations item.openItemId = item.openAmount - progress.left item.openItemId := by
  rw [sound.left, openAmounts_of_mem unique member]
  ring

theorem propose_follows (accepted : propose items amount asOf determination = .ok proposal) :
    Follows items amount asOf determination proposal := by
  simp only [propose, bind_ok, exists_unit, require_ok, pure_ok] at accepted
  obtain ⟨positive, reached, determines, rfl⟩ := accepted
  have start : Determined items amount [] { rest := amount, left := openAmounts items } := by
    refine ⟨Sound.start items positive, fun _ none => absurd none not_mem_nil, ?_, ?_⟩
    · intro item _
      simp [served, demanded, item.openAmount_nonneg]
    · intro _ item _
      simp [served, demanded, item.openAmount_nonneg]
  have determined := determine_ok unique start determines
  rw [nil_append] at determined
  have inOrder := statutoryOrder_perm asOf items
  have among : statutoryOrder asOf items ⊆ items := fun _ member => inOrder.mem_iff.mp member
  have serving := serve_serving determined.sound among
    ((inOrder.map ProposalItem.openItemId).nodup_iff.mpr unique)
  obtain ⟨added, allocations, reasons, -, some, ordered⟩ := serving.allocations
  have sound := serving.sound
  constructor
  · exact sound.conserved
  · exact sound.rest
  · exact sound.positive
  · exact sound.known
  · intro item member
    rw [sound.served_eq unique member]
    linarith [sound.nonneg item.openItemId]
  · refine ⟨reached.allocations, added, allocations, determined.reason, reasons, determined.atMost, ?_⟩
    intro more item member
    refine determined.met ?_ item member
    rcases more with notEmpty | unallocated
    · exact some notEmpty
    · by_contra nothing
      -- serving never adds to what is left of the payment
      have usedUp : serve reached (statutoryOrder asOf items) = reached := by
        cases statutoryOrder asOf items with
        | nil => rfl
        | cons item rest => rw [serve, if_pos (le_of_not_gt nothing)]
      rw [usedUp] at unallocated
      exact nothing unallocated
  · rintro earlier isEarlier later isLater before ⟨allocation, isAllocation, isId, reason⟩
    have isAdded : allocation ∈ added := by
      rw [allocations] at isAllocation
      rcases mem_append.mp isAllocation with isDetermined | isAdded
      · rw [determined.reason allocation isDetermined] at reason
        cases reason
      · exact isAdded
    have left := Mhvp.Lib.Sorting.relates_later (statutoryOrder_sorted asOf items) ordered earlier
      (inOrder.mem_iff.mpr isEarlier) later (inOrder.mem_iff.mpr isLater) (not_le.mpr before) (le_refl _)
    rw [sound.served_eq unique isEarlier, left ⟨allocation, isAdded, isId⟩, sub_zero]
  · intro unallocated item member
    rw [sound.served_eq unique member, serving.exhausted unallocated item (inOrder.mem_iff.mpr member), sub_zero]

end

theorem propose_accepts (items : List ProposalItem) (amount : Decimal) (asOf : Date) (determination : List Determination) :
    (∃ proposal, propose items amount asOf determination = .ok proposal) ↔ 0 < amount ∧ ∀ named ∈ determination,
      named.openItemId ∈ items.map ProposalItem.openItemId ∧ ∀ asked ∈ named.amount, 0 < asked := by
  simp only [propose, bind_ok, exists_unit, require_ok, pure_ok]
  rw [← determine_accepts items { rest := amount, left := openAmounts items } determination]
  constructor
  · rintro ⟨proposal, positive, reached, determines, -⟩
    exact ⟨positive, reached, determines⟩
  · rintro ⟨positive, reached, determines⟩
    exact ⟨_, positive, reached, determines, rfl⟩

/-- Open items are rows of their own, so no id stands twice. -/
abbrev OpenItems := { items : List ProposalItem // (items.map ProposalItem.openItemId).Nodup }

/-- Every payment that is proposed at all follows the order, and the order of the list makes no difference. -/
theorem settlement_proposed (items : OpenItems) (amount : Decimal) (asOf : Date) (determination : List Determination) :
    ((∃ proposal, propose items.1 amount asOf determination = .ok proposal) ↔ 0 < amount ∧ ∀ named ∈ determination,
      named.openItemId ∈ items.1.map ProposalItem.openItemId ∧ ∀ asked ∈ named.amount, 0 < asked) ∧
    (∀ proposal, propose items.1 amount asOf determination = .ok proposal →
      Follows items.1 amount asOf determination proposal) ∧
    ∀ others : List ProposalItem, items.1.Perm others →
      propose others amount asOf determination = propose items.1 amount asOf determination :=
  ⟨propose_accepts .., fun _ accepted => propose_follows items.2 accepted,
    fun _ perm => (propose_perm items.2 perm ..).symm⟩

end Mhvp.Accounting.Settlement
