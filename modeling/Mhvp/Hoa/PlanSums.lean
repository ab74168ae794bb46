import Mathlib.Algebra.Group.Pi.Lemmas
import Mhvp.Hoa.Plans

namespace Mhvp.Hoa

open Core Accounting Billing Lib.Calendar Lib.Aggregate Lib.Tally List

variable {register : PropertyRegister} {propertyId : Option PropertyId} {keyId : AllocationKeyId} {start last : Date}
  {shares : List Share} {parts : List (ShareKey × Decimal)}

theorem unitWeights_ok (accepted : unitWeights register propertyId keyId start last = .ok shares) :
    shares = (unitsOf register propertyId).filterMap (unitShare register keyId start last) ∧ shares ≠ [] := by
  unfold unitWeights at accepted
  dsimp only at accepted
  split at accepted
  · cases accepted
  · split at accepted
    · cases accepted
    · rename_i positive
      cases accepted
      exact ⟨rfl, fun none => positive (Or.inl none)⟩

theorem unitsOf_unique (register : PropertyRegister) (propertyId : Option PropertyId) :
    ((unitsOf register propertyId).map Prod.snd).Nodup := by
  have sorted := perm_insertionSort (fun first second : UnitRow × UnitId => first.1.number ≤ second.1.number)
    (register.units.zipIdx.filter fun unit => propertyId = some unit.1.propertyId)
  apply (sorted.map Prod.snd).nodup_iff.mpr
  apply (filter_sublist.map Prod.snd).nodup
  rw [zipIdx_map_snd]
  exact nodup_range'

theorem unitShare_key (isShare : unitShare register keyId start last unit = some share) : share.key.2 = unit.2 := by
  unfold unitShare at isShare
  split at isShare
  · cases isShare
  · cases isShare
    rfl

theorem shares_unique (register : PropertyRegister) (propertyId : Option PropertyId) (keyId : AllocationKeyId)
    (start last : Date) :
    ((((unitsOf register propertyId).filterMap (unitShare register keyId start last)).map Share.key).map
      Prod.snd).Nodup := by
  have unique := unitsOf_unique register propertyId
  generalize unitsOf register propertyId = units at *
  have kept : (((units.filterMap (unitShare register keyId start last)).map Share.key).map Prod.snd).Sublist
      (units.map Prod.snd) := by
    clear unique
    induction units with
    | nil => exact List.Sublist.refl _
    | cons unit rest ih =>
      cases isShare : unitShare register keyId start last unit with
      | none =>
        rw [filterMap_cons_none isShare, map_cons]
        exact ih.cons _
      | some share =>
        rw [filterMap_cons_some isShare, map_cons, map_cons, map_cons, unitShare_key isShare]
        exact ih.cons_cons _
  exact kept.nodup unique

theorem shares_few (register : PropertyRegister) (propertyId : Option PropertyId) (keyId : AllocationKeyId)
    (start last : Date) :
    ((unitsOf register propertyId).filterMap (unitShare register keyId start last)).length ≤ register.units.length := by
  have sorted := perm_insertionSort (fun first second : UnitRow × UnitId => first.1.number ≤ second.1.number)
    (register.units.zipIdx.filter fun unit => propertyId = some unit.1.propertyId)
  calc ((unitsOf register propertyId).filterMap (unitShare register keyId start last)).length
      ≤ (unitsOf register propertyId).length := length_filterMap_le ..
    _ = (register.units.zipIdx.filter fun unit => propertyId = some unit.1.propertyId).length := sorted.length_eq
    _ ≤ register.units.zipIdx.length := length_filter_le ..
    _ = register.units.length := length_zipIdx

/-- No unit has a negative value of the key, and there are few enough units for 28 digits. -/
def NonnegKey (register : PropertyRegister) (keyId : AllocationKeyId) : Prop :=
  (∀ value ∈ register.values, value.allocationKeyId = keyId → 0 ≤ value.value) ∧ register.units.length ≤ shareLimit

theorem unitShare_nonneg (nonneg : NonnegKey register keyId)
    (isShare : unitShare register keyId start last unit = some share) : 0 ≤ share.weight := by
  unfold unitShare at isShare
  split at isShare
  · cases isShare
  · cases isShare
    refine contextRound_accurate.round_nonneg (div_nonneg (sum_nonneg ?_) (Nat.cast_nonneg _))
    intro part member
    obtain ⟨span, isSpan, rfl⟩ := mem_map.mp member
    obtain ⟨value, isValue, isOverlap⟩ := mem_filterMap.mp isSpan
    obtain ⟨found, sameKey⟩ := mem_filter.mp isValue
    obtain ⟨period, -, rfl⟩ := Option.map_eq_some_iff.mp isOverlap
    have keyOf : value.allocationKeyId = keyId := (of_decide_eq_true sameKey).2
    exact mul_nonneg (nonneg.1 value found keyOf) (Nat.cast_nonneg _)

/-- Cents that the distribution of an amount over the units of a key gives beyond it. -/
def keySurplus (register : PropertyRegister) (propertyId : Option PropertyId) (start last : Date)
    (keyId : AllocationKeyId) (amount : Decimal) : ℤ :=
  match unitWeights register propertyId keyId start last with
  | .ok shares => surplusCents amount shares
  | .error _ => 0

theorem distributed_ok (accepted : distributed register propertyId keyId start last amount = .ok parts) :
    ∃ shares, unitWeights register propertyId keyId start last = .ok shares ∧ distribute amount shares = some parts := by
  simpa only [distributed, bind_ok, orRefuse_ok] using accepted

theorem distributed_sum (isMoney : IsMoney amount)
    (accepted : distributed register propertyId keyId start last amount = .ok parts) :
    partsSum parts = amount + keySurplus register propertyId start last keyId amount * cent := by
  obtain ⟨shares, weighed, isParts⟩ := distributed_ok accepted
  have unique : (shares.map Share.key).Nodup := by
    rw [(unitWeights_ok weighed).1]
    exact (shares_unique ..).of_map
  unfold keySurplus
  rw [weighed]
  exact distribute_sum unique isMoney.cents isParts

/-- Where no weight is negative, nothing is given beyond the amount and nothing is missing. -/
theorem keySurplus_nonneg (nonneg : NonnegKey register keyId) (isMoney : IsMoney amount)
    (accepted : distributed register propertyId keyId start last amount = .ok parts) :
    keySurplus register propertyId start last keyId amount = 0 := by
  obtain ⟨shares, weighed, isParts⟩ := distributed_ok accepted
  have isShares := (unitWeights_ok weighed).1
  unfold keySurplus
  rw [weighed]
  apply surplusCents_nonneg
  · intro share member
    rw [isShares] at member
    obtain ⟨unit, -, isShare⟩ := mem_filterMap.mp member
    exact unitShare_nonneg nonneg isShare
  · rw [isShares]
    exact (shares_few ..).trans nonneg.2
  · exact isMoney
  · exact distribute_positive isParts

def PlanItem.surplus (register : PropertyRegister) (propertyId : Option PropertyId) (start last : Date)
    (item : PlanItem) : ℤ :=
  keySurplus register propertyId start last item.allocationKeyId item.amount

/-- What the items have collected so far: each component its sum, and for each unit its reserve in parts. -/
structure PlanTally.Holds (tally : PlanTally) (sums : Component → Decimal) : Prop where
  unique : (tally.perUnit.map Prod.fst).Nodup
  shares : ∀ component,
    sumWhere (fun _ => True) (fun unit : ShareKey × (Component → Decimal) => unit.2 component) tally.perUnit =
      sums component
  splits : ∀ key,
    sumWhere (fun unit => unit.1 = key) (fun unit : ShareKey × (Component → Decimal) => unit.2 .reserve) tally.perUnit =
      sumWhere (fun split => split.1.1 = key) Prod.snd tally.reserveSplit

private theorem sumWhere_single (selects : ShareKey → Prop) [DecidablePred selects] (booked read : Component)
    (parts : List (ShareKey × Decimal)) :
    sumWhere (fun unit => selects unit.1) (fun unit : ShareKey × (Component → Decimal) => unit.2 read)
        (parts.map fun part => (part.1, Pi.single booked part.2)) =
      if booked = read then sumWhere (fun part => selects part.1) Prod.snd parts else 0 := by
  rw [sumWhere_map]
  split
  · rename_i same
    subst same
    exact sumWhere_congr (fun _ _ => Iff.rfl) fun _ _ _ => Pi.single_eq_same ..
  · rename_i different
    exact sumWhere_eq_zero fun _ _ _ => Pi.single_eq_of_ne (Ne.symm different) _

theorem PlanTally.Holds.book (holds : PlanTally.Holds tally sums) (item : PlanItem)
    (parts : List (ShareKey × Decimal)) :
    (tally.book item parts).Holds fun component =>
      sums component + if item.component = component then partsSum parts else 0 := by
  have partsAll : sumWhere (fun _ => True) Prod.snd parts = partsSum parts := by simp [sumWhere, partsSum]
  have read (selects : ShareKey → Prop) [DecidablePred selects] (component : Component) :=
    sumWhere_addAll selects (Pi.evalAddMonoidHom (fun _ : Component => Decimal) component) tally.perUnit
      (parts.map fun part => (part.1, Pi.single item.component part.2))
  simp only [Pi.evalAddMonoidHom_apply] at read
  constructor
  · exact nodup_addAll holds.unique _
  · intro component
    unfold PlanTally.book
    rw [read (fun _ => True) component, holds.shares, sumWhere_single (fun _ => True), partsAll]
  · intro key
    unfold PlanTally.book
    rw [read (fun unit => unit = key) .reserve, holds.splits, sumWhere_single fun unit => unit = key]
    by_cases isReserve : item.component = .reserve
    · rw [if_pos isReserve, if_pos isReserve]
      have added := sumWhere_addAll (fun split : ShareKey × Option ReserveId => split.1 = key)
        (AddMonoidHom.id Decimal) tally.reserveSplit (parts.map fun part => ((part.1, item.reserveId), part.2))
      simp only [AddMonoidHom.id_apply] at added
      rw [added, sumWhere_map]
    · rw [if_neg isReserve, if_neg isReserve, add_zero]

/-- What the items of a component add up to, with the cents their distributions give beyond them. -/
def componentSum (register : PropertyRegister) (propertyId : Option PropertyId) (start last : Date)
    (items : List PlanItem) (component : Component) : Decimal :=
  sumWhere (fun item => item.component = component)
    (fun item => item.amount + item.surplus register propertyId start last * cent) items

theorem planTally_holds (accepted : planTally register propertyId items start last = .ok tally) :
    tally.Holds (componentSum register propertyId start last items) := by
  have collects : ∀ (tally final : PlanTally) (sums : Component → Decimal), tally.Holds sums →
      items.foldlM (fun tally item => do
        let parts ← distributed register propertyId item.allocationKeyId start last item.amount
        pure (tally.book item parts)) tally = .ok final →
      final.Holds fun component => sums component + componentSum register propertyId start last items component := by
    clear accepted
    induction items with
    | nil =>
      intro tally final sums holds same
      rw [foldlM_nil, pure_ok] at same
      subst same
      simpa [componentSum] using holds
    | cons item rest ih =>
      intro tally final sums holds accepted
      simp only [foldlM_cons, bind_ok, pure_ok] at accepted
      obtain ⟨next, ⟨parts, isParts, rfl⟩, later⟩ := accepted
      have booked := ih _ _ _ (holds.book item parts) later
      rw [distributed_sum item.isMoney isParts] at booked
      refine ⟨booked.unique, fun component => ?_, booked.splits⟩
      rw [booked.shares, add_assoc]
      unfold componentSum
      rw [sumWhere_cons]
      rfl
  have empty : PlanTally.Holds {} fun _ => 0 := ⟨nodup_nil, fun _ => rfl, fun _ => rfl⟩
  simpa using collects {} tally _ empty accepted

/-- The plan adds up: the shares of the units to each component, and the reserves of a unit to its contribution. -/
structure PlanResult.Exact (result : PlanResult) : Prop where
  components : ∀ component, (result.units.map fun unit => unit.annual component).sum = result.totals component
  splits : ∀ unit ∈ result.units, (unit.reserveSplit.map Prod.snd).sum = unit.annual .reserve

/-- The shares of a component are its total and what the distributions give beyond it; the reserves of a unit always
add up. -/
theorem planResults_sums (accepted : planResults register propertyId items start last mode = .ok result) :
    (∀ component, (result.units.map fun unit => unit.annual component).sum =
      componentSum register propertyId start last items component) ∧
    (∀ unit ∈ result.units, (unit.reserveSplit.map Prod.snd).sum = unit.annual .reserve) ∧
    ∀ component, result.totals component = sumWhere (fun item => item.component = component) PlanItem.amount items := by
  simp only [planResults, bind_ok, pure_ok] at accepted
  obtain ⟨tally, isTally, rfl⟩ := accepted
  have holds := planTally_holds isTally
  have sorted := perm_insertionSort
    (fun first second : ShareKey × (Component → Decimal) => first.1.1 ≤ second.1.1) tally.perUnit
  refine ⟨fun component => ?_, fun unit member => ?_, fun component => rfl⟩
  · rw [map_map, ← holds.shares, ← sum_column (fun annual : Component → Decimal => annual component)]
    exact (sorted.map _).sum_eq
  · obtain ⟨share, isShare, rfl⟩ := mem_map.mp member
    have atUnit : sumWhere (fun other => other.1 = share.1) (fun other => other.2 .reserve) tally.perUnit =
        share.2 .reserve :=
      sumWhere_key holds.unique (sorted.mem_iff.mp isShare)
    rw [holds.splits] at atUnit
    unfold planUnit
    dsimp only
    rw [← atUnit, ((perm_insertionSort ..).map Prod.snd).sum_eq, map_map]
    rfl

private theorem cent_ne_zero : cent ≠ 0 := by norm_num [cent]

/-- Amounts with cents beyond them add up to the amounts exactly where the cents add up to none. -/
theorem sum_surplus_iff (amount : Item → Decimal) (surplus : Item → ℤ) (items : List Item) :
    (items.map fun item => amount item + surplus item * cent).sum = (items.map amount).sum ↔
      (items.map surplus).sum = 0 := by
  have cents : (items.map fun item => (surplus item : ℚ) * cent).sum = ((items.map surplus).sum : ℤ) * cent := by
    have casted := map_list_sum (Int.castAddHom ℚ) (items.map surplus)
    rw [map_map] at casted
    rw [sum_map_mul_right]
    exact congrArg (· * cent) casted.symm
  rw [sum_map_add, add_eq_left, cents, mul_eq_zero, or_iff_left cent_ne_zero, Int.cast_eq_zero]

theorem planResults_exact_iff (accepted : planResults register propertyId items start last mode = .ok result) :
    result.Exact ↔ ∀ component,
      sumWhere (fun item => item.component = component) (PlanItem.surplus register propertyId start last) items = 0 := by
  obtain ⟨shares, splits, totals⟩ := planResults_sums accepted
  have each (component : Component) : (result.units.map fun unit => unit.annual component).sum = result.totals component ↔
      sumWhere (fun item => item.component = component) (PlanItem.surplus register propertyId start last) items = 0 := by
    rw [shares, totals]
    exact sum_surplus_iff ..
  constructor
  · exact fun exact' component => (each component).mp (exact'.components component)
  · exact fun nothing => ⟨fun component => (each component).mpr (nothing component), splits⟩

def CostItem.surplus (register : PropertyRegister) (propertyId : Option PropertyId) (start last : Date)
    (item : CostItem) : ℤ :=
  keySurplus register propertyId start last item.allocationKeyId item.amount

/-- Amount of a position, and the sum of its split. -/
def Position.amounts (position : Position) : Decimal × Decimal :=
  (position.amount, (position.split.map Prod.snd).sum)

/-- Amount of an item, and what its distribution gives. -/
def CostItem.amounts (register : PropertyRegister) (propertyId : Option PropertyId) (start last : Date)
    (item : CostItem) : Decimal × Decimal :=
  (item.amount, item.amount + item.surplus register propertyId start last * cent)

/-- The costs of the units are the splits of the positions, and each position is an item with its distribution. -/
theorem costTally_holds (accepted : costTally register propertyId items start last = .ok tally) :
    tally.positions.map Position.amounts = items.map (CostItem.amounts register propertyId start last) ∧
      (tally.costs.map Prod.snd).sum =
        (items.map fun item => (item.amounts register propertyId start last).2).sum := by
  have collects : ∀ tally final : CostTally,
      items.foldlM (fun tally item => do
        let parts ← distributed register propertyId item.allocationKeyId start last item.amount
        pure (tally.book item parts)) tally = .ok final →
      final.positions.map Position.amounts =
          tally.positions.map Position.amounts ++ items.map (CostItem.amounts register propertyId start last) ∧
        (final.costs.map Prod.snd).sum = (tally.costs.map Prod.snd).sum +
          (items.map fun item => (item.amounts register propertyId start last).2).sum := by
    clear accepted
    induction items with
    | nil =>
      intro tally final same
      rw [foldlM_nil, pure_ok] at same
      subst same
      simp
    | cons item rest ih =>
      intro tally final accepted
      simp only [foldlM_cons, bind_ok, pure_ok] at accepted
      obtain ⟨next, ⟨parts, isParts, rfl⟩, later⟩ := accepted
      obtain ⟨positions, costs⟩ := ih _ _ later
      have isSum : partsSum parts = (item.amounts register propertyId start last).2 :=
        distributed_sum item.isMoney isParts
      have added := sumWhere_addAll (fun _ => True) (AddMonoidHom.id Decimal) tally.costs parts
      simp only [AddMonoidHom.id_apply, ← sum_column fun amount : Decimal => amount] at added
      constructor
      · rw [positions]
        have same : ((parts.map fun part => (part.1.2, part.2)).map Prod.snd).sum = partsSum parts := by
          rw [map_map]
          rfl
        simp only [CostTally.book, map_append, map_cons, map_nil, append_assoc,
          singleton_append, Position.amounts, same, isSum]
        rfl
      · rw [costs, map_cons, sum_cons, ← add_assoc, ← isSum]
        congr 1
  obtain ⟨positions, costs⟩ := collects {} tally accepted
  exact ⟨by simpa using positions, by simpa using costs⟩

/-- The statement adds up: each position to its amount, the costs of the units and their results to the total costs,
and what is paid on the reserves to the contributions. -/
structure StatementResult.Exact (result : StatementResult) : Prop where
  positions : ∀ position ∈ result.positions, (position.split.map Prod.snd).sum = position.amount
  costs : (result.units.map StatementUnit.costShare).sum = result.totalCosts
  results : (result.units.map fun unit => unit.result + unit.advancesResolved).sum = result.totalCosts
  reserve : (result.reserve.contributionsPaidByReserve.map Prod.snd).sum + result.reserve.contributionsPaidUnassigned =
    result.reserve.contributionsPaid

section

variable (accepted : statementResults db register statement ledgerId ledger items = .ok result)
include accepted

theorem statementResults_sums :
    result.positions.map Position.amounts = items.map (CostItem.amounts register ledger.propertyId
        (.ofYmd statement.year 1 1) (.ofYmd statement.year 12 31)) ∧
      (result.units.map StatementUnit.costShare).sum = (items.map fun item => (item.amounts register ledger.propertyId
        (.ofYmd statement.year 1 1) (.ofYmd statement.year 12 31)).2).sum ∧
      (∀ unit ∈ result.units, unit.result + unit.advancesResolved = unit.costShare) ∧
      (result.reserve.contributionsPaidByReserve.map Prod.snd).sum + result.reserve.contributionsPaidUnassigned =
        result.reserve.contributionsPaid ∧
      result.totalCosts = (items.map CostItem.amount).sum := by
  simp only [statementResults, bind_ok, pure_ok] at accepted
  obtain ⟨tally, isTally, rfl⟩ := accepted
  obtain ⟨positions, costs⟩ := costTally_holds isTally
  have sorted := perm_insertionSort (fun first second : ShareKey × Decimal => first.1.1 ≤ second.1.1) tally.costs
  refine ⟨positions, ?_, fun unit member => ?_, ?_, rfl⟩
  · rw [← costs, map_map]
    exact (sorted.map Prod.snd).sum_eq
  · obtain ⟨share, -, rfl⟩ := mem_map.mp member
    exact sub_add_cancel _ _
  · rw [((perm_insertionSort ..).map Prod.snd).sum_eq]
    exact add_sub_cancel _ _

theorem statementResults_exact_iff :
    result.Exact ↔ ∀ item ∈ items, item.surplus register ledger.propertyId (.ofYmd statement.year 1 1)
      (.ofYmd statement.year 12 31) = 0 := by
  obtain ⟨positions, costs, results, reserve, total⟩ := statementResults_sums accepted
  have exactly : (∀ position ∈ result.positions, (position.split.map Prod.snd).sum = position.amount) ↔
      ∀ item ∈ items, item.surplus register ledger.propertyId (.ofYmd statement.year 1 1)
        (.ofYmd statement.year 12 31) = 0 := by
    have pairs : (∀ pair ∈ result.positions.map Position.amounts, pair.2 = pair.1) ↔
        ∀ pair ∈ items.map (CostItem.amounts register ledger.propertyId (.ofYmd statement.year 1 1)
          (.ofYmd statement.year 12 31)), pair.2 = pair.1 := by
      rw [positions]
    simp only [forall_mem_map, Position.amounts, CostItem.amounts, add_eq_left, mul_eq_zero, cent_ne_zero,
      or_false, Int.cast_eq_zero] at pairs
    exact pairs
  constructor
  · exact fun exact' => exactly.mp exact'.positions
  · intro nothing
    have isTotal : (result.units.map StatementUnit.costShare).sum = result.totalCosts := by
      rw [costs, total]
      apply (sum_surplus_iff ..).mpr
      apply sum_eq_zero
      intro cents member
      obtain ⟨item, isItem, rfl⟩ := mem_map.mp member
      exact nothing item isItem
    refine ⟨exactly.mpr nothing, isTotal, ?_, reserve⟩
    rw [map_congr_left results]
    exact isTotal

end

private theorem each_distributed {Item Parts Tally : Type} {part : Item → Result Parts}
    {book : Tally → Item → Parts → Tally} {items : List Item} {tally final : Tally}
    (accepted : items.foldlM (fun tally item => do
      let parts ← part item
      pure (book tally item parts)) tally = .ok final) :
    ∀ item ∈ items, ∃ parts, part item = .ok parts := by
  induction items generalizing tally with
  | nil => simp
  | cons item rest ih =>
    simp only [foldlM_cons, bind_ok, pure_ok] at accepted
    obtain ⟨next, ⟨parts, isParts, -⟩, later⟩ := accepted
    exact forall_mem_cons.mpr ⟨⟨parts, isParts⟩, ih later⟩

/-- A plan adds up exactly where over the items of each component the cents given beyond an item are as many as the
cents missing in another, and a statement exactly where each item is distributed to the cent. An item is distributed to
the cent where no unit has a negative value of its key. -/
theorem results_exact_iff (register : PropertyRegister) :
    (∀ propertyId items start last mode result,
      planResults register propertyId items start last mode = .ok result →
      (result.Exact ↔ ∀ component, sumWhere (fun item => item.component = component)
        (PlanItem.surplus register propertyId start last) items = 0) ∧
      ((∀ item ∈ items, NonnegKey register item.allocationKeyId) → result.Exact)) ∧
    ∀ db statement ledgerId ledger items result,
      statementResults db register statement ledgerId ledger items = .ok result →
      (result.Exact ↔ ∀ item ∈ items, item.surplus register ledger.propertyId (.ofYmd statement.year 1 1)
        (.ofYmd statement.year 12 31) = 0) ∧
      ((∀ item ∈ items, NonnegKey register item.allocationKeyId) → result.Exact) := by
  constructor
  · intro propertyId items start last mode result accepted
    have exactly := planResults_exact_iff accepted
    refine ⟨exactly, fun nonneg => exactly.mpr fun component => sumWhere_eq_zero fun item member _ => ?_⟩
    simp only [planResults, bind_ok, pure_ok] at accepted
    obtain ⟨tally, isTally, -⟩ := accepted
    obtain ⟨parts, isParts⟩ := each_distributed isTally item member
    exact keySurplus_nonneg (nonneg item member) item.isMoney isParts
  · intro db statement ledgerId ledger items result accepted
    have exactly := statementResults_exact_iff accepted
    refine ⟨exactly, fun nonneg => exactly.mpr fun item member => ?_⟩
    simp only [statementResults, bind_ok, pure_ok] at accepted
    obtain ⟨tally, isTally, -⟩ := accepted
    obtain ⟨parts, isParts⟩ := each_distributed isTally item member
    exact keySurplus_nonneg (nonneg item member) item.isMoney isParts

def threeUnits (first second third : Decimal) : PropertyRegister where
  units := [⟨0, "1"⟩, ⟨0, "2"⟩, ⟨0, "3"⟩]
  values := [⟨0, 0, first, .ofYmd 2020 1 1, none⟩, ⟨1, 0, second, .ofYmd 2020 1 1, none⟩,
    ⟨2, 0, third, .ofYmd 2020 1 1, none⟩]

theorem isMoney_hundred : IsMoney 100 := ⟨by decide +kernel, by norm_num⟩

theorem isMoney_cent : IsMoney (1 / 100) := ⟨by decide +kernel, by norm_num⟩

def feeItem (amount : Decimal) (isMoney : IsMoney amount) : PlanItem :=
  { component := .hoaFee, amount, allocationKeyId := 0, isMoney }

def planOf (register : PropertyRegister) (item : PlanItem) : Result PlanResult :=
  planResults register (some 0) [item] (.ofYmd 2026 1 1) (.ofYmd 2026 12 31) .reportOnly

theorem thirds_accepted : (answer? (planOf (threeUnits 1 1 1) (feeItem 100 isMoney_hundred))).isSome := by
  decide +kernel

/-- 33.34, 33.33 and 33.33. -/
theorem sample_results_exact :
    ((answer? (planOf (threeUnits 1 1 1) (feeItem 100 isMoney_hundred))).get thirds_accepted).Exact := by
  apply ((results_exact_iff (threeUnits 1 1 1)).1 _ _ _ _ _ _ (accepted_of_isSome thirds_accepted)).2
  intro item member
  rw [mem_singleton.mp member]
  refine ⟨?_, by decide +kernel⟩
  intro value isValue _
  simp only [threeUnits, mem_cons, not_mem_nil, or_false] at isValue
  rcases isValue with rfl | rfl | rfl <;> exact zero_le_one

theorem negative_weights_accepted :
    (answer? (planOf (threeUnits 4 (-1) (-1)) (feeItem (1 / 100) isMoney_cent))).isSome := by
  decide +kernel

/-- One cent over the weights 4, -1 and -1: the shares cut to cents are 0.02, 0.00 and 0.00, the rest of minus one cent
raises all shares but the last of the order, and the units are charged four cents. -/
theorem negative_weights_not_exact :
    ¬ ∀ (register : PropertyRegister) (propertyId : Option PropertyId) (items : List PlanItem) (start last : Date)
      (mode : RemainderMode) (result : PlanResult),
      planResults register propertyId items start last mode = .ok result →
      (∀ component, (result.units.map fun unit => unit.annual component).sum = result.totals component) ∧
        ∀ unit ∈ result.units, (unit.reserveSplit.map Prod.snd).sum = unit.annual .reserve := by
  intro claimed
  have same := (claimed _ _ _ _ _ _ _ (accepted_of_isSome negative_weights_accepted)).1 .hoaFee
  revert same
  decide +kernel

end Mhvp.Hoa
