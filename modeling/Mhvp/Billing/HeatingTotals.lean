import Mhvp.Billing.HeatingCosts
import Mhvp.Core.Problem

namespace Mhvp.Billing.Heating

open Core Lib.Calendar Lib.Rounding List

variable {input : HeatingInput} {mode : NegativeCosts} {part : Decimal} {shares : List Share}
  {parts : List (ShareKey × Decimal)}

@[simp] theorem check_ok [Decidable accepted] :
    check accepted error = .ok result ↔ accepted := by
  unfold check
  split <;> simp_all

@[simp] theorem needed_ok :
    needed value error = .ok result ↔ value = some result := by
  cases value <;> simp [needed]

theorem lookup_sum {keys} (unique : keys.Nodup) (perm : (parts.map Prod.fst).Perm keys) :
    (keys.map fun key => (parts.lookup key).getD 0).sum = partsSum parts := by
  have distinct : (parts.map Prod.fst).Nodup := perm.nodup_iff.mpr unique
  rw [← (perm.map _).sum_eq, map_map, partsSum]
  congr 1
  apply map_congr_left
  intro own member
  have found : parts.lookup own.1 = some own.2 := by
    clear perm
    induction parts with
    | nil => exact absurd member not_mem_nil
    | cons first rest ih =>
      rw [map_cons, nodup_cons] at distinct
      rcases mem_cons.mp member with rfl | later
      · rw [lookup_cons, beq_self_eq_true]
      · have differs : (own.1 == first.1) = false :=
          beq_false_of_ne fun same => distinct.1 (same ▸ mem_map_of_mem later)
        rw [lookup_cons, differs]
        exact ih distinct.2 later
  simp [found]

theorem splitPart_ok : splitPart mode part shares = .ok parts ↔
    IsDistributed mode part ∧ distribute part shares = some parts ∨
      ¬ IsDistributed mode part ∧ shares.map (fun share => (share.key, 0)) = parts := by
  unfold splitPart
  by_cases distributed : IsDistributed mode part
  · cases distribute part shares <;> simp [distributed]
  · simp [distributed]

theorem splitPart_keys (isParts : splitPart mode part shares = .ok parts) :
    (parts.map Prod.fst).Perm (shares.map Share.key) := by
  rcases splitPart_ok.mp isParts with ⟨-, isFound⟩ | ⟨-, rfl⟩
  · rw [distribute_keys isFound]
    exact (ordered_perm shares).map Share.key
  · rw [map_map]
    exact List.Perm.refl _

/-- What a part lacks that is not distributed, or that its distribution hands out too little. -/
def shortfall (mode : NegativeCosts) (part : Decimal) (shares : List Share) : Decimal :=
  if IsDistributed mode part then -(surplusCents part shares * cent) else part

theorem splitPart_sum (unique : (shares.map Share.key).Nodup) (isCents : IsCents part)
    (isParts : splitPart mode part shares = .ok parts) : partsSum parts = part - shortfall mode part shares := by
  unfold shortfall
  rcases splitPart_ok.mp isParts with ⟨distributed, isFound⟩ | ⟨leftOut, rfl⟩
  · rw [if_pos distributed, distribute_sum unique isCents isFound]
    ring
  · rw [if_neg leftOut, sub_self, partsSum, map_map]
    simp [Function.comp_def]

theorem splitPart_cents (isParts : splitPart mode part shares = .ok parts) : IsCents (partsSum parts) := by
  have each : ∀ own ∈ parts, IsCents own.2 := by
    rcases splitPart_ok.mp isParts with ⟨-, isFound⟩ | ⟨-, rfl⟩
    · unfold distribute at isFound
      split at isFound
      · obtain ⟨flipped, isFlipped, rfl⟩ := Option.map_eq_some_iff.mp isFound
        intro own member
        obtain ⟨other, isOther, rfl⟩ := mem_map.mp member
        exact (distributeAbs_cents isFlipped other isOther).neg
      · exact distributeAbs_cents isFound
    · intro own member
      obtain ⟨share, -, rfl⟩ := mem_map.mp member
      exact isCents_zero
  apply IsCents.sum
  intro value member
  obtain ⟨own, isOwn, rfl⟩ := mem_map.mp member
  exact each own isOwn

theorem HeatingInput.shareKeys_nodup (input : HeatingInput) : (input.occupants.map Occupant.shareKey).Nodup := by
  refine List.Nodup.of_map Prod.snd ?_
  rw [map_map]
  exact input.distinct

theorem consumptionShares_keys (occupants : List Occupant) (values : List (ℕ × Decimal)) :
    (consumptionShares occupants values).map Share.key = occupants.map Occupant.shareKey := by
  rw [consumptionShares, map_map]
  rfl

theorem basicShares_keys (occupants : List Occupant) (degreeDays : List (ℕ × Decimal)) :
    (basicShares occupants degreeDays).map Share.key = occupants.map Occupant.shareKey := by
  rw [basicShares, map_map]
  rfl

variable {label : Component} {costs : Decimal} {values : List (ℕ × Decimal)} {result : ComponentResult}

/-- What the parts of a component lack of its costs. -/
def componentShortfall (input : HeatingInput) (costs : Decimal) (values : List (ℕ × Decimal)) : Decimal :=
  let consumptionPart := portion costs input.settings.consumptionSharePercent 100
  shortfall input.settings.negativeCosts consumptionPart (consumptionShares input.occupants values) +
    shortfall input.settings.negativeCosts (costs - consumptionPart)
      (basicShares input.occupants input.settings.degreeDays)

/-- What the occupancies bear of a component. -/
def ComponentResult.total (result : ComponentResult) (input : HeatingInput) : Decimal :=
  (input.occupants.map result.ofOccupant).sum

section

variable (isResult : component label costs input.settings input.occupants values = .ok result)
include isResult

theorem component_parts :
    splitPart input.settings.negativeCosts (portion costs input.settings.consumptionSharePercent 100)
      (consumptionShares input.occupants values) = .ok result.consumption ∧
    splitPart input.settings.negativeCosts (costs - portion costs input.settings.consumptionSharePercent 100)
      (basicShares input.occupants input.settings.degreeDays) = .ok result.basic := by
  simp only [component, bind_ok, exists_unit, check_ok, pure_ok] at isResult
  obtain ⟨-, consumption, isConsumption, basic, isBasic, rfl⟩ := isResult
  exact ⟨isConsumption, isBasic⟩

theorem component_total :
    result.total input = partsSum result.consumption + partsSum result.basic := by
  obtain ⟨isConsumption, isBasic⟩ := component_parts isResult
  have unique := input.shareKeys_nodup
  have consumptionKeys := splitPart_keys isConsumption
  have basicKeys := splitPart_keys isBasic
  rw [consumptionShares_keys] at consumptionKeys
  rw [basicShares_keys] at basicKeys
  rw [← lookup_sum unique consumptionKeys, ← lookup_sum unique basicKeys, map_map, map_map, ← sum_map_add]
  rfl

end

theorem isCents_portion (amount numerator denominator : Decimal) : IsCents (portion amount numerator denominator) :=
  isCents_roundCents _

theorem component_sum (isCents : IsCents costs)
    (isResult : component label costs input.settings input.occupants values = .ok result) :
    result.total input = costs - componentShortfall input costs values := by
  obtain ⟨isConsumption, isBasic⟩ := component_parts isResult
  have unique := input.shareKeys_nodup
  have consumptionSum := splitPart_sum (by rw [consumptionShares_keys]; exact unique) (isCents_portion ..) isConsumption
  have basicSum := splitPart_sum (by rw [basicShares_keys]; exact unique) (isCents.sub (isCents_portion ..)) isBasic
  rw [component_total isResult, consumptionSum, basicSum]
  unfold componentShortfall
  ring

theorem component_cents (isResult : component label costs input.settings input.occupants values = .ok result) :
    IsCents (result.total input) := by
  obtain ⟨isConsumption, isBasic⟩ := component_parts isResult
  rw [component_total isResult]
  exact (splitPart_cents isConsumption).add (splitPart_cents isBasic)

/-- Total costs without what the landlord bears of the CO2 costs. -/
def allocableOf (input : HeatingInput) : Decimal := input.totalCosts - (co2Split input.co2).toOption.getD 0

def hotWaterOf (input : HeatingInput) : Decimal := (splitHotWater (allocableOf input) input.settings).toOption.getD 0

def valuesOf (input : HeatingInput) (component : Component) : List (ℕ × Decimal) :=
  ((resolveConsumption input component).toOption.map Prod.fst).getD []

/-- What the occupancies lack of the costs: parts left out, and what distributions hand out too little or too much. -/
def undistributed (input : HeatingInput) : Decimal :=
  componentShortfall input (allocableOf input - hotWaterOf input) (valuesOf input .heating) +
    if 0 < hotWaterOf input then componentShortfall input (hotWaterOf input) (valuesOf input .hotWater)
    else hotWaterOf input

/-- What a calculation that gets to its sum check has computed. -/
structure Computed (input : HeatingInput) (result : HeatingResult) : Prop where
  valid : validate input = .ok ()
  allocable : result.allocable = allocableOf input
  landlord : result.allocable = input.totalCosts - result.landlordCo2
  separated : splitHotWater (allocableOf input) input.settings = .ok (hotWaterOf input)
  heating : component .heating (allocableOf input - hotWaterOf input) input.settings input.occupants
    (valuesOf input .heating) = .ok result.heating
  hotWater : if 0 < hotWaterOf input then
      ∃ hotWater, result.hotWater = some hotWater ∧
        component .hotWater (hotWaterOf input) input.settings input.occupants (valuesOf input .hotWater) = .ok hotWater
    else result.hotWater = none
  totals : (result.perOccupant.map OccupantResult.total).sum =
    result.heating.total input + ((result.hotWater.map fun component => component.total input).getD 0)

theorem resolvedComponent_ok {result : ComponentResult × List ℕ}
    (isResult : resolvedComponent input label costs = .ok result) :
    component label costs input.settings input.occupants (valuesOf input label) = .ok result.1 := by
  simp only [resolvedComponent, bind_ok, pure_ok] at isResult
  obtain ⟨resolved, isResolved, found, isFound, rfl⟩ := isResult
  have sameValues : valuesOf input label = resolved.1 := by
    rw [valuesOf, isResolved]
    rfl
  rw [sameValues]
  exact isFound

theorem compute_ok {result : HeatingResult} (isComputed : compute input = .ok result) : Computed input result := by
  simp only [compute, bind_ok, exists_unit, pure_ok] at isComputed
  obtain ⟨valid, landlord, isLandlord, hot, isHot, heating, isHeating, hotWater, isHotWater, rfl⟩ := isComputed
  have allocable : input.totalCosts - landlord = allocableOf input := by
    rw [allocableOf, isLandlord]
    rfl
  rw [allocable] at isHot isHeating
  have sameHot : hot = hotWaterOf input := by
    rw [hotWaterOf, isHot]
    rfl
  subst sameHot
  refine ⟨valid, allocable, rfl, isHot, resolvedComponent_ok isHeating, ?_, ?_⟩
  · unfold hotWaterComponent at isHotWater
    split at isHotWater
    · rename_i positive
      simp only [bind_ok, pure_ok] at isHotWater
      obtain ⟨found, isFound, rfl⟩ := isHotWater
      rw [if_pos positive]
      exact ⟨found.1, rfl, resolvedComponent_ok isFound⟩
    · rename_i nothing
      cases isHotWater
      rw [if_neg nothing]
  · rw [map_map]
    cases hotWater.1 with
    | none =>
      simp only [Option.map_none, Option.getD_none, add_zero]
      congr 1
      apply map_congr_left
      intro occupant _
      exact add_zero _
    | some component =>
      simp only [Option.map_some, Option.getD_some]
      exact sum_map_add

theorem splitHotWater_cents (isHot : splitHotWater allocable settings = .ok hot) : IsCents hot := by
  unfold splitHotWater at isHot
  split at isHot
  · simp only [bind_ok, exists_unit, pure_ok] at isHot
    obtain ⟨percent, -, -, rfl⟩ := isHot
    exact isCents_portion ..
  · simp only [bind_ok, exists_unit, pure_ok] at isHot
    obtain ⟨heating, -, hotWater, -, -, rfl⟩ := isHot
    exact isCents_portion ..
  · simp only [bind_ok, exists_unit, pure_ok] at isHot
    obtain ⟨volume, -, temperature, -, total, -, -, -, rfl⟩ := isHot
    exact isCents_portion ..

theorem Computed.sum {result : HeatingResult} (computed : Computed input result) :
    IsCents (result.perOccupant.map OccupantResult.total).sum ∧
      (IsCents (allocableOf input) →
        (result.perOccupant.map OccupantResult.total).sum = allocableOf input - undistributed input) := by
  have isHotWater := computed.hotWater
  have hotCents := splitHotWater_cents computed.separated
  rw [computed.totals]
  unfold undistributed
  split at isHotWater
  · rename_i positive
    obtain ⟨hotWater, isSome, isComponent⟩ := isHotWater
    rw [isSome, Option.map_some, Option.getD_some, if_pos positive]
    constructor
    · exact (component_cents computed.heating).add (component_cents isComponent)
    · intro isCents
      rw [component_sum (isCents.sub hotCents) computed.heating, component_sum hotCents isComponent]
      ring
  · rename_i nothing
    rw [isHotWater, Option.map_none, Option.getD_none, add_zero, if_neg nothing]
    constructor
    · exact component_cents computed.heating
    · intro isCents
      rw [component_sum (isCents.sub hotCents) computed.heating]
      ring

theorem calculate_iff {result : HeatingResult} (isComputed : compute input = .ok result) :
    calculate input = .ok result ↔ IsCents (allocableOf input) ∧ undistributed input = 0 := by
  have computed := compute_ok isComputed
  obtain ⟨isSumCents, isSum⟩ := computed.sum
  have accepted : calculate input = .ok result ↔
      (result.perOccupant.map OccupantResult.total).sum = allocableOf input := by
    simp only [calculate, isComputed, bind_ok, exists_unit, check_ok, pure_ok, Except.ok.injEq, exists_eq_left',
      and_true, computed.allocable]
  rw [accepted]
  constructor
  · intro same
    have isCents : IsCents (allocableOf input) := same ▸ isSumCents
    rw [isSum isCents] at same
    exact ⟨isCents, by linarith⟩
  · rintro ⟨isCents, nothing⟩
    rw [isSum isCents, nothing, sub_zero]

theorem portion_neg (amount numerator denominator : Decimal) :
    portion (-amount) numerator denominator = -portion amount numerator denominator := by
  unfold portion
  rw [neg_mul, contextRound_neg, neg_div, contextRound_neg, roundCents_neg]

theorem portion_between (isCents : IsCents amount) (nonneg : 0 ≤ amount)
    (small : amount < 10 ^ 12) (numeratorNonneg : 0 ≤ numerator) (atMost : numerator ≤ denominator)
    (positive : 0 < denominator) :
    0 ≤ portion amount numerator denominator ∧ portion amount numerator denominator ≤ amount := by
  have share := (quota_bounds contextRound_accurate nonneg positive numeratorNonneg).2
  have shareNonneg := quota_nonneg contextRound_accurate nonneg positive numeratorNonneg
  have part : amount / denominator * numerator ≤ amount := by
    rw [div_mul_eq_mul_div, div_le_iff₀ positive]
    exact mul_le_mul_of_nonneg_left atMost nonneg
  have grown : quota contextRound amount denominator numerator < amount + 1 / 200 := by
    refine share.trans_lt ?_
    rw [mul_assoc]
    have scaled := mul_le_mul_of_nonneg_left part (show (0 : ℚ) ≤ (1 + contextError) ^ 2 by positivity)
    refine scaled.trans_lt ?_
    norm_num [contextError] at small ⊢
    linarith
  constructor
  · apply le_roundCents isCents_zero
    exact lt_of_lt_of_le (by norm_num) shareNonneg
  · exact roundCents_le isCents grown

theorem lookup_nonneg {rows : List (ℕ × Decimal)} (nonneg : ∀ row ∈ rows, 0 ≤ row.2) (key : ℕ) :
    0 ≤ (rows.lookup key).getD 0 := by
  cases isFound : rows.lookup key with
  | none => exact le_refl _
  | some value =>
    obtain ⟨before, after, rfl, -⟩ := lookup_eq_some_iff.mp isFound
    exact nonneg (key, value) (mem_append_right _ mem_cons_self)

theorem roundedSum_nonneg {values : List Decimal} (nonneg : ∀ value ∈ values, 0 ≤ value) :
    0 ≤ roundedSum contextRound values := by
  have below := (roundedSum_bounds contextRound_accurate nonneg).1
  have less : (0 : ℚ) ≤ (1 - contextError) ^ values.length := pow_nonneg (by norm_num [contextError]) _
  exact (mul_nonneg less (sum_nonneg nonneg)).trans below

theorem timeWeight_nonneg (order : start ≤ last)
    (nonneg : ∀ row ∈ degreeDays, 0 ≤ row.2) : 0 ≤ timeWeight start last degreeDays := by
  unfold timeWeight
  split
  · rw [Date.le_def] at order
    have days : (0 : ℤ) ≤ (last.ordinal : ℤ) - start.ordinal + 1 := by omega
    exact_mod_cast days
  · apply roundedSum_nonneg
    intro weight member
    obtain ⟨index, -, rfl⟩ := mem_map.mp member
    have promille := lookup_nonneg nonneg (index % 12 + 1)
    exact contextRound_accurate.round_nonneg (div_nonneg
      (contextRound_accurate.round_nonneg (mul_nonneg promille (Nat.cast_nonneg _))) (Nat.cast_nonneg _))

theorem resolveUnit_nonneg (order : ∀ occupant ∈ occupants, occupant.start ≤ occupant.last)
    (tableNonneg : ∀ row ∈ degreeDays, 0 ≤ row.2)
    (nonneg : ∀ occupant ∈ occupants, ∀ value ∈ occupant.value label, 0 ≤ value)
    (isResolved : resolveUnit label total degreeDays occupants = .ok resolved) : ∀ entry ∈ resolved.1, 0 ≤ entry.2 := by
  have own : ∀ entry ∈ occupants.filterMap fun occupant => (occupant.value label).map (occupant.key, ·), 0 ≤ entry.2 := by
    intro entry member
    obtain ⟨occupant, isOccupant, isEntry⟩ := mem_filterMap.mp member
    obtain ⟨value, isValue, rfl⟩ := Option.map_eq_some_iff.mp isEntry
    exact nonneg occupant isOccupant value isValue
  unfold resolveUnit at isResolved
  dsimp only at isResolved
  split at isResolved
  · simp only [pure_ok] at isResolved
    rw [← isResolved]
    exact own
  · simp only [bind_ok, exists_unit, check_ok, pure_ok] at isResolved
    obtain ⟨unitTotal, -, restNonneg, rfl⟩ := isResolved
    intro entry member
    rcases mem_append.mp member with isOpen | isOwn
    · obtain ⟨occupant, isMissing, rfl⟩ := mem_map.mp isOpen
      have weightNonneg := timeWeight_nonneg (order occupant (mem_of_mem_filter isMissing)) tableNonneg
      dsimp only
      split
      · rename_i positive
        exact contextRound_accurate.round_nonneg
          (div_nonneg (contextRound_accurate.round_nonneg (mul_nonneg restNonneg weightNonneg)) positive.le)
      · exact le_refl _
    · exact own entry isOwn

theorem mem_mapM {First Second : Type} {step : First → Calculated Second} {items : List First} {results : List Second}
    (isOk : items.mapM step = .ok results) : ∀ result ∈ results, ∃ item ∈ items, step item = .ok result := by
  induction items generalizing results with
  | nil =>
    cases isOk
    exact fun _ none => absurd none not_mem_nil
  | cons item rest ih =>
    rw [mapM_cons] at isOk
    simp only [bind_ok, pure_ok] at isOk
    obtain ⟨first, isFirst, others, isOthers, rfl⟩ := isOk
    intro result member
    rcases mem_cons.mp member with rfl | later
    · exact ⟨item, mem_cons_self, isFirst⟩
    · obtain ⟨other, isOther, isResult⟩ := ih isOthers result later
      exact ⟨other, mem_cons_of_mem _ isOther, isResult⟩

/-- What the checks at the start leave. -/
structure Valid (input : HeatingInput) : Prop where
  percent : 50 ≤ input.settings.consumptionSharePercent ∧ input.settings.consumptionSharePercent ≤ 70
  area : ∀ occupant ∈ input.occupants, 0 < occupant.area
  order : ∀ occupant ∈ input.occupants, occupant.start ≤ occupant.last
  degreeDays : ∀ row ∈ input.settings.degreeDays, 0 ≤ row.2

theorem validate_ok (isValid : validate input = .ok ()) : Valid input := by
  simp only [validate, bind_ok, exists_unit, check_ok] at isValid
  obtain ⟨-, percent, -, area, within, isTable, -⟩ := isValid
  refine ⟨percent, area, ?_, ?_⟩
  · unfold checkPeriods at within
    cases isOutside : input.occupants.find? fun occupant => ¬ occupant.Within input.periodFrom input.periodTo with
    | some occupant =>
      rw [isOutside] at within
      cases within
    | none =>
      intro occupant member
      have inside := List.find?_eq_none.mp isOutside occupant member
      have within : occupant.Within input.periodFrom input.periodTo := by simpa using inside
      exact within.2.1
  · unfold validateDegreeDays at isTable
    split at isTable
    · rename_i empty
      rw [empty]
      exact fun _ none => absurd none not_mem_nil
    · simp only [bind_ok, exists_unit, check_ok] at isTable
      exact isTable.2.2

theorem values_nonneg (valid : Valid input) (label : Component)
    (nonneg : ∀ occupant ∈ input.occupants, ∀ value ∈ occupant.value label, 0 ≤ value) :
    ∀ entry ∈ valuesOf input label, 0 ≤ entry.2 := by
  unfold valuesOf
  cases isResolved : resolveConsumption input label with
  | error problem => exact fun _ none => absurd none not_mem_nil
  | ok resolved =>
    simp only [resolveConsumption, bind_ok, pure_ok] at isResolved
    obtain ⟨units, isUnits, rfl⟩ := isResolved
    intro entry member
    obtain ⟨unit, isUnit, isEntry⟩ := mem_flatMap.mp member
    obtain ⟨group, isGroup, isOk⟩ := mem_mapM isUnits unit isUnit
    obtain ⟨unitId, -, rfl⟩ := mem_map.mp isGroup
    have among : ∀ occupant ∈ (((input.occupants.map fun occupant => (occupant.unitId, occupant)).filter
        fun pair => pair.1 = unitId).map Prod.snd), occupant ∈ input.occupants := by
      intro occupant isOccupant
      obtain ⟨pair, isPair, rfl⟩ := mem_map.mp isOccupant
      obtain ⟨own, isOwn, rfl⟩ := mem_map.mp (mem_of_mem_filter isPair)
      exact isOwn
    exact resolveUnit_nonneg (fun occupant isOccupant => valid.order occupant (among occupant isOccupant))
      valid.degreeDays (fun occupant isOccupant => nonneg occupant (among occupant isOccupant)) isOk entry isEntry

theorem splitPart_positive (isParts : splitPart mode part shares = .ok parts) (distributed : IsDistributed mode part) :
    0 < weightSum shares := by
  rcases splitPart_ok.mp isParts with ⟨-, isFound⟩ | ⟨leftOut, -⟩
  · exact distribute_positive isFound
  · exact absurd distributed leftOut

/-- A part of money over weights that are not negative is distributed without remainder. -/
theorem shortfall_distributed (isParts : splitPart mode part shares = .ok parts) (isMoney : IsMoney part)
    (few : shares.length ≤ shareLimit) (nonneg : ∀ share ∈ shares, 0 ≤ share.weight) :
    shortfall mode part shares = if 0 ≤ part ∨ mode = .distribute then 0 else part := by
  unfold shortfall
  by_cases distributed : IsDistributed mode part
  · have nothing := surplusCents_nonneg nonneg few isMoney (splitPart_positive isParts distributed)
    have allowed : 0 ≤ part ∨ mode = .distribute := distributed.imp le_of_lt And.left
    rw [if_pos distributed, if_pos allowed, nothing, Int.cast_zero, zero_mul, neg_zero]
  · rw [if_neg distributed]
    split
    · rename_i allowed
      unfold IsDistributed at distributed
      push Not at distributed
      rcases allowed with partNonneg | switched
      · exact le_antisymm distributed.1 partNonneg
      · exact le_antisymm distributed.1 (distributed.2 switched)
    · rfl

/-- A component over values that are not negative lacks its costs where they are negative and left out, and nothing else. -/
theorem componentShortfall_eq (valid : Valid input) (isMoney : IsMoney costs)
    (few : input.occupants.length ≤ shareLimit) (nonneg : ∀ entry ∈ values, 0 ≤ entry.2)
    (isResult : component label costs input.settings input.occupants values = .ok result) :
    componentShortfall input costs values =
      if 0 ≤ costs ∨ input.settings.negativeCosts = .distribute then 0 else costs := by
  obtain ⟨isConsumption, isBasic⟩ := component_parts isResult
  obtain ⟨atLeast, atMost⟩ := valid.percent
  have percentNonneg : (0 : ℚ) ≤ input.settings.consumptionSharePercent := by
    have scaled : (0 : ℤ) ≤ input.settings.consumptionSharePercent := by omega
    exact_mod_cast scaled
  have percentAtMost : (input.settings.consumptionSharePercent : ℚ) ≤ 100 := by
    have scaled : input.settings.consumptionSharePercent ≤ 100 := by omega
    exact_mod_cast scaled
  have size := abs_lt.mp isMoney.small
  have between : (0 ≤ costs → 0 ≤ portion costs input.settings.consumptionSharePercent 100 ∧
        portion costs input.settings.consumptionSharePercent 100 ≤ costs) ∧
      (costs ≤ 0 → costs ≤ portion costs input.settings.consumptionSharePercent 100 ∧
        portion costs input.settings.consumptionSharePercent 100 ≤ 0) := by
    constructor
    · intro costsNonneg
      exact portion_between isMoney.cents costsNonneg size.2 percentNonneg percentAtMost (by norm_num)
    · intro costsNegative
      have flipped := portion_between isMoney.cents.neg (neg_nonneg.mpr costsNegative) (by linarith)
        percentNonneg percentAtMost (show (0 : ℚ) < 100 by norm_num)
      rw [portion_neg] at flipped
      constructor <;> linarith [flipped.1, flipped.2]
  have partCents := isCents_portion costs input.settings.consumptionSharePercent 100
  unfold componentShortfall
  dsimp only
  generalize portion costs input.settings.consumptionSharePercent 100 = consumptionPart at *
  have partMoney : IsMoney consumptionPart ∧ IsMoney (costs - consumptionPart) := by
    refine ⟨⟨partCents, ?_⟩, isMoney.cents.sub partCents, ?_⟩
    all_goals
      rw [abs_lt]
      rcases le_total 0 costs with costsNonneg | costsNegative
      · have inside := between.1 costsNonneg
        constructor <;> linarith [inside.1, inside.2]
      · have inside := between.2 costsNegative
        constructor <;> linarith [inside.1, inside.2]
  have consumptionWeights : ∀ share ∈ consumptionShares input.occupants values, 0 ≤ share.weight := by
    intro share member
    obtain ⟨occupant, -, rfl⟩ := mem_map.mp member
    exact lookup_nonneg nonneg occupant.key
  have basicWeights : ∀ share ∈ basicShares input.occupants input.settings.degreeDays, 0 ≤ share.weight := by
    intro share member
    obtain ⟨occupant, isOccupant, rfl⟩ := mem_map.mp member
    exact contextRound_accurate.round_nonneg (mul_nonneg (valid.area occupant isOccupant).le
      (timeWeight_nonneg (valid.order occupant isOccupant) valid.degreeDays))
  rw [shortfall_distributed isConsumption partMoney.1 (by rwa [consumptionShares, length_map]) consumptionWeights,
    shortfall_distributed isBasic partMoney.2 (by rwa [basicShares, length_map]) basicWeights]
  by_cases allowed : 0 ≤ costs ∨ input.settings.negativeCosts = .distribute
  · have partsAllowed : (0 ≤ consumptionPart ∨ input.settings.negativeCosts = .distribute) ∧
        (0 ≤ costs - consumptionPart ∨ input.settings.negativeCosts = .distribute) := by
      rcases allowed with costsNonneg | switched
      · have inside := between.1 costsNonneg
        exact ⟨Or.inl inside.1, Or.inl (sub_nonneg.mpr inside.2)⟩
      · exact ⟨Or.inr switched, Or.inr switched⟩
    rw [if_pos allowed, if_pos partsAllowed.1, if_pos partsAllowed.2, add_zero]
  · have negative : costs < 0 := not_le.mp fun costsNonneg => allowed (Or.inl costsNonneg)
    have notSwitched : input.settings.negativeCosts ≠ .distribute := fun switched => allowed (Or.inr switched)
    have leftOut : ∀ {own : Decimal}, own ≤ 0 →
        (if 0 ≤ own ∨ input.settings.negativeCosts = .distribute then 0 else own) = own := by
      intro own ownNegative
      split
      · rename_i ownAllowed
        exact le_antisymm (ownAllowed.resolve_right notSwitched) ownNegative
      · rfl
    have inside := between.2 negative.le
    rw [if_neg allowed, leftOut inside.2, leftOut (sub_nonpos.mpr inside.1)]
    ring

/-- Hot water with a part between nothing and all of the energy lies between nothing and the costs. -/
def EnergiesNonneg (settings : HeatingSettings) : Prop :=
  settings.hotWaterMethod = .measured →
    (∀ energy ∈ settings.heatingEnergy, 0 ≤ energy) ∧ ∀ energy ∈ settings.hotWaterEnergy, 0 ≤ energy

theorem splitHotWater_between (isMoney : IsMoney allocable)
    (allocableNonneg : 0 ≤ allocable) (energies : EnergiesNonneg settings)
    (isHot : splitHotWater allocable settings = .ok hot) : 0 ≤ hot ∧ hot ≤ allocable := by
  have small := (abs_lt.mp isMoney.small).2
  unfold splitHotWater at isHot
  split at isHot
  · simp only [bind_ok, exists_unit, check_ok, pure_ok] at isHot
    obtain ⟨percent, -, ⟨percentNonneg, percentAtMost⟩, rfl⟩ := isHot
    exact portion_between isMoney.cents allocableNonneg small percentNonneg percentAtMost (by norm_num)
  · rename_i measured
    simp only [bind_ok, exists_unit, check_ok, needed_ok, pure_ok] at isHot
    obtain ⟨heating, isHeating, hotWater, isHotWater, positive, rfl⟩ := isHot
    obtain ⟨heatingNonneg, hotWaterNonneg⟩ := energies measured
    have least := heatingNonneg heating isHeating
    exact portion_between isMoney.cents allocableNonneg small (hotWaterNonneg hotWater isHotWater)
      (le_add_of_nonneg_left least) positive
  · simp only [bind_ok, exists_unit, check_ok, pure_ok] at isHot
    obtain ⟨volume, -, temperature, -, total, -, positive, ⟨hotNonneg, hotAtMost⟩, rfl⟩ := isHot
    exact portion_between isMoney.cents allocableNonneg small hotNonneg hotAtMost positive

/-- Readings that are not negative, of no more occupancies than 28 digits are enough for. -/
structure Ordinary (input : HeatingInput) : Prop where
  heating : ∀ occupant ∈ input.occupants, ∀ value ∈ occupant.heating, 0 ≤ value
  hotWater : ∀ occupant ∈ input.occupants, ∀ value ∈ occupant.hotWater, 0 ≤ value
  few : input.occupants.length ≤ shareLimit
  small : |allocableOf input| + |hotWaterOf input| < 10 ^ 12

/-- Over readings that are not negative nothing is left undistributed exactly if neither component has negative costs, or the
heating costs are negative and the switch allows it. -/
theorem undistributed_iff {result : HeatingResult} (computed : Computed input result) (ordinary : Ordinary input)
    (isCents : IsCents (allocableOf input)) :
    undistributed input = 0 ↔
      0 ≤ hotWaterOf input ∧ (hotWaterOf input ≤ allocableOf input ∨ input.settings.negativeCosts = .distribute) := by
  have valid := validate_ok computed.valid
  have hotCents := splitHotWater_cents computed.separated
  have small := ordinary.small
  have heatingMoney : IsMoney (allocableOf input - hotWaterOf input) := by
    refine ⟨isCents.sub hotCents, lt_of_le_of_lt (abs_sub _ _) small⟩
  have hotMoney : IsMoney (hotWaterOf input) :=
    ⟨hotCents, lt_of_le_of_lt (le_add_of_nonneg_left (abs_nonneg _)) small⟩
  have heatingShort := componentShortfall_eq valid heatingMoney ordinary.few
    (values_nonneg valid .heating ordinary.heating) computed.heating
  have isHotWater := computed.hotWater
  have hotShort : (if 0 < hotWaterOf input then componentShortfall input (hotWaterOf input) (valuesOf input .hotWater)
      else hotWaterOf input) = if 0 ≤ hotWaterOf input then 0 else hotWaterOf input := by
    split at isHotWater
    · rename_i positive
      obtain ⟨hotWater, -, isComponent⟩ := isHotWater
      rw [if_pos positive, if_pos positive.le, componentShortfall_eq valid hotMoney ordinary.few
        (values_nonneg valid .hotWater ordinary.hotWater) isComponent, if_pos (Or.inl positive.le)]
    · rename_i notPositive
      rw [if_neg notPositive]
      split
      · rename_i nonneg
        exact le_antisymm (not_lt.mp notPositive) nonneg
      · rfl
  unfold undistributed
  rw [heatingShort, hotShort]
  simp only [sub_nonneg]
  by_cases heatingAllowed : hotWaterOf input ≤ allocableOf input ∨ input.settings.negativeCosts = .distribute
  · rw [if_pos heatingAllowed, zero_add, and_iff_left heatingAllowed]
    split
    · rename_i nonneg
      exact iff_of_true rfl nonneg
    · rename_i negative
      exact iff_of_false (not_le.mp negative).ne negative
  · have heatingNegative : allocableOf input - hotWaterOf input < 0 :=
      sub_neg.mpr (not_le.mp fun atMost => heatingAllowed (Or.inl atMost))
    have hotMost : (if 0 ≤ hotWaterOf input then 0 else hotWaterOf input) ≤ 0 := by
      split
      · exact le_refl _
      · rename_i negative
        exact (not_le.mp negative).le
    rw [if_neg heatingAllowed]
    exact iff_of_false (add_neg_of_neg_of_nonpos heatingNegative hotMost).ne fun both => heatingAllowed both.2

/-- A calculation that gets to its sum check passes it exactly if the costs without the landlord's part are whole cents and
nothing is left undistributed; then the results add up to them. Over readings that are not negative, only negative hot water
costs, and negative heating costs without the switch, are left undistributed, which costs that cover the landlord's part
never are. -/
theorem sum_check {result : HeatingResult} (isComputed : compute input = .ok result) :
    (calculate input = .ok result ↔ IsCents (allocableOf input) ∧ undistributed input = 0) ∧
      (calculate input = .ok result →
        (result.perOccupant.map OccupantResult.total).sum = input.totalCosts - result.landlordCo2) ∧
      (Ordinary input → (calculate input = .ok result ↔ IsCents (allocableOf input) ∧ 0 ≤ hotWaterOf input ∧
        (hotWaterOf input ≤ allocableOf input ∨ input.settings.negativeCosts = .distribute))) ∧
      (Ordinary input → EnergiesNonneg input.settings → 0 ≤ allocableOf input →
        (calculate input = .ok result ↔ IsCents (allocableOf input))) := by
  have computed := compute_ok isComputed
  have accepted := calculate_iff isComputed
  have ordinarily : Ordinary input → (calculate input = .ok result ↔ IsCents (allocableOf input) ∧ 0 ≤ hotWaterOf input ∧
      (hotWaterOf input ≤ allocableOf input ∨ input.settings.negativeCosts = .distribute)) := by
    intro ordinary
    rw [accepted]
    exact and_congr_right fun isCents => undistributed_iff computed ordinary isCents
  refine ⟨accepted, ?_, ordinarily, ?_⟩
  · intro isResult
    obtain ⟨isCents, nothing⟩ := accepted.mp isResult
    rw [computed.sum.2 isCents, nothing, sub_zero, ← computed.landlord, computed.allocable]
  · intro ordinary energies covered
    rw [ordinarily ordinary]
    constructor
    · exact And.left
    · intro isCents
      have isMoney : IsMoney (allocableOf input) :=
        ⟨isCents, lt_of_le_of_lt (le_add_of_nonneg_right (abs_nonneg _)) ordinary.small⟩
      obtain ⟨hotNonneg, hotAtMost⟩ := splitHotWater_between isMoney covered energies computed.separated
      exact ⟨isCents, hotNonneg, Or.inl hotAtMost⟩

/-- A house of two flats over a year: half of the fuel's CO2 costs falls on the landlord. -/
def house (totalCosts co2Costs : Decimal) : HeatingInput where
  periodFrom := .ofYmd 2025 1 1
  periodTo := .ofYmd 2025 12 31
  totalCosts
  settings := { hotWaterFlatPercent := some 18 }
  co2 := { isResidential := true, costs := some co2Costs, emissions := some 6000, referenceArea := some 150
           steps := [(0, 100), (12, 90), (37, 50)] }
  occupants := [
    { key := 1, unitId := 1, unitNumber := "01", start := .ofYmd 2025 1 1, last := .ofYmd 2025 12 31, area := 70
      heating := some 1200, hotWater := some 31 },
    { key := 2, unitId := 2, unitNumber := "02", start := .ofYmd 2025 1 1, last := .ofYmd 2025 12 31, area := 80
      heating := some 901, hotWater := some 17 }]
  distinct := by decide

theorem house_settled : ∃ result, calculate (house 3000 100) = .ok result ∧
    (result.perOccupant.map OccupantResult.total).sum = 3000 - result.landlordCo2 := by
  have isSome : (compute (house 3000 100)).toOption.isSome := by decide +kernel
  cases isComputed : compute (house 3000 100) with
  | error problem =>
    rw [isComputed] at isSome
    cases isSome
  | ok result =>
    have checked := sum_check isComputed
    have ordinary : Ordinary (house 3000 100) := by
      refine ⟨by decide +kernel, by decide +kernel, by decide, by decide +kernel⟩
    have accepted := (checked.2.2.2 ordinary nofun (by decide +kernel)).mpr (by decide +kernel)
    exact ⟨result, accepted, checked.2.1 accepted⟩

/-- The landlord's half of the CO2 costs is more than the total costs, which no check refuses before the last. -/
theorem house_fails_sum_check : calculate (house 100 400) = .error (.sumCheck 0 (-100)) ∧
    (compute (house 100 400)).toOption.isSome := by
  decide +kernel

end Mhvp.Billing.Heating
