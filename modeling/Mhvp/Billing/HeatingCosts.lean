import Mhvp.Billing.Distribution
import Mhvp.Lib.Dictionary
import Mhvp.Lib.Months

namespace Mhvp.Billing.Heating

open Core Lib.Calendar Lib.Rounding

inductive Component
  | heating
  | hotWater
  deriving DecidableEq

inductive HeatingCalcError
  | totalCosts
  | consumptionShare
  | noOccupants
  | area
  | period (key : ℕ)
  | degreeDayMonths
  | degreeDaySum (total : Decimal)
  | degreeDayNegative
  | co2StepOrder
  | co2StepPercent
  | co2Reason
  | co2Negative
  | flatPercent
  | energyMissing
  | energySum
  | formulaMissing
  | totalEnergy
  | formulaEnergy
  | consumptionMissing (component : Component) (keys : List ℕ)
  | consumptionExceeds (component : Component)
  | noConsumption (component : Component)
  /-- The sum check at the end. -/
  | sumCheck (check allocable : Decimal)
  /-- `ValueError` or `InvalidOperation` of `distribute`, `StopIteration` of the step lookup. -/
  | internal
  deriving DecidableEq

structure Occupant where
  key : ℕ
  /-- `key.startswith("vacancy:")` -/
  isVacancy : Bool := false
  unitId : ℕ
  unitNumber : String
  start : Date
  last : Date
  area : Decimal
  heating : Option Decimal := none
  hotWater : Option Decimal := none
  heatingEstimated : Bool := false
  hotWaterEstimated : Bool := false

def Occupant.value (occupant : Occupant) : Component → Option Decimal
  | .heating => occupant.heating
  | .hotWater => occupant.hotWater

def Occupant.isEstimated (occupant : Occupant) : Component → Bool
  | .heating => occupant.heatingEstimated
  | .hotWater => occupant.hotWaterEstimated

inductive Co2Mode
  | apply
  | notApplicable
  deriving DecidableEq

structure Co2Input where
  mode : Co2Mode := .apply
  isResidential : Bool := false
  costs : Option Decimal := none
  emissions : Option Decimal := none
  referenceArea : Option Decimal := none
  hasReason : Bool := false
  /-- Lower bound in kg per square metre and year, and what the tenant bears in percent. -/
  steps : List (Decimal × ℤ) := []

inductive HotWaterMethod
  | flatPercent
  | measured
  | formula

inductive NegativeCosts
  | legacyWarn
  | distribute
  deriving DecidableEq

structure HeatingSettings where
  consumptionSharePercent : ℤ := 70
  hotWaterMethod : HotWaterMethod := .flatPercent
  hotWaterFlatPercent : Option Decimal := none
  hotWaterVolume : Option Decimal := none
  hotWaterTemperature : Option Decimal := none
  hotWaterFormulaFactor : Decimal := 5 / 2
  totalEnergy : Option Decimal := none
  heatingEnergy : Option Decimal := none
  hotWaterEnergy : Option Decimal := none
  /-- Month and its part of a thousand. -/
  degreeDays : List (ℕ × Decimal) := []
  negativeCosts : NegativeCosts := .legacyWarn

structure UnitTotals where
  heating : Option Decimal := none
  hotWater : Option Decimal := none

def UnitTotals.value (totals : UnitTotals) : Component → Option Decimal
  | .heating => totals.heating
  | .hotWater => totals.hotWater

/-- The arguments of `calculate`; every occupancy has its own key. -/
structure HeatingInput where
  periodFrom : Date
  periodTo : Date
  totalCosts : Decimal
  settings : HeatingSettings
  co2 : Co2Input
  occupants : List Occupant
  distinct : (occupants.map Occupant.key).Nodup
  unitTotals : List (ℕ × UnitTotals) := []

abbrev Calculated (α : Type) := Except HeatingCalcError α

/-- `raise error` unless `accepted`. -/
def check (accepted : Prop) [Decidable accepted] (error : HeatingCalcError) : Calculated Unit :=
  if accepted then .ok () else .error error

/-- A value that must be there. -/
def needed (value : Option Decimal) (error : HeatingCalcError) : Calculated Decimal :=
  match value with
  | some value => .ok value
  | none => .error error

def validateDegreeDays (rows : List (ℕ × Decimal)) : Calculated Unit := do
  if rows = [] then return ()
  check ((rows.map Prod.fst).Perm (List.range' 1 12)) .degreeDayMonths
  let total := roundedSum contextRound (rows.map Prod.snd)
  check (total = 1000) (.degreeDaySum total)
  check (∀ row ∈ rows, 0 ≤ row.2) .degreeDayNegative

def validateCo2Steps (steps : List (Decimal × ℤ)) : Calculated Unit := do
  if steps = [] then return ()
  check ((steps.map Prod.fst).head? = some 0 ∧ (steps.map Prod.fst).Pairwise (· < ·)) .co2StepOrder
  check (∀ step ∈ steps, 0 ≤ step.2 ∧ step.2 ≤ 100) .co2StepPercent

/-- `_q(amount * numerator / denominator)` -/
def portion (amount numerator denominator : Decimal) : Decimal :=
  roundCents (contextRound (contextRound (amount * numerator) / denominator))

/-- What the landlord bears of the CO2 costs, where the split applies. -/
def co2Split (co2 : Co2Input) : Calculated Decimal :=
  if co2.mode = .notApplicable then
    if co2.hasReason then .ok 0 else .error .co2Reason
  else
    match co2.costs, co2.emissions, co2.referenceArea with
    | some costs, some emissions, some area =>
      if ¬ co2.isResidential ∨ co2.steps = [] then .ok 0
      else if area ≤ 0 ∨ costs < 0 ∨ emissions < 0 then .error .co2Negative
      else
        match co2.steps.reverse.find? fun step => step.1 ≤ contextRound (emissions / area) with
        | some step => .ok (costs - portion costs step.2 100)
        | none => .error .internal
    | _, _, _ => .ok 0

/-- The part of hot water in the costs. -/
def splitHotWater (allocable : Decimal) (settings : HeatingSettings) : Calculated Decimal :=
  match settings.hotWaterMethod with
  | .flatPercent => do
      let percent ← needed settings.hotWaterFlatPercent .flatPercent
      check (0 ≤ percent ∧ percent ≤ 100) .flatPercent
      return portion allocable percent 100
  | .measured => do
      let heating ← needed settings.heatingEnergy .energyMissing
      let hotWater ← needed settings.hotWaterEnergy .energyMissing
      check (0 < heating + hotWater) .energySum
      return portion allocable hotWater (heating + hotWater)
  | .formula => do
      let volume ← needed settings.hotWaterVolume .formulaMissing
      let temperature ← needed settings.hotWaterTemperature .formulaMissing
      let total ← needed settings.totalEnergy .formulaMissing
      check (0 < total) .totalEnergy
      let hotWater := contextRound (contextRound (settings.hotWaterFormulaFactor * volume) * (temperature - 10))
      check (0 ≤ hotWater ∧ hotWater ≤ total) .formulaEnergy
      return portion allocable hotWater total

/-- Share of the year: parts of a thousand by months where a table is set, else days. -/
def timeWeight (start last : Date) (degreeDays : List (ℕ × Decimal)) : Decimal :=
  if degreeDays = [] then ((last.ordinal : ℤ) - start.ordinal + 1 : ℤ)
  else
    roundedSum contextRound ((List.range' (monthIndex start) (monthIndex last + 1 - monthIndex start)).map fun index =>
      let covered := (min last (lastOfMonth index)).ordinal + 1 - (max start (firstOfMonth index)).ordinal
      let promille := (degreeDays.lookup (index % 12 + 1)).getD 0
      contextRound (contextRound (promille * covered) / Date.monthLength (index / 12) (index % 12 + 1)))

/-- The values of a unit's occupancies: where one has none of its own, what the unit total leaves is split by time. -/
def resolveUnit (component : Component) (total : Option Decimal) (degreeDays : List (ℕ × Decimal))
    (occupants : List Occupant) : Calculated (List (ℕ × Decimal) × List ℕ) := do
  let flagged := (occupants.filter fun occupant =>
    occupant.isEstimated component && (occupant.value component).isSome).map Occupant.key
  let own := occupants.filterMap fun occupant => (occupant.value component).map (occupant.key, ·)
  let missing := occupants.filter fun occupant => (occupant.value component).isNone
  if missing = [] then return (own, flagged)
  let total ← needed total (.consumptionMissing component ((missing.map Occupant.key).mergeSort))
  let rest := contextRound (total - roundedSum contextRound (own.map Prod.snd))
  check (0 ≤ rest) (.consumptionExceeds component)
  let weight (occupant : Occupant) := timeWeight occupant.start occupant.last degreeDays
  let weightSum := roundedSum contextRound (missing.map weight)
  let open' := missing.map fun occupant =>
    (occupant.key, if 0 < weightSum then contextRound (contextRound (rest * weight occupant) / weightSum) else 0)
  return (open' ++ own, flagged ++ missing.map Occupant.key)

/-- Consumption by occupancy, and which values are estimates. -/
def resolveConsumption (input : HeatingInput) (component : Component) : Calculated (List (ℕ × Decimal) × List ℕ) := do
  let units := Lib.Dictionary.grouped (input.occupants.map fun occupant => (occupant.unitId, occupant))
  let resolved ← units.mapM fun unit =>
    resolveUnit component ((input.unitTotals.lookup unit.1).bind fun totals => totals.value component)
      input.settings.degreeDays unit.2
  return (resolved.flatMap Prod.fst, resolved.flatMap Prod.snd)

def Occupant.shareKey (occupant : Occupant) : ShareKey := (occupant.unitNumber, occupant.key)

/-- A part is distributed where it is positive, or negative and the switch allows it. -/
def IsDistributed (mode : NegativeCosts) (part : Decimal) : Prop := 0 < part ∨ mode = .distribute ∧ part < 0

instance : Decidable (IsDistributed mode part) := inferInstanceAs (Decidable (_ ∨ _))

/-- The parts by key; zero where the part is not distributed. -/
def splitPart (mode : NegativeCosts) (part : Decimal) (shares : List Share) : Calculated (List (ShareKey × Decimal)) :=
  if IsDistributed mode part then
    match distribute part shares with
    | some parts => .ok parts
    | none => .error .internal
  else .ok (shares.map fun share => (share.key, 0))

structure ComponentResult where
  costs : Decimal
  consumptionPart : Decimal
  basicPart : Decimal
  /-- A negative part was not distributed. -/
  warning : Bool
  consumption : List (ShareKey × Decimal)
  basic : List (ShareKey × Decimal)
  deriving DecidableEq

/-- What an occupancy bears of the component. -/
def ComponentResult.ofOccupant (component : ComponentResult) (occupant : Occupant) : Decimal :=
  (component.consumption.lookup occupant.shareKey).getD 0 + (component.basic.lookup occupant.shareKey).getD 0

def consumptionShares (occupants : List Occupant) (values : List (ℕ × Decimal)) : List Share :=
  occupants.map fun occupant => { key := occupant.shareKey, weight := (values.lookup occupant.key).getD 0 }

def basicShares (occupants : List Occupant) (degreeDays : List (ℕ × Decimal)) : List Share :=
  occupants.map fun occupant =>
    { key := occupant.shareKey
      weight := contextRound (occupant.area * timeWeight occupant.start occupant.last degreeDays) }

/-- `_component` -/
def component (label : Component) (costs : Decimal) (settings : HeatingSettings) (occupants : List Occupant)
    (values : List (ℕ × Decimal)) : Calculated ComponentResult := do
  let consumptionPart := portion costs settings.consumptionSharePercent 100
  let basicPart := costs - consumptionPart
  let mode := settings.negativeCosts
  let byConsumption := consumptionShares occupants values
  check (IsDistributed mode consumptionPart → 0 < roundedSum contextRound (byConsumption.map Share.weight))
    (.noConsumption label)
  let consumption ← splitPart mode consumptionPart byConsumption
  let basic ← splitPart mode basicPart (basicShares occupants settings.degreeDays)
  return {
    costs, consumptionPart, basicPart
    warning := decide ((consumptionPart < 0 ∨ basicPart < 0) ∧ mode ≠ .distribute)
    consumption, basic }

structure OccupantResult where
  key : ℕ
  unitNumber : String
  start : Date
  last : Date
  heating : Decimal
  hotWater : Decimal
  total : Decimal
  isVacancy : Bool
  isEstimated : Bool
  deriving DecidableEq

structure HeatingResult where
  landlordCo2 : Decimal
  allocable : Decimal
  heatingCosts : Decimal
  hotWaterCosts : Decimal
  heating : ComponentResult
  hotWater : Option ComponentResult
  perOccupant : List OccupantResult
  vacancyOwnerShare : Decimal
  estimatedKeys : List ℕ
  deriving DecidableEq

/-- The period of an occupancy lies in the period of the statement. -/
def Occupant.Within (occupant : Occupant) (periodFrom periodTo : Date) : Prop :=
  periodFrom ≤ occupant.start ∧ occupant.start ≤ occupant.last ∧ occupant.last ≤ periodTo

instance {occupant : Occupant} {periodFrom periodTo : Date} : Decidable (occupant.Within periodFrom periodTo) :=
  inferInstanceAs (Decidable (_ ∧ _ ∧ _))

def checkPeriods (input : HeatingInput) : Calculated Unit :=
  match input.occupants.find? fun occupant => ¬ occupant.Within input.periodFrom input.periodTo with
  | some occupant => .error (.period occupant.key)
  | none => .ok ()

/-- The checks at the start. -/
def validate (input : HeatingInput) : Calculated Unit := do
  check (0 < input.totalCosts) .totalCosts
  check (50 ≤ input.settings.consumptionSharePercent ∧ input.settings.consumptionSharePercent ≤ 70) .consumptionShare
  check (input.occupants ≠ []) .noOccupants
  check (∀ occupant ∈ input.occupants, 0 < occupant.area) .area
  checkPeriods input
  validateDegreeDays input.settings.degreeDays
  validateCo2Steps input.co2.steps

/-- A component with the consumption it is split by, and whose values are estimates. -/
def resolvedComponent (input : HeatingInput) (label : Component) (costs : Decimal) :
    Calculated (ComponentResult × List ℕ) := do
  let resolved ← resolveConsumption input label
  let result ← component label costs input.settings input.occupants resolved.1
  return (result, resolved.2)

/-- Hot water is a component where it has costs. -/
def hotWaterComponent (input : HeatingInput) (costs : Decimal) : Calculated (Option ComponentResult × List ℕ) :=
  if 0 < costs then do
    let hotWater ← resolvedComponent input .hotWater costs
    return (some hotWater.1, hotWater.2)
  else .ok (none, [])

def occupantResult (heating : ComponentResult) (hotWater : Option ComponentResult) (estimatedKeys : List ℕ)
    (occupant : Occupant) : OccupantResult :=
  let ofHeating := heating.ofOccupant occupant
  let ofHotWater := (hotWater.map fun component => component.ofOccupant occupant).getD 0
  { key := occupant.key, unitNumber := occupant.unitNumber, start := occupant.start, last := occupant.last
    heating := ofHeating, hotWater := ofHotWater, total := ofHeating + ofHotWater
    isVacancy := occupant.isVacancy, isEstimated := decide (occupant.key ∈ estimatedKeys) }

/-- The result before its sum is checked. -/
def compute (input : HeatingInput) : Calculated HeatingResult := do
  validate input
  let landlordCo2 ← co2Split input.co2
  let allocable := input.totalCosts - landlordCo2
  let hotWaterCosts ← splitHotWater allocable input.settings
  let heatingCosts := allocable - hotWaterCosts
  let heating ← resolvedComponent input .heating heatingCosts
  let hotWater ← hotWaterComponent input hotWaterCosts
  let estimatedKeys := (heating.2 ++ hotWater.2).dedup.mergeSort
  let perOccupant := input.occupants.map (occupantResult heating.1 hotWater.1 estimatedKeys)
  return {
    landlordCo2, allocable, heatingCosts, hotWaterCosts, heating := heating.1, hotWater := hotWater.1
    perOccupant, estimatedKeys
    vacancyOwnerShare := ((perOccupant.filter OccupantResult.isVacancy).map OccupantResult.total).sum }

def calculate (input : HeatingInput) : Calculated HeatingResult := do
  let result ← compute input
  let total := (result.perOccupant.map OccupantResult.total).sum
  check (total = result.allocable) (.sumCheck total result.allocable)
  return result

end Mhvp.Billing.Heating
