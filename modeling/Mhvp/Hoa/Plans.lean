import Mhvp.Billing.Distribution
import Mhvp.Hoa.CashFlow
import Mhvp.Billing.Services

/-!
Economic plan and annual statement of the owners' association: every item is distributed over the units by the weights
of its key, and the shares of the items are collected per unit.
-/

namespace Mhvp.Hoa

open Core Accounting Billing Lib.Calendar Lib.Rounding Lib.Tally

abbrev AllocationKeyId := ℕ

structure UnitRow where
  propertyId : PropertyId
  number : String
  deriving DecidableEq

/-- Time valid key value of a unit. -/
structure UnitAllocationValue where
  unitId : UnitId
  allocationKeyId : AllocationKeyId
  value : Decimal
  validFrom : Date
  validTo : Option Date := none

/-- The master data of the properties, as far as the calculations read it. -/
structure PropertyRegister where
  units : List UnitRow
  values : List UnitAllocationValue
  /-- Bank accounts of the kind reserve. -/
  reserveAccounts : List BankAccountId := []

/-- `(end - start).days + 1` -/
def days (start last : Date) : ℕ := last.ordinal - start.ordinal + 1

def overlap (start last validFrom : Date) (validTo : Option Date) : Option (Date × Date) :=
  let first := max start validFrom
  let stop := min last (validTo.getD last)
  if first ≤ stop then some (first, stop) else none

/-- Values of the key for the unit that lie in the period, each with its days in it. -/
def coveredSpans (register : PropertyRegister) (keyId : AllocationKeyId) (start last : Date) (unitId : UnitId) :
    List (Decimal × ℕ) :=
  (register.values.filter fun value => value.unitId = unitId ∧ value.allocationKeyId = keyId).filterMap fun value =>
    (overlap start last value.validFrom value.validTo).map fun span => (value.value, days span.1 span.2)

def covered (register : PropertyRegister) (keyId : AllocationKeyId) (start last : Date) (unitId : UnitId) : ℕ :=
  ((coveredSpans register keyId start last unitId).map Prod.snd).sum

/-- A unit without a value is not part of the key. -/
def unitShare (register : PropertyRegister) (keyId : AllocationKeyId) (start last : Date) (unit : UnitRow × UnitId) :
    Option Share :=
  if covered register keyId start last unit.2 = 0 then none
  else
    let weight := ((coveredSpans register keyId start last unit.2).map fun span => span.1 * (span.2 : Decimal)).sum
    some { key := (unit.1.number, unit.2), weight := contextRound (weight / days start last) }

/-- Units of the property by their number. -/
def unitsOf (register : PropertyRegister) (propertyId : Option PropertyId) : List (UnitRow × UnitId) :=
  (register.units.zipIdx.filter fun unit => propertyId = some unit.1.propertyId).insertionSort
    fun first second => first.1.number ≤ second.1.number

/-- `unit_weights` -/
def unitWeights (register : PropertyRegister) (propertyId : Option PropertyId) (keyId : AllocationKeyId)
    (start last : Date) : Result (List Share) :=
  let units := unitsOf register propertyId
  let partly (unit : UnitRow × UnitId) : Bool :=
    covered register keyId start last unit.2 ≠ 0 ∧ covered register keyId start last unit.2 ≠ days start last
  match units.find? partly with
  | some unit =>
    let detail := "Schlüsselwert für Einheit " ++ unit.1.number ++ " deckt nicht den ganzen Zeitraum."
    .error { error := .validation, detail := some detail }
  | none =>
    let shares := units.filterMap (unitShare register keyId start last)
    if shares = [] ∨ roundedSum contextRound (shares.map Share.weight) ≤ 0 then
      .error { error := .validation, detail := some "Schlüsselsumme ist null oder negativ (W12)." }
    else .ok shares

/-- The parts of an amount over the units of a key. -/
def distributed (register : PropertyRegister) (propertyId : Option PropertyId) (keyId : AllocationKeyId)
    (start last : Date) (amount : Decimal) : Result (List (ShareKey × Decimal)) := do
  let shares ← unitWeights register propertyId keyId start last
  orRefuse (distribute amount shares) .internal

inductive Component
  | hoaFee
  | reserve
  deriving DecidableEq

structure PlanItem where
  component : Component
  amount : Decimal
  allocationKeyId : AllocationKeyId
  reserveId : Option ReserveId := none
  isMoney : IsMoney amount

/-- Where the cents go that twelve equal rates leave of the year. -/
inductive RemainderMode
  | reportOnly
  | firstMonth
  | lastMonth
  deriving DecidableEq

def monthlyRate (annual : Decimal) : Decimal := roundCents (contextRound (annual / 12))

def monthlyRates (annual : Decimal) (mode : RemainderMode) : List Decimal :=
  let rate := monthlyRate annual
  let difference := annual - rate * 12
  match mode with
  | .reportOnly => List.replicate 12 rate
  | .firstMonth => (rate + difference) :: List.replicate 11 rate
  | .lastMonth => List.replicate 11 rate ++ [rate + difference]

/-- What the items collect: per unit and component, and per unit the part of each reserve. A unit is known by its
number and its id. -/
structure PlanTally where
  perUnit : List (ShareKey × (Component → Decimal)) := []
  reserveSplit : List ((ShareKey × Option ReserveId) × Decimal) := []

structure PlanUnit where
  unitId : UnitId
  unitNumber : String
  annual : Component → Decimal
  monthly : Component → Decimal
  roundingDifference : Component → Decimal
  monthlyRates : Option (RemainderMode × (Component → List Decimal))
  reserveSplit : List (Option ReserveId × Decimal)

structure PlanResult where
  units : List PlanUnit
  totals : Component → Decimal

/-- One item, distributed over its units. -/
def PlanTally.book (item : PlanItem) (tally : PlanTally) (parts : List (ShareKey × Decimal)) : PlanTally where
  perUnit := addAll tally.perUnit (parts.map fun part => (part.1, Pi.single item.component part.2))
  reserveSplit :=
    if item.component = .reserve then
      addAll tally.reserveSplit (parts.map fun part => ((part.1, item.reserveId), part.2))
    else tally.reserveSplit

/-- An item without a reserve stands under "none", after every id. -/
def ReserveLe (first second : Option ReserveId) : Prop :=
  match first, second with
  | _, none => True
  | none, some _ => False
  | some one, some other => one ≤ other

instance : DecidableRel ReserveLe := fun first second => by
  unfold ReserveLe
  cases first <;> cases second <;> infer_instance

def planUnit (mode : RemainderMode) (tally : PlanTally) (unit : ShareKey × (Component → Decimal)) : PlanUnit where
  unitId := unit.1.2
  unitNumber := unit.1.1
  annual := unit.2
  monthly := fun component => monthlyRate (unit.2 component)
  roundingDifference := fun component => unit.2 component - monthlyRate (unit.2 component) * 12
  monthlyRates :=
    if mode = .reportOnly then none else some (mode, fun component => monthlyRates (unit.2 component) mode)
  reserveSplit :=
    ((tally.reserveSplit.filter fun split => split.1.1 = unit.1).map fun split => (split.1.2, split.2)).insertionSort
      fun first second => ReserveLe first.1 second.1

def planTally (register : PropertyRegister) (propertyId : Option PropertyId) (items : List PlanItem)
    (start last : Date) : Result PlanTally :=
  items.foldlM (fun tally item => do
    let parts ← distributed register propertyId item.allocationKeyId start last item.amount
    pure (tally.book item parts)) {}

/-- `plan_results` -/
def planResults (register : PropertyRegister) (propertyId : Option PropertyId) (items : List PlanItem)
    (start last : Date) (mode : RemainderMode) : Result PlanResult := do
  let tally ← planTally register propertyId items start last
  let units := tally.perUnit.insertionSort fun first second => first.1.1 ≤ second.1.1
  pure {
    units := units.map (planUnit mode tally)
    totals := fun component => ((items.filter fun item => item.component = component).map PlanItem.amount).sum }

structure CostItem where
  label : String
  amount : Decimal
  allocationKeyId : AllocationKeyId
  basis : String
  isMoney : IsMoney amount

structure HoaStatement where
  year : ℕ
  reserveOpening : Decimal := 0
  reserveWithdrawals : Decimal := 0
  reserveInterest : Decimal := 0

structure Position where
  label : String
  amount : Decimal
  basis : String
  split : List (UnitId × Decimal)

structure StatementUnit where
  unitId : UnitId
  unitNumber : String
  costShare : Decimal
  advancesResolved : Decimal
  advancesPaid : Decimal
  /-- Positive: additional payment; negative: adjustment. -/
  result : Decimal
  /-- Existing claims with their own legal basis. -/
  arrears : Decimal
  /-- Information only, no new claim. -/
  informationTotal : Decimal
  reserveDue : Decimal
  reservePaid : Decimal

structure ReserveBlock where
  opening : Decimal
  contributionsResolved : Decimal
  contributionsPaid : Decimal
  contributionsOpen : Decimal
  contributionsPaidByReserve : List (ReserveId × Decimal)
  contributionsPaidUnassigned : Decimal
  withdrawals : Decimal
  interest : Decimal
  closing : Decimal
  bankBalance : Decimal
  bankDifference : Decimal
  bankDifferenceNote : String

structure StatementResult where
  units : List StatementUnit
  positions : List Position
  reserve : ReserveBlock
  totalCosts : Decimal

/-- Costs per unit, and the items with their split. -/
structure CostTally where
  costs : List (ShareKey × Decimal) := []
  positions : List Position := []

def CostTally.book (item : CostItem) (tally : CostTally) (parts : List (ShareKey × Decimal)) : CostTally where
  costs := addAll tally.costs parts
  positions := tally.positions ++
    [{ label := item.label, amount := item.amount, basis := item.basis,
       split := parts.map fun part => (part.1.2, part.2) }]

def costTally (register : PropertyRegister) (propertyId : Option PropertyId) (items : List CostItem)
    (start last : Date) : Result CostTally :=
  items.foldlM (fun tally item => do
    let parts ← distributed register propertyId item.allocationKeyId start last item.amount
    pure (tally.book item parts)) {}

/-- Paid part of the items that are bound to a reserve and have an open item. -/
def paidByReserve (db : Db) (unitIds : List UnitId) (start last : Date) : List (ReserveId × Decimal) :=
  let items := (unitIds.flatMap fun unitId => advanceItems db unitId "reserve" start last).filter fun item =>
    (openItemOf db.books item.journalEntryId).isSome
  addAll [] (items.filterMap fun item => item.reserveId.map fun reserveId => (reserveId, paidOn db.books item))

/-- Balance of the reserve bank accounts of the ledger. -/
def reserveBankBalance (db : Db) (register : PropertyRegister) (ledgerId : LedgerId) (asOf : Date) : Decimal :=
  let isReserve (account : LedgerAccount) : Bool :=
    match account.propertyBankAccountId with
    | some bankAccountId => bankAccountId ∈ register.reserveAccounts
    | none => account.number = "001201"
  ((db.books.accounts.zipIdx.filter fun account =>
    account.1.ledgerId = ledgerId ∧ account.1.category = .bank ∧ isReserve account.1).map fun account =>
      balance db.books account.2 (some asOf)).sum

def statementUnit (db : Db) (start last : Date) (unit : ShareKey × Decimal) : StatementUnit :=
  let (soll, paid, _) := advances db unit.1.2 "hoa_fee" start last
  let (reserveDue, reservePaid, _) := advances db unit.1.2 "reserve" start last
  { unitId := unit.1.2, unitNumber := unit.1.1, costShare := unit.2, advancesResolved := soll, advancesPaid := paid,
    result := unit.2 - soll, arrears := soll - paid, informationTotal := unit.2 - soll + (soll - paid),
    reserveDue, reservePaid }

/-- `statement_results` -/
def statementResults (db : Db) (register : PropertyRegister) (statement : HoaStatement) (ledgerId : LedgerId)
    (ledger : Ledger) (items : List CostItem) : Result StatementResult := do
  let start := Date.ofYmd statement.year 1 1
  let last := Date.ofYmd statement.year 12 31
  let tally ← costTally register ledger.propertyId items start last
  let units := (tally.costs.insertionSort fun first second => first.1.1 ≤ second.1.1).map (statementUnit db start last)
  let byReserve := paidByReserve db (units.map StatementUnit.unitId) start last
  let due := (units.map StatementUnit.reserveDue).sum
  let paid := (units.map StatementUnit.reservePaid).sum
  let closing := statement.reserveOpening + paid - statement.reserveWithdrawals + statement.reserveInterest
  let bank := reserveBankBalance db register ledgerId last
  pure {
    units, positions := tally.positions
    reserve := {
      opening := statement.reserveOpening, contributionsResolved := due, contributionsPaid := paid,
      contributionsOpen := due - paid
      contributionsPaidByReserve := byReserve.insertionSort fun first second => first.1 ≤ second.1
      contributionsPaidUnassigned := paid - (byReserve.map Prod.snd).sum
      withdrawals := statement.reserveWithdrawals, interest := statement.reserveInterest, closing
      bankBalance := bank, bankDifference := bank - closing
      bankDifferenceNote := if bank = closing then "Bankanlage entspricht dem Rücklagenbestand."
        else "Bankanlage und Rücklagenbestand weichen ab; Differenz erklären " ++
          "(offene Beiträge sind kein vorhandenes Geld), keine Ausgleichsbuchung." }
    totalCosts := (items.map CostItem.amount).sum }

end Mhvp.Hoa
