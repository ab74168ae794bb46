import Mhvp.Hoa.Plans
import Mhvp.Lib.Transition

/-!
Special levies of an owners' association: draft, distribution over the units and instalments, binding to a resolution,
and application as contract payments.
-/

namespace Mhvp.Hoa.Levies

open Core Accounting Billing Hoa Lib.Calendar

abbrev LevyId := ℕ
abbrev ResolutionId := ℕ

/-- `special_levy`, the payment type of the instalments. -/
def code : String := "special_levy"

def binding : List String := ["positive", "final", "legally_binding"]

/-- `_month`: first day of the month `offset` months later. -/
def month (start : Date) (offset : ℕ) : Date :=
  .ofYmd (start.year + (start.month - 1 + offset) / 12) ((start.month - 1 + offset) % 12 + 1) 1

def monthEnd (first : Date) : Date := (month first 1).dayBefore

inductive LevyStatus
  | draft
  | calculated
  | resolved
  | applied
  | superseded
  | cancelled
  deriving DecidableEq

/-- Revenue account of the charges and reference date of the owner, part of the hash. -/
structure LevyTerms where
  revenueAccountId : Option AccountId := none
  referenceDate : Option Date := none
  deriving DecidableEq

/-- What a unit is charged: the instalments of a first version, or the difference of an amendment. -/
inductive UnitCharge
  | instalments (rates : List (Date × Decimal))
  | difference (previous difference : Decimal)
  deriving DecidableEq

structure LevyUnit where
  unitId : UnitId
  unitNumber : String
  amount : Decimal
  charge : UnitCharge
  /-- Owners at the reference date and at the first due date, where there is a reference date. -/
  owners : Option (Option ContractId × Option ContractId) := none
  deriving DecidableEq

/-- The calculated distribution. Its hash stands for its content. -/
structure LevySnapshot where
  total : Decimal
  units : List LevyUnit
  purpose : String
  terms : LevyTerms
  deriving DecidableEq

structure SpecialLevy where
  legalEntityId : ℕ
  ledgerId : LedgerId
  purpose : String
  total : Decimal
  allocationKeyId : AllocationKeyId
  unitIds : List UnitId
  firstDue : Date
  instalments : ℕ
  accountId : Option AccountId
  terms : LevyTerms
  status : LevyStatus := .draft
  snapshot : Option LevySnapshot := none
  resolutionId : Option ResolutionId := none
  version : ℕ := 1
  supersedesId : Option LevyId := none
  differenceDue : Option Date := none
  changeReason : Option String := none
  isMoney : IsMoney total
  positive : 0 < total
  instalmentsInRange : 1 ≤ instalments ∧ instalments ≤ 60

structure Resolution where
  legalEntityId : ℕ
  status : String
  decidedOn : Date
  snapshotHash : Option LevySnapshot

/-- Row of `contract_payment`. `levy` says for which levy and unit it was added; no column keeps it and no request
reads it. -/
structure ContractPayment where
  contractId : ContractId
  paymentTypeCode : String
  net : Decimal
  gross : Decimal
  validFrom : Date
  validTo : Option Date := none
  levy : Option (LevyId × UnitId) := none

/-- Draft entry that credits a unit; levy and unit stand in its idempotency key. -/
structure LevyCredit where
  levyId : LevyId
  unitId : UnitId
  entryId : EntryId
  amount : Decimal

/-- Contract of a unit; an ownership says how it was acquired. -/
structure UnitContract where
  unitId : Option UnitId
  isOwnership : Bool
  startDate : Date
  endDate : Option Date := none
  acquisitionKind : Option String := none
  debtorAccountId : Option ℕ := none

structure DebtorAccountReservation where
  legalEntityId : ℕ
  number : String
  partyName : String
  unitNumber : String

structure PaymentTypeAccount where
  ledgerId : LedgerId
  paymentTypeCode : String
  accountId : AccountId

inductive AllocationVariant
  | manualRelease
  | byDueDate
  | byResolutionDate

/-- What other services keep and the levies only read. -/
structure Office where
  register : PropertyRegister
  /-- Legal entities of the kind owners' association. -/
  associations : List ℕ := []
  contracts : List UnitContract := []
  acquisitionRules : List (String × AllocationVariant) := []
  reservations : List DebtorAccountReservation := []
  typeAccounts : List PaymentTypeAccount := []
  resolutions : List Resolution := []

structure LevyState where
  office : Office
  books : Books
  levies : List SpecialLevy := []
  payments : List ContractPayment := []
  credits : List LevyCredit := []

/-- `owner_at` -/
def ownerAt (office : Office) (unitId : UnitId) (day : Date) : Option ContractId :=
  (office.contracts.zipIdx.find? fun contract =>
    contract.1.unitId = some unitId ∧ contract.1.isOwnership ∧ contract.1.startDate ≤ day ∧
      ∀ last ∈ contract.1.endDate, day ≤ last).map Prod.snd

def resolveVariant (office : Office) (kind : Option String) : AllocationVariant :=
  match kind with
  | none => .manualRelease
  | some kind => ((office.acquisitionRules.find? fun rule => rule.1 = kind).map Prod.snd).getD .manualRelease

def pickDay (variant : AllocationVariant) (defaultDay : Date) (dueDay resolutionDay : Option Date) : Date :=
  match variant with
  | .manualRelease => defaultDay
  | .byDueDate => dueDay.getD defaultDay
  | .byResolutionDate => resolutionDay.getD defaultDay

/-- `allocation_owner` -/
def allocationOwner (office : Office) (unitId : UnitId) (defaultDay : Date) (dueDay resolutionDay : Option Date) :
    Option ContractId := do
  let base ← ownerAt office unitId defaultDay
  let kind := (office.contracts[base]?).bind UnitContract.acquisitionKind
  let day := pickDay (resolveVariant office kind) defaultDay dueDay resolutionDay
  if day = defaultDay then some base else (ownerAt office unitId day).or (some base)

structure LevyIn where
  ledgerId : LedgerId
  purpose : String
  total : Decimal
  allocationKeyId : AllocationKeyId
  unitIds : List UnitId := []
  firstDue : Date
  instalments : ℕ := 1
  accountId : Option AccountId := none
  revenueAccountId : Option AccountId := none
  referenceDate : Option Date := none
  isMoney : IsMoney total
  positive : 0 < total
  instalmentsInRange : 1 ≤ instalments ∧ instalments ≤ 60 := by decide

structure LevyAmendIn where
  total : Decimal
  differenceDue : Date
  reason : String
  purpose : Option String := none
  isMoney : IsMoney total
  positive : 0 < total

/-- `_hoa_ledger` -/
def hoaLedger (state : LevyState) (ledgerId : LedgerId) : Result Ledger := do
  let ledger ← orRefuse state.books.ledgers[ledgerId]? .resourceNotFound
  require (ledger.legalEntityId ∈ state.office.associations ∧ ledger.propertyId.isSome) .validation
    (some "Nur für den Buchungskreis einer GdWE (W01).")
  pure ledger

def checkTerms (state : LevyState) (body : LevyIn) : Result LevyTerms := do
  match body.revenueAccountId with
  | some accountId => do
      let account ← orRefuse ((state.books.accounts[accountId]?).filter fun account =>
        account.ledgerId = body.ledgerId) .validation (some "Ertragskonto gehört nicht zur Buchhaltung der GdWE.")
      require (account.category = .revenue) .validation (some "Konto ist kein Ertragskonto.")
  | none => pure ()
  require (∀ day ∈ body.referenceDate, day ≤ body.firstDue) .validation
    (some "Stichtag darf nicht nach der ersten Fälligkeit liegen.")
  pure { revenueAccountId := body.revenueAccountId, referenceDate := body.referenceDate }

def createLevy (state : LevyState) (body : LevyIn) : Result LevyState := do
  require (body.firstDue.day = 1) .validation (some "Fälligkeit ab dem Monatsersten.")
  let ledger ← hoaLedger state body.ledgerId
  let terms ← checkTerms state body
  let levy : SpecialLevy :=
    { legalEntityId := ledger.legalEntityId, ledgerId := body.ledgerId, purpose := body.purpose, total := body.total,
      allocationKeyId := body.allocationKeyId, unitIds := body.unitIds, firstDue := body.firstDue,
      instalments := body.instalments, accountId := body.accountId, terms, isMoney := body.isMoney,
      positive := body.positive, instalmentsInRange := body.instalmentsInRange }
  pure { state with levies := state.levies ++ [levy] }

def levyOf (state : LevyState) (levyId : LevyId) : Result SpecialLevy :=
  orRefuse state.levies[levyId]? .resourceNotFound

/-- Equal rates cut to cents, and the remainder on the last instalment. -/
def instalmentRates (amount : Decimal) (instalments : ℕ) : List Decimal :=
  let base := quantizeDown (contextRound (amount / instalments))
  List.replicate (instalments - 1) base ++ [amount - base * ((instalments - 1 : ℕ) : Decimal)]

/-- Units of a snapshot; a levy that is not calculated has none. -/
def SpecialLevy.units (levy : SpecialLevy) : List LevyUnit := (levy.snapshot.map LevySnapshot.units).getD []

/-- `before.get(unit_id, ZERO)` -/
def amountBefore (before : List LevyUnit) (unitId : UnitId) : Decimal :=
  ((before.find? fun unit => unit.unitId = unitId).map LevyUnit.amount).getD 0

/-- A unit of a first version, with its instalments. -/
def firstUnit (levy : SpecialLevy) (part : ShareKey × Decimal) : LevyUnit where
  unitId := part.1.2
  unitNumber := part.1.1
  amount := part.2
  charge := .instalments ((instalmentRates part.2 levy.instalments).zipIdx.map fun rate =>
    (month levy.firstDue rate.2, rate.1))

/-- A unit of an amendment, against its amount before. -/
def amendedUnit (before : List LevyUnit) (part : ShareKey × Decimal) : LevyUnit where
  unitId := part.1.2
  unitNumber := part.1.1
  amount := part.2
  charge := .difference (amountBefore before part.1.2) (part.2 - amountBefore before part.1.2)

/-- A unit no longer affected. -/
def releasedUnit (unit : LevyUnit) : LevyUnit where
  unitId := unit.unitId
  unitNumber := unit.unitNumber
  amount := 0
  charge := .difference unit.amount (-unit.amount)

/-- The units of a levy from its parts; `before` are the units of the levy it supersedes. -/
def levyUnits (levy : SpecialLevy) (before : Option (List LevyUnit)) (parts : List (ShareKey × Decimal)) :
    List LevyUnit :=
  match before with
  | none => parts.map (firstUnit levy)
  | some before =>
    parts.map (amendedUnit before) ++
      (before.filter fun unit => ∀ part ∈ parts, part.1.2 ≠ unit.unitId).map releasedUnit

/-- The owners of a unit are noted where the levy has a reference date. -/
def withOwners (office : Office) (levy : SpecialLevy) (unit : LevyUnit) : LevyUnit :=
  { unit with owners := levy.terms.referenceDate.map fun day =>
      (ownerAt office unit.unitId day, ownerAt office unit.unitId levy.firstDue) }

/-- Weights of the units the levy names; all units of the key where it names none. -/
def affected (levy : SpecialLevy) (shares : List Share) : Result (List Share) := do
  if levy.unitIds = [] then pure shares
  else do
    let chosen := shares.filter fun share => share.key.2 ∈ levy.unitIds
    require (chosen.length = levy.unitIds.dedup.length) .validation (some "Betroffene Einheit ohne Schlüsselwert.")
    pure chosen

/-- Units of the levy that is superseded. -/
def unitsBefore (state : LevyState) (levy : SpecialLevy) : Result (Option (List LevyUnit)) :=
  match levy.supersedesId with
  | none => pure none
  | some previousId => do
      let previous ← levyOf state previousId
      pure (some previous.units)

def snapshotOf (state : LevyState) (levy : SpecialLevy) : Result LevySnapshot := do
  let ledger ← hoaLedger state levy.ledgerId
  let weighed ← unitWeights state.office.register ledger.propertyId levy.allocationKeyId levy.firstDue levy.firstDue
  let shares ← affected levy weighed
  let parts ← orRefuse (distribute levy.total shares) .internal
  let sorted := parts.insertionSort fun first second => KeyLe first.1 second.1
  let before ← unitsBefore state levy
  pure { total := levy.total, units := (levyUnits levy before sorted).map (withOwners state.office levy),
         purpose := levy.purpose, terms := levy.terms }

def calculateLevy (state : LevyState) (levyId : LevyId) : Result LevyState := do
  let levy ← levyOf state levyId
  require (levy.status = .draft) .conflict (some "Bereits berechnet.")
  let snapshot ← snapshotOf state levy
  pure { state with
    levies := state.levies.set levyId { levy with snapshot := some snapshot, status := .calculated } }

def resolveLevy (state : LevyState) (levyId : LevyId) (resolutionId : ResolutionId) : Result LevyState := do
  let levy ← levyOf state levyId
  require (levy.status = .calculated) .conflict (some "Erst berechnen.")
  let resolution ← orRefuse ((state.office.resolutions[resolutionId]?).filter fun resolution =>
    resolution.legalEntityId = levy.legalEntityId) .validation (some "Beschluss fehlt.")
  require (resolution.status ∈ binding) .conflict (some "Beschluss ist nicht positiv gefasst.")
  require (resolution.snapshotHash = levy.snapshot) .conflict
    (some "Beschluss bezieht sich auf einen anderen Stand.")
  pure { state with
    levies := state.levies.set levyId { levy with resolutionId := some resolutionId, status := .resolved } }

/-- Two payments of one contract and type whose periods share a day (`ex_contract_payment_period`). -/
def Clashes (first second : ContractPayment) : Prop :=
  first.contractId = second.contractId ∧ first.paymentTypeCode = second.paymentTypeCode ∧
    (∀ last ∈ second.validTo, first.validFrom ≤ last) ∧ ∀ last ∈ first.validTo, second.validFrom ≤ last

instance : Decidable (Clashes first second) := by unfold Clashes; infer_instance

/-- Insert a payment; the table refuses a period that ends before it starts or that overlaps another. -/
def insertPayment (payments : List ContractPayment) (payment : ContractPayment) : Result (List ContractPayment) := do
  require (∀ last ∈ payment.validTo, payment.validFrom ≤ last) .databaseRefused
  require (∀ held ∈ payments, ¬ Clashes held payment) .databaseRefused
  pure (payments ++ [payment])

/-- Last day of the last instalment month. -/
def SpecialLevy.lastDay (levy : SpecialLevy) : Date := monthEnd (month levy.firstDue (levy.instalments - 1))

/-- An applied levy of the same community, other than itself and the one it supersedes. -/
def otherApplied (levyId : LevyId) (levy : SpecialLevy) (other : SpecialLevy × LevyId) : Prop :=
  other.1.legalEntityId = levy.legalEntityId ∧ other.1.status = .applied ∧ other.2 ≠ levyId ∧
    levy.supersedesId ≠ some other.2

instance : DecidablePred (otherApplied levyId levy) := fun _ => by unfold otherApplied; infer_instance

/-- The instalment months of two levies share a day. -/
def Overlaps (first second : SpecialLevy) : Prop := first.firstDue ≤ second.lastDay ∧ second.firstDue ≤ first.lastDay

instance : Decidable (Overlaps first second) := inferInstanceAs (Decidable (_ ∧ _))

def levyPayment (levyId : LevyId) (unit : LevyUnit) (contractId : ContractId) (first : Date) (amount : Decimal) :
    ContractPayment :=
  { contractId, paymentTypeCode := code, net := amount, gross := amount, validFrom := first,
    validTo := some (monthEnd first), levy := some (levyId, unit.unitId) }

def noOwner (unit : LevyUnit) : String := "Kein Eigentümer für Einheit " ++ unit.unitNumber ++ " zur Fälligkeit."

/-- The instalments of a unit that are due at all, as payments of its owner. -/
def chargeInstalments (levyId : LevyId) (levy : SpecialLevy) (state : LevyState) (unit : LevyUnit) :
    Result LevyState := do
  let contractId ← orRefuse (ownerAt state.office unit.unitId levy.firstDue) .conflict (some (noOwner unit))
  match unit.charge with
  | .difference _ _ => .error { error := .internal }
  | .instalments rates => do
      let due := rates.filter fun rate => 0 < rate.2
      let payments ← (due.map fun rate => levyPayment levyId unit contractId rate.1 rate.2).foldlM insertPayment
        state.payments
      pure { state with payments }

def missingAccount : Option String := some "Erlöskonto Sonderumlage oder Debitorenkonto fehlt für die Gutschrift."

/-- Draft that credits the debtor of a contract with an amount. -/
def creditDraft (levyId : LevyId) (levy : SpecialLevy) (due : Date) (state : LevyState) (unit : LevyUnit)
    (contractId : ContractId) (amount : Decimal) : Result LevyState := do
  let mapping ← orRefuse (state.office.typeAccounts.find? fun mapping =>
    mapping.ledgerId = levy.ledgerId ∧ mapping.paymentTypeCode = code) .conflict missingAccount
  let reservation ← orRefuse (((state.office.contracts[contractId]?).bind UnitContract.debtorAccountId).bind
    (state.office.reservations[·]?)) .conflict missingAccount
  let debtor ← orRefuse (state.books.accounts.zipIdx.find? fun account =>
    account.1.ledgerId = levy.ledgerId ∧ account.1.number = reservation.number) .conflict missingAccount
  let header : EntryHeader :=
    { bookingDate := due, dueDate := some due,
      text := "Gutschrift Sonderumlage V" ++ toString levy.version ++ " Einheit " ++ unit.unitNumber, kind := .custom,
      contractId := some contractId, source := .manual,
      idempotencyKey := some ("levy-credit:" ++ toString levyId ++ ":" ++ toString unit.unitId) }
  let (entryId, books) ← writeDraft state.books levy.ledgerId none header none
    [{ accountId := mapping.accountId, debit := amount, credit := 0 },
     { accountId := debtor.2, debit := 0, credit := amount }] []
  pure { state with books, credits := state.credits ++ [{ levyId, unitId := unit.unitId, entryId, amount }] }

/-- The difference of a unit: a payment in the month it is due, or a credit. -/
def chargeDifference (levyId : LevyId) (levy : SpecialLevy) (due : Date) (state : LevyState) (unit : LevyUnit) :
    Result LevyState :=
  match unit.charge with
  | .instalments _ => .error { error := .internal }
  | .difference _ difference =>
    if difference = 0 then pure state
    else do
      let decidedOn := (levy.resolutionId.bind (state.office.resolutions[·]?)).map Resolution.decidedOn
      let contractId ← orRefuse (allocationOwner state.office unit.unitId due (some due) decidedOn) .conflict
        (some (noOwner unit))
      if 0 < difference then do
        let payments ← insertPayment state.payments (levyPayment levyId unit contractId due difference)
        pure { state with payments }
      else creditDraft levyId levy due state unit contractId (-difference)

/-- Reserved debtor numbers of the community that have no account yet. -/
def syncDebtorAccounts (state : LevyState) (ledgerId : LedgerId) : LevyState :=
  match state.books.ledgers[ledgerId]? with
  | none => state
  | some ledger =>
    let existing := (state.books.accounts.filter fun account => account.ledgerId = ledgerId).map LedgerAccount.number
    let missing := state.office.reservations.filter fun reservation =>
      reservation.legalEntityId = ledger.legalEntityId ∧ reservation.number ∉ existing
    let added := missing.map fun reservation : DebtorAccountReservation =>
      ({ ledgerId, number := reservation.number,
         name := clip (reservation.unitNumber ++ " " ++ reservation.partyName) 200,
         category := .debtor } : LedgerAccount)
    { state with books := { state.books with accounts := state.books.accounts ++ added } }

/-- `_apply_amendment` -/
def applyAmendment (levyId : LevyId) (levy : SpecialLevy) (state : LevyState) : Result LevyState := do
  let due ← orRefuse levy.differenceDue .conflict (some "Fälligkeit der Differenz fehlt.")
  levy.units.foldlM (chargeDifference levyId levy due) (syncDebtorAccounts state levy.ledgerId)

def setStatus (levies : List SpecialLevy) (levyId : LevyId) (status : LevyStatus) : List SpecialLevy :=
  levies.modify levyId fun levy => { levy with status }

def applyLevy (state : LevyState) (levyId : LevyId) : Result LevyState := do
  let levy ← levyOf state levyId
  if levy.status = .applied then pure state
  else do
    require (levy.status = .resolved) .conflict (some "Raten erst nach Beschluss (W06).")
    require (∀ other ∈ state.levies.zipIdx, otherApplied levyId levy other → ¬ Overlaps other.1 levy) .conflict
      (some "Zeitraum überschneidet sich mit einer anderen Sonderumlage.")
    match levy.supersedesId with
    | some previousId => do
        let charged ← applyAmendment levyId levy state
        pure { charged with levies := setStatus (setStatus charged.levies levyId .applied) previousId .superseded }
    | none => do
        let charged ← levy.units.foldlM (chargeInstalments levyId levy) state
        pure { charged with levies := setStatus charged.levies levyId .applied }

def amendLevy (state : LevyState) (levyId : LevyId) (body : LevyAmendIn) : Result LevyState := do
  require (body.differenceDue.day = 1) .validation (some "Fälligkeit ab dem Monatsersten.")
  let old ← levyOf state levyId
  require (old.status = .applied) .conflict (some "Nur übernommene Sonderumlagen ändern.")
  require (∀ other ∈ state.levies, other.supersedesId = some levyId → other.status = .cancelled) .conflict
    (some "Änderung bereits angelegt.")
  let amendment : SpecialLevy :=
    { legalEntityId := old.legalEntityId, ledgerId := old.ledgerId, purpose := body.purpose.getD old.purpose,
      total := body.total, allocationKeyId := old.allocationKeyId, unitIds := old.unitIds, firstDue := old.firstDue,
      instalments := 1, accountId := old.accountId, terms := old.terms, version := old.version + 1,
      supersedesId := some levyId, differenceDue := some body.differenceDue, changeReason := some body.reason,
      isMoney := body.isMoney, positive := body.positive, instalmentsInRange := by decide }
  pure { state with levies := state.levies ++ [amendment] }

inductive LevyCall
  | create (body : LevyIn)
  | calculate (levyId : LevyId)
  | resolve (levyId : LevyId) (resolutionId : ResolutionId)
  | apply (levyId : LevyId)
  | amend (levyId : LevyId) (body : LevyAmendIn)
  /-- A payment of any type that the contract service adds. -/
  | addPayment (payment : ContractPayment)
  /-- Other services change their rows: master data, contracts, resolutions. -/
  | setOffice (office : Office)
  | setBooks (books : Books)

def levyStep (state : LevyState) : LevyCall → Result LevyState
  | .create body => createLevy state body
  | .calculate levyId => calculateLevy state levyId
  | .resolve levyId resolutionId => resolveLevy state levyId resolutionId
  | .apply levyId => applyLevy state levyId
  | .amend levyId body => amendLevy state levyId body
  | .addPayment payment => do
      let payments ← insertPayment state.payments { payment with levy := none }
      pure { state with payments }
  | .setOffice office => pure { state with office }
  | .setBooks books => pure { state with books }

end Mhvp.Hoa.Levies
