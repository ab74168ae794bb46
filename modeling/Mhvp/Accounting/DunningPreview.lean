import Mathlib.Data.List.Sort
import Mhvp.Lib.Rounding
import Mhvp.Lib.Months
import Mhvp.Accounting.Models
import Mhvp.Lib.Dictionary

namespace Mhvp.Accounting.Dunning

open Core Lib.Calendar Lib.Rounding

inductive DayCount
  /-- Days by 365, also in leap years. -/
  | act365Fixed
  /-- Days of each calendar year by its length. -/
  | actAct

/-- Days of a span in each calendar year it touches, with the year. -/
def yearPieces : ℕ → Date → Date → List (ℕ × ℕ)
  | 0, _, _ => []
  | years + 1, cursor, last =>
    if cursor < last then
      let stop := min last (newYear (cursor.year + 1))
      (stop.ordinal - cursor.ordinal, cursor.year) :: yearPieces years stop last
    else []

/-- Fraction of a year from the start to the day before `last`. The source stops before year 9999, which has no next
first of January. -/
def yearFraction (dayCount : DayCount) (start last : Date) : Decimal :=
  if last ≤ start then 0
  else
    match dayCount with
    | .act365Fixed => contextRound ((last.ordinal - start.ordinal : ℕ) / 365)
    | .actAct =>
      roundedSum contextRound ((yearPieces (last.year + 1 - start.year) start last).map fun piece =>
        contextRound (piece.1 / daysOfYear piece.2))

/-- Base rate of the operator's table, in percent. -/
structure BaseRate where
  validFrom : Date
  baseRate : Decimal
  deriving DecidableEq

/-- One period of the calculation; `last` is its last day. -/
structure InterestPeriod where
  start : Date
  last : Date
  days : ℕ
  baseRate : Decimal
  spread : Decimal
  rate : Decimal
  amount : Decimal

structure InterestResult where
  amount : Decimal
  periods : List InterestPeriod
  note : Option String := none

/-- `total * rate / Decimal("100") * fraction` -/
def interestProduct (total rate fraction : Decimal) : Decimal :=
  contextRound (contextRound (contextRound (total * rate) / 100) * fraction)

/-- Tuples are compared from the left. -/
def Before (first second : BaseRate) : Prop :=
  first.validFrom < second.validFrom ∨ first.validFrom = second.validFrom ∧ first.baseRate ≤ second.baseRate

instance : DecidableRel Before := fun _ _ => inferInstanceAs (Decidable (_ ∨ _ ∧ _))

/-- `sorted(rates)` -/
def orderedRates (rates : List BaseRate) : List BaseRate := rates.insertionSort Before

/-- One period per rate, each valid until the day before the next one. -/
def ratePeriods (total extra : Decimal) (dayCount : DayCount) (start last : Date) : List BaseRate → List InterestPeriod
  | [] => []
  | base :: rest =>
    let validTo := (rest.head?.map BaseRate.validFrom).getD last
    let segFrom := max start base.validFrom
    let segTo := min last validTo
    if segTo ≤ segFrom then ratePeriods total extra dayCount start last rest
    else
      let rate := base.baseRate + extra
      { start := segFrom, last := segTo.dayBefore, days := segTo.ordinal - segFrom.ordinal
        baseRate := base.baseRate, spread := extra, rate
        amount := roundCents (interestProduct total rate (yearFraction dayCount segFrom segTo)) } ::
      ratePeriods total extra dayCount start last rest

/-- `interest_over_periods`, from the start to the day before `last`. -/
def interestOverPeriods (rates : List BaseRate) (spread : Option Decimal) (total : Decimal) (start last : Date)
    (dayCount : DayCount) : InterestResult :=
  if last ≤ start ∨ total ≤ 0 then { amount := 0, periods := [] }
  else
    let ordered := orderedRates rates
    if ∀ first ∈ ordered.head?, start < first.validFrom then
      { amount := 0, periods := []
        note := some ("Kein Basiszinssatz für den Zeitraum ab " ++ dateText start ++ " gepflegt: Zinsen nicht berechnet") }
    else
      let periods := ratePeriods total (spread.getD 0) dayCount start last ordered
      { amount := (periods.map InterestPeriod.amount).sum, periods }

open Lib.Dictionary

/-- Start of default, as the tenant decided it. -/
inductive DefaultMode
  | afterNotice30Days
  | calendarDueDate
  | afterReminder
  | other (mode : String)

structure Level where
  level : ℕ
  minDaysOverdue : ℤ
  feeAmount : Option Decimal := none

/-- Settings of a property after inheritance. -/
structure EffectiveSettings where
  levels : List Level := []
  thresholdAmount : Decimal := 0
  feeFromLevel : Option ℕ := none
  interestEnabled : Bool := false
  interestBaseRate : Option Decimal := none
  interestSpread : Option Decimal := none
  defaultStartMode : Option DefaultMode := none
  interestDayCount : DayCount := .act365Fixed

def levelConfig (settings : EffectiveSettings) (level : ℕ) : Option Level :=
  settings.levels.find? fun config => config.level = level

def feeAmountFor (settings : EffectiveSettings) (level : ℕ) : Option Decimal :=
  if settings.feeFromLevel.any (fun first => first ≤ level) then (levelConfig settings level).bind Level.feeAmount
  else none

/-- Zahlungserinnerung: always without fee and interest. -/
def reminderLevel : ℕ := 1

/-- An open item with a due date, as of the day of the run; the others are never overdue. -/
structure OverdueItem where
  id : OpenItemId
  accountId : AccountId
  kind : OpenItemKind := .receivable
  dueDate : Date
  remaining : Decimal
  contractId : Option ContractId := none
  noticeReceivedOn : Option Date := none

structure DefaultStart where
  mode : Option DefaultMode
  start : Option Date
  note : String

def noticeDays : ℕ := 30

/-- The day after 30 days from the later of due date and receipt. -/
def noticeStart (item : OverdueItem) : Option Date :=
  item.noticeReceivedOn.map fun received => (max item.dueDate received).addDays (noticeDays + 1)

def defaultStart (mode : Option DefaultMode) (items : List OverdueItem) (reminderReceivedOn : Option Date) :
    DefaultStart :=
  match mode with
  | none => ⟨mode, none, "Verzugsbeginn: Modus nicht festgelegt (Mandanteneinstellung)"⟩
  | some .calendarDueDate =>
    match (items.map OverdueItem.dueDate).min? with
    | none => ⟨mode, none, "Verzugsbeginn: keine Fälligkeit hinterlegt"⟩
    | some oldest => ⟨mode, some (oldest.addDays 1), "Verzugsbeginn: Tag nach kalendermäßiger Fälligkeit"⟩
  | some .afterNotice30Days =>
    let missing := items.countP fun item => item.noticeReceivedOn.isNone
    match (items.filterMap noticeStart).min? with
    | none => ⟨mode, none, "Verzugsbeginn: Zugangsdatum der Zahlungsaufforderung nicht erfasst"⟩
    | some start => ⟨mode, some start, "Verzugsbeginn: " ++ toString noticeDays ++ " Tage nach Fälligkeit und Zugang" ++
        if 0 < missing then ", " ++ toString missing ++ " Posten ohne erfasstes Zugangsdatum" else ""⟩
  | some .afterReminder =>
    match reminderReceivedOn with
    | none => ⟨mode, none, "Verzugsbeginn: Zugang einer Mahnung nicht erfasst"⟩
    | some received => ⟨mode, some (received.addDays 1), "Verzugsbeginn: Tag nach Zugang der Mahnung"⟩
  | some (.other name) => ⟨mode, none, "Verzugsbeginn: unbekannter Modus " ++ name⟩

/-- The history of rates wins; without any the single rate of the settings applies. -/
def interestFor (settings : EffectiveSettings) (rates : List BaseRate) (total : Decimal) (start : Option Date)
    (last : Date) : InterestResult :=
  match start with
  | none => { amount := 0, periods := [] }
  | some start =>
    if ¬ settings.interestEnabled ∨ last ≤ start then { amount := 0, periods := [] }
    else if rates ≠ [] then
      interestOverPeriods rates settings.interestSpread total start last settings.interestDayCount
    else
      match settings.interestBaseRate with
      | none => { amount := 0, periods := [] }
      | some base =>
        interestOverPeriods [⟨start, base⟩] settings.interestSpread total start last settings.interestDayCount

/-- Second line of defence: a Zahlungserinnerung carries neither fee nor interest. -/
def reminderGuard (level : ℕ) (feeAmount interestAmount : Decimal) : Decimal × Decimal × Option String :=
  if level ≠ reminderLevel ∨ (feeAmount = 0 ∧ interestAmount = 0) then (feeAmount, interestAmount, none)
  else (0, 0, some ("Zahlungserinnerung ohne Gebühr und Zinsen: Konfiguration ergab Gebühr " ++ feeAmount.text ++
    " EUR und Zinsen " ++ interestAmount.text ++ " EUR, beides auf 0,00 EUR gesetzt"))

inductive BlockReason
  | installmentPlan
  | disputed
  | setOff
  | litigation
  | insolvency

/-- `BLOCK_REASON_LABELS` -/
def BlockReason.label : BlockReason → String
  | .installmentPlan => "Ratenplan"
  | .disputed => "bestrittener Posten"
  | .setOff => "Aufrechnung"
  | .litigation => "Prozess"
  | .insolvency => "Insolvenz"

structure CaseContract where
  dunningBlock : Bool := false
  dunningBlockReason : Option String := none
  /-- Only a representative of the debtor would receive the letter. -/
  representativeOnly : Bool := false

/-- What the preview reads about a debtor account. -/
structure Debtor where
  number : String
  /-- Level of the latest case that was sent. -/
  lastLevel : ℕ := 0
  /-- Receipt of the earliest sent letter. -/
  reminderReceivedOn : Option Date := none
  /-- An automatic posting still waits for its review. -/
  unreviewed : Bool := false
  /-- Levels with a proposed case in an approved run. -/
  approvedLevels : List ℕ := []

/-- What the preview reads about a ledger. -/
structure DunningLedger where
  settings : Option EffectiveSettings
  openItems : List OverdueItem
  debtor : AccountId → Debtor
  /-- The active block of an item. -/
  blockOf : OpenItemId → Option BlockReason := fun _ => none
  contract : ContractId → CaseContract := fun _ => {}
  isLeading : Bool := true
  paymentAccount : Option BankAccountId := none

inductive CaseStatus
  | proposed
  | excluded

structure DunningCase where
  debtorAccountId : AccountId
  contractId : Option ContractId
  level : ℕ
  openItems : List OverdueItem
  total : Decimal
  feeAmount : Decimal
  interestAmount : Decimal
  status : CaseStatus
  reason : String
  dueDate : Option Date
  defaultStart : Option Date
  defaultMode : Option DefaultMode
  bankAccountId : Option BankAccountId
  bankWarning : Option String
  interestDetail : List InterestPeriod

def unreviewedAutoReason : String :=
  "Automatikbuchung ohne abgeschlossene Nachkontrolle: zurückgestellt bis zur Nachkontrolle"

def duplicateStageReason : String :=
  "Für dieses Konto ist ein Mahnfall gleicher Stufe bereits freigegeben oder versendet"

def noBankAccountWarning : String :=
  "Kein Standardkonto des Forderungsinhabers hinterlegt: Mahnschreiben nicht freigebbar (M16-13)"

def representativeOnlyWarning : String :=
  "Zustellung nur an den Bevollmächtigten: ob die Mahnung damit dem Vollmachtgeber zugeht, " ++
    "ist anwaltlich zu klären (M23-07)"

/-- Why there is no proposal, the first reason that applies. -/
def exclusion (ledger : DunningLedger) (debtor : Debtor) (allBlocked : Option String) (contract : Option CaseContract)
    (level : ℕ) (total : Decimal) (days : ℕ) : Option String :=
  let ladder :=
    match allBlocked, ledger.settings with
    | some note, _ => some ("Mahnsperre je Posten: " ++ note)
    | none, none => some "Keine Mahnstufen eingerichtet"
    | none, some settings =>
      if settings.levels = [] then some "Keine Mahnstufen eingerichtet"
      else if contract.any CaseContract.dunningBlock then
        some ("Mahnsperre: " ++ (contract.bind CaseContract.dunningBlockReason).getD "ohne Angabe")
      else if total < settings.thresholdAmount then some "Unter der Mahngrenze"
      else
        match levelConfig settings level with
        | none => some "Höchste Mahnstufe erreicht: weitere Schritte nur nach Einzelfallprüfung"
        | some config =>
          if (days : ℤ) < config.minDaysOverdue then
            some ("Noch nicht " ++ toString config.minDaysOverdue ++ " Tage überfällig")
          else none
  if ladder.isSome then ladder
  else if debtor.unreviewed then some unreviewedAutoReason
  else if level ∈ debtor.approvedLevels then some duplicateStageReason
  else if ¬ ledger.isLeading then some "Buchungskreis nicht führend: gemahnt wird im führenden System (6.9.10)"
  else none

/-- The case of one debtor account, from its overdue items. -/
def proposeCase (rates : List BaseRate) (ledger : DunningLedger) (runDate : Date) (accountId : AccountId)
    (allOverdue : List OverdueItem) : DunningCase :=
  let debtor := ledger.debtor accountId
  let blocks := allOverdue.filterMap fun item => ledger.blockOf item.id
  let unblocked := allOverdue.filter fun item => (ledger.blockOf item.id).isNone
  let blockNote := if blocks = [] then none else some ("Gesperrte Posten ausgenommen: " ++
    String.intercalate ", " ((blocks.map BlockReason.label).dedup.insertionSort fun first second => first ≤ second))
  let overdue := if unblocked = [] then allOverdue else unblocked
  let contractId := overdue.findSome? OverdueItem.contractId
  let contract := contractId.map ledger.contract
  let total := (overdue.map OverdueItem.remaining).sum
  let oldest := (overdue.map OverdueItem.dueDate).min?
  let days := runDate.ordinal - (oldest.getD runDate).ordinal
  let level := debtor.lastLevel + 1
  let reason := exclusion ledger debtor (if blocks.length = allOverdue.length then blockNote else none) contract level
    total days
  let verzug := Dunning.defaultStart (ledger.settings.bind EffectiveSettings.defaultStartMode) overdue
    debtor.reminderReceivedOn
  let settings := if reason.isNone then ledger.settings else none
  let fee := (settings.bind fun settings => feeAmountFor settings level).getD 0
  let interest : InterestResult :=
    match settings with
    | none => { amount := 0, periods := [] }
    | some settings =>
      if reminderLevel < level then interestFor settings rates total verzug.start runDate
      else { amount := 0, periods := [] }
  let bank := if reason.isNone then ledger.paymentAccount else none
  let guarded := reminderGuard level fee interest.amount
  let lead := reason.getD (toString days ++ " Tage seit Fälligkeit, Konto " ++ debtor.number)
  let warnings := if reason.isSome then [] else
    some verzug.note :: blockNote :: interest.note :: (if bank.isNone then some noBankAccountWarning else none) ::
      [if contract.any CaseContract.representativeOnly then some representativeOnlyWarning else none]
  { debtorAccountId := accountId, contractId, level, openItems := overdue, total
    feeAmount := guarded.1
    interestAmount := guarded.2.1
    status := if reason.isSome then .excluded else .proposed
    reason := String.intercalate ". " (lead :: (guarded.2.2 :: warnings).filterMap id)
    dueDate := oldest
    defaultStart := verzug.start
    defaultMode := verzug.mode
    bankAccountId := bank
    bankWarning := if reason.isNone ∧ bank.isNone then some noBankAccountWarning else none
    interestDetail := if guarded.2.2.isSome then [] else interest.periods }

/-- Overdue receivables of a ledger by debtor account. -/
def byAccount (items : List OverdueItem) (runDate : Date) : List (AccountId × List OverdueItem) :=
  grouped ((items.filter fun item => item.kind = .receivable ∧ 0 < item.remaining ∧ item.dueDate < runDate).map
    fun item => (item.accountId, item))

/-- Cases of a run, by ledger and in the order of the accounts. -/
def preview (rates : List BaseRate) (ledgers : List DunningLedger) (runDate : Date) : List DunningCase :=
  ledgers.flatMap fun ledger =>
    ((byAccount ledger.openItems runDate).insertionSort fun first second => first.1 ≤ second.1).map fun group =>
      proposeCase rates ledger runDate group.1 group.2

end Mhvp.Accounting.Dunning
