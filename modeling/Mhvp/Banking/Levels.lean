import Mhvp.Accounting.Models
import Mhvp.Core.Problem
import Mhvp.Lib.Transition

namespace Mhvp.Banking.Levels

open Core Accounting Lib.Calendar

inductive CaseClass
  | debtorFull
  | debtorCollective
  | creditorInvoice
  | recurringExpense
  | transferPair
  | excluded
  deriving DecidableEq

namespace CaseClass

def value : CaseClass → String
  | debtorFull => "debtor_full"
  | debtorCollective => "debtor_collective"
  | creditorInvoice => "creditor_invoice"
  | recurringExpense => "recurring_expense"
  | transferPair => "transfer_pair"
  | excluded => "excluded"

def caseClasses : List CaseClass :=
  [debtorFull, debtorCollective, creditorInvoice, recurringExpense, transferPair, excluded]

/-- `case_kind in CASE_CLASSES` -/
def ofValue (text : String) : Option CaseClass := caseClasses.find? fun kind => kind.value = text

/-- The classes in the order of their values. -/
def sorted : List CaseClass :=
  [creditorInvoice, debtorCollective, debtorFull, excluded, recurringExpense, transferPair]

end CaseClass

/-- Proposal only, one click, rule automation with daily review, automation with sampling. -/
inductive Level
  | l0
  | l1
  | l2
  | l3
  deriving DecidableEq

namespace Level

def value : Level → String
  | l0 => "L0"
  | l1 => "L1"
  | l2 => "L2"
  | l3 => "L3"

def levels : List Level := [l0, l1, l2, l3]

/-- `level in LEVELS` -/
def ofValue (text : String) : Option Level := levels.find? fun level => level.value = text

/-- `LEVELS.index(level)` -/
def index : Level → ℕ
  | l0 => 0
  | l1 => 1
  | l2 => 2
  | l3 => 3

/-- `LEVELS[level_index(level) - 1]` -/
def below : Level → Level
  | l0 => l0
  | l1 => l0
  | l2 => l1
  | l3 => l2

theorem index_inj {first second : Level} : first.index = second.index ↔ first = second := by
  cases first <;> cases second <;> simp [index]

theorem below_index (level : Level) : level.below.index ≤ level.index := by
  cases level <;> simp [below, index]

end Level

/-- `CLASS_CAPS`: the highest level a class may ever reach. -/
def capOf : CaseClass → Level
  | .debtorFull => .l3
  | .debtorCollective => .l1
  | .creditorInvoice => .l2
  | .recurringExpense => .l2
  | .transferPair => .l3
  | .excluded => .l0

structure Eligibility where
  nDecided : ℕ
  precisionManual : Decimal
  windowDays : ℕ
  daysAtPrevious : Option ℕ := none
  nAuto : Option ℕ := none
  errorRateAuto : Option Decimal := none

def eligibilityL1 : Eligibility := { nDecided := 20, precisionManual := 95 / 100, windowDays := 90 }

/-- `ELIGIBILITY`: thresholds for each target level. -/
def eligibility : Level → Option Eligibility
  | .l0 => none
  | .l1 => some eligibilityL1
  | .l2 => some { nDecided := 50, precisionManual := 98 / 100, windowDays := 90, daysAtPrevious := some 30 }
  | .l3 => some { nDecided := 50, precisionManual := 98 / 100, windowDays := 90, daysAtPrevious := some 60
                  nAuto := some 100, errorRateAuto := some (5 / 1000) }

/-- `DOWNGRADE_ERROR_RATE` -/
def downgradeErrorRate : Level → Option Decimal
  | .l2 => some (2 / 100)
  | .l3 => some (1 / 100)
  | _ => none

def downgradeWindowDays : ℕ := 30
def downgradeCorrectionsL1 : ℕ := 3

structure Proposal where
  kind : String
  source : String
  unambiguous : Bool := false

structure Features where
  /-- None where it is missing or empty. -/
  amount : Option Decimal := none
  transferPair : Bool := false
  direction : String := "debit"

inductive PostingDecisionStatus
  | pending
  | acceptedUnchanged
  | modified
  | rejected
  | ignored
  | autoPosted
  | expired
  | reversed
  deriving DecidableEq

structure PostingDecision where
  id : ℕ
  createdOn : Date
  status : PostingDecisionStatus
  bulk : Bool := false
  caseKind : String
  features : Features := {}
  proposals : List Proposal := []
  supersedesId : Option ℕ := none

/-- Case class of a movement from its features and the proposals; the order of the branches matters. -/
def classify (amount : Decimal) (transferPair : Bool) (proposals : List Proposal) : CaseClass :=
  let fromMatch := proposals.filter fun proposal => proposal.source = "match"
  if ∃ proposal ∈ proposals, proposal.kind = "return" ∨ proposal.kind = "deposit" then .excluded
  else if transferPair ∨ ∃ proposal ∈ proposals, proposal.kind = "transfer" then .transferPair
  else if 0 < amount then
    if ∃ proposal ∈ fromMatch, proposal.kind = "full" ∧ proposal.unambiguous then .debtorFull
    else if ∃ proposal ∈ fromMatch, proposal.kind = "collective" then .debtorCollective
    else .excluded
  else if (∃ proposal ∈ proposals, proposal.source = "invoice") ∨
      ∃ proposal ∈ fromMatch, proposal.kind = "invoice" ∧ proposal.unambiguous then .creditorInvoice
  else if (∃ proposal ∈ proposals, proposal.source = "rule" ∧ proposal.kind = "posting") ∨
      ∃ proposal ∈ proposals, proposal.source = "history" then .recurringExpense
  else .excluded

/-- The stored class, or the class of the snapshot for older rows. -/
def caseClassOf (row : PostingDecision) : CaseClass :=
  match CaseClass.ofValue row.caseKind with
  | some kind => kind
  | none =>
    let amount := row.features.amount.getD (if row.features.direction = "credit" then 1 else -1)
    classify amount row.features.transferPair row.proposals

structure LevelActor where
  userId : Option UserId
  isPlatformAdmin : Bool := false

/-- Figures of one class in a window, over all legal entities. -/
structure ClassMetrics where
  caseKind : CaseClass
  windowFrom : Date
  windowTo : Date
  nDecided : ℕ := 0
  nAcceptedUnchanged : ℕ := 0
  nModified : ℕ := 0
  nRejected : ℕ := 0
  nBulk : ℕ := 0
  nAuto : ℕ := 0
  nAutoReversed : ℕ := 0
  nOpen : ℕ := 0
  nTotal : ℕ := 0
  daysAtLevel : Option ℤ := none

inductive LevelRequestStatus
  | requested
  | approved
  | rejected
  deriving DecidableEq

structure BookkeepingLevelRequest where
  caseKind : CaseClass
  levelFrom : Level
  levelTo : Level
  reason : String
  evidence : ClassMetrics
  status : LevelRequestStatus := .requested
  requestedBy : UserId
  decidedBy : Option UserId := none
  decidedOn : Option Date := none
  decisionComment : Option String := none

/-- Texts by class; a missing or empty one is none. -/
abbrev Configured := CaseClass → Option String

/-- Settings of the tenant and its requests. -/
structure Automation where
  /-- `bookkeeping_automation` of the settings row, none without the row. -/
  settings : Option Configured
  requests : List BookkeepingLevelRequest := []

/-- Level per class from the setting, capped and L0 by default. -/
def effectiveLevels (configured : Configured) (kind : CaseClass) : Level :=
  let raw := (configured kind).getD "L0"
  let level := (Level.ofValue raw).getD .l0
  if (capOf kind).index < level.index then capOf kind else level

def currentLevels (automation : Automation) : CaseClass → Level :=
  effectiveLevels (automation.settings.getD fun _ => none)

/-- Day of the last approved raise of the class. -/
def levelSince (automation : Automation) (kind : CaseClass) : Option Date :=
  let decided := automation.requests.filterMap fun request =>
    if request.caseKind = kind ∧ request.status = .approved then request.decidedOn else none
  decided.max?

def daysAtLevel (automation : Automation) (kind : CaseClass) (windowTo : Date) : Option ℤ :=
  if currentLevels automation kind = .l0 then none
  else match levelSince automation kind with
    | some since => some (windowTo.ordinal - since.ordinal)
    | none => some 0

/-- The row it supersedes was posted automatically. -/
def wasAuto (rows : List PostingDecision) (row : PostingDecision) : Bool :=
  ∃ original ∈ rows, row.supersedesId = some original.id ∧ original.status = .autoPosted

def metricsOf (automation : Automation) (rows : List PostingDecision) (windowFrom windowTo : Date)
    (kind : CaseClass) : ClassMetrics :=
  let mine := rows.filter fun row => caseClassOf row = kind
  let number (status : PostingDecisionStatus) := mine.countP fun row => row.status = status
  { caseKind := kind
    windowFrom
    windowTo
    nDecided := number .acceptedUnchanged + number .modified + number .rejected
    nAcceptedUnchanged := number .acceptedUnchanged
    nModified := number .modified
    nRejected := number .rejected
    nBulk := mine.countP fun row =>
      row.bulk ∧ (row.status = .acceptedUnchanged ∨ row.status = .modified ∨ row.status = .rejected)
    nAuto := number .autoPosted
    nAutoReversed := mine.countP fun row => row.status = .reversed ∧ wasAuto rows row
    nOpen := number .pending
    nTotal := mine.length
    daysAtLevel := daysAtLevel automation kind windowTo }

/-- The rows of all legal entities together, one for each class that occurs in the window. -/
def classMetrics (automation : Automation) (decisions : List PostingDecision) (windowFrom windowTo : Date) :
    List ClassMetrics :=
  let rows := decisions.filter fun row => windowFrom ≤ row.createdOn ∧ row.createdOn ≤ windowTo
  let occurring := CaseClass.sorted.filter fun kind => ∃ row ∈ rows, caseClassOf row = kind
  occurring.map (metricsOf automation rows windowFrom windowTo)

def daysBefore (today : Date) (days : ℕ) : Date := ⟨today.ordinal - days⟩

def metricsForClass (automation : Automation) (decisions : List PostingDecision) (kind : CaseClass) (today : Date)
    (windowDays : ℕ) : ClassMetrics :=
  let windowFrom := daysBefore today windowDays
  match (classMetrics automation decisions windowFrom today).find? fun metrics => metrics.caseKind = kind with
  | some metrics => metrics
  | none =>
    { caseKind := kind, windowFrom, windowTo := today, daysAtLevel := daysAtLevel automation kind today }

/-- A ratio on four places, half up. -/
def ratio (part whole : ℕ) : Option Decimal :=
  if whole = 0 then none
  else some (((contextRound (part / whole) * 10000 + 1 / 2).floor : ℚ) / 10000)

def ClassMetrics.precisionManual (metrics : ClassMetrics) : Option Decimal :=
  ratio metrics.nAcceptedUnchanged metrics.nDecided

def ClassMetrics.errorRateAuto (metrics : ClassMetrics) : Option Decimal :=
  ratio metrics.nAutoReversed metrics.nAuto

/-- A figure as `str` writes it, with its number of places. -/
def figureText (places : ℕ) (figure : Decimal) : String :=
  let scaled := (figure * 10 ^ places).floor.natAbs
  toString (scaled / 10 ^ places) ++ "." ++ padded places (scaled % 10 ^ places)

def rateText : Option Decimal → String
  | some rate => figureText 4 rate
  | none => "ohne Basis"

/-- A reason where `lacking` holds. -/
def reasonIf (lacking : Prop) [Decidable lacking] (reason : String) : List String :=
  if lacking then [reason] else []

/-- Reasons a class is not eligible for `target`; none of them: eligible. -/
def missingFor (target : Level) (metrics : ClassMetrics) (current : Level) : List String :=
  match eligibility target with
  | none => ["Zielstufe ungültig"]
  | some need =>
    if (capOf metrics.caseKind).index < target.index then
      [s!"Klasse {metrics.caseKind.value} ist auf {(capOf metrics.caseKind).value} gedeckelt"]
    else
      reasonIf (target.index ≠ current.index + 1)
        s!"Nur eine Stufe je Antrag (aktuell {current.value}, beantragt {target.value})" ++
      reasonIf (metrics.nDecided < need.nDecided)
        s!"n_decided {metrics.nDecided} unter {need.nDecided} in {need.windowDays} Tagen" ++
      reasonIf (∀ precision ∈ metrics.precisionManual, precision < need.precisionManual)
        s!"precision_manual {rateText metrics.precisionManual} unter {figureText 2 need.precisionManual}" ++
      reasonIf (∃ days ∈ need.daysAtPrevious, ∀ atLevel ∈ metrics.daysAtLevel, atLevel < days)
        (s!"Stufe {current.value} seit {metrics.daysAtLevel.getD 0} Tagen, " ++
          s!"nötig {need.daysAtPrevious.getD 0}") ++
      reasonIf (∃ least ∈ need.nAuto, metrics.nAuto < least)
        s!"n_auto {metrics.nAuto} unter {need.nAuto.getD 0}" ++
      reasonIf (∃ most ∈ need.errorRateAuto, ∀ rate ∈ metrics.errorRateAuto, most < rate)
        s!"error_rate_auto {rateText metrics.errorRateAuto} über {figureText 3 (need.errorRateAuto.getD 0)}"

/-- `_set_level`: the level is written as it is given. -/
def setLevel (automation : Automation) (kind : CaseClass) (level : Level) : Result Automation := do
  let configured ← orRefuse automation.settings .resourceNotFound
  return { automation with settings := some (Function.update configured kind (some level.value)) }

def requestLevel (automation : Automation) (actor : LevelActor) (caseKind levelTo reason : String) (today : Date)
    (decisions : List PostingDecision) : Result Automation := do
  let kind ← orRefuse (CaseClass.ofValue caseKind) .validation "Unbekannte Fallklasse."
  let target ← orRefuse (Level.ofValue levelTo) .validation "Unbekannte Stufe."
  let current := currentLevels automation kind
  require (current.index < target.index) .validation "Eine Absenkung braucht keinen Antrag (PUT levels)."
  require (∀ request ∈ automation.requests, request.caseKind = kind → request.status ≠ .requested) .conflict
    "Für die Klasse liegt bereits ein offener Antrag vor."
  let window := ((eligibility target).getD eligibilityL1).windowDays
  let metrics := metricsForClass automation decisions kind today window
  let missing := missingFor target metrics current
  let unmet := "; ".intercalate missing
  require (missing = []) .bankLevelNotEligible s!"Eignung nicht erfüllt: {unmet}"
  let requestedBy ← orRefuse actor.userId .forbidden "Antrag nur durch eine angemeldete Person."
  let request : BookkeepingLevelRequest :=
    { caseKind := kind, levelFrom := current, levelTo := target, reason, evidence := metrics, requestedBy }
  return { automation with requests := automation.requests ++ [request] }

/-- A second person decides, never the requester and never a platform admin. -/
def decideLevel (automation : Automation) (actor : LevelActor) (requestId : ℕ) (approve : Bool)
    (comment : Option String) (today : Date) : Result Automation := do
  let request ← orRefuse automation.requests[requestId]? .resourceNotFound
  require (request.status = .requested) .conflict "Der Antrag ist bereits entschieden."
  require (actor.userId ≠ none ∧ actor.userId ≠ some request.requestedBy ∧ actor.isPlatformAdmin = false)
    .gateFourEyes "Die Freigabe muss eine andere Person erteilen."
  let decided : BookkeepingLevelRequest :=
    { request with
      status := if approve then .approved else .rejected
      decidedBy := actor.userId, decidedOn := some today, decisionComment := comment }
  let noted := { automation with requests := automation.requests.set requestId decided }
  if approve then setLevel noted request.caseKind request.levelTo else return noted

/-- Lowering by a person: immediate, no second person. -/
def lowerLevel (automation : Automation) (caseKind level : String) : Result Automation := do
  let kind ← orRefuse (CaseClass.ofValue caseKind) .validation "Unbekannte Klasse oder Stufe."
  let target ← orRefuse (Level.ofValue level) .validation "Unbekannte Klasse oder Stufe."
  require (target.index < (currentLevels automation kind).index) .validation
    "Eine Anhebung läuft über einen Antrag mit Freigabe."
  setLevel automation kind target

/-- Automatic downgrade by one level. -/
def downgrade (automation : Automation) (kind : CaseClass) : Result Automation :=
  let current := currentLevels automation kind
  if current = .l0 then return automation else setLevel automation kind current.below

/-- The figures of a class lower it from `level`. -/
def lowers (level : Level) (metrics : ClassMetrics) : Bool :=
  (∃ limit ∈ downgradeErrorRate level, ∃ rate ∈ metrics.errorRateAuto, limit < rate) ∨
    (level = .l1 ∧ downgradeCorrectionsL1 ≤ metrics.nModified + metrics.nRejected)

/-- The nightly job: the levels are read once, then each class is lowered by its figures. -/
def refreshDowngrades (automation : Automation) (today : Date) (decisions : List PostingDecision) :
    Result Automation :=
  let levels := currentLevels automation
  (classMetrics automation decisions (daysBefore today downgradeWindowDays) today).foldlM
    (fun now metrics => if lowers (levels metrics.caseKind) metrics then downgrade now metrics.caseKind else pure now)
    automation

inductive Call
  | request (actor : LevelActor) (caseKind levelTo reason : String) (today : Date) (decisions : List PostingDecision)
  | decide (actor : LevelActor) (requestId : ℕ) (approve : Bool) (comment : Option String) (today : Date)
  | lower (caseKind level : String)
  | downgrade (kind : CaseClass)
  /-- The decision log is read as it stands at that moment. -/
  | refresh (today : Date) (decisions : List PostingDecision)

def serve (automation : Automation) : Call → Result Automation
  | .request actor caseKind levelTo reason today decisions =>
    requestLevel automation actor caseKind levelTo reason today decisions
  | .decide actor requestId approve comment today => decideLevel automation actor requestId approve comment today
  | .lower caseKind level => lowerLevel automation caseKind level
  | .downgrade kind => downgrade automation kind
  | .refresh today decisions => refreshDowngrades automation today decisions

end Mhvp.Banking.Levels
