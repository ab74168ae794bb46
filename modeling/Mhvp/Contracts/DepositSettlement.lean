import Mathlib.Data.List.Sort
import Mhvp.Core.Decimal
import Mhvp.Lib.Dictionary
import Mhvp.Lib.Rounding
import Mhvp.Lib.Months

namespace Mhvp.Contracts.Deposit

open Core Lib.Calendar Lib.Dictionary Lib.Rounding

/-- A result, or the detail of a `SettlementError`. -/
abbrev Settled (Result : Type) := Except String Result

/-- Signed change of the balance on a day: payments add, offsets and payouts subtract. -/
structure BalanceChange where
  on : Date
  amount : Decimal

/-- Days from the start to the day before the stop, with one balance. -/
structure Interval where
  start : Date
  stop : Date
  balance : Decimal

def Interval.days (interval : Interval) : ℕ := interval.stop.ordinal - interval.start.ordinal

structure YearInterest where
  year : ℕ
  rate : Option Decimal
  days : ℕ
  amount : Decimal
  deriving DecidableEq

/-- Changes on the same day are merged. -/
def byDay (changes : List BalanceChange) : List (Date × Decimal) :=
  changes.foldl (fun held change => alter change.on (fun old => old.getD 0 + change.amount) held) []

def intervalsFrom (change : Date → Decimal) (until' : Date) : Decimal → List Date → List Interval
  | _, [] => []
  | balance, day :: rest =>
    let balance := balance + change day
    let stop := rest.head?.getD (until'.addDays 1)
    if day < stop then ⟨day, stop, balance⟩ :: intervalsFrom change until' balance rest
    else intervalsFrom change until' balance rest

/-- The days with a change, in order. -/
def changeDays (changes : List BalanceChange) (until' : Date) : List Date :=
  (((byDay changes).map Prod.fst).filter fun day => day ≤ until').insertionSort fun first second => first ≤ second

/-- Intervals from the first change up to `until'`. -/
def balanceIntervals (changes : List BalanceChange) (until' : Date) : List Interval :=
  intervalsFrom (fun day => ((byDay changes).lookup day).getD 0) until' 0 (changeDays changes until')

/-- Calendar years from the first change to the day of the settlement. -/
def yearSpan (changes : List BalanceChange) (until' : Date) : List ℕ :=
  match ((changes.map BalanceChange.on).filter fun day => day ≤ until').min? with
  | none => []
  | some first => List.range' first.year (until'.year + 1 - first.year)

/-- The part of an interval in a year. -/
def Interval.inYear (year : ℕ) (interval : Interval) : Option Interval :=
  let lo := max interval.start (newYear year)
  let hi := min interval.stop (newYear (year + 1))
  if lo < hi then some ⟨lo, hi, interval.balance⟩ else none

def yearParts (changes : List BalanceChange) (until' : Date) (year : ℕ) : List Interval :=
  (balanceIntervals changes until').filterMap (Interval.inYear year)

/-- `balance * rate / Decimal(100) * Decimal(days) / Decimal(basis)` -/
def interestTerm (balance rate : Decimal) (days basis : ℕ) : Decimal :=
  contextRound (contextRound (contextRound (contextRound (balance * rate) / 100) * days) / basis)

/-- Interest with the reference rate of each year. -/
def interestByReferenceRate (changes : List BalanceChange) (rates : List (ℕ × Decimal)) (until' : Date) :
    Settled (List YearInterest) :=
  let years := yearSpan changes until'
  let missing := years.filter fun year => (rates.lookup year).isNone
  if missing ≠ [] then
    .error ("Für folgende Jahre ist kein Referenzzinssatz hinterlegt: " ++ String.intercalate ", " (missing.map toString))
  else
    .ok (years.map fun year =>
      let rate := (rates.lookup year).getD 0
      let parts := yearParts changes until' year
      { year, rate := some rate, days := (parts.map Interval.days).sum
        amount := roundCents (roundedSum contextRound (parts.map fun part =>
          interestTerm part.balance rate part.days (daysOfYear year))) })

/-- Tuples are compared from the left. -/
def Before (first second : Date × Decimal) : Prop := first.1 < second.1 ∨ first.1 = second.1 ∧ first.2 ≤ second.2

instance : DecidableRel Before := fun _ _ => inferInstanceAs (Decidable (_ ∨ _ ∧ _))

/-- `next((r for d, r in reversed(steps) if d <= day), None)` -/
def rateOn (steps : List (Date × Decimal)) (day : Date) : Option Decimal :=
  (steps.reverse.find? fun step => step.1 ≤ day).map Prod.snd

/-- The days a part is cut at: where it starts and stops, and where a rate starts inside. -/
def cuts (steps : List (Date × Decimal)) (part : Interval) : List Date :=
  ((part.start :: part.stop :: (steps.map Prod.fst).filter fun day => part.start < day ∧ day < part.stop).dedup).insertionSort
    fun first second => first ≤ second

/-- `pairwise(cuts)` -/
def segments (steps : List (Date × Decimal)) (part : Interval) : List Interval :=
  ((cuts steps part).zip (cuts steps part).tail).map fun cut => ⟨cut.1, cut.2, part.balance⟩

/-- The rate of a segment is that of its first day. -/
def rated (steps : List (Date × Decimal)) (segment : Interval) : Settled (Interval × Decimal) :=
  match rateOn steps segment.start with
  | none => .error ("Für die Kaution ist ab " ++ dateText segment.start ++ " kein Zinssatz hinterlegt.")
  | some rate => .ok (segment, rate)

/-- `next(iter(used)) if len(used) == 1 else None` -/
def onlyRate (used : List Decimal) : Option Decimal :=
  match used.dedup with
  | [rate] => some rate
  | _ => none

/-- Interest of one year. -/
def historyYear (steps : List (Date × Decimal)) (parts : List Interval) (year : ℕ) : Settled YearInterest := do
  let used ← (parts.flatMap (segments steps)).mapM (rated steps)
  return { year, rate := onlyRate (used.map Prod.snd), days := (used.map fun segment => segment.1.days).sum
           amount := roundCents (roundedSum contextRound (used.map fun segment =>
             interestTerm segment.1.balance segment.2 segment.1.days (daysOfYear year))) }

/-- Interest with the rates of the deposit, each valid from its day on. -/
def interestByRateHistory (changes : List BalanceChange) (history : List (Date × Decimal)) (until' : Date)
    (years : Option (List ℕ) := none) : Settled (List YearInterest) :=
  let steps := history.insertionSort Before
  let span := yearSpan changes until'
  let selected := (years.map fun years => years.filter fun year => year ∈ span).getD span
  selected.mapM fun year => historyYear steps (yearParts changes until' year) year

/-- Interest as entered for each year. -/
def interestIndividual (changes : List BalanceChange) (entered : List (ℕ × Decimal)) (until' : Date) :
    Settled (List YearInterest) :=
  let years := yearSpan changes until'
  let outside := ((entered.map Prod.fst).filter fun year => year ∉ years).map toString
  if outside ≠ [] then
    .error ("Zinsen für Jahre außerhalb der Kautionslaufzeit: " ++
      String.intercalate ", " (outside.insertionSort fun first second => first ≤ second))
  else
    .ok (years.map fun year =>
      { year, rate := none, days := ((yearParts changes until' year).map Interval.days).sum
        amount := roundCents ((entered.lookup year).getD 0) })

inductive InterestMode
  | individual
  | referenceRate
  | depositRates
  | none

structure Deduction where
  label : String
  amount : Decimal

/-- What was recorded for a deposit. -/
structure Movements where
  payments : List (Date × Decimal)
  offsets : List (Date × Decimal) := []
  payouts : List (Date × Decimal) := []
  interestRecorded : Decimal := 0

def Movements.all (movements : Movements) : List (Date × Decimal) :=
  movements.payments ++ movements.offsets ++ movements.payouts

def Movements.changes (movements : Movements) : List BalanceChange :=
  (movements.payments.map fun payment => ⟨payment.1, payment.2⟩) ++
    (movements.offsets.map fun offset => ⟨offset.1, -offset.2⟩) ++
    movements.payouts.map fun payout => ⟨payout.1, -payout.2⟩

/-- Rates or amounts of the chosen mode. -/
structure InterestInput where
  rates : List (ℕ × Decimal) := []
  enteredInterest : List (ℕ × Decimal) := []
  rateHistory : List (Date × Decimal) := []

structure SettlementResult where
  settlementDate : Date
  interestMode : InterestMode
  principalPaid : Decimal
  offsetsRecorded : Decimal
  payoutsRecorded : Decimal
  interestRecorded : Decimal
  years : List YearInterest
  deductions : List Deduction

def SettlementResult.balanceBeforeInterest (result : SettlementResult) : Decimal :=
  result.principalPaid - result.offsetsRecorded - result.payoutsRecorded

def SettlementResult.interestTotal (result : SettlementResult) : Decimal := (result.years.map YearInterest.amount).sum

def SettlementResult.deductionsTotal (result : SettlementResult) : Decimal :=
  (result.deductions.map Deduction.amount).sum

def SettlementResult.payoutAmount (result : SettlementResult) : Decimal :=
  result.balanceBeforeInterest + result.interestTotal - result.deductionsTotal

/-- Interest of the chosen mode. -/
def interestYears (changes : List BalanceChange) (mode : InterestMode) (input : InterestInput) (settlementDate : Date) :
    Settled (List YearInterest) :=
  match mode with
  | .referenceRate => interestByReferenceRate changes input.rates settlementDate
  | .depositRates =>
    if input.rateHistory = [] then .error "Für die Kaution ist kein Zinssatz hinterlegt."
    else interestByRateHistory changes input.rateHistory settlementDate
  | .individual => interestIndividual changes input.enteredInterest settlementDate
  | .none => .ok []

def computeSettlement (settlementDate : Date) (mode : InterestMode) (movements : Movements) (deductions : List Deduction)
    (input : InterestInput) : Settled SettlementResult :=
  if movements.payments = [] then .error "Für die Kaution ist keine Einzahlung erfasst."
  else if ∃ movement ∈ movements.all, settlementDate < movement.1 then
    .error "Es gibt Kautionsbewegungen nach dem Abrechnungsdatum."
  else
    match interestYears movements.changes mode input settlementDate with
    | .error detail => .error detail
    | .ok years =>
      let result : SettlementResult :=
        { settlementDate, interestMode := mode
          principalPaid := (movements.payments.map Prod.snd).sum
          offsetsRecorded := (movements.offsets.map Prod.snd).sum
          payoutsRecorded := (movements.payouts.map Prod.snd).sum
          interestRecorded := movements.interestRecorded
          years, deductions }
      if ∃ deduction ∈ deductions, deduction.amount ≤ 0 then .error "Ein Einbehalt braucht einen positiven Betrag."
      else if result.payoutAmount < 0 then
        .error ("Die Einbehalte übersteigen das Kautionsguthaben. Eine Forderung gegen den Mieter " ++
          "ist nicht Teil des Entwurfs.")
      else .ok result

end Mhvp.Contracts.Deposit
