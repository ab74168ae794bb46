import Mathlib.Data.List.Chain
import Mathlib.Data.List.Sort
import Mhvp.Accounting.Models

namespace Mhvp.Hoa.ReserveDevelopment

open Core Accounting Lib.Calendar

abbrev StatementId := ℕ
abbrev PlanId := ℕ

def maxYears : ℕ := 30

structure HoaReserve where
  ledgerId : LedgerId
  accountId : Option AccountId := none
  openingBalance : Decimal := 0
  openingYear : Option ℕ := none

/-- A position of the calculated statement, as its snapshot keeps it. -/
structure Position where
  reserveId : ReserveId
  contributionsPaidBound : Bool
  contributionsPlanned : Decimal
  contributionsPaid : Decimal
  withdrawals : Decimal
  taxes : Decimal
  fees : Decimal
  interest : Decimal

/-- A statement without a calculated reserve block has no positions. -/
structure HoaStatement where
  ledgerId : LedgerId
  year : ℕ
  version : ℕ
  positions : List Position := []

structure EconomicPlan where
  ledgerId : LedgerId
  year : ℕ
  version : ℕ
  resolved : Bool

structure PlanItem where
  planId : PlanId
  amount : Decimal
  reserveId : Option ReserveId := none

structure HoaReservePlan where
  reserveId : ReserveId
  year : ℕ
  resolved : Bool
  plannedContribution : Decimal

inductive MovementKind
  | withdrawal
  | tax
  | fee
  | interest
  deriving DecidableEq

structure HoaReserveMovement where
  statementId : StatementId
  reserveId : ReserveId
  kind : MovementKind
  amount : Decimal

structure InterestTaxWithholding where
  journalEntryId : EntryId
  bankAccountId : AccountId
  capitalGainsTax : Decimal
  solidarityTax : Decimal
  churchTax : Decimal

structure Rows where
  entries : List JournalEntry := []
  statements : List HoaStatement := []
  plans : List EconomicPlan := []
  planItems : List PlanItem := []
  reservePlans : List HoaReservePlan := []
  movements : List HoaReserveMovement := []
  withholdings : List InterestTaxWithholding := []

inductive Source
  | statement
  | plan
  | none

inductive PlannedSource
  | statement
  | planItem
  | reservePlan
  | none

inductive ContributionBasis
  | paid
  | planned

structure YearFigures where
  source : Source
  plannedSource : PlannedSource
  statement : Option (StatementId × ℕ)
  contributionBasis : ContributionBasis
  contributionsPlanned : Decimal
  contributions : Decimal
  withdrawals : Decimal
  taxes : Decimal
  fees : Decimal
  interest : Decimal

structure Withheld where
  capitalGainsTax : Decimal
  solidarityTax : Decimal
  churchTax : Decimal
  total : Decimal

structure Row where
  year : ℕ
  opening : Decimal
  openingEntered : Bool
  figures : YearFigures
  interestTaxWithheld : Withheld
  closing : Decimal

/-- Closing = opening + contribution - withdrawals - taxes - fees + interest. -/
def develop (opening : Decimal) (figures : YearFigures) : Decimal :=
  opening + figures.contributions - figures.withdrawals - figures.taxes - figures.fees + figures.interest

/-- The row with the highest version. -/
def newest {Item : Type} (version : Item → ℕ) (items : List Item) : Option Item :=
  (items.insertionSort fun first second => version second ≤ version first).head?

def newestStatement (rows : Rows) (reserve : HoaReserve) (year : ℕ) : Option (HoaStatement × StatementId) :=
  newest (fun statement => statement.1.version) (rows.statements.zipIdx.filter fun statement =>
    statement.1.ledgerId = reserve.ledgerId ∧ statement.1.year = year)

def resolvedEconomicPlan (rows : Rows) (reserve : HoaReserve) (year : ℕ) : Option (EconomicPlan × PlanId) :=
  newest (fun plan => plan.1.version) (rows.plans.zipIdx.filter fun plan =>
    plan.1.ledgerId = reserve.ledgerId ∧ plan.1.year = year ∧ plan.1.resolved)

/-- `resolved_plan` -/
def resolvedPlan (rows : Rows) (reserveId : ReserveId) (year : ℕ) : Option HoaReservePlan :=
  rows.reservePlans.find? fun plan => plan.reserveId = reserveId ∧ plan.year = year ∧ plan.resolved

/-- What a resolved plan provides for the reserve; its own reserve plan comes before the economic plan. -/
def planned (rows : Rows) (reserve : HoaReserve) (reserveId : ReserveId) (year : ℕ) :
    Source × PlannedSource × Decimal :=
  match resolvedPlan rows reserveId year, resolvedEconomicPlan rows reserve year with
  | some plan, _ => (.plan, .reservePlan, plan.plannedContribution)
  | none, some plan =>
    let amounts := (rows.planItems.filter fun item => item.planId = plan.2 ∧ item.reserveId = some reserveId).map
      PlanItem.amount
    (.plan, .planItem, amounts.sum)
  | none, none => (.none, .none, 0)

def moved (rows : Rows) (statement : Option StatementId) (reserveId : ReserveId) (kind : MovementKind) : Decimal :=
  ((rows.movements.filter fun movement =>
    some movement.statementId = statement ∧ movement.reserveId = reserveId ∧ movement.kind = kind).map
      HoaReserveMovement.amount).sum

/-- `_year_figures` -/
def yearFigures (rows : Rows) (reserve : HoaReserve) (reserveId : ReserveId) (year : ℕ) : YearFigures :=
  let statement := newestStatement rows reserve year
  let position := statement.bind fun statement =>
    statement.1.positions.find? fun position => position.reserveId = reserveId
  match position with
  | some position =>
    { source := .statement, plannedSource := .statement
      statement := statement.map fun statement => (statement.2, statement.1.version)
      contributionBasis := if position.contributionsPaidBound then .paid else .planned
      contributionsPlanned := position.contributionsPlanned
      contributions :=
        if position.contributionsPaidBound then position.contributionsPaid else position.contributionsPlanned
      withdrawals := position.withdrawals, taxes := position.taxes, fees := position.fees
      interest := position.interest }
  | none =>
    let (source, plannedSource, amount) := planned rows reserve reserveId year
    let moved := moved rows (statement.map Prod.snd) reserveId
    { source, plannedSource, statement := statement.map fun statement => (statement.2, statement.1.version)
      contributionBasis := .planned, contributionsPlanned := amount, contributions := amount
      withdrawals := moved .withdrawal, taxes := moved .tax, fees := moved .fee, interest := moved .interest }

/-- Display only: the taxes withheld on the interest entries of the reserve account. -/
def interestTaxWithheld (rows : Rows) (reserve : HoaReserve) (year : ℕ) : Withheld :=
  let counts (withholding : InterestTaxWithholding) : Bool :=
    match rows.entries[withholding.journalEntryId]? with
    | none => false
    | some entry =>
      entry.isPosted ∧ entry.reversedById = none ∧ Date.ofYmd year 1 1 ≤ entry.bookingDate ∧
        entry.bookingDate ≤ Date.ofYmd year 12 31
  let found := rows.withholdings.filter fun withholding =>
    reserve.accountId = some withholding.bankAccountId ∧ counts withholding
  let sum (column : InterestTaxWithholding → Decimal) : Decimal := (found.map column).sum
  { capitalGainsTax := sum InterestTaxWithholding.capitalGainsTax
    solidarityTax := sum InterestTaxWithholding.solidarityTax
    churchTax := sum InterestTaxWithholding.churchTax
    total := sum InterestTaxWithholding.capitalGainsTax + sum InterestTaxWithholding.solidarityTax +
      sum InterestTaxWithholding.churchTax }

def yearRow (rows : Rows) (reserve : HoaReserve) (reserveId : ReserveId) (start year : ℕ) (opening : Decimal) : Row :=
  let figures := yearFigures rows reserve reserveId year
  { year, opening, openingEntered := year = start, figures
    interestTaxWithheld := interestTaxWithheld rows reserve year, closing := develop opening figures }

/-- The rows of some years from one on. -/
def yearRows (rows : Rows) (reserve : HoaReserve) (reserveId : ReserveId) (start : ℕ) : ℕ → ℕ → Decimal → List Row
  | _, 0, _ => []
  | year, years + 1, opening =>
    let row := yearRow rows reserve reserveId start year opening
    row :: yearRows rows reserve reserveId start (year + 1) years row.closing

/-- The first year that is shown. -/
def startYear (reserve : HoaReserve) (toYear : ℕ) : ℕ := max (reserve.openingYear.getD toYear) (toYear + 1 - maxYears)

def reserveDevelopment (rows : Rows) (reserve : HoaReserve) (reserveId : ReserveId) (toYear : ℕ) : List Row :=
  let start := startYear reserve toYear
  yearRows rows reserve reserveId start start (toYear + 1 - start) reserve.openingBalance

/-- Opening of a year: the entered balance in the opening year, otherwise the closing of the year before. Without a row
there is no closing to read. -/
def openingForYear (rows : Rows) (reserve : HoaReserve) (reserveId : ReserveId) (year : ℕ) : Option Decimal :=
  match reserve.openingYear with
  | none => some reserve.openingBalance
  | some openingYear =>
    if year ≤ openingYear then some reserve.openingBalance
    else (reserveDevelopment rows reserve reserveId (year - 1)).getLast?.map Row.closing

variable {rows : Rows} {reserve : HoaReserve} {reserveId : ReserveId} {start year years more first toYear other : ℕ}
  {opening : Decimal}

/-- Each row opens with the closing of the one before. -/
def Chained (found : List Row) : Prop := found.IsChain fun row next => next.year = row.year + 1 ∧ next.opening = row.closing

theorem yearRows_years : (yearRows rows reserve reserveId start year years opening).map Row.year =
    List.range' year years := by
  induction years generalizing year opening with
  | zero => rfl
  | succ years ih =>
    rw [yearRows, List.map_cons, ih, List.range'_succ]
    rfl

theorem yearRows_chained : Chained (yearRows rows reserve reserveId start year years opening) := by
  induction years generalizing year opening with
  | zero => exact List.IsChain.nil
  | succ years ih =>
    cases years with
    | zero => exact List.IsChain.singleton _
    | succ years => exact List.IsChain.cons_cons ⟨rfl, rfl⟩ ih

theorem yearRows_extends : yearRows rows reserve reserveId start year years opening <+:
    yearRows rows reserve reserveId start year (years + more) opening := by
  induction years generalizing year opening with
  | zero => exact List.nil_prefix
  | succ years ih =>
    rw [Nat.succ_add, yearRows, yearRows]
    exact List.prefix_cons_inj _ |>.mpr ih

section

variable (isFirst : reserve.openingYear = some first)
include isFirst

theorem startYear_of_opening (within' : toYear < first + maxYears) :
    startYear reserve toYear = first := by
  unfold startYear
  rw [isFirst, Option.getD_some]
  exact max_eq_left (by omega)

theorem reserveDevelopment_of_opening (within' : toYear < first + maxYears) :
    reserveDevelopment rows reserve reserveId toYear =
      yearRows rows reserve reserveId first first (toYear + 1 - first) reserve.openingBalance := by
  unfold reserveDevelopment
  rw [startYear_of_opening isFirst within']

theorem reserveDevelopment_extends (short : toYear ≤ other)
    (within' : other < first + maxYears) :
    reserveDevelopment rows reserve reserveId toYear <+: reserveDevelopment rows reserve reserveId other := by
  rw [reserveDevelopment_of_opening isFirst within', reserveDevelopment_of_opening isFirst (short.trans_lt within')]
  obtain ⟨more, isMore⟩ := Nat.exists_eq_add_of_le (Nat.sub_le_sub_right (Nat.succ_le_succ short) first)
  rw [isMore]
  exact yearRows_extends

theorem row_unique (within' : toYear < first + maxYears)
    (otherWithin : other < first + maxYears) (isRow : row ∈ reserveDevelopment rows reserve reserveId toYear)
    (isFound : found ∈ reserveDevelopment rows reserve reserveId other) (sameYear : row.year = found.year) :
    row = found := by
  have longest : max toYear other < first + maxYears := max_lt within' otherWithin
  have inLongest := (reserveDevelopment_extends isFirst (le_max_left toYear other) longest).subset isRow
  have foundInLongest := (reserveDevelopment_extends isFirst (le_max_right toYear other) longest).subset isFound
  have distinct : ((reserveDevelopment rows reserve reserveId (max toYear other)).map Row.year).Nodup := by
    rw [reserveDevelopment_of_opening isFirst longest, yearRows_years]
    exact List.nodup_range'
  exact List.inj_on_of_nodup_map distinct inLongest foundInLongest sameYear

/-- The closing that opens a year is that of the row before it, however far the development goes. -/
theorem openingForYear_closing (later : first < year) (shown : year ≤ toYear + 1)
    (within' : toYear < first + maxYears) :
    ∃ row ∈ reserveDevelopment rows reserve reserveId toYear, row.year + 1 = year ∧
      openingForYear rows reserve reserveId year = some row.closing := by
  have before : year - 1 ≤ toYear := by omega
  have beforeWithin : year - 1 < first + maxYears := before.trans_lt within'
  obtain ⟨years, isYears⟩ : ∃ years, year - 1 + 1 - first = years + 1 := ⟨year - 1 - first, by omega⟩
  have inYears : (reserveDevelopment rows reserve reserveId (year - 1)).map Row.year = List.range' first (years + 1) := by
    rw [reserveDevelopment_of_opening isFirst beforeWithin, yearRows_years, isYears]
  have nonempty : reserveDevelopment rows reserve reserveId (year - 1) ≠ [] := by
    intro none
    rw [none] at inYears
    cases inYears
  obtain ⟨row, isLast⟩ := Option.isSome_iff_exists.mp (List.getLast?_isSome.mpr nonempty)
  have lastYear : some row.year = some (first + years) := by
    have sameLast := congrArg List.getLast? inYears
    rw [List.getLast?_map, isLast, Option.map_some, List.range'_concat, List.getLast?_concat, one_mul] at sameLast
    exact sameLast
  refine ⟨row, ?_, ?_, ?_⟩
  · exact (reserveDevelopment_extends isFirst before within').subset (List.mem_of_getLast? isLast)
  · have isYear := Option.some.inj lastYear
    omega
  · unfold openingForYear
    rw [isFirst]
    dsimp only
    rw [if_neg (not_le.mpr later), isLast]
    rfl

end

/-- From the opening year on and over thirty years the rows of a reserve do not depend on the last year asked for, each
opens with the closing of the year before, and so does the opening of a year. Without an opening year the entered balance
is the opening of every year. -/
theorem development_consistent (rows : Rows) (reserve : HoaReserve) (reserveId : ReserveId) :
    (∀ first, reserve.openingYear = some first → ∀ toYear, toYear < first + maxYears →
      (∀ other, other < first + maxYears → ∀ row ∈ reserveDevelopment rows reserve reserveId toYear,
        ∀ found ∈ reserveDevelopment rows reserve reserveId other, row.year = found.year → row = found) ∧
      (reserveDevelopment rows reserve reserveId toYear).map Row.year = List.range' first (toYear + 1 - first) ∧
      Chained (reserveDevelopment rows reserve reserveId toYear) ∧
      (∀ row ∈ reserveDevelopment rows reserve reserveId toYear, row.year = first → row.opening = reserve.openingBalance) ∧
      (∀ year, year ≤ first → openingForYear rows reserve reserveId year = some reserve.openingBalance) ∧
      ∀ year, first < year → year ≤ toYear + 1 → ∃ row ∈ reserveDevelopment rows reserve reserveId toYear,
        row.year + 1 = year ∧ openingForYear rows reserve reserveId year = some row.closing) ∧
    (reserve.openingYear = none → ∀ year,
      reserveDevelopment rows reserve reserveId year =
        [yearRow rows reserve reserveId year year reserve.openingBalance] ∧
      openingForYear rows reserve reserveId year = some reserve.openingBalance) := by
  constructor
  · intro first isFirst toYear within'
    refine ⟨?_, ?_, ?_, ?_, ?_, ?_⟩
    · intro other otherWithin row isRow found isFound sameYear
      exact row_unique isFirst within' otherWithin isRow isFound sameYear
    · rw [reserveDevelopment_of_opening isFirst within', yearRows_years]
    · rw [reserveDevelopment_of_opening isFirst within']
      exact yearRows_chained
    · intro row isRow inFirst
      by_cases begun : first ≤ toYear
      · -- the development up to the first year has its row alone
        have alone : reserveDevelopment rows reserve reserveId first =
            [yearRow rows reserve reserveId first first reserve.openingBalance] := by
          rw [reserveDevelopment_of_opening isFirst (begun.trans_lt within'), Nat.add_sub_cancel_left]
          rfl
        have isOpening := List.mem_of_mem_head? (Option.mem_def.mpr (congrArg List.head? alone))
        rw [row_unique isFirst within' (begun.trans_lt within') isRow isOpening inFirst]
        rfl
      · rw [reserveDevelopment_of_opening isFirst within', Nat.sub_eq_zero_of_le (not_le.mp begun)] at isRow
        cases isRow
    · intro year notLater
      unfold openingForYear
      rw [isFirst]
      exact if_pos notLater
    · intro year later shown
      exact openingForYear_closing isFirst later shown within'
  · intro noFirst year
    have start : startYear reserve year = year := by
      unfold startYear maxYears
      rw [noFirst, Option.getD_none]
      exact max_eq_left (by omega)
    constructor
    · unfold reserveDevelopment
      rw [start]
      dsimp only
      rw [Nat.add_sub_cancel_left]
      rfl
    · unfold openingForYear
      rw [noFirst]

/-- A reserve of 1000 with a planned contribution of 100 in one year. -/
def sampleRows (year : ℕ) : Rows where
  reservePlans := [{ reserveId := 0, year, resolved := true, plannedContribution := 100 }]

def sampleReserve (openingYear : Option ℕ) : HoaReserve where
  ledgerId := 0
  openingBalance := 1000
  openingYear

theorem sampleReserve_developed :
    ∃ row ∈ reserveDevelopment (sampleRows 2025) (sampleReserve (some 2025)) 0 2026, row.year + 1 = 2026 ∧
      openingForYear (sampleRows 2025) (sampleReserve (some 2025)) 0 2026 = some row.closing :=
  have consistent := (development_consistent (sampleRows 2025) (sampleReserve (some 2025)) 0).1 2025 rfl 2026 (by decide)
  consistent.2.2.2.2.2 2026 (by decide) (by decide)

/-- Without an opening year the year after opens with the entered balance again; and a development of more than thirty
years begins with it in a year that opened otherwise before. -/
theorem opened_anew :
    ((reserveDevelopment (sampleRows 2025) (sampleReserve none) 0 2025).map Row.closing = [1100] ∧
        (reserveDevelopment (sampleRows 2025) (sampleReserve none) 0 2026).map Row.opening = [1000] ∧
        openingForYear (sampleRows 2025) (sampleReserve none) 0 2026 = some 1000) ∧
      (∃ row ∈ reserveDevelopment (sampleRows 1990) (sampleReserve (some 1990)) 0 2019, row.year = 1991 ∧
        row.opening = 1100) ∧
      ∃ row ∈ reserveDevelopment (sampleRows 1990) (sampleReserve (some 1990)) 0 2020, row.year = 1991 ∧
        row.opening = 1000 := by
  decide +kernel

end Mhvp.Hoa.ReserveDevelopment
