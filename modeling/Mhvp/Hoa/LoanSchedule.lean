import Mhvp.Core.Cents
import Mhvp.Core.Problem

namespace Mhvp.Hoa.LoanSchedule

open Core Lib.Calendar List

def maxScheduleMonths : ℕ := 600

/-- A stored loan, as its endpoint checks it. -/
structure HoaLoan where
  principal : Decimal
  interestRatePercent : Decimal
  termMonths : Option ℕ
  instalment : Option Decimal
  startDate : Date
  principal_pos : 0 < principal
  principal_cents : IsCents principal
  rate_nonneg : 0 ≤ interestRatePercent
  term_bounds : ∀ term ∈ termMonths, 1 ≤ term ∧ term ≤ maxScheduleMonths

structure ScheduleRow where
  number : ℕ
  dueDate : Date
  instalment : Decimal
  interest : Decimal
  repayment : Decimal
  balance : Decimal
  deriving DecidableEq

/-- Same day of month `months` later; a missing day is clamped to the month end. -/
def addMonths (day : Date) (months : ℕ) : Date :=
  let monthIndex := day.month - 1 + months
  let year := day.year + monthIndex / 12
  let month := monthIndex % 12 + 1
  .ofYmd year month (min day.day (Date.monthLength year month))

namespace HoaLoan

/-- `interest_rate_percent / Decimal(100) / Decimal(12)` -/
def monthlyRate (loan : HoaLoan) : Decimal := contextRound (contextRound (loan.interestRatePercent / 100) / 12)

/-- `principal.quantize(CENT, rounding=ROUND_HALF_UP)` -/
def opening (loan : HoaLoan) : Decimal := roundCents loan.principal

def limit (loan : HoaLoan) : ℕ := loan.termMonths.getD maxScheduleMonths

/-- Interest of a month on the open balance. -/
def interestOf (loan : HoaLoan) (balance : Decimal) : Decimal := roundCents (contextRound (balance * loan.monthlyRate))

end HoaLoan

/-- The balance after the last row. -/
def residualOf (balance : Decimal) (rows : List ScheduleRow) : Decimal :=
  (rows.getLast?.map ScheduleRow.balance).getD balance

variable {loan : HoaLoan} {number rounds : ℕ} {balance interest repayment : Decimal} {row : ScheduleRow}
  {rows : List ScheduleRow} {schedule : Schedule}

theorem monthlyRate_nonneg (loan : HoaLoan) : 0 ≤ loan.monthlyRate := by
  have yearly := contextRound_accurate.round_nonneg (div_nonneg loan.rate_nonneg (by norm_num : (0 : ℚ) ≤ 100))
  exact contextRound_accurate.round_nonneg (div_nonneg yearly (by norm_num))

theorem interestOf_nonneg (loan : HoaLoan) (nonneg : 0 ≤ balance) : 0 ≤ loan.interestOf balance :=
  roundCents_nonneg (contextRound_accurate.round_nonneg (mul_nonneg nonneg (monthlyRate_nonneg loan)))

/-- The instalment covers the first interest. -/
def Covers (loan : HoaLoan) : Prop := ∀ instalment ∈ loan.instalment, loan.interestOf loan.opening < instalment

/-- What one round does to the balance. -/
structure Repaid (loan : HoaLoan) (number : ℕ) (balance : Decimal) (row : ScheduleRow) : Prop where
  isInterest : row.interest = loan.interestOf balance
  isBalance : row.balance = balance - row.repayment
  nonneg : 0 ≤ row.repayment
  atMost : row.repayment ≤ balance
  covers : Covers loan
  last : loan.instalment = none → number = loan.limit → row.balance = 0

/-- What the rows from a balance on add up to. -/
structure Plan (balance : Decimal) (rows : List ScheduleRow) : Prop where
  sum : (rows.map ScheduleRow.repayment).sum + residualOf balance rows = balance
  interest : ∀ row ∈ rows, 0 ≤ row.interest
  descending : (balance :: rows.map ScheduleRow.balance).Pairwise fun before after => after ≤ before
  residual : 0 ≤ residualOf balance rows

theorem Plan.nil (nonneg : 0 ≤ balance) : Plan balance [] := by
  refine ⟨?_, ?_, pairwise_singleton _ _, nonneg⟩
  · rw [map_nil, sum_nil, zero_add]
    rfl
  · intro row member
    cases member

theorem residualOf_cons (balance : Decimal) (row : ScheduleRow) (rows : List ScheduleRow) :
    residualOf balance (row :: rows) = residualOf row.balance rows := by
  unfold residualOf
  cases rows with
  | nil => rfl
  | cons next rest => rw [List.getLast?_cons_cons, List.getLast?_cons, Option.map_some, Option.getD_some, Option.getD_some]

theorem Plan.cons (repaid : Repaid loan number balance row) (nonneg : 0 ≤ balance) (later : Plan row.balance rows) :
    Plan balance (row :: rows) := by
  have isBalance := repaid.isBalance
  have fewer : row.balance ≤ balance := by
    have amount := repaid.nonneg
    linarith
  refine ⟨?_, ?_, ?_, ?_⟩
  · have sum := later.sum
    rw [map_cons, sum_cons, residualOf_cons]
    linarith
  · intro other member
    rcases mem_cons.mp member with rfl | member
    · rw [repaid.isInterest]
      exact interestOf_nonneg loan nonneg
    · exact later.interest other member
  · rw [map_cons, pairwise_cons]
    refine ⟨?_, later.descending⟩
    intro after member
    rcases mem_cons.mp member with rfl | member
    · exact fewer
    · exact ((pairwise_cons.mp later.descending).1 after member).trans fewer
  · rw [residualOf_cons]
    exact later.residual

end Mhvp.Hoa.LoanSchedule
