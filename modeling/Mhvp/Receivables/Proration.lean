import Mathlib.Data.List.Sort
import Mhvp.Core.Decimal

namespace Mhvp.Receivables

open Core Lib.Calendar

inductive ProrationMethod
  | calendarDays
  | thirty360
  | fullMonth
  deriving DecidableEq

inductive PaymentMode
  | advance
  | arrears
  deriving DecidableEq

inductive AmountBasis
  | perMonth
  | perInstalment
  deriving DecidableEq

inductive PaymentInterval
  | monthly
  | quarterly
  | semiannual
  | annual
  deriving DecidableEq

inductive DueDayRule
  | day
  | workday
  | lastDay
  | dayNextMonth
  deriving DecidableEq

def intervalMonths : PaymentInterval → ℕ
  | .monthly => 1
  | .quarterly => 3
  | .semiannual => 6
  | .annual => 12

/-- `q8`: eight decimals, rounded half up. -/
def q8 (value : Decimal) : Decimal := roundCents (value * 10 ^ 6) / 10 ^ 6

def monthFirst (day : Date) : Date := .ofYmd day.year day.month 1

def monthLast (day : Date) : Date := .ofYmd day.year day.month (Date.monthLength day.year day.month)

/-- First of the month some months later, or earlier. -/
def addMonths (day : Date) (months : ℤ) : Date :=
  let index := ((day.year * 12 + (day.month - 1) : ℕ) + months).toNat
  .ofYmd (index / 12) (index % 12 + 1) 1

/-- Whole months from the month of one day to that of another. -/
def monthsBetween (start last : Date) : ℤ := ((last.year : ℤ) - start.year) * 12 + last.month - start.month

/-- A part of the month with one amount. -/
structure Segment where
  start : Date
  last : Date
  exact : Decimal

/-- The segments of a month; the calculation path the run keeps as JSON is left out. -/
structure MonthResult where
  segments : List Segment := []
  total : Decimal := 0
  exactTotal : Decimal := 0

/-- Days counted and days of the whole month. -/
def fraction (method : ProrationMethod) (start last : Date) : ℕ × ℕ :=
  match method with
  | .calendarDays => (last.ordinal - start.ordinal + 1, (monthLast start).day)
  | .thirty360 =>
    let until' := if last = monthLast start then 30 else min last.day 30
    (until' + 1 - min start.day 30, 30)
  | .fullMonth => (1, 1)

/-- Amount per month from a first day to an optional last day. -/
abbrev Validity := Date × Option Date × Decimal

/-- The validity periods within the month and the term of the contract. -/
def cutPeriods (lower upper : Date) (periods : List Validity) : List (Date × Date × Decimal) :=
  (periods.insertionSort fun first second => first.1 ≤ second.1).filterMap fun period =>
    let start := max period.1 lower
    let last := (period.2.1.map fun validTo => min validTo upper).getD upper
    if start ≤ last then some (start, last, period.2.2) else none

def segmentOf (method : ProrationMethod) (part : Date × Date × Decimal) : Segment :=
  let (days, base) := fraction method part.1 part.2.1
  { start := part.1, last := part.2.1, exact := q8 (contextRound (part.2.2 * days / base)) }

def prorateMonth (month : Date) (method : ProrationMethod) (periods : List Validity) (contractStart : Date)
    (contractEnd : Option Date) : MonthResult :=
  let lower := max (monthFirst month) contractStart
  let upper := (contractEnd.map fun last => min (monthLast month) last).getD (monthLast month)
  let cut := cutPeriods lower upper periods
  match cut.getLast? with
  | none => {}
  | some current =>
    if method = .fullMonth then
      { segments := [{ start := current.1, last := current.2.1, exact := q8 current.2.2 }]
        total := roundCents current.2.2, exactTotal := q8 current.2.2 }
    else
      let segments := cut.map (segmentOf method)
      let exactTotal := (segments.map Segment.exact).sum
      { segments, total := roundCents exactTotal, exactTotal }

/-- A segment as the result lists it, with its amount in cents. -/
structure ListedSegment where
  start : Date
  last : Date
  exact : Decimal
  rounded : Decimal
  adjustment : Decimal := 0

/-- The difference goes to the last segment. -/
def adjustLast (diff : Decimal) : List ListedSegment → List ListedSegment
  | [] => []
  | [segment] => [{ segment with rounded := segment.rounded + diff, adjustment := diff }]
  | segment :: rest => segment :: adjustLast diff rest

/-- `result.segments` with the rounded amounts. -/
def listed (method : ProrationMethod) (result : MonthResult) : List ListedSegment :=
  if method = .fullMonth then
    result.segments.map fun segment =>
      { start := segment.start, last := segment.last, exact := segment.exact, rounded := result.total }
  else
    let parts := result.segments.map fun segment =>
      { start := segment.start, last := segment.last, exact := segment.exact, rounded := roundCents segment.exact }
    adjustLast (result.total - (parts.map ListedSegment.rounded).sum) parts

structure Instalment where
  periodStart : Date
  periodEnd : Date
  total : Decimal

/-- First and last day of the instalment period the month lies in, and its first and last month. Periods follow one
another in both directions from the month of the anchor. -/
def instalmentPeriod (anchor : Date) (interval : PaymentInterval) (month : Date) : Date × Date × Date × Date :=
  let months := intervalMonths interval
  let offset := monthsBetween (monthFirst anchor) (monthFirst month)
  let index := offset / months
  let start := addMonths (monthFirst anchor) (index * months)
  let lastMonth := addMonths start (months - 1)
  (start, monthLast lastMonth, start, lastMonth)

/-- The instalment due in the month, if any. -/
def instalmentForMonth (month : Date) (interval : PaymentInterval) (anchor : Date) (paymentMode : PaymentMode)
    (amountBasis : AmountBasis) (method : ProrationMethod) (periods : List Validity) (contractStart : Date)
    (contractEnd : Option Date) : Option Instalment :=
  let months := intervalMonths interval
  let (periodStart, periodEnd, firstMonth, lastMonth) := instalmentPeriod anchor interval month
  let dueMonth := if paymentMode = .advance then firstMonth else lastMonth
  if dueMonth ≠ monthFirst month then none
  else
    let divisor : Decimal := if amountBasis = .perMonth then 1 else months
    let scaled := periods.map fun period => (period.1, period.2.1, q8 (contextRound (period.2.2 / divisor)))
    let parts := (List.range months).map fun offset : ℕ =>
      prorateMonth (addMonths firstMonth (offset : ℤ)) method scaled contractStart contractEnd
    some { periodStart, periodEnd, total := roundCents (parts.map MonthResult.exactTotal).sum }

structure VatSplit where
  net : Decimal
  vat : Decimal
  gross : Decimal

def splitVat (net vatPercent : Decimal) : VatSplit :=
  let vat := if vatPercent ≠ 0 then roundCents (q8 (contextRound (contextRound (net * vatPercent) / 100))) else 0
  { net := roundCents net, vat, gross := roundCents net + vat }

/-- The due day in the month; working days need a calendar of holidays that is not released. -/
def dueDate (rule : DueDayRule) (day : ℕ) (first : Date) : Option Date :=
  match rule with
  | .day => some (.ofYmd first.year first.month (min day (monthLast first).day))
  | .lastDay => some (monthLast first)
  | .dayNextMonth =>
    let next := addMonths first 1
    some (.ofYmd next.year next.month (min day (monthLast next).day))
  | .workday => none

end Mhvp.Receivables
