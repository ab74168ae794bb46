import Mhvp.Accounting.AdminFees
import Mhvp.Lib.Table

namespace Mhvp.Accounting.AdminFees

open Core Lib.Calendar Lib.Table

/-- The block of whole months a month lies in, from its first to its last day. -/
def blockPeriod (months index : ℕ) : ServicePeriod where
  periodStart := firstOfMonth (blockOf months index)
  periodEnd := lastOfMonth (blockOf months index + months - 1)

/-- Two periods share a day. -/
def Meets (first second : ServicePeriod) : Prop :=
  first.periodStart ≤ second.periodEnd ∧ second.periodStart ≤ first.periodEnd

instance : Decidable (Meets first second) := inferInstanceAs (Decidable (_ ∧ _))

theorem periodMonths_cases (known : periodMonths interval = some months) :
    months = 1 ∨ months = 3 ∨ months = 6 ∨ months = 12 := by
  cases interval <;> simp only [periodMonths, Option.some.injEq, reduceCtorEq] at known <;> omega

theorem periodMonths_divides (known : periodMonths interval = some months) : 0 < months ∧ months ∣ 12 := by
  rcases periodMonths_cases known with rfl | rfl | rfl | rfl <;> decide

theorem periodFor_ok : periodFor interval day = .ok period ↔
    ∃ months, periodMonths interval = some months ∧ period = blockPeriod months (monthIndex day) := by
  have inYear := month_le day
  have block : ∀ months, periodMonths interval = some months →
      ({ periodStart := .ofYmd day.year ((day.month - 1) / months * months + 1) 1
         periodEnd := .ofYmd day.year ((day.month - 1) / months * months + 1 + months - 1)
           (Date.monthLength day.year ((day.month - 1) / months * months + 1 + months - 1)) : ServicePeriod }) =
        blockPeriod months (monthIndex day) := by
    intro months known
    have first : blockOf months (monthIndex day) = day.year * 12 + (day.month - 1) / months * months := by
      unfold blockOf monthIndex
      rcases periodMonths_cases known with rfl | rfl | rfl | rfl <;> omega
    have small : (day.month - 1) / months * months + months ≤ 12 := by
      rcases periodMonths_cases known with rfl | rfl | rfl | rfl <;> omega
    have positive := (periodMonths_divides known).1
    unfold blockPeriod firstOfMonth lastOfMonth
    rw [first]
    generalize (day.month - 1) / months * months = before at *
    have firstYear : (day.year * 12 + before) / 12 = day.year := by omega
    have firstMonth : (day.year * 12 + before) % 12 = before := by omega
    have lastYear : (day.year * 12 + before + months - 1) / 12 = day.year := by omega
    have lastMonth : (day.year * 12 + before + months - 1) % 12 + 1 = before + 1 + months - 1 := by omega
    rw [firstYear, firstMonth, lastYear, lastMonth]
  simp only [periodFor, bind_ok, orRefuse_ok, pure_ok]
  constructor
  · rintro ⟨months, known, rfl⟩
    exact ⟨months, known, block months known⟩
  · rintro ⟨months, known, rfl⟩
    exact ⟨months, known, block months known⟩

theorem blockPeriod_meets (divides : months ∣ 12) (firstLate : 12 ≤ first) (secondLate : 12 ≤ second)
    (meets : Meets (blockPeriod months first) (blockPeriod months second)) :
    blockOf months first = blockOf months second := by
  have apart : ∀ earlier later, 12 ≤ earlier → blockOf months earlier < blockOf months later →
      (blockPeriod months earlier).periodEnd < (blockPeriod months later).periodStart := by
    intro earlier later late before
    have next := blockOf_apart before
    have started := late_blockOf divides late
    have positive : 0 < months := Nat.pos_of_dvd_of_pos divides (by decide)
    apply lastOfMonth_lt_firstOfMonth <;> omega
  rcases lt_trichotomy (blockOf months first) (blockOf months second) with before | same | after
  · exact absurd meets.2 (not_le_of_gt (apart first second firstLate before))
  · exact same
  · exact absurd meets.1 (not_le_of_gt (apart second first secondLate after))

theorem periodFor_start (isPeriod : periodFor interval day = .ok period) :
    periodFor interval period.periodStart = .ok period := by
  obtain ⟨months, known, rfl⟩ := periodFor_ok.mp isPeriod
  obtain ⟨positive, divides⟩ := periodMonths_divides known
  refine periodFor_ok.mpr ⟨months, known, ?_⟩
  have late := late_blockOf divides (late_monthIndex day)
  simp only [blockPeriod, monthIndex_firstOfMonth late, blockOf_blockOf positive]

theorem sameStart_of_meets (isFirst : periodFor interval first.periodStart = .ok first)
    (isSecond : periodFor interval day = .ok second) (meets : Meets first second) :
    first.periodStart = second.periodStart := by
  obtain ⟨months, known, firstBlock⟩ := periodFor_ok.mp isFirst
  obtain ⟨_, same, secondBlock⟩ := periodFor_ok.mp isSecond
  obtain rfl := Option.mem_unique known same
  rw [firstBlock, secondBlock] at meets ⊢
  have equal := blockPeriod_meets (periodMonths_divides known).2 (late_monthIndex _) (late_monthIndex _) meets
  simp only [blockPeriod, equal]

/-- The service period of an invoice that is not cancelled. -/
def standingPeriod (invoice : AdminFeeInvoice) : Option ServicePeriod :=
  if invoice.Standing then invoice.period else none

def standingPeriods (state : FeeState) : List ServicePeriod := state.invoices.filterMap standingPeriod

/-- No two invoices that are not cancelled share a day of their service periods. -/
def DisjointPeriods (state : FeeState) : Prop := (standingPeriods state).Pairwise fun first second => ¬ Meets first second

instance : Decidable (DisjointPeriods state) := by unfold DisjointPeriods; infer_instance

/-- A standing period that shares a day with the requested one begins on the same day, so that the request is refused,
or is itself a period of the current interval of the fee. -/
def FitsInterval (state : FeeState) : FeeRequest → Prop
  | .issue _ _ _ (some day) =>
    ∀ requested ∈ answer? (periodFor state.fee.interval day), ∀ period ∈ standingPeriods state,
      Meets period requested → period.periodStart = requested.periodStart ∨
        answer? (periodFor state.fee.interval period.periodStart) = some period
  | _ => True

instance : Decidable (FitsInterval state request) := by
  unfold FitsInterval
  split <;> infer_instance

theorem issuedForPeriod_none : issuedForPeriod state start = none ↔
    ∀ period ∈ standingPeriods state, period.periodStart ≠ start := by
  simp only [issuedForPeriod, standingPeriods, List.find?_eq_none, decide_eq_true_eq, List.mem_filterMap,
    standingPeriod]
  constructor
  · rintro none period ⟨invoice, present, standing⟩ same
    by_cases stands : invoice.Standing
    · rw [if_pos stands] at standing
      exact none invoice present ⟨stands, period, standing, same⟩
    · rw [if_neg stands] at standing
      cases standing
  · rintro none invoice present ⟨stands, period, isPeriod, same⟩
    refine none period ⟨invoice, present, ?_⟩ same
    rw [if_pos stands]
    exact isPeriod

theorem periodToIssue_ok : periodToIssue state day = .ok period ↔ periodFor state.fee.interval day = .ok period ∧
    Covers state.fee period ∧ ∀ standing ∈ standingPeriods state, standing.periodStart ≠ period.periodStart := by
  simp only [periodToIssue, checkPeriod, bind_ok, exists_unit, require_ok, pure_ok, issuedForPeriod_none]
  constructor
  · rintro ⟨found, isPeriod, covers, fresh, rfl⟩
    exact ⟨isPeriod, covers, fresh⟩
  · rintro ⟨isPeriod, covers, fresh⟩
    exact ⟨period, isPeriod, covers, fresh, rfl⟩

/-- What an invoice counts for: its amounts, and whether it corrects another one or is cancelled itself. -/
structure Account where
  kind : FeeInvoiceKind
  correctsInvoiceId : Option ℕ
  cancelled : Bool
  net : Decimal
  vat : Decimal
  gross : Decimal

def AdminFeeInvoice.account (invoice : AdminFeeInvoice) : Account where
  kind := invoice.kind
  correctsInvoiceId := invoice.correctsInvoiceId
  cancelled := invoice.cancelledAt.isSome
  net := invoice.net
  vat := invoice.vat
  gross := invoice.gross

/-- A credit note over the exact negatives. -/
def creditAccount (invoiceId : ℕ) (account : Account) : Account where
  kind := .creditNote
  correctsInvoiceId := some invoiceId
  cancelled := false
  net := -account.net
  vat := -account.vat
  gross := -account.gross

theorem standing_iff (invoice : AdminFeeInvoice) :
    invoice.Standing ↔ invoice.account.kind = .invoice ∧ invoice.account.cancelled = false := by
  simp [AdminFeeInvoice.Standing, AdminFeeInvoice.account]

/-- The invoice a request issues, with the period it covers. -/
def IssuedNow (state : FeeState) (request : FeeRequest) (row : AdminFeeInvoice) : Prop :=
  row.account.kind = .invoice ∧ row.account.cancelled = false ∧
    ∃ basis today invoiceDate periodStart, request = .issue basis today invoiceDate periodStart ∧
      requestedPeriod state periodStart = .ok row.period

def FeeRequest.Issues : FeeRequest → Prop
  | .issue _ _ _ _ => True
  | _ => False

/-- What a request does to the invoices: nothing, one more invoice, a release, or a cancellation. -/
inductive InvoicesStep (state : FeeState) (request : FeeRequest) : List AdminFeeInvoice → Prop
  | same (other : ¬ request.Issues) : InvoicesStep state request state.invoices
  | issued (row : AdminFeeInvoice) (now : IssuedNow state request row) :
      InvoicesStep state request (state.invoices ++ [row])
  | released (other : ¬ request.Issues) (invoiceId : ℕ) (old new : AdminFeeInvoice)
      (found : state.invoices[invoiceId]? = some old) (account : new.account = old.account)
      (period : new.period = old.period) : InvoicesStep state request (state.invoices.set invoiceId new)
  | cancelled (other : ¬ request.Issues) (invoiceId : ℕ) (old new credit : AdminFeeInvoice)
      (found : state.invoices[invoiceId]? = some old) (standing : old.Standing)
      (account : new.account = { old.account with cancelled := true }) (period : new.period = old.period)
      (credited : credit.account = creditAccount invoiceId old.account) :
      InvoicesStep state request (state.invoices.set invoiceId new ++ [credit])

theorem feeStep_invoices (accepted : feeStep state request = .ok next) : InvoicesStep state request next.invoices := by
  cases request with
  | patch body references =>
    simp only [feeStep, patchFee, bind_ok, exists_unit, require_ok, pure_ok] at accepted
    obtain ⟨-, -, -, -, rfl⟩ := accepted
    exact .same id
  | issue basis today invoiceDate periodStart =>
    simp only [feeStep, feeIssue, bind_ok, pure_ok] at accepted
    obtain ⟨period, requested, billing, -, ⟨number, counters⟩, -, rfl⟩ := accepted
    exact .issued _ ⟨rfl, rfl, basis, today, invoiceDate, periodStart, rfl, requested⟩
  | release invoiceId =>
    simp only [feeStep, releaseInvoice, bind_ok, orRefuse_ok, exists_unit, require_ok, pure_ok] at accepted
    obtain ⟨row, found, standing, rfl⟩ := accepted
    exact .released id invoiceId row _ found rfl rfl
  | cancel billing today now invoiceId reason creditNoteDate =>
    simp only [feeStep, cancelInvoice, bind_ok, orRefuse_ok, exists_unit, require_ok, pure_ok] at accepted
    obtain ⟨-, row, found, isInvoice, standing, -, ⟨number, counters⟩, -, rfl⟩ := accepted
    exact .cancelled id invoiceId row _ _ found ⟨isInvoice, standing⟩ rfl rfl rfl
  | allocate billing year =>
    simp only [feeStep, bind_ok, pure_ok] at accepted
    obtain ⟨⟨number, counters⟩, -, rfl⟩ := accepted
    exact .same id

/-- Only an invoice with a service period adds to the standing periods. -/
inductive StandingStep (state : FeeState) (request : FeeRequest) : List ServicePeriod → Prop
  | kept (other : ∀ basis today invoiceDate day, request ≠ .issue basis today invoiceDate (some day))
      (periods : List ServicePeriod) (fewer : periods.Sublist (standingPeriods state)) :
      StandingStep state request periods
  | issued (basis : FeeBasis) (today : Date) (invoiceDate : Option Date) (day : Date) (period : ServicePeriod)
      (isIssue : request = .issue basis today invoiceDate (some day)) (toIssue : periodToIssue state day = .ok period) :
      StandingStep state request (standingPeriods state ++ [period])

theorem feeStep_standing (accepted : feeStep state request = .ok next) :
    StandingStep state request (standingPeriods next) := by
  have step := feeStep_invoices accepted
  unfold standingPeriods
  generalize next.invoices = invoices at step ⊢
  have noIssue : ¬ request.Issues → ∀ basis today invoiceDate day,
      request ≠ .issue basis today invoiceDate (some day) := by
    rintro other basis today invoiceDate day rfl
    exact other trivial
  cases step with
  | same other => exact .kept (noIssue other) _ (List.Sublist.refl _)
  | issued row now =>
    obtain ⟨isInvoice, unmarked, basis, today, invoiceDate, periodStart, rfl, requested⟩ := now
    have standing : standingPeriod row = row.period := if_pos ((standing_iff row).mpr ⟨isInvoice, unmarked⟩)
    rw [List.filterMap_append]
    cases periodStart with
    | none =>
      simp only [requestedPeriod, pure_ok] at requested
      rw [← requested] at standing
      rw [List.filterMap_cons_none standing, List.filterMap_nil, List.append_nil]
      exact .kept (by simp) _ (List.Sublist.refl _)
    | some day =>
      simp only [requestedPeriod, bind_ok, pure_ok] at requested
      obtain ⟨period, toIssue, isPeriod⟩ := requested
      rw [← isPeriod] at standing
      rw [List.filterMap_cons_some standing, List.filterMap_nil]
      exact .issued basis today invoiceDate day period rfl toIssue
  | released other invoiceId old new found account period =>
    have same : standingPeriod new = standingPeriod old := by
      simp only [standingPeriod, standing_iff, account, period]
    rw [filterMap_set_same found same]
    exact .kept (noIssue other) _ (List.Sublist.refl _)
  | cancelled other invoiceId old new credit found standing account period credited =>
    have gone : standingPeriod new = none := by simp [standingPeriod, standing_iff, account]
    have noInvoice : standingPeriod credit = none := by
      simp [standingPeriod, standing_iff, credited, creditAccount]
    rw [List.filterMap_append, List.filterMap_cons_none noInvoice, List.filterMap_nil, List.append_nil]
    exact .kept (noIssue other) _ (filterMap_set_none gone invoiceId)

end Mhvp.Accounting.AdminFees
