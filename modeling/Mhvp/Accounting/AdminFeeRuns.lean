import Mhvp.Accounting.FeePeriods

namespace Mhvp.Accounting.AdminFees

open Core Lib.Transition Lib.Table

theorem fits_apart (fits : FitsInterval state (.issue basis today invoiceDate (some day)))
    (requested : periodToIssue state day = .ok period) :
    ∀ standing ∈ standingPeriods state, ¬ Meets standing period := by
  obtain ⟨isPeriod, -, fresh⟩ := periodToIssue_ok.mp requested
  intro standing present meets
  apply fresh standing present
  rcases fits period (answer?_eq_some.mpr isPeriod) standing present meets with same | current
  · exact same
  · exact sameStart_of_meets (answer?_eq_some.mp current) isPeriod meets

theorem fits_disjoint (disjoint : DisjointPeriods state) (fits : FitsInterval state request)
    (accepted : feeStep state request = .ok next) : DisjointPeriods next := by
  unfold DisjointPeriods at disjoint ⊢
  have step := feeStep_standing accepted
  generalize standingPeriods next = periods at step ⊢
  cases step with
  | kept other periods fewer => exact disjoint.sublist fewer
  | issued basis today invoiceDate day period isIssue toIssue =>
    subst isIssue
    rw [List.pairwise_append]
    refine ⟨disjoint, List.pairwise_singleton .., ?_⟩
    intro standing present added isAdded
    obtain rfl := List.mem_singleton.mp isAdded
    exact fits_apart fits toIssue standing present

theorem disjoint_fits (accepted : feeStep state request = .ok next) (disjoint : DisjointPeriods next) :
    FitsInterval state request := by
  unfold FitsInterval
  split
  · rename_i basis today invoiceDate day
    intro requested isPeriod standing present meets
    unfold DisjointPeriods at disjoint
    have step := feeStep_standing accepted
    generalize standingPeriods next = periods at step disjoint
    cases step with
    | kept other periods fewer => exact absurd rfl (other basis today invoiceDate day)
    | issued _ _ _ _ period isIssue toIssue =>
      cases isIssue
      have same : period = requested := by
        have known := answer?_eq_some.mp isPeriod
        rw [(periodToIssue_ok.mp toIssue).1] at known
        exact Except.ok.inj known
      subst same
      rw [List.pairwise_append] at disjoint
      exact absurd meets (disjoint.2.2 standing present period (List.mem_singleton_self period))
  · trivial

/-- The request leaves the interval of the fee as it is. -/
def KeepsInterval : FeeRequest → Prop
  | .patch body _ => body.interval.value = none
  | _ => True

/-- Every standing period is a period of the current interval. -/
def Aligned (state : FeeState) : Prop :=
  ∀ period ∈ standingPeriods state, periodFor state.fee.interval period.periodStart = .ok period

theorem interval_kept (keeps : KeepsInterval request) (accepted : feeStep state request = .ok next) :
    next.fee.interval = state.fee.interval := by
  cases request with
  | patch body references =>
    simp only [feeStep, patchFee, bind_ok, exists_unit, require_ok, pure_ok] at accepted
    obtain ⟨-, -, -, -, rfl⟩ := accepted
    have unset : body.interval.value = none := keeps
    simp [AdminFeeSettingPatch.apply, unset]
  | issue basis today invoiceDate periodStart =>
    simp only [feeStep, feeIssue, bind_ok, pure_ok] at accepted
    obtain ⟨_, -, _, -, ⟨_, _⟩, -, rfl⟩ := accepted
    rfl
  | release invoiceId =>
    simp only [feeStep, releaseInvoice, bind_ok, orRefuse_ok, exists_unit, require_ok, pure_ok] at accepted
    obtain ⟨_, -, -, rfl⟩ := accepted
    rfl
  | cancel billing today now invoiceId reason creditNoteDate =>
    simp only [feeStep, cancelInvoice, bind_ok, orRefuse_ok, exists_unit, require_ok, pure_ok] at accepted
    obtain ⟨-, _, -, -, -, -, ⟨_, _⟩, -, rfl⟩ := accepted
    rfl
  | allocate billing year =>
    simp only [feeStep, bind_ok, pure_ok] at accepted
    obtain ⟨⟨_, _⟩, -, rfl⟩ := accepted
    rfl

theorem aligned_step (aligned : Aligned state) (keeps : KeepsInterval request)
    (accepted : feeStep state request = .ok next) : Aligned next := by
  unfold Aligned at aligned ⊢
  rw [interval_kept keeps accepted]
  have step := feeStep_standing accepted
  generalize standingPeriods next = periods at step ⊢
  cases step with
  | kept other periods fewer => exact fun period present => aligned period (fewer.subset present)
  | issued basis today invoiceDate day period isIssue toIssue =>
    intro standing present
    rcases List.mem_append.mp present with old | isNew
    · exact aligned standing old
    · obtain rfl := List.mem_singleton.mp isNew
      exact periodFor_start (periodToIssue_ok.mp toIssue).1

theorem aligned_fits (aligned : Aligned state) (request : FeeRequest) : FitsInterval state request := by
  unfold FitsInterval
  split
  · intro requested isPeriod standing present meets
    exact Or.inr (answer?_eq_some.mpr (aligned standing present))
  · trivial

theorem guarded_of_keepsInterval (aligned : Aligned state) (requests : List FeeRequest)
    (keeps : ∀ request ∈ requests, KeepsInterval request) : Guarded feeStep FitsInterval state requests := by
  induction requests generalizing state with
  | nil => trivial
  | cons request rest ih =>
    refine ⟨aligned_fits aligned request, ih ?_ fun later present => keeps later (List.mem_cons_of_mem _ present)⟩
    rcases commit_cases feeStep state request with same | accepted
    · rw [same]
      exact aligned
    · exact aligned_step aligned (keeps request (List.mem_cons_self ..)) accepted

/-- The step issued the invoice of a place for a period within the term the fee had then. -/
def IssuedWithin (place : ℕ) (period : ServicePeriod) (moment : Moment FeeState FeeRequest) : Prop :=
  moment.before.invoices.length = place ∧ Covers moment.before.fee period ∧
    ∃ basis today invoiceDate day, moment.call = .issue basis today invoiceDate (some day) ∧
      periodFor moment.before.fee.interval day = .ok period

/-- An invoice of a place with a service period. -/
def InvoicedFor (state : FeeState) (place : ℕ) (period : ServicePeriod) : Prop :=
  ∃ row, state.invoices[place]? = some row ∧ row.kind = .invoice ∧ row.period = some period

theorem invoicedFor_step (accepted : feeStep state request = .ok next) (invoiced : InvoicedFor next place period) :
    InvoicedFor state place period ∨ IssuedWithin place period ⟨state, request, next⟩ := by
  obtain ⟨row, found, isInvoice, isPeriod⟩ := invoiced
  have step := feeStep_invoices accepted
  generalize next.invoices = invoices at step found
  have ofSet : ∀ {invoiceId old new}, state.invoices[invoiceId]? = some old → new.account.kind = old.account.kind →
      new.period = old.period → (state.invoices.set invoiceId new)[place]? = some row →
      InvoicedFor state place period := by
    intro invoiceId old new present sameKind samePeriod inSet
    rcases (found_set present).mp inSet with ⟨rfl, rfl⟩ | ⟨-, kept⟩
    · exact ⟨old, present, sameKind.symm.trans isInvoice, samePeriod.symm.trans isPeriod⟩
    · exact ⟨row, kept, isInvoice, isPeriod⟩
  cases step with
  | same other => exact Or.inl ⟨row, found, isInvoice, isPeriod⟩
  | issued added now =>
    rcases found_append_one.mp found with old | ⟨isLast, rfl⟩
    · exact Or.inl ⟨row, old, isInvoice, isPeriod⟩
    · obtain ⟨-, -, basis, today, invoiceDate, periodStart, rfl, requested⟩ := now
      cases periodStart with
      | none =>
        simp only [requestedPeriod, pure_ok] at requested
        rw [← requested] at isPeriod
        cases isPeriod
      | some day =>
        simp only [requestedPeriod, bind_ok, pure_ok] at requested
        obtain ⟨issued, toIssue, isIssued⟩ := requested
        obtain rfl : issued = period := Option.some.inj (isIssued.trans isPeriod)
        obtain ⟨isFor, covers, -⟩ := periodToIssue_ok.mp toIssue
        exact Or.inr ⟨isLast.symm, covers, basis, today, invoiceDate, day, rfl, isFor⟩
  | released other invoiceId old new present account samePeriod =>
    exact Or.inl (ofSet present (congrArg Account.kind account) samePeriod found)
  | cancelled other invoiceId old new credit present standing account samePeriod credited =>
    have sameKind : new.account.kind = old.account.kind := by rw [account]
    rcases found_append_one.mp found with inSet | ⟨-, rfl⟩
    · exact Or.inl (ofSet present sameKind samePeriod inSet)
    · have isCredit : row.kind = .creditNote := congrArg Account.kind credited
      rw [isInvoice] at isCredit
      cases isCredit

theorem invoicedFor_run (requests : List FeeRequest) (state : FeeState)
    (invoiced : InvoicedFor (run feeStep state requests) place period) :
    InvoicedFor state place period ∨ ∃ moment ∈ trace feeStep state requests, IssuedWithin place period moment := by
  induction requests generalizing state with
  | nil => exact Or.inl invoiced
  | cons request rest ih =>
    rw [trace]
    rw [run_cons] at invoiced
    cases outcome : feeStep state request with
    | error refusal =>
      rw [commit_refused outcome] at invoiced
      exact ih state invoiced
    | ok next =>
      rw [commit_accepted outcome] at invoiced
      rcases ih next invoiced with before | ⟨moment, present, issued⟩
      · rcases invoicedFor_step outcome before with earlier | now
        · exact Or.inl earlier
        · exact Or.inr ⟨_, List.mem_cons_self .., now⟩
      · exact Or.inr ⟨moment, List.mem_cons_of_mem _ present, issued⟩

/-- Cancelled invoices and credit notes belong together one to one, with exact negatives. -/
structure Credited (accounts : List Account) : Prop where
  credit : ∀ (place : ℕ) (credit : Account), accounts[place]? = some credit → credit.kind = .creditNote →
    ∃ (invoiceId : ℕ) (account : Account), accounts[invoiceId]? = some account ∧ account.cancelled = true ∧
      credit = creditAccount invoiceId account
  cancelled : ∀ (invoiceId : ℕ) (account : Account), accounts[invoiceId]? = some account → account.cancelled = true →
    ∃ place : ℕ, accounts[place]? = some (creditAccount invoiceId account)
  once : ∀ (first second : ℕ) (firstCredit secondCredit : Account), accounts[first]? = some firstCredit →
    accounts[second]? = some secondCredit → firstCredit.kind = .creditNote → secondCredit.kind = .creditNote →
    firstCredit.correctsInvoiceId = secondCredit.correctsInvoiceId → first = second

variable {accounts : List Account} {account credit : Account} {invoiceId place : ℕ}

section

variable (credited : Credited accounts)
include credited

theorem Credited.issued (isInvoice : account.kind = .invoice)
    (standing : account.cancelled = false) : Credited (accounts ++ [account]) where
  credit := by
    intro place credit found isCredit
    rcases found_append_one.mp found with old | ⟨-, rfl⟩
    · obtain ⟨invoiceId, cancelled, present, marked, isCreditOf⟩ := credited.credit place credit old isCredit
      exact ⟨invoiceId, cancelled, found_append present, marked, isCreditOf⟩
    · rw [isInvoice] at isCredit
      cases isCredit
  cancelled := by
    intro invoiceId other found marked
    rcases found_append_one.mp found with old | ⟨-, rfl⟩
    · obtain ⟨place, present⟩ := credited.cancelled invoiceId other old marked
      exact ⟨place, found_append present⟩
    · rw [standing] at marked
      cases marked
  once := by
    intro first second firstCredit secondCredit foundFirst foundSecond isFirst isSecond same
    rcases found_append_one.mp foundFirst with oldFirst | ⟨-, rfl⟩
    · rcases found_append_one.mp foundSecond with oldSecond | ⟨-, rfl⟩
      · exact credited.once first second firstCredit secondCredit oldFirst oldSecond isFirst isSecond same
      · rw [isInvoice] at isSecond
        cases isSecond
    · rw [isInvoice] at isFirst
      cases isFirst

theorem Credited.uncorrected (found : accounts[invoiceId]? = some account)
    (standing : account.cancelled = false) (present : accounts[place]? = some credit)
    (isCredit : credit.kind = .creditNote) : credit.correctsInvoiceId ≠ some invoiceId := by
  intro corrects
  obtain ⟨other, cancelled, isThere, marked, rfl⟩ := credited.credit place credit present isCredit
  obtain rfl : other = invoiceId := Option.some.inj corrects
  obtain rfl : cancelled = account := Option.mem_unique isThere found
  rw [standing] at marked
  cases marked

theorem Credited.cancel (found : accounts[invoiceId]? = some account)
    (isInvoice : account.kind = .invoice) (standing : account.cancelled = false) :
    Credited (accounts.set invoiceId { account with cancelled := true } ++ [creditAccount invoiceId account]) where
  credit := by
    intro place credit present isCredit
    rcases found_append_one.mp present with inSet | ⟨-, rfl⟩
    · rcases (found_set found).mp inSet with ⟨-, rfl⟩ | ⟨-, old⟩
      · rw [isInvoice] at isCredit
        cases isCredit
      · have other := credited.uncorrected found standing old isCredit
        obtain ⟨correctedId, cancelled, isThere, marked, rfl⟩ := credited.credit place credit old isCredit
        have apart : correctedId ≠ invoiceId := fun same => other (congrArg some same)
        exact ⟨correctedId, cancelled, found_append ((found_set found).mpr (Or.inr ⟨apart, isThere⟩)), marked, rfl⟩
    · exact ⟨invoiceId, _, found_append ((found_set found).mpr (Or.inl ⟨rfl, rfl⟩)), rfl, rfl⟩
  cancelled := by
    intro cancelledId cancelled present marked
    rcases found_append_one.mp present with inSet | ⟨-, rfl⟩
    · rcases (found_set found).mp inSet with ⟨rfl, rfl⟩ | ⟨apart, old⟩
      · refine ⟨_, found_append_one.mpr (Or.inr ⟨rfl, rfl⟩)⟩
      · obtain ⟨place, isThere⟩ := credited.cancelled cancelledId cancelled old marked
        refine ⟨place, found_append ((found_set found).mpr (Or.inr ⟨?_, isThere⟩))⟩
        rintro rfl
        obtain rfl : creditAccount cancelledId cancelled = account := Option.mem_unique isThere found
        cases isInvoice
    · cases marked
  once := by
    -- a credit note of the table before stays, and none of them corrects the invoice
    have before : ∀ {place : ℕ} {credit : Account}, (accounts.set invoiceId { account with cancelled := true })[place]? = some credit →
        credit.kind = .creditNote → accounts[place]? = some credit ∧ credit.correctsInvoiceId ≠ some invoiceId := by
      intro place credit inSet isCredit
      rcases (found_set found).mp inSet with ⟨-, rfl⟩ | ⟨-, old⟩
      · rw [isInvoice] at isCredit
        cases isCredit
      · exact ⟨old, credited.uncorrected found standing old isCredit⟩
    intro first second firstCredit secondCredit foundFirst foundSecond isFirst isSecond same
    rcases found_append_one.mp foundFirst with inFirst | ⟨lastFirst, rfl⟩
    · obtain ⟨oldFirst, otherFirst⟩ := before inFirst isFirst
      rcases found_append_one.mp foundSecond with inSecond | ⟨-, rfl⟩
      · exact credited.once first second firstCredit secondCredit oldFirst (before inSecond isSecond).1 isFirst isSecond
          same
      · exact absurd same otherFirst
    · rcases found_append_one.mp foundSecond with inSecond | ⟨lastSecond, -⟩
      · exact absurd same.symm (before inSecond isSecond).2
      · rw [lastFirst, lastSecond]

end

theorem credited_step (state : FeeState) (request : FeeRequest) (next : FeeState)
    (credited : Credited (state.invoices.map AdminFeeInvoice.account)) (accepted : feeStep state request = .ok next) :
    Credited (next.invoices.map AdminFeeInvoice.account) := by
  have step := feeStep_invoices accepted
  generalize next.invoices = invoices at step ⊢
  cases step with
  | same other => exact credited
  | issued row now =>
    rw [List.map_append, List.map_singleton]
    exact credited.issued now.1 now.2.1
  | released other invoiceId old new found account period =>
    rw [map_set_same found account]
    exact credited
  | cancelled other invoiceId old new credit found standing account period isCredit =>
    have isThere : (state.invoices.map AdminFeeInvoice.account)[invoiceId]? = some old.account := by
      rw [List.getElem?_map, found]
      rfl
    obtain ⟨isInvoice, unmarked⟩ := (standing_iff old).mp standing
    rw [List.map_append, List.map_singleton, List.map_set, account, isCredit]
    exact credited.cancel isThere isInvoice unmarked

/-- The credit note of a place corrects the invoice of another. -/
def Corrects (state : FeeState) (place : ℕ) (credit : AdminFeeInvoice) (invoiceId : ℕ) : Prop :=
  state.invoices[place]? = some credit ∧ credit.kind = .creditNote ∧ credit.correctsInvoiceId = some invoiceId

/-- A cancelled invoice has exactly one credit note, over its exact negatives. -/
def CreditedOnce (state : FeeState) : Prop :=
  ∀ invoiceId row, state.invoices[invoiceId]? = some row → row.cancelledAt.isSome →
    ∃ place credit, Corrects state place credit invoiceId ∧ credit.net = -row.net ∧ credit.vat = -row.vat ∧
      credit.gross = -row.gross ∧ ∀ other otherCredit, Corrects state other otherCredit invoiceId → other = place

theorem Credited.invoices (credited : Credited (state.invoices.map AdminFeeInvoice.account)) : CreditedOnce state := by
  intro invoiceId row found marked
  have toAccount : ∀ {place : ℕ} {invoice : AdminFeeInvoice}, state.invoices[place]? = some invoice →
      (state.invoices.map AdminFeeInvoice.account)[place]? = some invoice.account := by
    intro place invoice present
    rw [List.getElem?_map, present]
    rfl
  obtain ⟨place, present⟩ := credited.cancelled invoiceId row.account (toAccount found) marked
  rw [List.getElem?_map, Option.map_eq_some_iff] at present
  obtain ⟨credit, isThere, isCredit⟩ := present
  have kind : credit.kind = .creditNote := congrArg Account.kind isCredit
  have corrects : credit.correctsInvoiceId = some invoiceId := congrArg Account.correctsInvoiceId isCredit
  refine ⟨place, credit, ⟨isThere, kind, corrects⟩, congrArg Account.net isCredit, congrArg Account.vat isCredit,
    congrArg Account.gross isCredit, ?_⟩
  rintro other otherCredit ⟨otherThere, otherKind, otherCorrects⟩
  exact credited.once other place otherCredit.account credit.account (toAccount otherThere) (toAccount isThere) otherKind
    kind (otherCorrects.trans corrects.symm)

/-- A fee that has not been invoiced yet. -/
def feeStart (fee : AdminFeeSetting) (counters : List InvoiceNumberCounter) : FeeState := { fee, counters }

/-- Service periods stay apart while every request fits the interval, and that condition is exact for each step; it
holds as long as nobody changes the interval. Every period lay within the term when it was invoiced, and every cancelled
invoice has one credit note. -/
theorem fee_runs (fee : AdminFeeSetting) (counters : List InvoiceNumberCounter) (requests : List FeeRequest) :
    (Guarded feeStep FitsInterval (feeStart fee counters) requests →
      DisjointPeriods (run feeStep (feeStart fee counters) requests)) ∧
    (∀ state request next, DisjointPeriods state → feeStep state request = .ok next →
      (DisjointPeriods next ↔ FitsInterval state request)) ∧
    ((∀ request ∈ requests, KeepsInterval request) → Guarded feeStep FitsInterval (feeStart fee counters) requests) ∧
    (∀ place period, InvoicedFor (run feeStep (feeStart fee counters) requests) place period →
      ∃ moment ∈ trace feeStep (feeStart fee counters) requests, IssuedWithin place period moment) ∧
    CreditedOnce (run feeStep (feeStart fee counters) requests) := by
  refine ⟨?_, ?_, ?_, ?_, ?_⟩
  · intro guarded
    refine Guarded.invariant ?_ requests guarded List.Pairwise.nil
    exact fun state request next disjoint fits accepted => fits_disjoint disjoint fits accepted
  · intro state request next disjoint accepted
    exact ⟨disjoint_fits accepted, fun fits => fits_disjoint disjoint fits accepted⟩
  · apply guarded_of_keepsInterval
    intro period present
    exact absurd present List.not_mem_nil
  · intro place period invoiced
    rcases invoicedFor_run requests _ invoiced with ⟨row, found, -⟩ | issued
    · cases found
    · exact issued
  · apply Credited.invoices
    refine run_invariant credited_step requests ?_
    constructor <;> intro place <;> simp [feeStart]

private def sampleBilling : TenantBillingSettings :=
  { invoicePrefix := some "HV", vatStatus := .kleinunternehmer, kleinunternehmerNote := some "§ 19 UStG" }

private def sampleBasis : FeeBasis := { unitTypes := ["apartment"], billing := some sampleBilling }

private def sampleFee : AdminFeeSetting :=
  { propertyId := 0, startDate := .ofYmd 2026 1 1, amountsPerUnitType := [("apartment", 25)] }

private def issueFor (month : ℕ) : FeeRequest :=
  .issue sampleBasis (.ofYmd 2026 month 1) none (some (.ofYmd 2026 month 1))

private def sampleCancel : FeeRequest := .cancel (some sampleBilling) (.ofYmd 2026 3 2) 0 0 "Fehler" none

theorem sample_fee_runs :
    let requests := [issueFor 1, issueFor 2, sampleCancel, issueFor 1]
    (standingPeriods (run feeStep (feeStart sampleFee []) requests)).length = 2 ∧
      DisjointPeriods (run feeStep (feeStart sampleFee []) requests) := by
  have guarded : Guarded feeStep FitsInterval (feeStart sampleFee []) [issueFor 1, issueFor 2, sampleCancel, issueFor 1] := by
    decide +kernel
  exact ⟨by decide +kernel, (fee_runs sampleFee [] _).1 guarded⟩

/-- February is invoiced by the month, then the interval becomes quarterly and the first quarter is invoiced too. -/
theorem quarter_over_month :
    ¬ DisjointPeriods (run feeStep (feeStart sampleFee [])
      [issueFor 2, .patch { interval := some (some .quarterly) } {}, issueFor 1]) := by
  decide +kernel

end Mhvp.Accounting.AdminFees
