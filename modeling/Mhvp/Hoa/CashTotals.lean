import Mhvp.Hoa.CashFlow

namespace Mhvp.Hoa

open Core Accounting Lib.Calendar Lib.Aggregate List

variable {books : Books}

private theorem Bucket.total_add (bucket : Bucket) (flow : FlowCategory × Decimal) :
    (bucket.add flow).total = bucket.total + flow.2 := by
  induction bucket with
  | nil => simp [Bucket.add, Bucket.total]
  | cons first rest ih =>
    unfold Bucket.add
    unfold Bucket.total at ih ⊢
    split
    · simp only [map_cons, sum_cons]
      ring
    · simp only [map_cons, sum_cons, ih]
      ring

theorem Bucket.total_collect (flows : List (FlowCategory × Decimal)) :
    (Bucket.collect flows).total = (flows.map Prod.snd).sum := by
  have folded : ∀ bucket : Bucket, (flows.foldl Bucket.add bucket).total =
      bucket.total + (flows.map Prod.snd).sum := by
    induction flows with
    | nil => simp
    | cons flow rest ih =>
      intro bucket
      rw [foldl_cons, ih, Bucket.total_add, map_cons, sum_cons, add_assoc]
  rw [Bucket.collect, folded]
  exact zero_add _

/-- What flows out through an entry that moves cash: the debits on its counter accounts. -/
def outflowOf (books : Books) (ledgerId : LedgerId) (entry : JournalEntry) : Decimal :=
  if hasCash books ledgerId entry then
    sumWhere (fun line => ¬ isCash books ledgerId line.accountId ∧ 0 < line.net) JournalLine.net entry.lines
  else 0

/-- What flows in through an entry that moves cash: the credits on its counter accounts. -/
def inflowOf (books : Books) (ledgerId : LedgerId) (entry : JournalEntry) : Decimal :=
  if hasCash books ledgerId entry then
    sumWhere (fun line => ¬ isCash books ledgerId line.accountId ∧ line.net < 0) (fun line => -line.net) entry.lines
  else 0

private theorem counterFlows_out (books : Books) (ledgerId : LedgerId) (loanItems : List LoanItem)
    (found : JournalEntry × EntryId) :
    (((counterFlows books ledgerId loanItems found).filterMap outflow).map Prod.snd).sum =
      outflowOf books ledgerId found.1 := by
  unfold counterFlows outflowOf
  split
  · induction found.1.lines with
    | nil => rfl
    | cons line rest ih =>
      rw [sumWhere_cons, ← ih, filter_cons]
      cases cash : isCash books ledgerId line.accountId with
      | true => simp
      | false =>
        by_cases positive : 0 < line.net
        · simp [outflow, positive]
        · simp [outflow, positive]
  · rfl

private theorem counterFlows_in (books : Books) (ledgerId : LedgerId) (loanItems : List LoanItem)
    (found : JournalEntry × EntryId) :
    (((counterFlows books ledgerId loanItems found).filterMap inflow).map Prod.snd).sum =
      inflowOf books ledgerId found.1 := by
  unfold counterFlows inflowOf
  split
  · induction found.1.lines with
    | nil => rfl
    | cons line rest ih =>
      rw [sumWhere_cons, ← ih, filter_cons]
      cases cash : isCash books ledgerId line.accountId with
      | true => simp
      | false =>
        by_cases negative : line.net < 0
        · simp [inflow, negative]
        · simp [inflow, negative]
  · rfl

/-- Entries of the year whose flows count. -/
def Flows (ledgerId : LedgerId) (year : ℕ) (entry : JournalEntry) : Prop :=
  InYear ledgerId year entry ∧ entry.kind ≠ .openingBalance

instance : Decidable (Flows ledgerId year entry) := inferInstanceAs (Decidable (_ ∧ _))

/-- Entries of the year that count as takeover. -/
def Migrates (ledgerId : LedgerId) (year : ℕ) (entry : JournalEntry) : Prop :=
  InYear ledgerId year entry ∧ entry.kind = .openingBalance

instance : Decidable (Migrates ledgerId year entry) := inferInstanceAs (Decidable (_ ∧ _))

private theorem collected (loanItems : List LoanItem)
    (each : ∀ found, (((counterFlows books ledgerId loanItems found).filterMap select).map Prod.snd).sum =
      flowOf found.1) :
    (Bucket.collect (((flowEntries books ledgerId year).flatMap
      (counterFlows books ledgerId loanItems)).filterMap select)).total =
      sumWhere (Flows ledgerId year) flowOf books.entries := by
  have perEntry : ∀ found : List (JournalEntry × EntryId),
      (((found.flatMap (counterFlows books ledgerId loanItems)).filterMap select).map Prod.snd).sum =
        (found.map fun entry => flowOf entry.1).sum := by
    intro found
    induction found with
    | nil => rfl
    | cons entry rest ih =>
      rw [flatMap_cons, filterMap_append, map_append, sum_append, each, ih, map_cons,
        sum_cons]
  have byEntry : sumWhere (Flows ledgerId year) flowOf (books.entries.zipIdx.map Prod.fst) =
      sumWhere (fun found => Flows ledgerId year found.1) (fun found => flowOf found.1) books.entries.zipIdx :=
    sumWhere_map _ _
  rw [zipIdx_map_fst] at byEntry
  rw [Bucket.total_collect, perEntry, byEntry]
  rfl

theorem cashTotals_inflows (loanItems : List LoanItem) (year : ℕ) :
    (cashTotals books ledgerId loanItems year).inflows =
      sumWhere (Flows ledgerId year) (inflowOf books ledgerId) books.entries :=
  collected loanItems (counterFlows_in books ledgerId loanItems)

theorem cashTotals_outflows (loanItems : List LoanItem) (year : ℕ) :
    (cashTotals books ledgerId loanItems year).outflows =
      sumWhere (Flows ledgerId year) (outflowOf books ledgerId) books.entries :=
  collected loanItems (counterFlows_out books ledgerId loanItems)

/-- A draft of the ledger dated in the year. -/
structure DatedIn (ledgerId : LedgerId) (year : ℕ) (entry : JournalEntry) : Prop where
  ledger : entry.ledgerId = ledgerId
  first : Date.ofYmd year 1 1 ≤ entry.bookingDate
  last : entry.bookingDate ≤ Date.ofYmd year 12 31

private theorem not_inYear (draft : entry.status = .draft) : ¬ InYear ledgerId year entry :=
  fun counted => counted.2.1 draft

private theorem inYear_withPosting (dated : DatedIn ledgerId year entry) (posting : Posting) :
    InYear ledgerId year (entry.withPosting posting) :=
  ⟨dated.ledger, by simp [JournalEntry.isPosted, JournalEntry.withPosting], dated.first, dated.last⟩

private theorem sum_posted {selects : JournalEntry → Prop} [DecidablePred selects] {column : JournalEntry → Decimal}
    (posts : Posts books entryId entry ledger posting rows) (unselected : ¬ selects entry)
    (same : column (entry.withPosting posting) = column entry) :
    sumWhere selects column (books.posted entryId entry posting rows).entries =
      sumWhere selects column books.entries +
        if selects (entry.withPosting posting) then column entry else 0 := by
  change sumWhere selects column (books.entries.set entryId (entry.withPosting posting)) = _
  rw [sumWhere_set posts.found, if_neg unselected, sub_zero, same]

theorem flows_posted (posts : Posts books entryId entry ledger posting rows) (dated : DatedIn ledgerId year entry)
    (loanItems : List LoanItem) :
    (cashTotals (books.posted entryId entry posting rows) ledgerId loanItems year).inflows =
        (cashTotals books ledgerId loanItems year).inflows +
          (if entry.kind ≠ .openingBalance then inflowOf books ledgerId entry else 0) ∧
      (cashTotals (books.posted entryId entry posting rows) ledgerId loanItems year).outflows =
        (cashTotals books ledgerId loanItems year).outflows +
          (if entry.kind ≠ .openingBalance then outflowOf books ledgerId entry else 0) := by
  have unselected : ¬ Flows ledgerId year entry := fun flows => not_inYear posts.draft flows.1
  have selected : Flows ledgerId year (entry.withPosting posting) ↔ entry.kind ≠ .openingBalance :=
    and_iff_right (inYear_withPosting dated posting)
  constructor
  · rw [cashTotals_inflows, cashTotals_inflows]
    change sumWhere (Flows ledgerId year) (inflowOf books ledgerId) _ = _
    rw [sum_posted posts unselected rfl, if_congr selected rfl rfl]
  · rw [cashTotals_outflows, cashTotals_outflows]
    change sumWhere (Flows ledgerId year) (outflowOf books ledgerId) _ = _
    rw [sum_posted posts unselected rfl, if_congr selected rfl rfl]

private theorem before_year (date : Date) (year : ℕ) (inYear : Date.ofYmd year 1 1 ≤ date) :
    ¬ date ≤ (Date.ofYmd year 1 1).dayBefore := by
  intro before
  have first : (Date.ofYmd year 1 1).ordinal ≤ (Date.ofYmd year 1 1).ordinal - 1 := inYear.trans before
  have positive : 1 ≤ (Date.ofYmd year 1 1).ordinal := Nat.le_add_left _ _
  omega

theorem opening_posted (posts : Posts books entryId entry ledger posting rows) (dated : DatedIn ledgerId year entry)
    (loanItems : List LoanItem) :
    (cashTotals (books.posted entryId entry posting rows) ledgerId loanItems year).opening =
      (cashTotals books ledgerId loanItems year).opening +
        if entry.kind = .openingBalance then cashOf books ledgerId entry else 0 := by
  have balances : ∀ accountId,
      balance (books.posted entryId entry posting rows) accountId (some (Date.ofYmd year 1 1).dayBefore) =
        balance books accountId (some (Date.ofYmd year 1 1).dayBefore) := by
    intro accountId
    rw [balance_posted posts, if_neg, add_zero]
    rw [within_some]
    exact before_year _ _ dated.first
  have unselected : ¬ Migrates ledgerId year entry := fun migrates => not_inYear posts.draft migrates.1
  have selected : Migrates ledgerId year (entry.withPosting posting) ↔ entry.kind = .openingBalance :=
    and_iff_right (inYear_withPosting dated posting)
  have migrated : ((migrationEntries (books.posted entryId entry posting rows) ledgerId year).map
      (cashOf books ledgerId)).sum = ((migrationEntries books ledgerId year).map (cashOf books ledgerId)).sum +
        if entry.kind = .openingBalance then cashOf books ledgerId entry else 0 := by
    change sumWhere (Migrates ledgerId year) (cashOf books ledgerId) _ = _
    rw [sum_posted posts unselected rfl, if_congr selected rfl rfl]
    rfl
  simp only [cashTotals]
  change ((cashAccounts books ledgerId).map _).sum + ((migrationEntries _ ledgerId year).map
    (cashOf books ledgerId)).sum = _
  simp only [balances, migrated]
  ring

end Mhvp.Hoa
