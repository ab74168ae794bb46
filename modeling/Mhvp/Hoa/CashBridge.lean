import Mathlib.Tactic.LinearCombination
import Mhvp.Accounting.CleanBooks
import Mhvp.Hoa.CashTotals

namespace Mhvp.Hoa

open Core Accounting Lib.Calendar Lib.Aggregate List

variable {books : Books} {ledgerId : LedgerId} {year : ℕ} {entry : JournalEntry} {loanItems : List LoanItem}
  {lines : List JournalLine} {flows : List (FlowCategory × Decimal)} {keys : List String}

/-- The posted entries balance, on accounts of their ledger. -/
def PostedSound (books : Books) : Prop := ∀ entry ∈ books.entries, entry.isPosted → EntrySound books entry

theorem cashAccounts_net (books : Books) (ledgerId : LedgerId) (lines : List JournalLine) :
    ((cashAccounts books ledgerId).map fun found => netOn found.2 lines).sum =
      sumWhere (fun line => isCash books ledgerId line.accountId) JournalLine.net lines := by
  have sorted := perm_insertionSort
    (fun first second : LedgerAccount × AccountId => first.1.number ≤ second.1.number)
    (books.accounts.zipIdx.filter fun found => found.1.ledgerId = ledgerId ∧ found.1.category ∈ cashCategories)
  have perAccount : ∀ found : LedgerAccount × AccountId,
      netOn found.2 lines = sumWhere (fun line => line.accountId = found.2) JournalLine.net lines := by
    intro found
    exact (sumWhere_sub JournalLine.credit lines).symm
  unfold cashAccounts
  rw [(sorted.map _).sum_eq]
  simp only [perAccount]
  refine (sumWhere_references (fun account : LedgerAccount => account.ledgerId = ledgerId ∧
    account.category ∈ cashCategories) JournalLine.accountId books.accounts lines).trans ?_
  apply sumWhere_congr
  · intro line _
    unfold isCash ledgerAccount
    cases books.accounts[line.accountId]? with
    | none => simp
    | some account =>
      by_cases same : account.ledgerId = ledgerId <;> simp [Option.filter, same]
  · exact fun _ _ _ => rfl

theorem cashAccounts_balance (books : Books) (ledgerId : LedgerId) (asOf : Option Date) :
    ((cashAccounts books ledgerId).map fun found => balance books found.2 asOf).sum =
      sumWhere (PostedWithin none asOf) (cashOf books ledgerId) books.entries := by
  refine (cashAccounts_net books ledgerId (postedLines books none asOf)).trans ?_
  unfold postedLines
  rw [sumWhere_flatMap]
  rfl

theorem cashOf_foreign (sound : EntrySound books entry) (foreign : entry.ledgerId ≠ ledgerId) :
    cashOf books ledgerId entry = 0 := by
  apply sumWhere_eq_zero
  intro line member cash
  obtain ⟨account, isAccount, own⟩ := sound.accounts line member
  unfold isCash ledgerAccount at cash
  rw [isAccount, Option.filter_some_neg] at cash
  · cases cash
  · rw [own]
    exact decide_eq_false foreign

theorem cashOf_noCash (noCash : hasCash books ledgerId entry = false) : cashOf books ledgerId entry = 0 := by
  apply sumWhere_eq_zero
  intro line member cash
  unfold hasCash at noCash
  rw [any_eq_false] at noCash
  exact absurd cash (noCash line member)

theorem cashOf_flows (sound : EntrySound books entry) :
    cashOf books ledgerId entry = inflowOf books ledgerId entry - outflowOf books ledgerId entry := by
  unfold inflowOf outflowOf
  cases cash : hasCash books ledgerId entry with
  | false => rw [cashOf_noCash cash]; simp
  | true =>
    rw [if_pos rfl, if_pos rfl]
    have parted : ∀ lines : List JournalLine, (lines.map JournalLine.net).sum =
        sumWhere (fun line => isCash books ledgerId line.accountId) JournalLine.net lines +
          (sumWhere (fun line => ¬ isCash books ledgerId line.accountId ∧ 0 < line.net) JournalLine.net lines -
            sumWhere (fun line => ¬ isCash books ledgerId line.accountId ∧ line.net < 0) (fun line => -line.net) lines) := by
      intro lines
      induction lines with
      | nil => simp
      | cons line rest ih =>
        rw [map_cons, sum_cons, sumWhere_cons, sumWhere_cons, sumWhere_cons, ih]
        by_cases cash : isCash books ledgerId line.accountId
        · simp only [cash, not_true_eq_false, false_and, if_true, if_false]
          ring
        · simp only [cash, not_false_eq_true, true_and, Bool.false_eq_true, if_false]
          rcases lt_trichotomy line.net 0 with negative | zero | positive
          · rw [if_neg negative.le.not_gt, if_pos negative]
            ring
          · rw [zero]
            simp
          · rw [if_pos positive, if_neg positive.le.not_gt]
            ring
    have whole := parted entry.lines
    rw [Checks.net_zero sound.balanced] at whole
    unfold cashOf
    linarith

theorem year_ordered (year : ℕ) : Date.ofYmd year 1 1 ≤ Date.ofYmd year 12 31 := by
  have first : Date.daysBeforeMonth year 1 = 0 := by simp [Date.daysBeforeMonth, Date.daysBeforeMonthTable]
  rw [Date.le_def]
  unfold Date.ofYmd
  dsimp only
  omega

/-- An entry counts for the closing balance as it counted before the year, as takeover or as flow of the year. -/
theorem cash_each (sound : PostedSound books) (member : entry ∈ books.entries) :
    (if PostedWithin none (some (Date.ofYmd year 12 31)) entry then cashOf books ledgerId entry else 0) =
      (if PostedWithin none (some (Date.ofYmd year 1 1).dayBefore) entry then cashOf books ledgerId entry else 0) +
        (if Migrates ledgerId year entry then cashOf books ledgerId entry else 0) +
        (if Flows ledgerId year entry then inflowOf books ledgerId entry - outflowOf books ledgerId entry else 0) := by
  by_cases posted : entry.isPosted
  · have isSound := sound entry member posted
    by_cases own : entry.ledgerId = ledgerId
    · have within' : ∀ day, PostedWithin none (some day) entry ↔ entry.bookingDate ≤ day := by
        intro day
        simp [PostedWithin, posted]
      have inYear : InYear ledgerId year entry ↔
          ¬ entry.bookingDate ≤ (Date.ofYmd year 1 1).dayBefore ∧ entry.bookingDate ≤ Date.ofYmd year 12 31 := by
        have positive : 1 ≤ (Date.ofYmd year 1 1).ordinal := Nat.le_add_left _ _
        unfold InYear
        rw [Date.le_def, Date.le_def, Date.le_def, Date.dayBefore]
        dsimp only
        constructor
        · intro found
          exact ⟨by omega, found.2.2.2⟩
        · intro found
          exact ⟨own, posted, by omega, found.2⟩
      rw [if_congr (within' _) rfl rfl, if_congr (within' _) rfl rfl, ← cashOf_flows isSound]
      unfold Migrates Flows
      by_cases before : entry.bookingDate ≤ (Date.ofYmd year 1 1).dayBefore
      · have early : entry.bookingDate ≤ Date.ofYmd year 12 31 :=
          before.trans ((Nat.sub_le _ _ : (Date.ofYmd year 1 1).dayBefore ≤ Date.ofYmd year 1 1).trans (year_ordered year))
        have notYear : ¬ InYear ledgerId year entry := fun found => (inYear.mp found).1 before
        simp [before, early, notYear]
      · by_cases last : entry.bookingDate ≤ Date.ofYmd year 12 31
        · have isYear : InYear ledgerId year entry := inYear.mpr ⟨before, last⟩
          by_cases takeover : entry.kind = .openingBalance <;> simp [before, last, isYear, takeover]
        · have notYear : ¬ InYear ledgerId year entry := fun found => last (inYear.mp found).2
          simp [before, last, notYear]
    · have none : cashOf books ledgerId entry = 0 := cashOf_foreign isSound own
      have notYear : ¬ InYear ledgerId year entry := fun found => own found.1
      simp [Migrates, Flows, none, notYear]
  · have notYear : ¬ InYear ledgerId year entry := fun found => posted found.2.1
    simp [PostedWithin, Migrates, Flows, posted, notYear]

theorem cash_check (sound : PostedSound books) : (cashTotals books ledgerId loanItems year).checkOk = true := by
  have summed : ∀ entries : List JournalEntry, (∀ entry ∈ entries, entry ∈ books.entries) →
      sumWhere (PostedWithin none (some (Date.ofYmd year 12 31))) (cashOf books ledgerId) entries =
        sumWhere (PostedWithin none (some (Date.ofYmd year 1 1).dayBefore)) (cashOf books ledgerId) entries +
          sumWhere (Migrates ledgerId year) (cashOf books ledgerId) entries +
          sumWhere (Flows ledgerId year) (fun entry => inflowOf books ledgerId entry - outflowOf books ledgerId entry)
            entries := by
    intro entries
    induction entries with
    | nil => intro _; simp
    | cons entry rest ih =>
      intro inBooks
      rw [sumWhere_cons, sumWhere_cons, sumWhere_cons, sumWhere_cons,
        ih fun other member => inBooks other (mem_cons_of_mem _ member),
        cash_each sound (inBooks entry mem_cons_self)]
      ring
  have whole := summed books.entries fun _ member => member
  rw [sumWhere_sub, ← cashAccounts_balance, ← cashAccounts_balance, ← cashTotals_inflows loanItems,
    ← cashTotals_outflows loanItems] at whole
  apply decide_eq_true
  change ((cashAccounts books ledgerId).map fun found => balance books found.2 (some (Date.ofYmd year 1 1).dayBefore)).sum +
    sumWhere (Migrates ledgerId year) (cashOf books ledgerId) books.entries +
      (cashTotals books ledgerId loanItems year).inflows - (cashTotals books ledgerId loanItems year).outflows = _
  linarith

/-- Amounts of the categories a condition selects. -/
def flowSum (selects : FlowCategory → Bool) (flows : List (FlowCategory × Decimal)) : Decimal :=
  (flows.map fun flow => if selects flow.1 then flow.2 else 0).sum

def FlowCategory.startsWith (keys : List String) (category : FlowCategory) : Bool :=
  keys.any (category.key.startsWith ·)

theorem Bucket.flow_add (keys : List String) (bucket : Bucket) (flow : FlowCategory × Decimal) :
    (bucket.add flow).flow keys = bucket.flow keys + if flow.1.startsWith keys then flow.2 else 0 := by
  have flow_cons : ∀ (first : FlowCategory × Decimal) (rest : Bucket),
      Bucket.flow (first :: rest) keys = (if first.1.startsWith keys then first.2 else 0) + rest.flow keys := by
    intro first rest
    change Bucket.total ((first :: rest).filter fun found => found.1.startsWith keys) =
      _ + Bucket.total (rest.filter fun found => found.1.startsWith keys)
    by_cases selected : first.1.startsWith keys = true
    · rw [filter_cons_of_pos (by simpa using selected), if_pos selected]
      rfl
    · rw [filter_cons_of_neg (by simpa using selected), if_neg selected, zero_add]
  induction bucket with
  | nil =>
    rw [Bucket.add, flow_cons]
    exact add_comm _ _
  | cons first rest ih =>
    unfold Bucket.add
    split
    · rename_i same
      rw [flow_cons, flow_cons, ← same]
      by_cases selected : first.1.startsWith keys = true
      · simp only [if_pos selected]
        ring
      · simp only [if_neg selected]
        ring
    · rw [flow_cons, ih, flow_cons]
      ring

theorem Bucket.flow_collect (keys : List String) (flows : List (FlowCategory × Decimal)) :
    (Bucket.collect flows).flow keys = flowSum (FlowCategory.startsWith keys) flows := by
  have folded : ∀ bucket : Bucket, (flows.foldl Bucket.add bucket).flow keys =
      bucket.flow keys + flowSum (FlowCategory.startsWith keys) flows := by
    induction flows with
    | nil => simp [flowSum]
    | cons flow rest ih =>
      intro bucket
      rw [foldl_cons, ih, Bucket.flow_add, add_assoc]
      rfl
  exact (folded []).trans (zero_add _)

theorem FlowCategory.one_key (category : FlowCategory) :
    (category.startsWith ["reserve"]).toNat + (category.startsWith ["loan"]).toNat +
      (category.startsWith ["debtor"]).toNat + (category.startsWith ["other"]).toNat +
      (category.startsWith ["revenue"]).toNat + (category.startsWith ["cost"]).toNat +
      (category.startsWith ["creditor"]).toNat = 1 := by
  cases category with
  | loanItem kind => cases kind <;> decide +kernel
  | _ => decide +kernel

theorem costs_remain (flows : List (FlowCategory × Decimal)) :
    (Bucket.collect flows).total - ((Bucket.collect flows).flow ["reserve"] + (Bucket.collect flows).flow ["loan"] +
      (Bucket.collect flows).flow ["debtor"] + (Bucket.collect flows).flow ["other"] +
      (Bucket.collect flows).flow ["revenue"]) =
      (Bucket.collect flows).flow ["cost"] + (Bucket.collect flows).flow ["creditor"] := by
  rw [Bucket.total_collect, Bucket.flow_collect, Bucket.flow_collect, Bucket.flow_collect, Bucket.flow_collect,
    Bucket.flow_collect, Bucket.flow_collect, Bucket.flow_collect]
  induction flows with
  | nil => simp [flowSum]
  | cons flow rest ih =>
    have one : flow.2 - ((if flow.1.startsWith ["reserve"] then flow.2 else 0) +
        (if flow.1.startsWith ["loan"] then flow.2 else 0) + (if flow.1.startsWith ["debtor"] then flow.2 else 0) +
        (if flow.1.startsWith ["other"] then flow.2 else 0) + (if flow.1.startsWith ["revenue"] then flow.2 else 0)) =
        (if flow.1.startsWith ["cost"] then flow.2 else 0) + if flow.1.startsWith ["creditor"] then flow.2 else 0 := by
      have amount : ∀ selected : Bool, (if selected then flow.2 else 0) = (selected.toNat : ℚ) * flow.2 := by
        intro selected
        cases selected <;> simp
      have alone : ((flow.1.startsWith ["reserve"]).toNat : ℚ) + (flow.1.startsWith ["loan"]).toNat +
          (flow.1.startsWith ["debtor"]).toNat + (flow.1.startsWith ["other"]).toNat +
          (flow.1.startsWith ["revenue"]).toNat + (flow.1.startsWith ["cost"]).toNat +
          (flow.1.startsWith ["creditor"]).toNat = 1 := by
        exact_mod_cast flow.1.one_key
      simp only [amount]
      linear_combination (-flow.2) * alone
    unfold flowSum at ih ⊢
    simp only [map_cons, sum_cons]
    linarith

theorem FlowCategory.startsWith_cost (category : FlowCategory) :
    category.startsWith ["cost"] = true ↔ category = .cost := by
  cases category with
  | loanItem kind => cases kind <;> decide +kernel
  | _ => decide +kernel

theorem flowCategory_cost (account : LedgerAccount) : flowCategory account = .cost ↔ account.category = .cost := by
  unfold flowCategory
  cases account.category with
  | technical =>
    dsimp only
    split <;> decide
  | _ => simp

theorem lineCategory_cost (books : Books) (ledgerId : LedgerId) (accountId : AccountId) :
    ((ledgerAccount books ledgerId accountId).map flowCategory).getD .other = .cost ↔
      ∃ account ∈ ledgerAccount books ledgerId accountId, account.category = .cost := by
  cases ledgerAccount books ledgerId accountId with
  | none => simp
  | some account => simp [flowCategory_cost]

theorem cash_not_cost (cash : isCash books ledgerId accountId = true) :
    ¬ ∃ account ∈ ledgerAccount books ledgerId accountId, account.category = .cost := by
  intro found
  obtain ⟨account, isAccount, isCost⟩ := found
  unfold isCash at cash
  rw [Option.mem_def.mp isAccount, Option.any_some, decide_eq_true_eq, isCost] at cash
  exact absurd cash (by decide)

theorem flowSum_cons (selects : FlowCategory → Bool) (flow : FlowCategory × Decimal)
    (flows : List (FlowCategory × Decimal)) :
    flowSum selects (flow :: flows) = (if selects flow.1 then flow.2 else 0) + flowSum selects flows := rfl

theorem flowSum_directions (selects : FlowCategory → Bool) (flows : List (FlowCategory × Decimal)) :
    flowSum selects (flows.filterMap outflow) - flowSum selects (flows.filterMap inflow) = flowSum selects flows := by
  induction flows with
  | nil => simp [flowSum]
  | cons flow rest ih =>
    rcases lt_trichotomy flow.2 0 with negative | zero | positive
    · have out : outflow flow = none := if_neg negative.le.not_gt
      have into : inflow flow = some (flow.1, -flow.2) := if_pos negative
      rw [filterMap_cons_none out, filterMap_cons_some into, flowSum_cons, flowSum_cons, ← ih]
      dsimp only
      split <;> ring
    · have out : outflow flow = none := if_neg (by rw [zero]; exact lt_irrefl 0)
      have into : inflow flow = none := if_neg (by rw [zero]; exact lt_irrefl 0)
      rw [filterMap_cons_none out, filterMap_cons_none into, flowSum_cons, ← ih, zero]
      simp
    · have out : outflow flow = some flow := if_pos positive
      have into : inflow flow = none := if_neg positive.le.not_gt
      rw [filterMap_cons_some out, filterMap_cons_none into, flowSum_cons, flowSum_cons, ← ih]
      ring

/-- An entry moves its costs through cash if it has a cash line and carries no loan item. -/
theorem counterFlows_cost (books : Books) (ledgerId : LedgerId) (loanItems : List LoanItem)
    (found : JournalEntry × EntryId) :
    flowSum (FlowCategory.startsWith ["cost"]) (counterFlows books ledgerId loanItems found) =
      if loanKind loanItems found.2 = none ∧ hasCash books ledgerId found.1 then costOf books ledgerId found.1 else 0 := by
  unfold counterFlows
  cases cash : hasCash books ledgerId found.1 with
  | false => simp [flowSum]
  | true =>
    rw [if_pos rfl]
    cases isKind : loanKind loanItems found.2 with
    | some kind =>
      have other : FlowCategory.startsWith ["cost"] (.loanItem kind) = false := by
        cases kind <;> decide +kernel
      rw [if_neg fun carries => nomatch carries.1]
      apply sum_eq_zero
      intro value member
      obtain ⟨flow, isFlow, rfl⟩ := mem_map.mp member
      obtain ⟨line, -, rfl⟩ := mem_map.mp isFlow
      dsimp only
      rw [other, if_neg Bool.false_ne_true]
    | none =>
      rw [if_pos ⟨rfl, rfl⟩]
      unfold costOf
      induction found.1.lines with
      | nil => rfl
      | cons line rest ih =>
        rw [sumWhere_cons, ← ih]
        cases lineCash : isCash books ledgerId line.accountId with
        | true =>
          rw [if_neg (cash_not_cost lineCash), zero_add, filter_cons_of_neg (by simp [lineCash])]
        | false =>
          rw [filter_cons_of_pos (by simp [lineCash]), map_cons, flowSum_cons]
          congr 1
          apply if_congr _ rfl rfl
          rw [FlowCategory.startsWith_cost]
          exact lineCategory_cost books ledgerId line.accountId

/-- Costs of entries that carry no loan item and have neither a cash nor a creditor line. -/
def costElsewhere (books : Books) (ledgerId : LedgerId) (loanItems : List LoanItem) (year : ℕ) : Decimal :=
  (((flowEntries books ledgerId year).filter fun found =>
    loanKind loanItems found.2 = none ∧ ¬ hasCash books ledgerId found.1 ∧ ¬ hasCreditor books ledgerId found.1).map
      fun found => costOf books ledgerId found.1).sum

/-- Costs paid in cash and costs booked through creditors are the costs booked, but for those booked elsewhere. -/
theorem costs_split (books : Books) (ledgerId : LedgerId) (loanItems : List LoanItem)
    (entries : List (JournalEntry × EntryId)) :
    flowSum (FlowCategory.startsWith ["cost"]) (entries.flatMap (counterFlows books ledgerId loanItems)) +
      (((entries.filter fun found => loanKind loanItems found.2 = none).filter fun found =>
        hasCreditor books ledgerId found.1 && !hasCash books ledgerId found.1).map fun found =>
          costOf books ledgerId found.1).sum =
      ((entries.filter fun found => loanKind loanItems found.2 = none).map fun found => costOf books ledgerId found.1).sum -
        ((entries.filter fun found => loanKind loanItems found.2 = none ∧ ¬ hasCash books ledgerId found.1 ∧
          ¬ hasCreditor books ledgerId found.1).map fun found => costOf books ledgerId found.1).sum := by
  induction entries with
  | nil => simp [flowSum]
  | cons found rest ih =>
    have flows : flowSum (FlowCategory.startsWith ["cost"])
        ((found :: rest).flatMap (counterFlows books ledgerId loanItems)) =
        flowSum (FlowCategory.startsWith ["cost"]) (counterFlows books ledgerId loanItems found) +
          flowSum (FlowCategory.startsWith ["cost"]) (rest.flatMap (counterFlows books ledgerId loanItems)) := by
      unfold flowSum
      rw [flatMap_cons, map_append, sum_append]
    rw [flows, counterFlows_cost]
    simp only [filter_cons]
    cases kind : loanKind loanItems found.2 with
    | some kind =>
      simp only [reduceCtorEq, decide_false, Bool.false_eq_true, if_false, false_and]
      rw [zero_add]
      exact ih
    | none =>
      cases cash : hasCash books ledgerId found.1 <;> cases creditor : hasCreditor books ledgerId found.1 <;>
        simp only [creditor, cash, Bool.false_eq_true, not_false_eq_true, not_true_eq_false, and_true, and_false,
          decide_true, decide_false, if_true, if_false, Bool.and_false, Bool.and_true,
          Bool.not_true, Bool.not_false, filter_cons, map_cons, sum_cons] at ih ⊢ <;>
        linarith

/-- The reconciliation of any balanced books: opening balance and flows of the cash accounts give their closing balance, and
the rest it reports as unexplained is what is distributed less the costs booked, the notes and the costs taken over, and
less the costs that were booked without a cash or a creditor line. -/
theorem cash_flow_bridge (sound : PostedSound books) (ledgerId : LedgerId) (ledger : Ledger) (loanItems : List LoanItem)
    (year : ℕ) (costTotal : Decimal) (notes : List ReconciliationNote) :
    (cashFlowReconciliation books ledgerId ledger loanItems year costTotal notes).cash.checkOk = true ∧
      (cashFlowReconciliation books ledgerId ledger loanItems year costTotal notes).unexplained =
        costTotal - (cashFlowReconciliation books ledgerId ledger loanItems year costTotal notes).costBooked -
          (notes.map ReconciliationNote.amount).sum -
          (cashFlowReconciliation books ledgerId ledger loanItems year costTotal notes).migration.costOpening -
          costElsewhere books ledgerId loanItems year := by
  refine ⟨cash_check sound, ?_⟩
  have remain := costs_remain (((flowEntries books ledgerId year).flatMap
    (counterFlows books ledgerId loanItems)).filterMap outflow)
  have directions := flowSum_directions (FlowCategory.startsWith ["cost"])
    ((flowEntries books ledgerId year).flatMap (counterFlows books ledgerId loanItems))
  have split := costs_split books ledgerId loanItems (flowEntries books ledgerId year)
  rw [← Bucket.flow_collect, ← Bucket.flow_collect] at directions
  unfold cashFlowReconciliation costElsewhere
  dsimp only
  linarith

/-- A cost of 100 against the bank or against an accrual. -/
def costEntry (counter : AccountId) (number : ℕ) : JournalEntry where
  ledgerId := 0
  bookingDate := .ofYmd 2025 12 31
  text := "Kosten"
  kind := .custom
  status := .posted { fiscalYear := 2025, number, postedBy := none }
  lines := [{ accountId := 1, debit := 100, credit := 0, oneSidePositive := hundred_debited },
    { accountId := counter, debit := 0, credit := 100, oneSidePositive := hundred_credited }]
  reversalRef := by decide

/-- One cost is paid from the bank, the other accrued on a technical account. -/
def accruedBooks : Books where
  ledgers := [{}]
  accounts := [{ ledgerId := 0, number := "1200", category := .bank },
    { ledgerId := 0, number := "4400", category := .cost },
    { ledgerId := 0, number := "1900", category := .technical }]
  entries := [costEntry 0 1, costEntry 2 2]

theorem costEntry_sound (counter number : ℕ) (known : counter < 3) : EntrySound accruedBooks (costEntry counter number) where
  balanced := by
    constructor
    · exact Nat.le_refl 2
    · intro line member
      obtain ⟨stored, -, rfl⟩ := mem_map.mp member
      exact stored.oneSidePositive
    · have hundred : IsCents (100 : Decimal) := by decide +kernel
      have nothing : IsCents (0 : Decimal) := by decide +kernel
      intro line member
      rcases mem_pair.mp member with rfl | rfl
      · exact ⟨hundred, nothing⟩
      · exact ⟨nothing, hundred⟩
    · change (100 : ℚ) + (0 + 0) = 0 + (100 + 0)
      norm_num
  accounts := by
    intro line member
    have own : line.accountId < 3 := by
      rcases mem_pair.mp member with rfl | rfl
      · exact (by decide : 1 < 3)
      · exact known
    refine ⟨accruedBooks.accounts[line.accountId], List.getElem?_eq_getElem own, ?_⟩
    have allOwn : ∀ account ∈ accruedBooks.accounts, account.ledgerId = 0 := by decide
    exact allOwn _ (getElem_mem own)
  objects := by
    intro line member unitId isUnit
    rcases mem_pair.mp member with rfl | rfl <;> cases isUnit

theorem accruedBooks_sound : PostedSound accruedBooks := by
  intro entry member _
  rcases mem_pair.mp member with rfl | rfl
  · exact costEntry_sound 0 1 (by decide)
  · exact costEntry_sound 2 2 (by decide)

/-- The statement distributes both costs, yet the accrued one is reported as unexplained. -/
theorem accrued_unexplained : PostedSound accruedBooks ∧
    (cashFlowReconciliation accruedBooks 0 {} [] 2025 200 []).costBooked = 200 ∧
    (cashFlowReconciliation accruedBooks 0 {} [] 2025 200 []).unexplained = -100 := by
  refine ⟨accruedBooks_sound, ?_, ?_⟩
  · decide +kernel
  · decide +kernel

theorem accrued_bridge : PostedSound accruedBooks ∧
    (cashFlowReconciliation accruedBooks 0 {} [] 2025 200 []).cash.checkOk = true ∧
    (cashFlowReconciliation accruedBooks 0 {} [] 2025 200 []).unexplained =
      200 - (cashFlowReconciliation accruedBooks 0 {} [] 2025 200 []).costBooked - 0 -
        (cashFlowReconciliation accruedBooks 0 {} [] 2025 200 []).migration.costOpening -
        costElsewhere accruedBooks 0 [] 2025 := by
  refine ⟨accruedBooks_sound, ?_⟩
  exact cash_flow_bridge accruedBooks_sound 0 {} [] 2025 200 []

end Mhvp.Hoa
