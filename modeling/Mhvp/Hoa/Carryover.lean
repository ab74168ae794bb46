import Mhvp.Accounting.CreditPayables
import Mhvp.Hoa.CashTotals

namespace Mhvp.Hoa

open Core Accounting Accounting.YearCarryover Lib.Calendar Lib.Aggregate List

variable {books : Books}

theorem signedLine_net (accountId : AccountId) (amount : Decimal) (text : String) :
    (signedLine accountId amount text).debit - (signedLine accountId amount text).credit = amount := by
  rcases lt_trichotomy amount 0 with negative | rfl | positive
  · simp [signedLine, negative, not_lt.mpr negative.le]
  · simp [signedLine]
  · simp [signedLine, positive, not_lt.mpr positive.le]

/-- Sum of the carried balances. -/
def netOf (carried : List ClosingBalance) : Decimal := (carried.map ClosingBalance.balance).sum

/-- The entry carries the lines of a part. -/
def HasPart (carried : List ClosingBalance) (counterId : AccountId) (sign : Decimal) (entry : JournalEntry) : Prop :=
  ∃ text, entry.lines.map JournalLine.toLineIn = (partLines carried counterId sign text).map LineIn.bare

theorem HasPart.sum {selects : AccountId → Decimal → Prop} [∀ accountId, DecidablePred (selects accountId)]
    {column : Decimal → Decimal} (part : HasPart carried counterId sign entry) :
    sumWhere (fun line => selects line.accountId line.net) (fun line => column line.net) entry.lines =
      sumWhere (fun item => selects item.accountId (item.balance * sign)) (fun item => column (item.balance * sign))
          carried +
        if -netOf carried * sign ≠ 0 ∧ selects counterId (-netOf carried * sign) then
          column (-netOf carried * sign) else 0 := by
  obtain ⟨text, lines⟩ := part
  have bare : ∀ rows : List JournalLine,
      sumWhere (fun line => selects line.accountId line.net) (fun line => column line.net) rows =
        sumWhere (fun line : LineIn => selects line.accountId (line.debit - line.credit))
          (fun line => column (line.debit - line.credit)) (rows.map JournalLine.toLineIn) := by
    intro rows
    rw [sumWhere_map]
    rfl
  have items : sumWhere (fun line : LineIn => selects line.accountId (line.debit - line.credit))
      (fun line => column (line.debit - line.credit))
      (carried.map fun item => signedLine item.accountId (item.balance * sign) text) =
      sumWhere (fun item => selects item.accountId (item.balance * sign))
        (fun item => column (item.balance * sign)) carried := by
    rw [sumWhere_map]
    simp only [signedLine_net]
    rfl
  have offset : sumWhere (fun line : LineIn => selects line.accountId (line.debit - line.credit))
      (fun line => column (line.debit - line.credit))
      (if -netOf carried * sign ≠ 0 then [signedLine counterId (-netOf carried * sign) text] else []) =
      if -netOf carried * sign ≠ 0 ∧ selects counterId (-netOf carried * sign) then
        column (-netOf carried * sign) else 0 := by
    by_cases nonzero : -netOf carried * sign ≠ 0
    · rw [if_pos nonzero, sumWhere_singleton]
      simp only [signedLine_net, nonzero, not_false_eq_true, true_and, ne_eq]
      rfl
    · rw [if_neg nonzero, if_neg fun both => nonzero both.1]
      rfl
  rw [bare, lines, sumWhere_map]
  change sumWhere (fun line : LineIn => selects line.accountId (line.debit - line.credit))
    (fun line => column (line.debit - line.credit)) (partLines carried counterId sign text) = _
  rw [partLines, sumWhere_append]
  exact congrArg₂ _ items offset

/-- The carried accounts as the reconciliation sees them. -/
structure Carries (books : Books) (ledgerId : LedgerId) (carried : List ClosingBalance) (counterId : AccountId) :
    Prop where
  accounts : ∀ item ∈ carried, (isCash books ledgerId item.accountId = true ↔ item.category ∈ cashCategories)
  nonzero : ∀ item ∈ carried, item.balance ≠ 0
  counter : isCash books ledgerId counterId = false

def cashSum (carried : List ClosingBalance) : Decimal :=
  sumWhere (fun item => item.category ∈ cashCategories) ClosingBalance.balance carried

/-- Positive balances of the other carried accounts. -/
def otherAssets (carried : List ClosingBalance) : Decimal :=
  sumWhere (fun item => item.category ∉ cashCategories ∧ 0 < item.balance) ClosingBalance.balance carried

/-- Negative balances of the other carried accounts. -/
def otherDebts (carried : List ClosingBalance) : Decimal :=
  sumWhere (fun item => item.category ∉ cashCategories ∧ item.balance < 0) (fun item => -item.balance) carried

theorem netOf_split (carried : List ClosingBalance) :
    netOf carried = cashSum carried + otherAssets carried - otherDebts carried := by
  unfold netOf cashSum otherAssets otherDebts
  induction carried with
  | nil => simp
  | cons item rest ih =>
    rw [map_cons, sum_cons, ih, sumWhere_cons, sumWhere_cons, sumWhere_cons]
    by_cases cash : item.category ∈ cashCategories
    · simp only [cash, not_true_eq_false, false_and, if_true, if_false]
      ring
    · rcases lt_trichotomy item.balance 0 with negative | zero | positive
      · simp only [cash, not_false_eq_true, true_and, not_lt.mpr negative.le, negative, if_true, if_false]
        ring
      · simp only [cash, zero, lt_irrefl, and_false, if_false]
        ring
      · simp only [cash, not_false_eq_true, true_and, not_lt.mpr positive.le, positive, if_true, if_false]
        ring

/-- Some bank or cash account is carried. -/
def CarriesCash (carried : List ClosingBalance) : Prop := ∃ item ∈ carried, item.category ∈ cashCategories

instance : Decidable (CarriesCash carried) := by unfold CarriesCash; infer_instance

theorem HasPart.hasCash (part : HasPart carried counterId sign entry) (carries : Carries books ledgerId carried counterId) :
    Hoa.hasCash books ledgerId entry = true ↔ CarriesCash carried := by
  obtain ⟨text, lines⟩ := part
  have accounts : entry.lines.map JournalLine.accountId =
      (partLines carried counterId sign text).map LineIn.accountId := by
    have same := congrArg (List.map LineIn.accountId) lines
    rw [map_map, map_map] at same
    exact same
  have onAccounts : Hoa.hasCash books ledgerId entry = true ↔
      ∃ accountId ∈ entry.lines.map JournalLine.accountId, isCash books ledgerId accountId = true := by
    simp [Hoa.hasCash]
  rw [onAccounts, accounts]
  constructor
  · rintro ⟨accountId, member, cash⟩
    obtain ⟨line, inPart, rfl⟩ := mem_map.mp member
    rcases mem_append.mp inPart with ofItem | ofCounter
    · obtain ⟨item, present, rfl⟩ := mem_map.mp ofItem
      exact ⟨item, present, (carries.accounts item present).mp cash⟩
    · split at ofCounter
      · obtain rfl := mem_singleton.mp ofCounter
        exact absurd cash (by simp [signedLine, carries.counter])
      · cases ofCounter
  · rintro ⟨item, present, cash⟩
    refine ⟨item.accountId, ?_, (carries.accounts item present).mpr cash⟩
    apply mem_map.mpr
    exact ⟨signedLine item.accountId (item.balance * sign) text,
      mem_append_left _ (mem_map.mpr ⟨item, present, rfl⟩), rfl⟩

theorem opening_cash (part : HasPart carried counterId 1 entry) (carries : Carries books ledgerId carried counterId) :
    cashOf books ledgerId entry = cashSum carried := by
  have sum := @HasPart.sum carried counterId 1 entry (fun accountId _ => isCash books ledgerId accountId = true) _
    (fun amount => amount) part
  simp only [mul_one, carries.counter, Bool.false_eq_true, and_false, if_false, add_zero] at sum
  refine sum.trans ?_
  exact sumWhere_congr carries.accounts fun _ _ _ => rfl

section

variable (part : HasPart carried counterId (-1) entry) (carries : Carries books ledgerId carried counterId)
include part carries

/-- The closing entry flows in what the other accounts held, and their sum if it is negative. -/
theorem closing_inflow :
    inflowOf books ledgerId entry =
      if CarriesCash carried then otherAssets carried + (if netOf carried < 0 then -netOf carried else 0) else 0 := by
  unfold inflowOf
  by_cases cash : CarriesCash carried
  · rw [if_pos cash, if_pos ((part.hasCash carries).mpr cash)]
    have sum := @HasPart.sum carried counterId (-1) entry
      (fun accountId amount => ¬ isCash books ledgerId accountId = true ∧ amount < 0) _ (fun amount => -amount) part
    simp only [mul_neg, mul_one, neg_neg, carries.counter, Bool.false_eq_true, not_false_eq_true, true_and,
      Left.neg_neg_iff] at sum
    rw [sum]
    congr 1
    · exact sumWhere_congr (fun item member => by rw [carries.accounts item member]) fun _ _ _ => rfl
    · by_cases negative : netOf carried < 0
      · rw [if_pos ⟨negative.ne, negative⟩, if_pos negative]
      · rw [if_neg fun both => negative both.2, if_neg negative]
  · rw [if_neg cash, if_neg (mt (part.hasCash carries).mp cash)]

/-- The closing entry flows out what the other accounts owed, and their sum if it is positive. -/
theorem closing_outflow :
    outflowOf books ledgerId entry =
      if CarriesCash carried then otherDebts carried + (if 0 < netOf carried then netOf carried else 0) else 0 := by
  unfold outflowOf
  by_cases cash : CarriesCash carried
  · rw [if_pos cash, if_pos ((part.hasCash carries).mpr cash)]
    have sum := @HasPart.sum carried counterId (-1) entry
      (fun accountId amount => ¬ isCash books ledgerId accountId = true ∧ 0 < amount) _ (fun amount => amount) part
    simp only [mul_neg, mul_one, neg_neg, carries.counter, Bool.false_eq_true, not_false_eq_true, true_and,
      Left.neg_pos_iff] at sum
    rw [sum]
    congr 1
    · exact sumWhere_congr (fun item member => by rw [carries.accounts item member]) fun _ _ _ => rfl
    · by_cases positive : 0 < netOf carried
      · rw [if_pos ⟨positive.ne', positive⟩, if_pos positive]
      · rw [if_neg fun both => positive both.2, if_neg positive]
  · rw [if_neg cash, if_neg (mt (part.hasCash carries).mp cash)]

end

/-- What a posting of the year adds to the cash totals. -/
def addedOpening (books : Books) (ledgerId : LedgerId) (entry : JournalEntry) : Decimal :=
  if entry.kind = .openingBalance then cashOf books ledgerId entry else 0

def addedInflow (books : Books) (ledgerId : LedgerId) (entry : JournalEntry) : Decimal :=
  if entry.kind ≠ .openingBalance then inflowOf books ledgerId entry else 0

def addedOutflow (books : Books) (ledgerId : LedgerId) (entry : JournalEntry) : Decimal :=
  if entry.kind ≠ .openingBalance then outflowOf books ledgerId entry else 0

/-- Two entries of one day that move every account in opposite directions. -/
structure Opposite (first second : JournalEntry) : Prop where
  sameDay : first.bookingDate = second.bookingDate
  nets : ∀ accountId, netOn accountId first.lines + netOn accountId second.lines = 0

section

variable (opposite : Opposite first second) (postsFirst : Posts books one first ledger posting rows)
  (postsSecond : Posts (books.posted one first posting rows) other second ledger' posting' rows')
include opposite postsFirst postsSecond

theorem balance_opposite :
    balance ((books.posted one first posting rows).posted other second posting' rows') accountId asOf =
      balance books accountId asOf := by
  rw [balance_posted postsSecond, balance_posted postsFirst, opposite.sameDay]
  have nets := opposite.nets accountId
  by_cases within : Within asOf second.bookingDate
  · rw [if_pos within, if_pos within]
    linarith
  · rw [if_neg within, if_neg within, add_zero, add_zero]

theorem cashTotals_opposite (datedFirst : DatedIn ledgerId year first) (datedSecond : DatedIn ledgerId year second)
    (loanItems : List LoanItem) (neutral : addedOpening books ledgerId first + addedOpening books ledgerId second +
      (addedInflow books ledgerId first + addedInflow books ledgerId second) -
      (addedOutflow books ledgerId first + addedOutflow books ledgerId second) = 0) :
    cashTotals ((books.posted one first posting rows).posted other second posting' rows') ledgerId loanItems year =
        cashTotals books ledgerId loanItems year ↔
      addedOpening books ledgerId first + addedOpening books ledgerId second = 0 ∧
        addedInflow books ledgerId first + addedInflow books ledgerId second = 0 ∧
        addedOutflow books ledgerId first + addedOutflow books ledgerId second = 0 := by
  set final := (books.posted one first posting rows).posted other second posting' rows' with isFinal
  have opening : (cashTotals final ledgerId loanItems year).opening =
      (cashTotals books ledgerId loanItems year).opening +
        (addedOpening books ledgerId first + addedOpening books ledgerId second) := by
    rw [isFinal, opening_posted postsSecond datedSecond, opening_posted postsFirst datedFirst, add_assoc]
    rfl
  have inflows : (cashTotals final ledgerId loanItems year).inflows =
      (cashTotals books ledgerId loanItems year).inflows +
        (addedInflow books ledgerId first + addedInflow books ledgerId second) := by
    rw [isFinal, (flows_posted postsSecond datedSecond loanItems).1, (flows_posted postsFirst datedFirst loanItems).1,
      add_assoc]
    rfl
  have outflows : (cashTotals final ledgerId loanItems year).outflows =
      (cashTotals books ledgerId loanItems year).outflows +
        (addedOutflow books ledgerId first + addedOutflow books ledgerId second) := by
    rw [isFinal, (flows_posted postsSecond datedSecond loanItems).2, (flows_posted postsFirst datedFirst loanItems).2,
      add_assoc]
    rfl
  have closing : (cashTotals final ledgerId loanItems year).closing =
      (cashTotals books ledgerId loanItems year).closing := by
    simp only [cashTotals]
    change ((cashAccounts books ledgerId).map fun found => balance final found.2 _).sum = _
    simp only [isFinal, balance_opposite opposite postsFirst postsSecond]
  have checkOk : (cashTotals final ledgerId loanItems year).checkOk =
      (cashTotals books ledgerId loanItems year).checkOk := by
    have ofTotals : ∀ rows : Books, (cashTotals rows ledgerId loanItems year).checkOk =
        decide ((cashTotals rows ledgerId loanItems year).opening + (cashTotals rows ledgerId loanItems year).inflows -
          (cashTotals rows ledgerId loanItems year).outflows = (cashTotals rows ledgerId loanItems year).closing) :=
      fun _ => rfl
    rw [ofTotals, ofTotals, decide_eq_decide, opening, inflows, outflows, closing]
    constructor
    · intro balanced
      linarith
    · intro balanced
      linarith
  constructor
  · intro same
    rw [same] at opening inflows outflows
    exact ⟨left_eq_add.mp opening, left_eq_add.mp inflows, left_eq_add.mp outflows⟩
  · rintro ⟨noOpening, noInflow, noOutflow⟩
    rw [noOpening, add_zero] at opening
    rw [noInflow, add_zero] at inflows
    rw [noOutflow, add_zero] at outflows
    cases after : cashTotals final ledgerId loanItems year
    cases before : cashTotals books ledgerId loanItems year
    simp only [after, before] at opening inflows outflows closing checkOk
    rw [opening, inflows, outflows, closing, checkOk]

end

theorem HasPart.net (part : HasPart carried counterId sign entry) (accountId : AccountId) :
    netOn accountId entry.lines =
      sumWhere (fun item => item.accountId = accountId) (fun item => item.balance * sign) carried +
        if -netOf carried * sign ≠ 0 ∧ counterId = accountId then -netOf carried * sign else 0 := by
  rw [netOn, debitOn, creditOn, ← sumWhere_sub]
  exact @HasPart.sum carried counterId sign entry (fun own _ => own = accountId) _ (fun amount => amount) part

theorem parts_opposite (closing : HasPart carried counterId (-1) closingEntry)
    (opening : HasPart carried counterId 1 openingEntry)
    (sameDay : closingEntry.bookingDate = openingEntry.bookingDate) : Opposite closingEntry openingEntry := by
  refine ⟨sameDay, fun accountId => ?_⟩
  rw [closing.net, opening.net]
  simp only [mul_neg, mul_one, neg_neg, sumWhere_neg, ne_eq, neg_eq_zero]
  by_cases counted : ¬ netOf carried = 0 ∧ counterId = accountId
  · rw [if_pos counted, if_pos counted]
    ring
  · rw [if_neg counted, if_neg counted]
    ring

/-- No bank or cash account is carried, or only such accounts and their balances cancel. -/
def CarriesNoCash (carried : List ClosingBalance) : Prop :=
  ¬ CarriesCash carried ∨ (cashSum carried = 0 ∧ ∀ item ∈ carried, item.category ∈ cashCategories)

private theorem otherAssets_nonneg (carried : List ClosingBalance) : 0 ≤ otherAssets carried :=
  sumWhere_nonneg fun _ _ selected => selected.2.le

private theorem otherDebts_nonneg (carried : List ClosingBalance) : 0 ≤ otherDebts carried :=
  sumWhere_nonneg fun _ _ selected => neg_nonneg.mpr selected.2.le

private theorem only_cash (nonzero : ∀ item ∈ carried, item.balance ≠ 0)
    (noAssets : otherAssets carried = 0) (noDebts : otherDebts carried = 0) :
    ∀ item ∈ carried, item.category ∈ cashCategories := by
  intro item member
  by_contra other
  rcases lt_or_gt_of_ne (nonzero item member) with negative | positive
  · have single : -item.balance ≤ otherDebts carried :=
      sumWhere_single_le (fun _ _ selected => neg_nonneg.mpr selected.2.le) member ⟨other, negative⟩
    linarith
  · have single : item.balance ≤ otherAssets carried :=
      sumWhere_single_le (fun _ _ selected => selected.2.le) member ⟨other, positive⟩
    linarith

/-- The two entries of the carry over. -/
structure CarriedPair (carried : List ClosingBalance) (counterId : AccountId) (closingEntry openingEntry : JournalEntry) :
    Prop where
  closing : HasPart carried counterId (-1) closingEntry
  opening : HasPart carried counterId 1 openingEntry
  closingKind : closingEntry.kind ≠ .openingBalance
  openingKind : openingEntry.kind = .openingBalance
  sameDay : closingEntry.bookingDate = openingEntry.bookingDate

private theorem added_pair (pair : CarriedPair carried counterId closingEntry openingEntry)
    (carries : Carries books ledgerId carried counterId) :
    addedOpening books ledgerId closingEntry + addedOpening books ledgerId openingEntry = cashSum carried ∧
      addedInflow books ledgerId closingEntry + addedInflow books ledgerId openingEntry =
        (if CarriesCash carried then otherAssets carried + (if netOf carried < 0 then -netOf carried else 0) else 0) ∧
      addedOutflow books ledgerId closingEntry + addedOutflow books ledgerId openingEntry =
        (if CarriesCash carried then otherDebts carried + (if 0 < netOf carried then netOf carried else 0) else 0) := by
  unfold addedOpening addedInflow addedOutflow
  rw [if_neg pair.closingKind, if_pos pair.openingKind, if_pos pair.closingKind, if_pos pair.closingKind,
    if_neg (not_not.mpr pair.openingKind), if_neg (not_not.mpr pair.openingKind), zero_add, add_zero, add_zero]
  exact ⟨opening_cash pair.opening carries, closing_inflow pair.closing carries,
    closing_outflow pair.closing carries⟩

private theorem no_cash_sum (none : ¬ CarriesCash carried) : cashSum carried = 0 :=
  sumWhere_eq_zero fun item member cash => absurd ⟨item, member, cash⟩ none

section

variable (pair : CarriedPair carried counterId closingEntry openingEntry)
  (carries : Carries books ledgerId carried counterId)
include pair carries

private theorem added_neutral :
    addedOpening books ledgerId closingEntry + addedOpening books ledgerId openingEntry +
      (addedInflow books ledgerId closingEntry + addedInflow books ledgerId openingEntry) -
      (addedOutflow books ledgerId closingEntry + addedOutflow books ledgerId openingEntry) = 0 := by
  obtain ⟨opening, inflow, outflow⟩ := added_pair pair carries
  rw [opening, inflow, outflow]
  by_cases cash : CarriesCash carried
  · have split := netOf_split carried
    rw [if_pos cash, if_pos cash]
    rcases lt_trichotomy (netOf carried) 0 with negative | zero | positive
    · rw [if_pos negative, if_neg (not_lt.mpr negative.le)]
      linarith
    · rw [if_neg (not_lt.mpr zero.ge), if_neg (not_lt.mpr zero.le)]
      linarith
    · rw [if_neg (not_lt.mpr positive.le), if_pos positive]
      linarith
  · rw [if_neg cash, if_neg cash, no_cash_sum cash]
    norm_num

private theorem added_nothing_iff :
    (addedOpening books ledgerId closingEntry + addedOpening books ledgerId openingEntry = 0 ∧
      addedInflow books ledgerId closingEntry + addedInflow books ledgerId openingEntry = 0 ∧
      addedOutflow books ledgerId closingEntry + addedOutflow books ledgerId openingEntry = 0) ↔
    CarriesNoCash carried := by
  obtain ⟨opening, inflow, outflow⟩ := added_pair pair carries
  rw [opening, inflow, outflow]
  have assets := otherAssets_nonneg carried
  have debts := otherDebts_nonneg carried
  constructor
  · rintro ⟨noOpening, noInflow, noOutflow⟩
    by_cases cash : CarriesCash carried
    · rw [if_pos cash] at noInflow noOutflow
      have noAssets : otherAssets carried = 0 := by
        split at noInflow <;> linarith
      have noDebts : otherDebts carried = 0 := by
        split at noOutflow <;> linarith
      exact Or.inr ⟨noOpening, only_cash carries.nonzero noAssets noDebts⟩
    · exact Or.inl cash
  · rintro (none | ⟨noOpening, onlyCash⟩)
    · exact ⟨no_cash_sum none, if_neg none, if_neg none⟩
    · have noAssets : otherAssets carried = 0 :=
        sumWhere_eq_zero fun item member selected => absurd (onlyCash item member) selected.1
      have noDebts : otherDebts carried = 0 :=
        sumWhere_eq_zero fun item member selected => absurd (onlyCash item member) selected.1
      have noNet : netOf carried = 0 := by rw [netOf_split, noOpening, noAssets, noDebts]; norm_num
      simp [noOpening, noAssets, noDebts, noNet]

/-- Posting both entries of the carry over: no balance moves, and the cash totals stay if and only if no
cash is carried. -/
theorem posted_pair (either : (first, second) = (closingEntry, openingEntry) ∨ (first, second) = (openingEntry, closingEntry))
    (postsFirst : Posts books one first ledger posting rows)
    (postsSecond : Posts (books.posted one first posting rows) other second ledger' posting' rows')
    (datedFirst : DatedIn ledgerId year first) (datedSecond : DatedIn ledgerId year second)
    (loanItems : List LoanItem) :
    (∀ accountId asOf, balance ((books.posted one first posting rows).posted other second posting' rows')
        accountId asOf = balance books accountId asOf) ∧
      (cashTotals ((books.posted one first posting rows).posted other second posting' rows') ledgerId loanItems
          year = cashTotals books ledgerId loanItems year ↔ CarriesNoCash carried) := by
  have opposite := parts_opposite pair.closing pair.opening pair.sameDay
  have neutral := added_neutral pair carries
  rw [← added_nothing_iff pair carries]
  rcases either with order | order
  · obtain ⟨rfl, rfl⟩ := Prod.mk.inj order
    exact ⟨fun _ _ => balance_opposite opposite postsFirst postsSecond,
      cashTotals_opposite opposite postsFirst postsSecond datedFirst datedSecond loanItems neutral⟩
  · obtain ⟨rfl, rfl⟩ := Prod.mk.inj order
    have turned : Opposite first second :=
      ⟨opposite.sameDay.symm, fun accountId => (add_comm _ _).trans (opposite.nets accountId)⟩
    rw [add_comm (addedOpening books ledgerId second), add_comm (addedInflow books ledgerId second),
      add_comm (addedOutflow books ledgerId second)] at neutral ⊢
    exact ⟨fun _ _ => balance_opposite turned postsFirst postsSecond,
      cashTotals_opposite turned postsFirst postsSecond datedFirst datedSecond loanItems neutral⟩

end

end Mhvp.Hoa
