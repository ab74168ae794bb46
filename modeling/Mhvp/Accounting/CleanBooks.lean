import Mhvp.Accounting.Checks
import Mhvp.Accounting.Subledger

namespace Mhvp.Accounting

open Lib.Calendar Lib.Aggregate List

variable {books next : Books}

/-- A payable on a debtor account carries the whole credit of its entry. -/
def Books.WholeCredits (books : Books) : Prop :=
  ∀ item ∈ books.openItems, item.kind = .payable → categoryOf books item.accountId = some .debtor →
    ∀ entry ∈ books.entries[item.journalEntryId]?,
      item.amount = creditOn item.accountId entry.lines - debitOn item.accountId entry.lines

namespace Checks

theorem sums_equal (balanced : Balanced (lines.map JournalLine.toLineIn)) : sumDebit lines = sumCredit lines := by
  have equal := balanced.equal
  simp only [totalDebit, totalCredit, map_map] at equal
  exact equal

theorem net_zero {lines : List JournalLine} (balanced : Balanced (lines.map JournalLine.toLineIn)) :
    (lines.map JournalLine.net).sum = 0 := by
  have split : sumWhere (fun _ => True) JournalLine.net lines =
      sumWhere (fun _ => True) JournalLine.debit lines - sumWhere (fun _ => True) JournalLine.credit lines :=
    sumWhere_sub ..
  simp only [sumWhere, decide_true, filter_true] at split
  exact split.trans (sub_eq_zero.mpr (sums_equal balanced))

section

variable (linked : books.Linked)
include linked

private theorem unbalanced_none : books.entries.filterMap (unbalanced ledgerId) = [] := by
  apply filterMap_eq_nil_iff.mpr
  intro entry member
  obtain ⟨id, found⟩ := mem_iff_getElem?.mp member
  have balanced := (linked.sound found).balanced
  have twoLines : 2 ≤ entry.lines.length := by simpa using balanced.twoLines
  unfold unbalanced
  split
  · apply if_neg
    rintro ⟨-, -, differ | short⟩
    · exact differ (sums_equal balanced)
    · omega
  · rfl

private theorem foreign_none : books.entries.zipIdx.flatMap (foreign books ledgerId) = [] := by
  apply flatMap_eq_nil_iff.mpr
  rintro ⟨entry, id⟩ member
  have found := mem_zipIdx_iff_getElem?.mp member
  unfold foreign
  dsimp only
  split
  · apply map_eq_nil_iff.mpr
    apply filter_eq_nil_iff.mpr
    intro line present isForeign
    obtain ⟨account, foundAccount, differs⟩ := of_decide_eq_true isForeign
    obtain ⟨own, foundOwn, same⟩ := (linked.sound found).accounts line present
    obtain rfl : own = account := Option.mem_unique foundOwn foundAccount
    exact differs same
  · rfl

private theorem totals_none : totals books ledgerId = [] := by
  have equal : sumDebit (ledgerLines books ledgerId none) = sumCredit (ledgerLines books ledgerId none) := by
    have each : ∀ entries : List JournalEntry,
        (∀ entry ∈ entries, Balanced (entry.lines.map JournalLine.toLineIn)) →
        sumDebit (entries.flatMap JournalEntry.lines) = sumCredit (entries.flatMap JournalEntry.lines) := by
      intro entries
      induction entries with
      | nil => exact fun _ => rfl
      | cons entry rest ih =>
        intro balanced
        have first := sums_equal (balanced entry mem_cons_self)
        have later := ih fun other member => balanced other (mem_cons_of_mem _ member)
        simp only [sumDebit, sumCredit, flatMap_cons, map_append, sum_append] at first later ⊢
        rw [first, later]
    apply each
    intro entry member
    obtain ⟨id, found⟩ := mem_iff_getElem?.mp (mem_filter.mp member).1
    exact (linked.sound found).balanced
  rw [totals, if_neg (not_not.mpr equal)]

private theorem linePropertyFindings_none : linePropertyFindings books ledgerId = [] := by
  have none : books.entries.zipIdx.flatMap (drift books ledgerId) = [] := by
    apply flatMap_eq_nil_iff.mpr
    rintro ⟨entry, id⟩ member
    have found := mem_zipIdx_iff_getElem?.mp member
    unfold drift
    dsimp only
    split
    · apply filterMap_eq_nil_iff.mpr
      rintro ⟨line, no⟩ present
      have inLines : line ∈ entry.lines := fst_mem_of_mem_zipIdx present
      cases ofLine : line.unitId with
      | none => rfl
      | some unitId =>
        obtain ⟨unit, foundUnit, object⟩ := (linked.sound found).objects line inLines unitId ofLine
        simp [foundUnit, object]
    · rfl
  rw [linePropertyFindings, none]
  rfl

end

private theorem le_highest (member : number ∈ numbers) : number ≤ highest numbers := by
  induction numbers with
  | nil => cases member
  | cons first rest ih =>
    rcases mem_cons.mp member with rfl | later
    · exact le_max_left _ _
    · exact (ih later).trans (le_max_right _ _)

private theorem highest_le (bound : ∀ number ∈ numbers, number ≤ limit) : highest numbers ≤ limit := by
  induction numbers with
  | nil => exact Nat.zero_le _
  | cons first rest ih =>
    apply max_le (bound first mem_cons_self)
    exact ih fun number member => bound number (mem_cons_of_mem _ member)

theorem highest_range (gapless : numbers.Perm (List.range' 1 last)) : highest numbers = last := by
  apply le_antisymm
  · apply highest_le
    intro number member
    have inRange := mem_range'_1.mp (gapless.mem_iff.mp member)
    omega
  · cases last with
    | zero => exact Nat.zero_le _
    | succ last =>
      apply le_highest
      apply gapless.mem_iff.mpr
      apply mem_range'_1.mpr
      omega

private theorem numbersIn_eq (books : Books) (ledgerId : LedgerId) (year : ℕ) :
    numbersIn year (books.entries.filterMap (numbered ledgerId)) = postedNumbers books ledgerId year := by
  unfold numbersIn postedNumbers
  induction books.entries with
  | nil => rfl
  | cons entry rest ih =>
    rw [filterMap_cons, filterMap_cons]
    cases status : entry.status with
    | draft => simp [numbered, postedNumber, status, ih]
    | posted posting =>
      by_cases ofLedger : entry.ledgerId = ledgerId
      · by_cases ofYear : posting.fiscalYear = year
        · simp [numbered, postedNumber, status, ofLedger, ofYear, ih]
        · simp [numbered, postedNumber, status, ofLedger, ofYear, ih]
      · simp [numbered, postedNumber, status, ofLedger, ih]

private theorem numberingFindings_none (gapless : Gapless books) : numberingFindings books ledgerId = [] := by
  have noGaps : ∀ year, gapsOf (books.entries.filterMap (numbered ledgerId)) year = [] := by
    intro year
    have perm := gapless ledgerId year
    rw [gapsOf, numbersIn_eq, highest_range perm, map_eq_nil_iff, filter_eq_nil_iff]
    intro number inRange absent
    exact of_decide_eq_true absent (perm.mem_iff.mpr inRange)
  have counted : ∀ year, counterOf books ledgerId (books.entries.filterMap (numbered ledgerId)) year = none := by
    intro year
    rw [counterOf, numbersIn_eq, highest_range (gapless ledgerId year)]
    exact if_neg fun differ => differ rfl
  have allGaps : (years (books.entries.filterMap (numbered ledgerId))).flatMap
      (gapsOf (books.entries.filterMap (numbered ledgerId))) = [] :=
    flatMap_eq_nil_iff.mpr fun year _ => noGaps year
  simp only [numberingFindings, allGaps, take_nil, nil_append, filterMap_eq_nil_iff]
  exact fun year _ => counted year

private theorem badItem_none (sound : books.Sound) : books.openItems.zipIdx.filterMap (badItem books ledgerId) = [] := by
  apply filterMap_eq_nil_iff.mpr
  rintro ⟨item, id⟩ member
  have found := mem_zipIdx_iff_getElem?.mp member
  apply if_neg
  rintro ⟨-, beyond | below⟩
  · exact absurd (sound.notOversettled id item found) (not_le.mpr beyond)
  · exact absurd (settled_nonneg sound.linked sound.split found) (not_le.mpr below)

private theorem mismatch_none (originated : books.Originated) (whole : books.WholeCredits) :
    books.openItems.zipIdx.filterMap (mismatch books ledgerId) = [] := by
  apply filterMap_eq_nil_iff.mpr
  rintro ⟨item, id⟩ member
  have present : item ∈ books.openItems := fst_mem_of_mem_zipIdx member
  obtain ⟨entry, found, origin⟩ := originated.origin present
  have matching : item.amount =
      |debitOn item.accountId entry.lines - creditOn item.accountId entry.lines| := by
    have positive := item.amountPositive
    cases kind : item.kind with
    | receivable =>
      have amount := (origin.receivable kind).2
      rw [← amount, abs_of_pos positive]
    | payable =>
      have amount : item.amount =
          creditOn item.accountId entry.lines - debitOn item.accountId entry.lines := by
        rcases origin.payable kind with ⟨-, amount⟩ | ⟨debtor, -⟩
        · exact amount
        · exact whole item present kind debtor entry found
      rw [abs_sub_comm, ← amount, abs_of_pos positive]
  simp only [mismatch, found, Option.bind_eq_bind, Option.bind_some]
  exact if_neg fun differs => differs.2.2 matching

private theorem itemsOn_amount (books : Books) (ledgerId : LedgerId) (accountId : AccountId) :
    ((itemsOn books ledgerId accountId).map fun item => item.1.amount).sum =
      itemsAmount books ledgerId accountId := by
  have byItem : sumWhere (fun item => item.standsOn ledgerId accountId) OpenItem.amount
      (books.openItems.zipIdx.map Prod.fst) =
      sumWhere (fun found => found.1.standsOn ledgerId accountId) (fun found => found.1.amount)
        books.openItems.zipIdx := sumWhere_map _ _
  rw [zipIdx_map_fst] at byItem
  exact byItem.symm

private theorem itemsOn_settled (books : Books) (ledgerId : LedgerId) (accountId : AccountId) :
    ((itemsOn books ledgerId accountId).map fun item => settled books item.2 none).sum =
      itemsSettled books ledgerId accountId := by
  have perItem : sumWhere (fun found : OpenItem × OpenItemId => found.1.standsOn ledgerId accountId)
      (fun found => sumWhere (fun row => row.openItemId = found.2) OpenItemSettlement.amount books.settlements)
      books.openItems.zipIdx = itemsSettled books ledgerId accountId :=
    sumWhere_references (fun item : OpenItem => item.standsOn ledgerId accountId) OpenItemSettlement.openItemId _ _
  rw [← perItem]
  refine sumWhere_congr (fun found _ => Iff.rfl) fun found _ _ => ?_
  exact sumWhere_congr (fun row _ => and_iff_left within_none) fun _ _ _ => rfl

theorem subledgerFindings_none (covered : books.Covered) : subledgerFindings books ledgerId = [] := by
  have none : books.accounts.zipIdx.filterMap (subledgerFinding books ledgerId) = [] := by
    apply filterMap_eq_nil_iff.mpr
    rintro ⟨account, accountId⟩ member
    have known : categoryOf books accountId = some account.category := by
      rw [categoryOf, mem_zipIdx_iff_getElem?.mp member]
      rfl
    simp only [subledgerFinding, itemsOn_amount, itemsOn_settled]
    apply if_neg
    rintro ⟨-, ⟨isSide, beyond⟩ | ⟨isSide, beyond⟩⟩
    all_goals
      rw [isSide] at known
      obtain ⟨amount, settled⟩ := covered ledgerId accountId _ known (by simp)
      rcases beyond with amounts | settlements
      · exact absurd amount (not_le.mpr amounts)
      · exact absurd settled (not_le.mpr settlements)
  rw [subledgerFindings, none]
  rfl

end Checks

theorem checks_none (sound : books.Sound) (originated : books.Originated) (whole : books.WholeCredits)
    (covered : books.Covered) : checks books ledgerId = [] := by
  simp only [checks, Checks.unbalanced_none sound.linked, Checks.badItem_none sound,
    Checks.mismatch_none originated whole, Checks.foreign_none sound.linked, Checks.totals_none sound.linked,
    Checks.numberingFindings_none sound.gapless, Checks.subledgerFindings_none covered,
    Checks.linePropertyFindings_none sound.linked, append_nil]

end Mhvp.Accounting
