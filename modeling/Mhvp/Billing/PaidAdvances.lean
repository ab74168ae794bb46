import Mhvp.Accounting.CreditPayables
import Mhvp.Billing.Services

namespace Mhvp.Billing

open Core Accounting Lib.Calendar Lib.Aggregate Lib.Transition List

variable {books : Books}

/-- The entry is a payment. -/
def byPayment (books : Books) (entryId : EntryId) : Prop :=
  ∃ entry ∈ books.entries[entryId]?, entry.kind ∈ [.debtorPayment, EntryKind.creditorPayment]

instance : Decidable (byPayment books entryId) := by unfold byPayment; infer_instance

/-- The settlement stands and was made by a payment. -/
def EffectivePayment (books : Books) (row : OpenItemSettlement) : Prop :=
  Effective books none row ∧ byPayment books row.journalEntryId

instance : Decidable (EffectivePayment books row) := inferInstanceAs (Decidable (_ ∧ _))

/-- Settlements of an open item by payments that are not reversed. -/
def paymentsOf (books : Books) (openItemId : OpenItemId) : Decimal :=
  sumWhere (fun row => row.openItemId = openItemId ∧ EffectivePayment books row) OpenItemSettlement.amount
    books.settlements

/-- Settlements of a receivable by payments that are not reversed. -/
def paymentsOn (books : Books) (item : ReceivableItem) : Decimal :=
  match openItemOf books item.journalEntryId with
  | some (_, openItemId) => paymentsOf books openItemId
  | none => 0

/-- The own entry of the receivable is not reversed, and only payments settle it. -/
def OnlyPayments (books : Books) (item : ReceivableItem) : Prop :=
  ∀ found ∈ openItemOf books item.journalEntryId,
    ¬ reversedWithin books none found.1.journalEntryId ∧
    ∀ row ∈ books.settlements, row.openItemId = found.2 → Effective books none row →
      byPayment books row.journalEntryId

instance : Decidable (OnlyPayments books item) := by unfold OnlyPayments; infer_instance

/-- Settlements of an open item that stand but are no payments. -/
def otherSettlements (books : Books) (openItemId : OpenItemId) : Decimal :=
  sumWhere (fun row => (row.openItemId = openItemId ∧ Effective books none row) ∧
    ¬ byPayment books row.journalEntryId) OpenItemSettlement.amount books.settlements

theorem openItemOf_found (isItem : openItemOf books entryId = some (item, itemId)) :
    books.openItems[itemId]? = some item :=
  mem_zipIdx_iff_getElem?.mp (mem_of_find?_eq_some isItem)

private theorem otherSettlements_nonneg (linked : books.Linked) : 0 ≤ otherSettlements books itemId :=
  sumWhere_nonneg fun _ member selected => (Effective.positive linked member selected.1.2.1).le

private theorem otherSettlements_eq_zero (linked : books.Linked) :
    otherSettlements books itemId = 0 ↔ ∀ row ∈ books.settlements, row.openItemId = itemId →
      Effective books none row → byPayment books row.journalEntryId := by
  constructor
  · intro nothing row member sameItem effective
    by_contra other
    have nonneg : ∀ added ∈ books.settlements,
        ((added.openItemId = itemId ∧ Effective books none added) ∧ ¬ byPayment books added.journalEntryId) →
        0 ≤ added.amount :=
      fun added present selected => (Effective.positive linked present selected.1.2.1).le
    have single := sumWhere_single_le nonneg member ⟨⟨sameItem, effective⟩, other⟩
    have positive := Effective.positive linked member effective.1
    rw [otherSettlements] at nothing
    linarith
  · intro payments
    exact sumWhere_eq_zero fun row member selected =>
      absurd (payments row member selected.1.1 selected.1.2) selected.2

/-- What counts as paid without being paid. -/
def paidOtherwise (books : Books) (item : ReceivableItem) : Decimal :=
  match openItemOf books item.journalEntryId with
  | some (openItem, openItemId) => otherSettlements books openItemId + closedAmount books none openItem
  | none => 0

/-- What counts as paid are the payments, the other settlements and a reversed own entry. -/
theorem paidOn_split (sound : books.Sound) (item : ReceivableItem) :
    paidOn books item = paymentsOn books item + paidOtherwise books item := by
  unfold paidOn paymentsOn paidOtherwise
  cases isItem : openItemOf books item.journalEntryId with
  | none => exact (add_zero _).symm
  | some found =>
    obtain ⟨openItem, openItemId⟩ := found
    have split := sound.split openItemId openItem (openItemOf_found isItem) none
    have parts : standing books openItemId none =
        paymentsOf books openItemId + otherSettlements books openItemId := by
      rw [standing, sumWhere_split fun row => byPayment books row.journalEntryId]
      congr 1
      · refine sumWhere_congr (fun row _ => ?_) fun _ _ _ => rfl
        rw [EffectivePayment, and_assoc, and_iff_left within_none]
      · refine sumWhere_congr (fun row _ => ?_) fun _ _ _ => rfl
        rw [and_iff_left within_none]
    change openItem.amount - (openItem.amount - settled books openItemId none) =
      paymentsOf books openItemId + (otherSettlements books openItemId + closedAmount books none openItem)
    rw [split, parts]
    ring

theorem paidOtherwise_nonneg (sound : books.Sound) (item : ReceivableItem) : 0 ≤ paidOtherwise books item := by
  unfold paidOtherwise
  split
  · exact add_nonneg (otherSettlements_nonneg sound.linked) (closedAmount_nonneg _)
  · exact le_rfl

private theorem closedAmount_eq_zero :
    closedAmount books none item = 0 ↔ ¬ reversedWithin books none item.journalEntryId := by
  unfold closedAmount
  split
  · rename_i reversed
    exact ⟨fun zero => absurd zero item.amountPositive.ne', fun open' => absurd reversed open'⟩
  · rename_i open'
    exact ⟨fun _ => open', fun _ => rfl⟩

theorem paidOtherwise_eq_zero (sound : books.Sound) (item : ReceivableItem) :
    paidOtherwise books item = 0 ↔ OnlyPayments books item := by
  unfold paidOtherwise OnlyPayments
  cases isItem : openItemOf books item.journalEntryId with
  | none => simp
  | some found =>
    obtain ⟨openItem, openItemId⟩ := found
    have otherNonneg : 0 ≤ otherSettlements books openItemId := otherSettlements_nonneg sound.linked
    have closedNonneg : 0 ≤ closedAmount books none openItem := closedAmount_nonneg openItem
    simp only [Option.mem_def, Option.some.injEq, forall_eq']
    rw [add_eq_zero_iff_of_nonneg otherNonneg closedNonneg, otherSettlements_eq_zero sound.linked,
      closedAmount_eq_zero, and_comm]

private theorem paidOtherwise_sum (sound : books.Sound) (items : List ReceivableItem) :
    (items.map (paidOtherwise books)).sum = 0 ↔ ∀ item ∈ items, OnlyPayments books item := by
  induction items with
  | nil => simp
  | cons item rest ih =>
    have restNonneg : 0 ≤ (rest.map (paidOtherwise books)).sum := by
      apply sum_nonneg
      intro amount member
      obtain ⟨other, -, rfl⟩ := mem_map.mp member
      exact paidOtherwise_nonneg sound other
    rw [map_cons, sum_cons, add_eq_zero_iff_of_nonneg (paidOtherwise_nonneg sound item) restNonneg,
      paidOtherwise_eq_zero sound, ih, forall_mem_cons]

/-- Over a list of receivables: what counts as paid is what payments settled exactly when only payments
settled each of them. -/
theorem paid_eq_payments_iff (sound : books.Sound) (items : List ReceivableItem) :
    (items.map (paidOn books)).sum = (items.map (paymentsOn books)).sum ↔
      ∀ item ∈ items, OnlyPayments books item := by
  have split : (items.map (paidOn books)).sum =
      (items.map (paymentsOn books)).sum + (items.map (paidOtherwise books)).sum := by
    rw [← sum_map_add]
    congr 1
    exact map_congr_left fun item _ => paidOn_split sound item
  rw [split, add_eq_left]
  exact paidOtherwise_sum sound items

/-- In every state that requests on the books reach, the advances reported as paid are the settlements of
the listed receivables by payments that stand exactly when none of their own entries is reversed and
only payments settle them. This holds for a statement of operating costs and for a unit of the owners'
association. -/
theorem paid_advances_iff (start : Db) (fresh : FreshOffice start) (calls : List BookCall) :
    (∀ (statement : Statement) (contractId : ContractId),
      (advances (run bookStep start calls) statement contractId).2 =
          ((advanceItems (run bookStep start calls) statement contractId).map
            (paymentsOn (run bookStep start calls).books)).sum ↔
        ∀ item ∈ advanceItems (run bookStep start calls) statement contractId,
          OnlyPayments (run bookStep start calls).books item) ∧
    (∀ (unitId : UnitId) (component : String) (first last : Date),
      (Hoa.advances (run bookStep start calls) unitId component first last).2.1 =
          ((Hoa.advanceItems (run bookStep start calls) unitId component first last).map
            (paymentsOn (run bookStep start calls).books)).sum ↔
        ∀ item ∈ Hoa.advanceItems (run bookStep start calls) unitId component first last,
          OnlyPayments (run bookStep start calls).books item) := by
  have sound := (book_state fresh calls).sound
  constructor
  · exact fun statement contractId => paid_eq_payments_iff sound _
  · exact fun unitId component first last => paid_eq_payments_iff sound _

def sampleAdvance : ReceivableItem where
  contractId := 0
  periodMonth := .ofYmd 2026 1 1
  paymentTypeCode := "operating_cost_advance"
  amount := 100
  status := .posted
  journalEntryId := some 0

def samplePeriod : Statement where
  periodFrom := .ofYmd 2026 1 1
  periodTo := .ofYmd 2026 12 31

def advanceDb : Db := { books := sampleBooks }

theorem advance_fresh : FreshOffice advanceDb := ⟨sample_fresh, rfl, rfl⟩

def postedAdvance : List BookCall :=
  [.writeOff (.journal (sampleReceivable (.ofYmd 2026 1 1) 100)), .writeOff (.journal (.postEntry 0 0 7)),
   .setReceivableItems [sampleAdvance]]

def paidAdvance : List BookCall :=
  postedAdvance ++ [.writeOff (.journal (samplePayment (.ofYmd 2026 1 5) 40 [⟨0, 40⟩])),
    .writeOff (.journal (.postEntry 0 1 7))]

theorem sample_paid_advance :
    (advances (run bookStep advanceDb paidAdvance) samplePeriod 0).2 =
      ((advanceItems (run bookStep advanceDb paidAdvance) samplePeriod 0).map
        (paymentsOn (run bookStep advanceDb paidAdvance).books)).sum :=
  ((paid_advances_iff advanceDb advance_fresh paidAdvance).1 samplePeriod 0).mpr (by decide +kernel)

/-- The entry of the advance is reversed by itself; the receivable stays posted. -/
def reversedAdvance : List BookCall :=
  postedAdvance ++ [.writeOff (.journal (sampleReversal 0 (.ofYmd 2026 2 1)))]

/-- Without any payment the reversed advance counts as paid with 100.00. -/
theorem reversed_advance_counts_as_paid :
    ¬ ∀ (start : Db) (calls : List BookCall) (statement : Statement) (contractId : ContractId), FreshOffice start →
      (advances (run bookStep start calls) statement contractId).2 =
        ((advanceItems (run bookStep start calls) statement contractId).map
          (paymentsOn (run bookStep start calls).books)).sum := by
  intro claimed
  have same := claimed advanceDb reversedAdvance samplePeriod 0 advance_fresh
  have paid : (advances (run bookStep advanceDb reversedAdvance) samplePeriod 0).2 = 100 := by decide +kernel
  have payments : ((advanceItems (run bookStep advanceDb reversedAdvance) samplePeriod 0).map
      (paymentsOn (run bookStep advanceDb reversedAdvance).books)).sum = 0 := by decide +kernel
  rw [paid, payments] at same
  norm_num at same

end Mhvp.Billing
