import Mhvp.Accounting.Services

namespace Mhvp.Accounting

open Core Lib.Aggregate

/-- Account of the item a settlement settles. -/
def settledAccount (books : Books) (settlement : OpenItemSettlement) : Option AccountId :=
  (books.openItems[settlement.openItemId]?).map OpenItem.accountId

/-- The planned settlement a row carries out. -/
def OpenItemSettlement.planned (row : OpenItemSettlement) : PlanIn :=
  { openItemId := row.openItemId, amount := row.amount }

/-- What a plan settles of one item. -/
def plannedFor (itemId : OpenItemId) (plan : List PlanIn) : Decimal :=
  sumWhere (fun planned => planned.openItemId = itemId) PlanIn.amount plan

/-- Settlements of one item among some rows. -/
def settledIn (itemId : OpenItemId) (rows : List OpenItemSettlement) : Decimal :=
  sumWhere (fun s => s.openItemId = itemId) OpenItemSettlement.amount rows

/-- Settlements of the items of one account among some rows. -/
def settledOnAccount (books : Books) (accountId : AccountId) (rows : List OpenItemSettlement) : Decimal :=
  sumWhere (fun s => settledAccount books s = some accountId) OpenItemSettlement.amount rows

/-- The rows an entry adds to the settlements, when `used` is already settled per account. -/
structure Settles (books : Books) (ledgerId : LedgerId) (entryId : EntryId) (entry : JournalEntry)
    (used : AccountId → Decimal) (rows : List OpenItemSettlement) : Prop where
  row : ∀ s ∈ rows, s.journalEntryId = entryId ∧ s.date = entry.bookingDate ∧ 0 < s.amount
  item : ∀ s ∈ rows, ∃ item, books.openItems[s.openItemId]? = some item ∧ item.ledgerId = ledgerId ∧
    0 < movable item.kind item.accountId entry.lines ∧
    settled books s.openItemId none + settledIn s.openItemId rows ≤ item.amount ∧
    used item.accountId + settledOnAccount books item.accountId rows ≤
      movable item.kind item.accountId entry.lines

theorem Settles.nil : Settles books ledgerId entryId entry used [] where
  row := by simp
  item := by simp

theorem settledIn_eq_plannedFor (planned : rows.map OpenItemSettlement.planned = plan) :
    settledIn itemId rows = plannedFor itemId plan := by
  rw [← planned, plannedFor, sumWhere_map]
  rfl

private theorem settled_append (books : Books) (added : List OpenItemSettlement) :
    settled { books with settlements := books.settlements ++ added } itemId none =
      settled books itemId none + settledIn itemId added := by
  unfold settled settledIn
  rw [sumWhere_append]
  congr 1
  exact sumWhere_congr (by simp) (by simp)

private theorem settledIn_absent (absent : ∀ s ∈ rows, s.openItemId ≠ itemId) : settledIn itemId rows = 0 :=
  sumWhere_eq_zero fun s member same => absurd same (absent s member)

private theorem settledOnAccount_absent (absent : ∀ s ∈ rows, settledAccount books s ≠ some accountId) :
    settledOnAccount books accountId rows = 0 :=
  sumWhere_eq_zero fun s member same => absurd same (absent s member)

private theorem settles_cons
    (found : books.openItems[first.openItemId]? = some item) (sameLedger : item.ledgerId = ledgerId)
    (author : first.journalEntryId = entryId) (dated : first.date = entry.bookingDate)
    (moves : 0 < movable item.kind item.accountId entry.lines)
    (withinAccount : used item.accountId + first.amount ≤ movable item.kind item.accountId entry.lines)
    (positive : 0 < first.amount)
    (withinItem : first.amount ≤ item.amount - settled books first.openItemId none)
    (later : Settles { books with settlements := books.settlements ++ [first] } ledgerId entryId entry
      (Function.update used item.accountId (used item.accountId + first.amount)) rest) :
    Settles books ledgerId entryId entry used (first :: rest) := by
  have ofFirst : settledAccount books first = some item.accountId := by simp [settledAccount, found]
  refine ⟨?_, ?_⟩
  · intro s member
    rcases List.mem_cons.mp member with rfl | member
    · exact ⟨author, dated, positive⟩
    · exact later.row s member
  · intro s member
    rcases List.mem_cons.mp member with rfl | member
    · refine ⟨item, found, sameLedger, moves, ?_, ?_⟩
      · rw [settledIn, sumWhere_cons, if_pos rfl]
        change settled books s.openItemId none + (s.amount + settledIn s.openItemId rest) ≤ item.amount
        by_cases again : ∃ t ∈ rest, t.openItemId = s.openItemId
        · obtain ⟨t, inRest, same⟩ := again
          obtain ⟨other, foundOther, -, -, bound, -⟩ := later.item t inRest
          rw [same] at foundOther bound
          obtain rfl : item = other := by simpa [found] using foundOther
          rw [settled_append, settledIn, sumWhere_singleton, if_pos rfl] at bound
          linarith
        · rw [settledIn_absent fun t inRest same => again ⟨t, inRest, same⟩]
          linarith
      · rw [settledOnAccount, sumWhere_cons, if_pos ofFirst]
        change used item.accountId + (s.amount + settledOnAccount books item.accountId rest) ≤ _
        by_cases again : ∃ t ∈ rest, settledAccount books t = some item.accountId
        · obtain ⟨t, inRest, same⟩ := again
          obtain ⟨other, foundOther, -, moves', -, bound⟩ := later.item t inRest
          have sameAccount : other.accountId = item.accountId := by
            have : settledAccount books t = some other.accountId := by
              simp only [settledAccount]; rw [show books.openItems[t.openItemId]? = some other from foundOther]; rfl
            simpa [same] using this.symm
          rw [sameAccount, Function.update_self] at bound
          rw [sameAccount] at moves'
          have sameKind : movable other.kind item.accountId entry.lines =
              movable item.kind item.accountId entry.lines := by
            cases kind : item.kind <;> cases otherKind : other.kind <;>
              simp only [kind, otherKind, movable] at moves moves' ⊢ <;> linarith
          rw [sameKind] at bound
          change used item.accountId + s.amount + settledOnAccount books item.accountId rest ≤ _ at bound
          linarith
        · rw [settledOnAccount_absent fun t inRest same => again ⟨t, inRest, same⟩]
          linarith
    · obtain ⟨other, foundOther, ledger, moves', bound, accountBound⟩ := later.item s member
      refine ⟨other, foundOther, ledger, moves', ?_, ?_⟩
      · rw [settled_append] at bound
        rw [settledIn, sumWhere_cons]
        rw [settledIn, sumWhere_singleton] at bound
        change _ + (_ + settledIn s.openItemId rest) ≤ _
        linarith
      · rw [settledOnAccount, sumWhere_cons]
        change used other.accountId + (_ + settledOnAccount books other.accountId rest) ≤ _
        change Function.update used item.accountId (used item.accountId + first.amount) other.accountId +
          settledOnAccount books other.accountId rest ≤ _ at accountBound
        rw [ofFirst]
        by_cases same : other.accountId = item.accountId
        · rw [same, Function.update_self] at accountBound
          rw [same, if_pos rfl]
          linarith
        · rw [Function.update_of_ne same] at accountBound
          rw [if_neg (by simpa using Ne.symm same)]
          linarith

private theorem settleOne_ok (applied : settleOne books ledgerId entryId entry used plan = .ok (next, usedNext)) :
    ∃ (item : OpenItem) (first : OpenItemSettlement), books.openItems[first.openItemId]? = some item ∧
      item.ledgerId = ledgerId ∧ first.journalEntryId = entryId ∧ first.date = entry.bookingDate ∧
      0 < movable item.kind item.accountId entry.lines ∧
      used item.accountId + first.amount ≤ movable item.kind item.accountId entry.lines ∧
      0 < first.amount ∧ first.amount ≤ item.amount - settled books first.openItemId none ∧
      next = { books with settlements := books.settlements ++ [first] } ∧
      usedNext = Function.update used item.accountId (used item.accountId + first.amount) ∧
      plan = first.planned := by
  simp only [settleOne, bind_ok, orRefuse_ok, exists_unit, require_ok] at applied
  obtain ⟨item, found, sameLedger, ⟨moves, withinAccount⟩, applied⟩ := applied
  split at applied
  · rename_i settles
    simp only [pure_ok, Prod.mk.injEq] at applied
    obtain ⟨rfl, rfl⟩ := applied
    exact ⟨item, ⟨plan.openItemId, entryId, plan.amount, entry.bookingDate, settles.1.ne'⟩, found,
      sameLedger, rfl, rfl, moves, withinAccount, settles.1, settles.2, rfl, rfl, rfl⟩
  · cases applied

/-- The settlement loop appends one row per planned settlement, within the items and the movement. -/
theorem settlePlan_ok (applied : settlePlan ledgerId entryId entry books used plan = .ok next) :
    ∃ rows, next = { books with settlements := books.settlements ++ rows } ∧
      Settles books ledgerId entryId entry used rows ∧ rows.map OpenItemSettlement.planned = plan := by
  induction plan generalizing books used with
  | nil =>
    obtain rfl : books = next := by simpa only [settlePlan, pure_ok] using applied
    exact ⟨[], by simp, Settles.nil, rfl⟩
  | cons head rest ih =>
    simp only [settlePlan, bind_ok] at applied
    obtain ⟨⟨mid, usedMid⟩, headApplied, restApplied⟩ := applied
    obtain ⟨item, first, found, sameLedger, author, dated, moves, withinAccount, positive, withinItem,
      rfl, rfl, rfl⟩ := settleOne_ok headApplied
    obtain ⟨rows, rfl, later, planned⟩ := ih restApplied
    refine ⟨first :: rows, by simp, ?_, by simp [planned]⟩
    exact settles_cons found sameLedger author dated moves withinAccount positive withinItem later

end Mhvp.Accounting
