import Mhvp.Accounting.Effects

namespace Mhvp.Accounting

open Lib.Table

def postedNumber (ledgerId : LedgerId) (year : ℕ) (entry : JournalEntry) : Option ℕ :=
  match entry.status with
  | .posted posting =>
    if entry.ledgerId = ledgerId ∧ posting.fiscalYear = year then some posting.number else none
  | .draft => none

/-- Numbers of the posted entries of a ledger in a fiscal year. -/
def postedNumbers (books : Books) (ledgerId : LedgerId) (year : ℕ) : List ℕ :=
  books.entries.filterMap (postedNumber ledgerId year)

/-- The posted numbers are exactly `1 .. n`, each once, with `n` the counter. -/
def Gapless (books : Books) : Prop :=
  ∀ ledgerId year, (postedNumbers books ledgerId year).Perm
    (List.range' 1 (lastNumber books.counters ledgerId year))

theorem isFor_iff {counter : JournalNumberCounter} :
    counter.isFor ledgerId year ↔ counter.ledgerId = ledgerId ∧ counter.fiscalYear = year := by
  simp [JournalNumberCounter.isFor]

private theorem find_present (counters : List JournalNumberCounter) (ledgerId : LedgerId) (year : ℕ) :
    ∃ counter, (if counters.any (JournalNumberCounter.isFor ledgerId year) then counters
      else counters ++ [⟨ledgerId, year, 0⟩]).find? (JournalNumberCounter.isFor ledgerId year) =
        some counter := by
  by_cases present : counters.any (JournalNumberCounter.isFor ledgerId year)
  · rw [if_pos present]
    exact Option.isSome_iff_exists.mp (by simpa [List.find?_isSome] using present)
  · have absent : counters.find? (JournalNumberCounter.isFor ledgerId year) = none := by
      simpa [List.find?_eq_none] using present
    rw [if_neg present, List.find?_append, absent]
    exact ⟨⟨ledgerId, year, 0⟩, by simp [JournalNumberCounter.isFor]⟩

private theorem find_other (other : ¬ (ledger = ledgerId ∧ otherYear = year))
    (counters : List JournalNumberCounter) :
    (if counters.any (JournalNumberCounter.isFor ledgerId year) then counters
      else counters ++ [⟨ledgerId, year, 0⟩]).find? (JournalNumberCounter.isFor ledger otherYear) =
        counters.find? (JournalNumberCounter.isFor ledger otherYear) := by
  split
  · rfl
  · rw [List.find?_append]
    have unrelated : JournalNumberCounter.isFor ledger otherYear ⟨ledgerId, year, 0⟩ = false := by
      rw [Bool.eq_false_iff]
      intro same
      obtain ⟨sameLedger, sameYear⟩ := isFor_iff.mp same
      exact other ⟨sameLedger.symm, sameYear.symm⟩
    simp [unrelated]

theorem lastNumber_nextNumber (counters : List JournalNumberCounter) (ledgerId year ledger otherYear : ℕ) :
    lastNumber (nextNumber counters ledgerId year).2 ledger otherYear =
      if ledger = ledgerId ∧ otherYear = year then lastNumber counters ledgerId year + 1
      else lastNumber counters ledger otherYear := by
  rw [← nextNumber_fst]
  unfold nextNumber
  dsimp only
  generalize number : lastNumber _ ledgerId year + 1 = next
  set count := fun counter : JournalNumberCounter =>
    if counter.isFor ledgerId year then { counter with lastNumber := next } else counter with isCount
  have keeps : JournalNumberCounter.isFor ledger otherYear ∘ count =
      JournalNumberCounter.isFor ledger otherYear := by
    funext counter
    simp only [Function.comp, isCount]
    split <;> rfl
  conv_lhs => rw [lastNumber, List.find?_map, keeps]
  by_cases same : ledger = ledgerId ∧ otherYear = year
  · obtain ⟨rfl, rfl⟩ := same
    obtain ⟨counter, found⟩ := find_present counters ledger otherYear
    have isFor := List.find?_some found
    rw [found]
    simp [isCount, isFor]
  · rw [find_other same, if_neg same, lastNumber]
    cases found : counters.find? (JournalNumberCounter.isFor ledger otherYear) with
    | none => rfl
    | some counter =>
      have isFor := isFor_iff.mp (List.find?_some found)
      have unrelated : counter.isFor ledgerId year = false := by
        rw [Bool.eq_false_iff]
        intro also
        obtain ⟨sameLedger, sameYear⟩ := isFor_iff.mp also
        exact same ⟨isFor.1.symm.trans sameLedger, isFor.2.symm.trans sameYear⟩
      simp [isCount, unrelated]

theorem Books.Fresh.gapless (fresh : books.Fresh) : Gapless books := by
  intro ledgerId year
  simp [postedNumbers, fresh.entries, fresh.counters, lastNumber]

private theorem numbers_counted {selected : List ℕ} {ledger otherYear : ℕ}
    (gapless : (postedNumbers books ledger otherYear).Perm
      (List.range' 1 (lastNumber books.counters ledger otherYear)))
    (added : selected.Perm ((if ledger = ledgerId ∧ year = otherYear then
      [lastNumber books.counters ledgerId year + 1] else []) ++ postedNumbers books ledger otherYear)) :
    selected.Perm (List.range' 1
      (lastNumber (nextNumber books.counters ledgerId year).2 ledger otherYear)) := by
  rw [lastNumber_nextNumber]
  by_cases same : ledger = ledgerId ∧ year = otherYear
  · obtain ⟨rfl, rfl⟩ := same
    simp only [and_self, if_true, List.singleton_append] at added ⊢
    rw [List.range'_1_concat]
    refine added.trans ((gapless.cons _).trans ?_)
    rw [Nat.add_comm]
    exact (List.perm_append_singleton _ _).symm
  · have differ : ¬ (ledger = ledgerId ∧ otherYear = year) := fun both => same ⟨both.1, both.2.symm⟩
    rw [if_neg same, List.nil_append] at added
    rw [if_neg differ]
    exact added.trans gapless

theorem postedNumber_withPosting (entry : JournalEntry) (posting : Posting) :
    postedNumber ledgerId year (entry.withPosting posting) =
      if entry.ledgerId = ledgerId ∧ posting.fiscalYear = year then some posting.number else none := rfl

private theorem postedNumber_draft (draft : entry.status = .draft) :
    postedNumber ledgerId year entry = none := by
  simp [postedNumber, draft]

theorem LedgerStep.gapless (step : LedgerStep books next) (gapless : Gapless books) : Gapless next := by
  intro ledger year
  cases step with
  | draft entry sound isDraft original unreversed kind =>
    simpa [postedNumbers, postedNumber_draft isDraft] using gapless ledger year
  | redraft entryId old entry found wasDraft sound isDraft original unreversed kind sameLedger =>
    have same : postedNumber ledger year entry = postedNumber ledger year old := by
      rw [postedNumber_draft isDraft, postedNumber_draft wasDraft]
    have kept : (books.entries.set entryId entry).filterMap (postedNumber ledger year) =
        books.entries.filterMap (postedNumber ledger year) := filterMap_set_same found same
    simpa [postedNumbers, kept] using gapless ledger year
  | post entryId entry ledgerRow posting rows posts =>
    refine numbers_counted (gapless ledger year) ?_
    have unselected : postedNumber ledger year entry = none := postedNumber_draft posts.draft
    simp only [postedNumbers, Books.posted]
    by_cases counted : ledger = entry.ledgerId ∧ posting.fiscalYear = year
    · have selected : postedNumber ledger year (entry.withPosting posting) = some posting.number := by
        rw [postedNumber_withPosting, if_pos ⟨counted.1.symm, counted.2⟩]
      rw [if_pos counted, ← posts.number]
      exact filterMap_set_perm posts.found unselected selected
    · have same : postedNumber ledger year (entry.withPosting posting) = postedNumber ledger year entry := by
        rw [unselected, postedNumber_withPosting, if_neg fun both => counted ⟨both.1.symm, both.2⟩]
      rw [if_neg counted, filterMap_set_same posts.found same]
      rfl
  | reverse entryId entry ledgerRow bookingDate reversal posting reverses =>
    refine numbers_counted (gapless ledger year) ?_
    have kept : (books.entries.set entryId { entry with reversedById := some books.entries.length }).filterMap
        (postedNumber ledger year) = books.entries.filterMap (postedNumber ledger year) :=
      filterMap_set_same reverses.found rfl
    simp only [postedNumbers, Books.reversed, List.filterMap_append, kept]
    by_cases counted : ledger = entry.ledgerId ∧ posting.fiscalYear = year
    · have selected : postedNumber ledger year (reversal.withPosting posting) = some posting.number := by
        rw [postedNumber_withPosting, if_pos ⟨reverses.sameLedger.trans counted.1.symm, counted.2⟩]
      rw [if_pos counted, ← reverses.number, List.filterMap_cons, selected]
      exact List.perm_append_comm
    · have unselected : postedNumber ledger year (reversal.withPosting posting) = none := by
        rw [postedNumber_withPosting, if_neg]
        rw [reverses.sameLedger]
        exact fun both => counted ⟨both.1.symm, both.2⟩
      rw [if_neg counted, List.filterMap_cons, unselected]
      simp
  | lock ledgerId ledgerRow last found forward => exact gapless ledger year
  | master next edits =>
    simpa [postedNumbers, edits.entries, edits.counters] using gapless ledger year

end Mhvp.Accounting
