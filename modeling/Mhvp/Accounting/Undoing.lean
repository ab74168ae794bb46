import Mhvp.Accounting.BookSteps
import Mhvp.Accounting.Restoration

namespace Mhvp.Accounting

open Core Lib.Calendar Lib.Aggregate Lib.Table List

variable {books next : Books}

theorem LedgerStep.settlements_prefix (step : LedgerStep books next) : books.settlements <+: next.settlements := by
  cases step with
  | draft | redraft | lock => exact prefix_rfl
  | post entryId entry ledger posting rows posts => exact prefix_append _ _
  | reverse entryId entry ledger bookingDate reversal posting reverses => exact prefix_append _ _
  | master next edits => exact edits.settlements ▸ prefix_rfl

theorem BookStep.settlements_prefix (step : BookStep books next) : books.settlements <+: next.settlements := by
  cases step with
  | ledger next step => exact step.settlements_prefix
  | flag | credit => exact prefix_rfl

section

variable (steps : BookSteps books next)
include steps

theorem BookSteps.settlements_prefix : books.settlements <+: next.settlements := by
  induction steps with
  | refl => exact prefix_rfl
  | tail _ step ih => exact ih.trans step.settlements_prefix

theorem BookSteps.settlements_added :
    next.settlements = books.settlements ++ WriteOffs.addedSettlements books next := by
  obtain ⟨added, isAdded⟩ := steps.settlements_prefix
  rw [WriteOffs.addedSettlements, ← isAdded, drop_left]

theorem BookSteps.settled_same (absent : ∀ row ∈ WriteOffs.addedSettlements books next, row.openItemId ≠ itemId) :
    settled next itemId asOf = settled books itemId asOf := by
  rw [settled, steps.settlements_added, sumWhere_append, settled, add_eq_left]
  exact sumWhere_eq_zero fun row member named => absurd named.1 (absent row member)

end

theorem BookStep.item_kept {itemId : OpenItemId} {item : OpenItem} (step : BookStep books next)
    (found : books.openItems[itemId]? = some item) : ∃ kept, next.openItems[itemId]? = some kept ∧
      kept.amount = item.amount ∧ kept.journalEntryId = item.journalEntryId := by
  cases step with
  | ledger next step => exact ⟨item, step.item_same found, rfl, rfl⟩
  | credit added entry credits => exact ⟨item, found_append found, rfl, rfl⟩
  | flag place old effectiveOn foundOld =>
    by_cases same : itemId = place
    · subst same
      obtain rfl : item = old := Option.mem_unique found foundOld
      exact ⟨_, (found_set foundOld).mpr (Or.inl ⟨rfl, rfl⟩), rfl, rfl⟩
    · exact ⟨item, (found_set foundOld).mpr (Or.inr ⟨same, found⟩), rfl, rfl⟩

theorem BookSteps.item_kept {itemId : OpenItemId} {item : OpenItem} (steps : BookSteps books next)
    (found : books.openItems[itemId]? = some item) : ∃ kept, next.openItems[itemId]? = some kept ∧
      kept.amount = item.amount ∧ kept.journalEntryId = item.journalEntryId := by
  induction steps with
  | refl => exact ⟨item, found, rfl, rfl⟩
  | tail _ step ih =>
    obtain ⟨kept, foundKept, sameAmount, sameEntry⟩ := ih
    obtain ⟨last, foundLast, lastAmount, lastEntry⟩ := step.item_kept foundKept
    exact ⟨last, foundLast, lastAmount.trans sameAmount, lastEntry.trans sameEntry⟩

theorem services_item_same {itemId : OpenItemId} {item : OpenItem}
    (steps : Relation.ReflTransGen LedgerStep books next) (found : books.openItems[itemId]? = some item) :
    next.openItems[itemId]? = some item := by
  induction steps with
  | refl => exact found
  | tail _ step ih => exact step.item_same ih

/-- The entry is still posted, and settles every item as before. -/
structure EntryKept (books next : Books) (entryId : EntryId) (entry kept : JournalEntry) : Prop where
  found : next.entries[entryId]? = some kept
  same : entry.SameBut kept
  settles : ∀ itemId, settledBy next entryId itemId = settledBy books entryId itemId

theorem EntryKept.isPosted (keeps : EntryKept books next entryId entry kept)
    (posted : entry.isPosted) : kept.isPosted := keeps.same.isPosted.mpr posted

theorem BookStep.entry_kept (step : BookStep books next)
    (linked : books.Linked) (found : books.entries[entryId]? = some entry) (posted : entry.isPosted) :
    ∃ kept, EntryKept books next entryId entry kept := by
  cases step with
  | ledger next step =>
    obtain ⟨kept, foundKept, same⟩ := step.posted_immutable found posted
    exact ⟨kept, foundKept, same, fun itemId => step.settledBy_same linked found posted⟩
  | flag | credit => exact ⟨entry, found, .refl entry, fun _ => rfl⟩

theorem BookSteps.entry_kept (steps : BookSteps books next)
    (sound : books.Sound) (found : books.entries[entryId]? = some entry) (posted : entry.isPosted) :
    ∃ kept, EntryKept books next entryId entry kept := by
  induction steps with
  | refl => exact ⟨entry, found, .refl entry, fun _ => rfl⟩
  | tail before step ih =>
    obtain ⟨mid, keptMid⟩ := ih
    have soundMid := BookSteps.sound before sound
    obtain ⟨kept, keptLast⟩ := step.entry_kept soundMid.linked keptMid.found (keptMid.isPosted posted)
    refine ⟨kept, keptLast.found, ⟨?_, ?_⟩, fun itemId => (keptLast.settles itemId).trans (keptMid.settles itemId)⟩
    · rw [keptLast.same.1, keptMid.same.1]
    · exact fun reversal already => keptLast.same.2 _ (keptMid.same.2 _ already)

theorem LedgerStep.reverses_entry (step : LedgerStep books next)
    (found : books.entries[entryId]? = some entry) (unreversed : entry.reversedById = none)
    (foundKept : next.entries[entryId]? = some kept) (reversed : kept.reversedById.isSome) :
    ∃ ledger bookingDate reversal posting, Reverses books entryId entry ledger bookingDate reversal posting ∧
      next = books.reversed entryId entry bookingDate reversal posting := by
  have changed : kept ≠ entry := by
    rintro rfl
    simp [unreversed] at reversed
  cases step with
  | draft added sound isDraft original unreversed kind =>
    exact absurd (Option.some.inj (foundKept.symm.trans (found_append found))) changed
  | redraft place old added foundOld wasDraft sound isDraft original isUnreversed kind sameLedger =>
    rcases (found_set foundOld).mp foundKept with ⟨-, rfl⟩ | ⟨-, same⟩
    · simp [isUnreversed] at reversed
    · exact absurd (Option.mem_unique same found) changed
  | post place draft ledger posting rows posts =>
    rcases (found_set posts.found).mp foundKept with ⟨rfl, rfl⟩ | ⟨-, same⟩
    · obtain rfl : entry = draft := Option.mem_unique found posts.found
      simp [JournalEntry.withPosting, unreversed] at reversed
    · exact absurd (Option.mem_unique same found) changed
  | reverse place original ledger bookingDate reversal posting reverses =>
    by_cases here : entryId = place
    · subst here
      obtain rfl : entry = original := Option.mem_unique found reverses.found
      exact ⟨ledger, bookingDate, reversal, posting, reverses, rfl⟩
    · have foundSet : (books.entries.set place { original with reversedById := some books.entries.length })[entryId]? =
          some entry := (found_set reverses.found).mpr (Or.inr ⟨here, found⟩)
      exact absurd (Option.some.inj (foundKept.symm.trans (found_append foundSet))) changed
  | lock ledgerId ledger last foundLedger forward =>
    exact absurd (Option.mem_unique foundKept found) changed
  | master next edits =>
    rw [edits.entries] at foundKept
    exact absurd (Option.mem_unique foundKept found) changed

variable {entryId : EntryId} {asOf : Option Date}

/-- What an entry moves on an account up to a day. -/
def movedBy (books : Books) (entryId : EntryId) (accountId : AccountId) (asOf : Option Date) : Decimal :=
  match books.entries[entryId]? with
  | some entry => if Within asOf entry.bookingDate then netOn accountId entry.lines else 0
  | none => 0

/-- The amount of an open item that the entry created. -/
def createdBy (books : Books) (entryId : EntryId) (itemId : OpenItemId) : Decimal :=
  match books.openItems[itemId]? with
  | some item => if item.journalEntryId = entryId then item.amount else 0
  | none => 0

/-- What is open of an item; nothing before it exists. -/
def openRest (books : Books) (itemId : OpenItemId) (asOf : Option Date) : Decimal :=
  match books.openItems[itemId]? with
  | some item => item.amount - settled books itemId asOf
  | none => 0

theorem movedBy_found (found : books.entries[entryId]? = some entry) :
    movedBy books entryId accountId asOf = if Within asOf entry.bookingDate then netOn accountId entry.lines else 0 := by
  rw [movedBy, found]

theorem createdBy_found (found : books.openItems[itemId]? = some item) :
    createdBy books entryId itemId = if item.journalEntryId = entryId then item.amount else 0 := by
  rw [createdBy, found]

theorem openRest_found (found : books.openItems[itemId]? = some item) :
    openRest books itemId asOf = item.amount - settled books itemId asOf := by
  rw [openRest, found]

section Posting

variable (posts : Posts books entryId entry ledger posting [])

include posts

theorem posted_moves : balance (books.posted entryId entry posting []) accountId asOf =
    balance books accountId asOf + movedBy (books.posted entryId entry posting []) entryId accountId asOf := by
  have found : (books.posted entryId entry posting []).entries[entryId]? = some (entry.withPosting posting) :=
    (found_set posts.found).mpr (Or.inl ⟨rfl, rfl⟩)
  rw [balance_posted posts, movedBy_found found]
  rfl

theorem posted_opens (linked : books.Linked) (itemId : OpenItemId) :
    openRest (books.posted entryId entry posting []) itemId asOf =
      openRest books itemId asOf + createdBy (books.posted entryId entry posting []) entryId itemId := by
  have sameSettled : settled (books.posted entryId entry posting []) itemId asOf = settled books itemId asOf := by
    rw [settled_posted posts, settledIn, sumWhere_nil, ite_self, add_zero]
  cases found : (books.posted entryId entry posting []).openItems[itemId]? with
  | none =>
    have absent : books.openItems[itemId]? = none := by
      rw [List.getElem?_eq_none_iff] at found ⊢
      exact (length_append ▸ Nat.le_add_right _ _).trans found
    rw [openRest, found, openRest, absent, createdBy, found, add_zero]
  | some item =>
    rw [openRest_found found, createdBy_found found, sameSettled]
    rcases found_append_cases found with old | ⟨beyond, created⟩
    · obtain ⟨author, foundAuthor, posted, -⟩ := linked.item (mem_of_getElem? old)
      have other : item.journalEntryId ≠ entryId := by
        rintro rfl
        obtain rfl : entry = author := Option.mem_unique posts.found foundAuthor
        exact posted posts.draft
      rw [openRest_found old, if_neg other, add_zero]
    · rw [settled_created linked beyond, if_pos (openItem_of_createdItems created).1, openRest,
        List.getElem?_eq_none beyond, sub_zero, zero_add]

theorem posted_settles_nothing (linked : books.Linked) (itemId : OpenItemId) :
    settledBy (books.posted entryId entry posting []) entryId itemId = 0 := by
  rw [settledBy_posted linked posts, settledIn, sumWhere_nil]

end Posting

section Reversal

variable (within : Within asOf bookingDate)

include within

section

variable (reverses : Reverses books entryId entry ledger bookingDate reversal posting)
include reverses

theorem within_entry :
    Within asOf entry.bookingDate := fun last isLast => reverses.notBefore.trans (within last isLast)

theorem reversed_moves :
    balance (books.reversed entryId entry bookingDate reversal posting) accountId asOf =
    balance books accountId asOf - movedBy books entryId accountId asOf := by
  rw [balance_reversed reverses, movedBy_found reverses.found, if_pos within, if_pos (within_entry within reverses)]

end

theorem reversed_closes (nothing : settledBy books entryId itemId = 0) :
    openRest (books.reversed entryId entry bookingDate reversal posting) itemId asOf =
      openRest books itemId asOf - createdBy books entryId itemId := by
  cases found : books.openItems[itemId]? with
  | none =>
    have absent : (books.reversed entryId entry bookingDate reversal posting).openItems[itemId]? = none := found
    rw [openRest, absent, openRest, found, createdBy, found, sub_zero]
  | some item =>
    have foundNext : (books.reversed entryId entry bookingDate reversal posting).openItems[itemId]? = some item := found
    rw [openRest_found foundNext, openRest_found found, createdBy_found found, settled_reversed found, if_pos within,
      nothing, sub_zero, sub_sub]

end Reversal

/-- Posted entries keep their lines and settlements and the items they created, and get no others. -/
structure EffectsKept (books next : Books) : Prop where
  kept : ∀ {entryId entry}, books.entries[entryId]? = some entry → entry.isPosted →
    ∃ later, EntryKept books next entryId entry later
  created : ∀ {entryId entry}, books.entries[entryId]? = some entry → entry.isPosted → ∀ itemId,
    createdBy next entryId itemId = createdBy books entryId itemId

theorem EffectsKept.refl (books : Books) : EffectsKept books books where
  kept := fun found _ => ⟨_, found, .refl _, fun _ => rfl⟩
  created := fun _ _ _ => rfl

theorem EntryKept.trans
    (first : EntryKept books mid entryId entry middle) (second : EntryKept mid next entryId middle later) :
    EntryKept books next entryId entry later where
  found := second.found
  same := ⟨by rw [second.same.1, first.same.1], fun reversal already => second.same.2 _ (first.same.2 _ already)⟩
  settles := fun itemId => (second.settles itemId).trans (first.settles itemId)

theorem EffectsKept.trans (first : EffectsKept books mid) (second : EffectsKept mid next) :
    EffectsKept books next := by
  constructor
  · intro entryId entry found posted
    obtain ⟨middle, keptMiddle⟩ := first.kept found posted
    obtain ⟨later, keptLater⟩ := second.kept keptMiddle.found (keptMiddle.isPosted posted)
    exact ⟨later, keptMiddle.trans keptLater⟩
  · intro entryId entry found posted itemId
    obtain ⟨middle, keptMiddle⟩ := first.kept found posted
    rw [second.created keptMiddle.found (keptMiddle.isPosted posted), first.created found posted]

theorem EffectsKept.moved (kept : EffectsKept books next) (found : books.entries[entryId]? = some entry)
    (posted : entry.isPosted) (accountId : AccountId) (asOf : Option Date) :
    movedBy next entryId accountId asOf = movedBy books entryId accountId asOf := by
  obtain ⟨later, keptLater⟩ := kept.kept found posted
  rw [movedBy_found keptLater.found, movedBy_found found, keptLater.same.1]

private theorem createdBy_same (same : next.openItems = books.openItems) :
    createdBy next entryId itemId = createdBy books entryId itemId := by
  rw [createdBy, createdBy, same]

theorem LedgerStep.createdBy_posted (step : LedgerStep books next)
    (found : books.entries[entryId]? = some entry) (posted : entry.isPosted) (itemId : OpenItemId) :
    createdBy next entryId itemId = createdBy books entryId itemId := by
  cases step with
  | draft | redraft | reverse | lock => exact createdBy_same rfl
  | master next edits => exact createdBy_same edits.openItems
  | post place draft ledger posting rows posts =>
    have other : place ≠ entryId := by
      rintro rfl
      obtain rfl : entry = draft := Option.mem_unique found posts.found
      exact posted posts.draft
    cases foundItem : (books.posted place draft posting rows).openItems[itemId]? with
    | none =>
      have absent : books.openItems[itemId]? = none := by
        rw [List.getElem?_eq_none_iff] at foundItem ⊢
        exact (length_append ▸ Nat.le_add_right _ _).trans foundItem
      rw [createdBy, foundItem, createdBy, absent]
    | some item =>
      rw [createdBy_found foundItem]
      rcases found_append_cases foundItem with old | ⟨beyond, created⟩
      · rw [createdBy_found old]
      · rw [(openItem_of_createdItems created).1, if_neg other, createdBy, List.getElem?_eq_none beyond]

theorem LedgerStep.effectsKept (step : LedgerStep books next) (linked : books.Linked) : EffectsKept books next where
  kept := fun found posted => (BookStep.ledger next step).entry_kept linked found posted
  created := fun found posted => step.createdBy_posted found posted

theorem services_effectsKept (steps : Relation.ReflTransGen LedgerStep books next) (sound : books.Sound) :
    next.Sound ∧ EffectsKept books next := by
  induction steps with
  | refl => exact ⟨sound, .refl books⟩
  | tail _ step ih => exact ⟨step.sound ih.1, ih.2.trans (step.effectsKept ih.1.linked)⟩

theorem flag_effectsKept (sound : books.Sound) (found : books.openItems[itemId]? = some item) :
    EffectsKept books (WriteOffs.flagItem books itemId item effectiveOn) where
  kept := fun foundEntry posted =>
    (BookStep.flag itemId item effectiveOn found).entry_kept sound.linked foundEntry posted
  created := by
    intro entryId entry _ _ id
    by_cases same : id = itemId
    · subst same
      have foundNext : (WriteOffs.flagItem books id item effectiveOn).openItems[id]? =
          some (WriteOffs.flagged item effectiveOn) := (found_set found).mpr (Or.inl ⟨rfl, rfl⟩)
      rw [createdBy_found foundNext, createdBy_found found]
      rfl
    · have sameItem : (WriteOffs.flagItem books itemId item effectiveOn).openItems[id]? = books.openItems[id]? :=
        List.getElem?_set_ne (Ne.symm same)
      rw [createdBy, createdBy, sameItem]

theorem writeOffStep_effectsKept {db next : Db} (sound : db.books.Sound)
    (accepted : writeOffStep db call = .ok next) : EffectsKept db.books next.books := by
  cases writeOffStep_effect sound accepted with
  | services call steps => exact (services_effectsKept steps sound).2
  | flag writeOffId note userId gateOpen row item found proposed foundItem after =>
    rw [after]
    exact flag_effectsKept sound foundItem

end Mhvp.Accounting
