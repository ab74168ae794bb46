import Mhvp.Accounting.LockedPeriod
import Mhvp.Accounting.Proposals

namespace Mhvp.Accounting

open Core Lib.Calendar Lib.Table Lib.Aggregate Lib.Transition List

variable {books next : Books}

/-- Lines of the view within the days of a report. -/
def linesUpTo (books : Books) (ledgerId : LedgerId) (last : Date) (start asOf : Option Date) :
    List JournalLine :=
  ((entriesUpTo books ledgerId last).filter fun entry => PostedWithin start asOf entry).flatMap
    JournalEntry.lines

theorem PostedWithin.mono (posted : PostedWithin start (some asOf) entry)
    (within : asOf ≤ last) : PostedWithin none (some last) entry :=
  ⟨posted.1, within_some.mpr ((within_some.mp posted.2.1).trans within), by simp⟩

private theorem viewed_lines (entries : List JournalEntry) (kept : JournalLine → Bool)
    (reads readsView : JournalEntry → Bool)
    (seen : ∀ entry ∈ entries, entry.ledgerId = ledgerId ∧ PostedWithin none (some last) entry →
      readsView { entry with reversedById := none } = reads entry)
    (unseen : ∀ entry ∈ entries, ¬ (entry.ledgerId = ledgerId ∧ PostedWithin none (some last) entry) →
      reads entry = true → ∀ line ∈ entry.lines, kept line = false) :
    ((entries.filter reads).flatMap JournalEntry.lines).filter kept =
      (((entries.filterMap (entryUpTo ledgerId last)).filter readsView).flatMap JournalEntry.lines).filter kept := by
  induction entries with
  | nil => rfl
  | cons entry rest ih =>
    have later := ih (fun other member => seen other (mem_cons_of_mem _ member))
      fun other member => unseen other (mem_cons_of_mem _ member)
    by_cases inView : entry.ledgerId = ledgerId ∧ PostedWithin none (some last) entry
    · have selected : entryUpTo ledgerId last entry = some { entry with reversedById := none } := if_pos inView
      have alike := seen entry mem_cons_self inView
      rw [filterMap_cons, selected, filter_cons, filter_cons, alike]
      cases reads entry with
      | true => simp only [if_true, flatMap_cons, filter_append, later]
      | false => simpa using later
    · have outside : entryUpTo ledgerId last entry = none := if_neg inView
      rw [filterMap_cons, outside, filter_cons]
      cases reading : reads entry with
      | true =>
        have noLine : entry.lines.filter kept = [] := by
          apply filter_eq_nil_iff.mpr
          intro line member
          simp [unseen entry mem_cons_self inView reading line member]
        simp only [if_true, flatMap_cons, filter_append, noLine, nil_append, later]
      | false => simpa using later

private theorem linesUpTo_account (linked : books.Linked)
    (member : line ∈ linesUpTo books ledgerId last start asOf) :
    ∃ account, books.accounts[line.accountId]? = some account := by
  obtain ⟨entry, reported, onEntry⟩ := mem_flatMap.mp member
  obtain ⟨original, present, selected⟩ := mem_filterMap.mp (mem_filter.mp reported).1
  obtain ⟨index, found⟩ := mem_iff_getElem?.mp present
  unfold entryUpTo at selected
  split at selected
  · cases selected
    obtain ⟨account, foundAccount, -⟩ := (linked.sound found).accounts line onEntry
    exact ⟨account, foundAccount⟩
  · cases selected

private theorem postedLines_on (linked : books.Linked) (found : books.accounts[accountId]? = some account)
    (ofLedger : account.ledgerId = ledgerId) (within : asOf ≤ last) :
    (postedLines books start (some asOf)).filter (fun line => line.accountId = accountId) =
      (linesUpTo books ledgerId last start (some asOf)).filter fun line => line.accountId = accountId := by
  apply viewed_lines
  · intro entry _ _
    rfl
  · intro entry present unseen reported line member
    obtain ⟨index, foundEntry⟩ := mem_iff_getElem?.mp present
    obtain ⟨own, foundOwn, sameLedger⟩ := (linked.sound foundEntry).accounts line member
    apply decide_eq_false
    intro same
    rw [same, found] at foundOwn
    cases foundOwn
    exact unseen ⟨sameLedger.symm.trans ofLedger, (of_decide_eq_true reported).mono within⟩

private theorem trialRow_congr
    (same : account.ledgerId = ledgerId → lines.filter (fun line => line.accountId = accountId) =
      others.filter fun line => line.accountId = accountId) :
    trialRow lines ledgerId (account, accountId) = trialRow others ledgerId (account, accountId) := by
  by_cases ofLedger : account.ledgerId = ledgerId
  · have alike := same ofLedger
    have present : (∃ line ∈ lines, line.accountId = accountId) ↔ ∃ line ∈ others, line.accountId = accountId := by
      have nonempty := congrArg (fun rows : List JournalLine => rows ≠ []) alike
      simpa [filter_eq_nil_iff] using nonempty
    have sameDebit : debitOn accountId lines = debitOn accountId others := by
      rw [debitOn, debitOn, sumWhere, sumWhere, alike]
    have sameCredit : creditOn accountId lines = creditOn accountId others := by
      rw [creditOn, creditOn, sumWhere, sumWhere, alike]
    simp only [trialRow, present, sameDebit, sameCredit]
  · rw [trialRow, trialRow, if_neg fun selected => ofLedger selected.1, if_neg fun selected => ofLedger selected.1]

private theorem trialRows_view (linked : books.Linked) (within : asOf ≤ last) :
    books.accounts.zipIdx.filterMap (trialRow (postedLines books start (some asOf)) ledgerId) =
      books.accounts.zipIdx.filterMap (trialRow (linesUpTo books ledgerId last start (some asOf)) ledgerId) := by
  apply filterMap_congr
  rintro ⟨account, accountId⟩ member
  have found := mem_zipIdx_iff_getElem?.mp member
  exact trialRow_congr fun ofLedger => postedLines_on linked found ofLedger within

private theorem accounts_rows (same : SameUpTo ledgerId last books next)
    (named : ∀ account id, row (account, id) = row (account.named, id))
    (absent : ∀ account id, books.accounts.length ≤ id → row (account, id) = none) :
    next.accounts.zipIdx.filterMap row = books.accounts.zipIdx.filterMap row := by
  apply indexed_prefix same.accounts
  · intro account other id alike
    rw [named account, named other, alike]
  · intro account id beyond
    exact absent account id (by omega)

theorem trialBalance_same (linked : books.Linked) (linkedNext : next.Linked)
    (same : SameUpTo ledgerId last books next) (within : asOf ≤ last) :
    trialBalance next ledgerId asOf start = trialBalance books ledgerId asOf start := by
  have sameLines : linesUpTo next ledgerId last start (some asOf) =
      linesUpTo books ledgerId last start (some asOf) := by
    rw [linesUpTo, same.entries, linesUpTo]
  have rows : next.accounts.zipIdx.filterMap (trialRow (postedLines next start (some asOf)) ledgerId) =
      books.accounts.zipIdx.filterMap (trialRow (postedLines books start (some asOf)) ledgerId) := by
    rw [trialRows_view linkedNext within, trialRows_view linked within, sameLines]
    apply accounts_rows same
    · intro account id
      rfl
    · intro account id beyond
      apply if_neg
      rintro ⟨-, line, member, isAccount⟩
      obtain ⟨known, foundKnown⟩ := linesUpTo_account linked member
      exact absurd (found_lt foundKnown) (by rw [isAccount]; omega)
  unfold trialBalance
  dsimp only
  rw [rows]

private theorem itemsUpTo_account (sound : books.Sound) (originated : books.Originated)
    (member : found ∈ itemsUpTo books ledgerId last) :
    ∃ account, books.accounts[found.1.accountId]? = some account := by
  obtain ⟨item, foundItem, isItem, -⟩ := mem_itemsUpTo member
  obtain ⟨entry, foundEntry, origin⟩ := originated.origin (mem_of_getElem? foundItem)
  obtain ⟨line, onEntry, sameAccount⟩ := origin.onLine
  obtain ⟨account, foundAccount, -⟩ := (sound.linked.sound foundEntry).accounts line onEntry
  have keeps : found.1.accountId = item.accountId := by
    rw [isItem, OpenItem.flaggedUpTo]
    split <;> rfl
  exact ⟨account, by rw [keeps, ← sameAccount]; exact foundAccount⟩

private theorem openItems_view (books : Books) (within : asOf ≤ last) :
    books.openItems.zipIdx.filterMap (openItemRow books ledgerId asOf accountId) =
      (itemsUpTo books ledgerId last).filterMap (openItemRow books ledgerId asOf accountId) := by
  rw [itemsUpTo, filterMap_filterMap]
  apply filterMap_congr
  rintro ⟨item, itemId⟩ -
  by_cases inView : item.ledgerId = ledgerId ∧ item.bookingDate ≤ last
  · rw [itemUpTo, if_pos inView, Option.bind_some, OpenItem.flaggedUpTo]
    split <;> rfl
  · rw [itemUpTo, if_neg inView, Option.bind_none, openItemRow]
    have unlisted : ¬ (item.ledgerId = ledgerId ∧ item.bookingDate ≤ asOf ∧
        (∀ only ∈ accountId, item.accountId = only) ∧ item.amount - settled books itemId (some asOf) ≠ 0) :=
      fun listed => inView ⟨listed.1, listed.2.1.trans within⟩
    cases books.accounts[item.accountId]? with
    | none => rfl
    | some account => exact if_neg unlisted

theorem openItems_same (sound : books.Sound) (originated : books.Originated)
    (same : SameUpTo ledgerId last books next) (within : asOf ≤ last) :
    openItems next ledgerId asOf accountId = openItems books ledgerId asOf accountId := by
  have rows : (itemsUpTo next ledgerId last).filterMap (openItemRow next ledgerId asOf accountId) =
      (itemsUpTo books ledgerId last).filterMap (openItemRow books ledgerId asOf accountId) := by
    rw [same.items]
    apply filterMap_congr
    rintro ⟨item, itemId⟩ member
    obtain ⟨account, found⟩ := itemsUpTo_account sound originated member
    have inRange : item.accountId < (books.accounts.map LedgerAccount.named).length := by
      rw [length_map]
      exact found_lt found
    have keeps := prefix_iff_getElem?.mp same.accounts item.accountId inRange
    rw [List.getElem?_map, ← List.getElem?_eq_getElem inRange, List.getElem?_map, found] at keeps
    obtain ⟨later, foundNext, alike⟩ := Option.map_eq_some_iff.mp keeps
    have sameNumber : later.named.number = account.named.number := congrArg LedgerAccount.number alike
    change later.number = account.number at sameNumber
    have sameSettled := same.settled (item, itemId) member asOf within
    change (do
      let account ← next.accounts[item.accountId]?
      _) = (do
      let account ← books.accounts[item.accountId]?
      _)
    rw [foundNext, found]
    simp only [Option.bind_eq_bind, Option.bind_some, sameNumber, sameSettled]
  rw [openItems, openItems_view next within, rows, openItems, openItems_view books within]

private theorem hasReversal_view (linked : books.Linked) (found : books.entries[entryId]? = some entry)
    (ofLedger : entry.ledgerId = ledgerId) (within : asOf ≤ last) :
    HasReversal books (some asOf) entryId ↔ ∃ reversal ∈ entriesUpTo books ledgerId last,
      Within (some asOf) reversal.bookingDate ∧ reversal.reversesId = some entryId := by
  constructor
  · rintro ⟨reversal, present, posted, reverses⟩
    obtain ⟨index, foundReversal⟩ := mem_iff_getElem?.mp present
    obtain ⟨-, -, origin, foundOrigin, -, -, -, sameLedger, -⟩ := linked.reversal foundReversal reverses
    obtain rfl : entry = origin := by simpa [found] using foundOrigin
    have inView : entryUpTo ledgerId last reversal = some { reversal with reversedById := none } :=
      if_pos ⟨sameLedger.symm.trans ofLedger, posted.mono within⟩
    exact ⟨_, mem_filterMap.mpr ⟨reversal, present, inView⟩, posted.2.1, reverses⟩
  · rintro ⟨view, inView, dated, reverses⟩
    obtain ⟨reversal, present, selected⟩ := mem_filterMap.mp inView
    unfold entryUpTo at selected
    split at selected
    · rename_i conditions
      cases selected
      exact ⟨reversal, present, ⟨conditions.2.1, dated, by simp⟩, reverses⟩
    · cases selected

private theorem reconciledItems_view (books : Books) (within : asOf ≤ last) :
    reconciledItems books ledgerId (some asOf) =
      ((itemsUpTo books ledgerId last).filter fun found => Within (some asOf) found.1.bookingDate).map
        (reconciledItem books (some asOf)) := by
  rw [reconciledItems, itemsUpTo]
  induction books.openItems.zipIdx with
  | nil => rfl
  | cons found rest ih =>
    obtain ⟨item, itemId⟩ := found
    by_cases inView : item.ledgerId = ledgerId ∧ item.bookingDate ≤ last
    · have selected : itemUpTo ledgerId last (item, itemId) = some (item.flaggedUpTo last, itemId) := if_pos inView
      have sameDate : (item.flaggedUpTo last).bookingDate = item.bookingDate := by
        rw [OpenItem.flaggedUpTo]
        split <;> rfl
      have alike : reconciledItem books (some asOf) (item.flaggedUpTo last, itemId) =
          reconciledItem books (some asOf) (item, itemId) := by
        rw [OpenItem.flaggedUpTo]
        split
        · rfl
        · rename_i unflagged
          have open' : ¬ WrittenOffWithin (some asOf) item := by
            rintro ⟨flag, effective⟩
            apply unflagged
            refine ⟨flag, fun effectiveOn isEffective => ?_⟩
            exact within_some.mpr ((within_some.mp (effective effectiveOn isEffective)).trans within)
          have unset : ¬ WrittenOffWithin (some asOf) { item with writtenOff := false, writtenOffOn := none } :=
            fun flagged => Bool.false_ne_true flagged.1
          simp only [reconciledItem, open', unset]
      by_cases dated : Within (some asOf) item.bookingDate
      · simp only [filter_cons, filterMap_cons, selected, inView.1, sameDate, dated, and_self,
          decide_true, if_true, map_cons, alike, ih]
      · simp only [filter_cons, filterMap_cons, selected, sameDate, dated, and_false,
          decide_false, Bool.false_eq_true, if_false, ih]
    · have outside : itemUpTo ledgerId last (item, itemId) = none := if_neg inView
      have undated : ¬ (item.ledgerId = ledgerId ∧ Within (some asOf) item.bookingDate) :=
        fun selected => inView ⟨selected.1, (within_some.mp selected.2).trans within⟩
      simp only [filter_cons, filterMap_cons, outside, undated, decide_false, Bool.false_eq_true,
        if_false, ih]

private theorem reconciledItems_same (sound : books.Sound) (originated : books.Originated)
    (soundNext : next.Sound) (originatedNext : next.Originated)
    (same : SameUpTo ledgerId last books next) (within : asOf ≤ last) :
    reconciledItems next ledgerId (some asOf) = reconciledItems books ledgerId (some asOf) := by
  rw [reconciledItems_view next within, reconciledItems_view books within, same.items]
  apply map_congr_left
  rintro ⟨item, itemId⟩ member
  have inView := (mem_filter.mp member).1
  have sameReversal : HasReversal next (some asOf) item.journalEntryId ↔
      HasReversal books (some asOf) item.journalEntryId := by
    obtain ⟨old, foundOld, isOld, ofLedger, -⟩ := mem_itemsUpTo inView
    obtain ⟨new, foundNew, isNew, ofLedgerNew, -⟩ := mem_itemsUpTo (same.items ▸ inView)
    have ofEntry : ∀ {row : OpenItem}, item = row.flaggedUpTo last → row.journalEntryId = item.journalEntryId := by
      intro row isRow
      rw [isRow, OpenItem.flaggedUpTo]
      split <;> rfl
    obtain ⟨entry, foundEntry, origin⟩ := originated.origin (mem_of_getElem? foundOld)
    obtain ⟨entryNext, foundNext, originNext⟩ := originatedNext.origin (mem_of_getElem? foundNew)
    rw [ofEntry isOld] at foundEntry
    rw [ofEntry isNew] at foundNext
    rw [hasReversal_view sound.linked foundEntry (origin.sameLedger.trans ofLedger) within,
      hasReversal_view soundNext.linked foundNext (originNext.sameLedger.trans ofLedgerNew) within, same.entries]
  have sameSettled := same.settled (item, itemId) inView asOf within
  simp only [reconciledItem, sameReversal, sameSettled]

private theorem ledgerLines_view (books : Books) (within : asOf ≤ last) :
    ledgerLines books ledgerId (some asOf) = linesUpTo books ledgerId last none (some asOf) := by
  have everyLine : (ledgerLines books ledgerId (some asOf)).filter (fun _ => true) =
      (linesUpTo books ledgerId last none (some asOf)).filter fun _ => true := by
    apply viewed_lines
    · intro entry _ inView
      apply decide_eq_decide.mpr
      exact ⟨fun posted => ⟨inView.1, posted⟩, fun both => both.2⟩
    · intro entry _ unseen reported
      obtain ⟨ofLedger, posted⟩ := of_decide_eq_true reported
      exact absurd ⟨ofLedger, posted.mono within⟩ unseen
  simpa using everyLine

private theorem reconciledItems_account (sound : books.Sound) (originated : books.Originated) (within : asOf ≤ last)
    (member : item ∈ reconciledItems books ledgerId (some asOf)) :
    ∃ account, books.accounts[item.accountId]? = some account := by
  rw [reconciledItems_view books within] at member
  obtain ⟨found, inView, rfl⟩ := mem_map.mp member
  exact itemsUpTo_account sound originated (mem_filter.mp inView).1

theorem subledgerReconciliation_same (sound : books.Sound) (originated : books.Originated)
    (soundNext : next.Sound) (originatedNext : next.Originated) (same : SameUpTo ledgerId last books next)
    (within : asOf ≤ last) :
    subledgerReconciliation next ledgerId (some asOf) excludeWrittenOff =
      subledgerReconciliation books ledgerId (some asOf) excludeWrittenOff := by
  have sameLines : ledgerLines next ledgerId (some asOf) = ledgerLines books ledgerId (some asOf) := by
    rw [ledgerLines_view next within, ledgerLines_view books within, linesUpTo, same.entries, linesUpTo]
  have sameItems := reconciledItems_same sound originated soundNext originatedNext same within
  have rows : next.accounts.zipIdx.filterMap (reconciliationRow ledgerId (ledgerLines books ledgerId (some asOf))
        (reconciledItems books ledgerId (some asOf)) excludeWrittenOff) =
      books.accounts.zipIdx.filterMap (reconciliationRow ledgerId (ledgerLines books ledgerId (some asOf))
        (reconciledItems books ledgerId (some asOf)) excludeWrittenOff) := by
    apply accounts_rows same
    · intro account id
      rfl
    · intro account id beyond
      apply if_neg
      rintro ⟨-, -, line | item⟩
      · apply line
        apply filter_eq_nil_iff.mpr
        intro line member
        rw [ledgerLines_view books within] at member
        obtain ⟨known, foundKnown⟩ := linesUpTo_account sound.linked member
        have inRange := found_lt foundKnown
        intro sameAccount
        rw [of_decide_eq_true sameAccount] at inRange
        exact absurd inRange (Nat.not_lt.mpr beyond)
      · apply item
        apply filter_eq_nil_iff.mpr
        intro item member
        obtain ⟨known, foundKnown⟩ := reconciledItems_account sound originated within member
        have inRange := found_lt foundKnown
        intro sameAccount
        rw [of_decide_eq_true sameAccount] at inRange
        exact absurd inRange (Nat.not_lt.mpr beyond)
  unfold subledgerReconciliation
  dsimp only
  rw [sameLines, sameItems, rows]

/-- The reports of a ledger agree on every day up to the locked one. -/
structure SameReports (ledgerId : LedgerId) (last : Date) (books next : Books) : Prop where
  trialBalance : ∀ asOf ≤ last, ∀ start,
    trialBalance next ledgerId asOf start = trialBalance books ledgerId asOf start
  openItems : ∀ asOf ≤ last, ∀ accountId,
    openItems next ledgerId asOf accountId = openItems books ledgerId asOf accountId
  subledger : ∀ asOf ≤ last, ∀ excludeWrittenOff,
    subledgerReconciliation next ledgerId (some asOf) excludeWrittenOff =
      subledgerReconciliation books ledgerId (some asOf) excludeWrittenOff

theorem SameUpTo.reports (sound : books.Sound) (originated : books.Originated) (soundNext : next.Sound)
    (originatedNext : next.Originated) (same : SameUpTo ledgerId last books next) : SameReports ledgerId last books next where
  trialBalance := fun _ within _ => trialBalance_same sound.linked soundNext.linked same within
  openItems := fun _ within _ => openItems_same sound originated same within
  subledger := fun _ within _ => subledgerReconciliation_same sound originated soundNext originatedNext same within

/-- The invariant of the ledger tables and the write offs. -/
structure InOrder (db : Db) : Prop where
  sound : db.books.Sound
  originated : db.books.Originated
  proposals : ProposalsOpen db

theorem InOrder.step (db : Db) (call : WriteOffCall) (next : Db) (inOrder : InOrder db)
    (accepted : writeOffStep db call = .ok next) : InOrder next := by
  have effect := writeOffStep_effect inOrder.sound accepted
  exact ⟨effect.steps.sound inOrder.sound, effect.originated inOrder.sound inOrder.originated,
    writeOffStep_proposals inOrder.sound inOrder.proposals accepted⟩

/-- The ledger is still locked, and its locked part as it was. -/
structure StillLocked (ledgerId : LedgerId) (last : Date) (locked books : Books) : Prop where
  lockedUpTo : LockedUpTo ledgerId last books
  same : SameUpTo ledgerId last locked books

theorem StillLocked.services (sound : books.Sound) (originated : books.Originated)
    (still : StillLocked ledgerId last locked books) (steps : Relation.ReflTransGen LedgerStep books next) :
    StillLocked ledgerId last locked next := by
  suffices every : next.Sound ∧ next.Originated ∧ StillLocked ledgerId last locked next from every.2.2
  induction steps with
  | refl => exact ⟨sound, originated, still⟩
  | tail _ step ih =>
    obtain ⟨sound, originated, still⟩ := ih
    exact ⟨step.sound sound, step.originated sound.linked originated, step.lockedUpTo still.lockedUpTo,
      still.same.trans (step.sameUpTo originated still.lockedUpTo)⟩

/-- No write off of the ledger is approved with an effective day up to the locked one. -/
def ApprovesLater (ledgerId : LedgerId) (last : Date) (db : Db) : WriteOffCall → Prop
  | .decide writeOffId .approve _ _ _ => ∀ row ∈ db.writeOffs[writeOffId]?,
      ∀ item ∈ db.books.openItems[row.openItemId]?, item.ledgerId = ledgerId → last < row.effectiveOn
  | _ => True

theorem StillLocked.step (db : Db) (call : WriteOffCall) (next : Db)
    (holds : InOrder db ∧ StillLocked ledgerId last locked db.books) (later : ApprovesLater ledgerId last db call)
    (accepted : writeOffStep db call = .ok next) : InOrder next ∧ StillLocked ledgerId last locked next.books := by
  obtain ⟨inOrder, still⟩ := holds
  refine ⟨InOrder.step db call next inOrder accepted, ?_⟩
  cases writeOffStep_effect inOrder.sound accepted with
  | services call steps => exact still.services inOrder.sound inOrder.originated steps
  | flag writeOffId note userId gateOpen row item found proposed foundItem after =>
    rw [after]
    have open' : item.writtenOff = false :=
      inOrder.proposals.unflagged row (mem_of_getElem? found) proposed item foundItem
    exact ⟨still.lockedUpTo, still.same.trans (flag_sameUpTo foundItem open' (later row found item foundItem))⟩

theorem Books.Fresh.inOrder (fresh : db.books.Fresh) (noWriteOffs : db.writeOffs = []) : InOrder db :=
  ⟨fresh.sound, fresh.originated, by simp [noWriteOffs], by simp [noWriteOffs]⟩

/-- Once the ledger is locked, no later request changes a report up to the locked day, as long as no
write off of the ledger is approved with an effective day up to it. -/
theorem locked_reports_stand (start : Db) (fresh : start.books.Fresh) (noWriteOffs : start.writeOffs = [])
    (before : List WriteOffCall) (ledgerId : LedgerId) (last : Date) (drafts : ℕ) (locked : Books)
    (accepted : lockPeriod (run writeOffStep start before).books ledgerId last = .ok (drafts, locked))
    (after : List WriteOffCall)
    (later : Guarded writeOffStep (ApprovesLater ledgerId last)
      { run writeOffStep start before with books := locked } after) :
    SameReports ledgerId last locked
      (run writeOffStep { run writeOffStep start before with books := locked } after).books := by
  have inOrder := run_invariant InOrder.step before (fresh.inOrder noWriteOffs)
  obtain ⟨ledger, found, forward, isLocked⟩ := lockPeriod_ok accepted
  have step : LedgerStep (run writeOffStep start before).books locked :=
    isLocked ▸ .lock ledgerId ledger last found forward
  have soundLocked := step.sound inOrder.sound
  have originatedLocked := step.originated inOrder.sound.linked inOrder.originated
  have lockedUpTo : LockedUpTo ledgerId last locked := by
    rw [isLocked]
    exact ⟨_, last, (found_set found).mpr (Or.inl ⟨rfl, rfl⟩), rfl, le_rfl⟩
  have proposals : ProposalsOpen { run writeOffStep start before with books := locked } := by
    rw [isLocked]
    exact ⟨inOrder.proposals.unflagged, inOrder.proposals.single⟩
  obtain ⟨ends, still⟩ := later.invariant StillLocked.step after
    ⟨⟨soundLocked, originatedLocked, proposals⟩, lockedUpTo, .refl locked⟩
  exact still.same.reports soundLocked originatedLocked ends.sound ends.originated

def sampleOffice : Db := { sampleDb with settings := { writeOffApprovalEnabled := true } }

def proposeSample (effectiveOn : Date) : List WriteOffCall :=
  [.journal (sampleReceivable (.ofYmd 2026 1 1) 100), .journal (.postEntry 0 0 7),
   .propose 0 effectiveOn "Mieter insolvent" none (some 8) (.ofYmd 2026 4 10)]

def approveSample : List WriteOffCall := [.decide 0 .approve none 7 true]

def lockSample (effectiveOn : Date) : Result (ℕ × Books) :=
  lockPeriod (run writeOffStep sampleOffice (proposeSample effectiveOn)).books 0 (.ofYmd 2026 3 31)

/-- Approved with effect from 5 April, the write off leaves the reports of March as they are. -/
theorem sample_reports_stand : ∃ drafts locked, lockSample (.ofYmd 2026 4 5) = .ok (drafts, locked) ∧
    SameReports 0 (.ofYmd 2026 3 31) locked (run writeOffStep
      { run writeOffStep sampleOffice (proposeSample (.ofYmd 2026 4 5)) with books := locked }
      approveSample).books := by
  have accepted := accepted_of_isSome (show (answer? (lockSample (.ofYmd 2026 4 5))).isSome by decide +kernel)
  have later : ∀ row ∈ (run writeOffStep sampleOffice (proposeSample (.ofYmd 2026 4 5))).writeOffs[0]?,
      Date.ofYmd 2026 3 31 < row.effectiveOn := by decide +kernel
  exact ⟨_, _, accepted, locked_reports_stand sampleOffice sample_fresh rfl _ 0 _ _ _ accepted approveSample
    ⟨fun row found _ _ _ => later row found, trivial⟩⟩

private theorem lockSample_accepted : (answer? (lockSample (.ofYmd 2026 2 1))).isSome := by decide +kernel

/-- Approved with effect from 1 February, it takes the receivable out of the locked reconciliation. -/
theorem back_dated_write_off_changes_reports :
    ¬ ∀ (start : Db), start.books.Fresh → start.writeOffs = [] → ∀ (before : List WriteOffCall)
      (ledgerId : LedgerId) (last : Date) (drafts : ℕ) (locked : Books),
      lockPeriod (run writeOffStep start before).books ledgerId last = .ok (drafts, locked) →
      ∀ after : List WriteOffCall, SameReports ledgerId last locked
        (run writeOffStep { run writeOffStep start before with books := locked } after).books := by
  intro stands
  have reports := stands sampleOffice sample_fresh rfl (proposeSample (.ofYmd 2026 2 1)) 0 (.ofYmd 2026 3 31) _ _
    (accepted_of_isSome lockSample_accepted) approveSample
  have changed : ¬ subledgerReconciliation (run writeOffStep
      { run writeOffStep sampleOffice (proposeSample (.ofYmd 2026 2 1)) with
        books := ((answer? (lockSample (.ofYmd 2026 2 1))).get lockSample_accepted).2 } approveSample).books 0
        (some (.ofYmd 2026 3 31)) true =
      subledgerReconciliation ((answer? (lockSample (.ofYmd 2026 2 1))).get lockSample_accepted).2 0
        (some (.ofYmd 2026 3 31)) true := by
    decide +kernel
  exact changed (reports.subledger _ le_rfl true)

end Mhvp.Accounting
