import Mhvp.Lib.Transition
import Mhvp.Accounting.Reports
import Mhvp.Accounting.Settlements
import Mhvp.Accounting.Numbering
import Mhvp.Accounting.Routers

namespace Mhvp.Accounting

open Core Lib.Calendar Lib.Aggregate Lib.Table Lib.Transition

variable {books next : Books}

/-- The invariant of the ledger tables. -/
structure Books.Sound (books : Books) : Prop where
  linked : books.Linked
  gapless : Gapless books
  split : SettledSplit books
  notOversettled : NotOversettled books

theorem Books.Fresh.sound (fresh : books.Fresh) : books.Sound :=
  ⟨fresh.linked, fresh.gapless, fresh.split, fresh.notOversettled⟩

theorem LedgerStep.sound (step : LedgerStep books next) (sound : books.Sound) : next.Sound :=
  ⟨step.linked sound.linked, step.gapless sound.gapless, step.split sound.linked sound.split,
    step.notOversettled sound.linked sound.notOversettled⟩

theorem journalStep_sound (db : Db) (call : JournalCall) (next : Db) (sound : db.books.Sound)
    (accepted : journalStep db call = .ok next) : next.books.Sound := by
  rcases journalStep_step accepted sound.linked.draftOpen with same | step
  · rw [same]; exact sound
  · exact step.sound sound

theorem journal_sound (fresh : start.books.Fresh) (calls : List JournalCall) :
    (run journalStep start calls).books.Sound :=
  run_invariant journalStep_sound calls fresh.sound

/-- What readers of a journal rely on. -/
structure JournalIntegrity (books : Books) : Prop where
  balanced : ∀ (entryId : EntryId) (entry : JournalEntry), books.entries[entryId]? = some entry →
    entry.isPosted → Balanced (entry.lines.map JournalLine.toLineIn)
  gapless : Gapless books
  reversedOnce : ∀ (first second reversed : EntryId) (one other : JournalEntry),
    books.entries[first]? = some one → books.entries[second]? = some other →
    one.reversesId = some reversed → other.reversesId = some reversed → first = second

theorem Books.Sound.integrity (sound : books.Sound) : JournalIntegrity books where
  balanced := fun _ _ found _ => (sound.linked.sound found).balanced
  gapless := sound.gapless
  reversedOnce := by
    intro first second reversed one other foundOne foundOther reversesOne reversesOther
    obtain ⟨-, -, origin, foundOrigin, -, -, byFirst, -⟩ := sound.linked.reversal foundOne reversesOne
    obtain ⟨-, -, same, foundSame, -, -, bySecond, -⟩ := sound.linked.reversal foundOther reversesOther
    obtain rfl : origin = same := by simpa [foundOrigin] using foundSame
    simpa [byFirst] using bySecond

theorem post_again (found : db.books.entries[entryId]? = some entry)
    (posted : entry.isPosted) : commit journalStep db (.postEntry ledgerId entryId userId) = db := by
  rcases commit_cases journalStep db (.postEntry ledgerId entryId userId) with same | accepted
  · exact same
  · simp only [journalStep, bind_ok, pure_ok] at accepted
    obtain ⟨books, applied, after⟩ := accepted
    obtain ⟨row, foundRow, -, ⟨-, same⟩ | ⟨ledger, posting, rows, posts, -⟩⟩ := post_ok applied
    · rw [← after, same]
    · obtain rfl : entry = row := by simpa [found] using foundRow
      exact absurd posts.draft posted

/-- In every run the posted entries balance, their numbers are gapless and equal to the counter, an
entry is reversed at most once, and a repeated posting or a refused reversal changes nothing. -/
theorem journal_run_integrity (start : Db) (fresh : start.books.Fresh) (calls : List JournalCall) :
    JournalIntegrity (run journalStep start calls).books ∧
    (∀ (ledgerId : LedgerId) (entryId : EntryId) (userId : UserId) (entry : JournalEntry),
      (run journalStep start calls).books.entries[entryId]? = some entry → entry.isPosted →
      run journalStep start (calls ++ [.postEntry ledgerId entryId userId]) =
        run journalStep start calls) ∧
    (∀ (ledgerId : LedgerId) (entryId : EntryId) (userId : UserId) (reason : String)
        (bookingDate : Option Date) (reasonCode : ReversalReason) (today : Date) (problem : ProblemError),
      reverseEntry (run journalStep start calls) ledgerId entryId userId reason bookingDate reasonCode
          today = .error problem →
      run journalStep start
          (calls ++ [.reverseEntry ledgerId entryId userId reason bookingDate reasonCode today]) =
        run journalStep start calls) := by
  refine ⟨(journal_sound fresh calls).integrity, ?_, ?_⟩
  · intro ledgerId entryId userId entry found posted
    rw [run_append]
    exact post_again found posted
  · intro ledgerId entryId userId reason bookingDate reasonCode today problem refused
    rw [run_append]
    have rolledBack : journalStep (run journalStep start calls) (.reverseEntry ledgerId entryId userId
        reason bookingDate reasonCode today) = .error problem := by
      simp only [journalStep, refused]
      rfl
    exact commit_refused rolledBack

def sampleBooks : Books where
  ledgers := [{}]
  accounts :=
    [{ ledgerId := 0, number := "100000", category := .debtor },
     { ledgerId := 0, number := "400000", category := .revenue },
     { ledgerId := 0, number := "120000", category := .bank }]

def sampleDb : Db := { books := sampleBooks }

theorem sample_fresh : sampleDb.books.Fresh := ⟨rfl, rfl, rfl, rfl⟩

/-- Two lines: the first account is debited, the second credited. -/
def sampleLines (debited credited : AccountId) (amount : Decimal) : List LineIn :=
  [{ accountId := debited, debit := amount, credit := 0 },
   { accountId := credited, debit := 0, credit := amount }]

def sampleReceivable (day : Date) (amount : Decimal) : JournalCall :=
  .writeDraft 0 none { bookingDate := day, text := "Sollstellung", kind := .receivable, notReversal := by decide }
    (sampleLines 0 1 amount) []

def samplePayment (day : Date) (amount : Decimal) (plan : List PlanIn) : JournalCall :=
  .writeDraft 0 none { bookingDate := day, text := "Zahlung", kind := .debtorPayment, notReversal := by decide }
    (sampleLines 2 0 amount) plan

def sampleReversal (entryId : EntryId) (day : Date) : JournalCall :=
  .reverseEntry 0 entryId 7 "falsch zugeordnet" (some day) .other day

/-- A receivable of 100.00, paid in full; the payment is reversed. -/
def sampleCalls : List JournalCall :=
  [sampleReceivable (.ofYmd 2026 1 1) 100, .postEntry 0 0 7,
   samplePayment (.ofYmd 2026 3 1) 100 [⟨0, 100⟩], .postEntry 0 1 7,
   sampleReversal 1 (.ofYmd 2026 6 1)]

theorem sample_run_integrity :
    postedNumbers (run journalStep sampleDb sampleCalls).books 0 2026 = [1, 2, 3] ∧
    JournalIntegrity (run journalStep sampleDb sampleCalls).books :=
  ⟨by decide +kernel, (journal_run_integrity sampleDb sample_fresh sampleCalls).1⟩

/-- The settlements of an item up to any cut-off day stay between zero and its amount. -/
def BoundedOnEveryDay (books : Books) : Prop :=
  ∀ (itemId : OpenItemId) (item : OpenItem), books.openItems[itemId]? = some item → ∀ asOf,
    0 ≤ settled books itemId asOf ∧ settled books itemId asOf ≤ item.amount

/-- From the booking date on, every day has room for what the draft settles. -/
def PostingFits (books : Books) (entry : JournalEntry) : Prop :=
  ∀ planned ∈ entry.settlementPlan, ∀ item ∈ books.openItems[planned.openItemId]?, ∀ asOf,
    Within asOf entry.bookingDate →
      settled books planned.openItemId asOf + plannedFor planned.openItemId entry.settlementPlan ≤ item.amount

/-- From the reversal date on, no item of the entry is settled on any day. -/
def ReversalFits (books : Books) (entryId : EntryId) (bookingDate : Date) : Prop :=
  ∀ found ∈ itemsOf books entryId, ∀ asOf, Within asOf bookingDate → settled books found.2 asOf = 0

/-- The request leaves room on every past day. -/
def FitsOnEveryDay (db : Db) : JournalCall → Prop
  | .postEntry _ entryId _ => ∀ entry ∈ db.books.entries[entryId]?, entry.status = .draft →
      PostingFits db.books entry
  | .reverseEntry ledgerId entryId _ _ bookingDate _ today => ∀ ledger ∈ db.books.ledgers[ledgerId]?,
      ReversalFits db.books entryId (bookingDate.getD (defaultReversalDate ledger today))
  | _ => True

theorem postingFits_of_unsettled (noSettlements : books.settlements = [])
    (room : ∀ planned ∈ entry.settlementPlan, ∀ item ∈ books.openItems[planned.openItemId]?,
      plannedFor planned.openItemId entry.settlementPlan ≤ item.amount) : PostingFits books entry := by
  intro planned member item found asOf within
  rw [settled, noSettlements, sumWhere_nil, zero_add]
  exact room planned member item found

theorem neverOversettled_posted (linked : books.Linked) (bounded : NeverOversettled books)
    (posts : Posts books entryId entry ledger posting rows) (fits : PostingFits books entry) :
    NeverOversettled (books.posted entryId entry posting rows) := by
  intro itemId item found asOf
  rw [settled_posted posts]
  rcases found_append_cases found with old | ⟨beyond, -⟩
  · by_cases within : Within asOf entry.bookingDate
    · rw [if_pos within]
      by_cases planned : ∃ row ∈ rows, row.openItemId = itemId
      · obtain ⟨row, member, rfl⟩ := planned
        rw [settledIn_eq_plannedFor posts.planned]
        have inPlan : row.planned ∈ entry.settlementPlan := posts.planned ▸ List.mem_map_of_mem member
        exact fits row.planned inPlan item old asOf within
      · rw [settledIn_eq_zero fun row member same => planned ⟨row, member, same⟩, add_zero]
        exact bounded itemId item old asOf
    · rw [if_neg within, add_zero]
      exact bounded itemId item old asOf
  · have whole := (LedgerStep.post entryId entry ledger posting rows posts).notOversettled linked
      (fun itemId item found => bounded itemId item found none) itemId item found
    rw [settled_posted posts, settled_created linked beyond, if_pos within_none, zero_add] at whole
    rw [settled_created linked beyond, zero_add]
    split
    · exact whole
    · exact item.amountPositive.le

theorem neverOversettled_reversed (linked : books.Linked) (bounded : NeverOversettled books)
    (reverses : Reverses books entryId entry ledger bookingDate reversal posting)
    (fits : ReversalFits books entryId bookingDate) :
    NeverOversettled (books.reversed entryId entry bookingDate reversal posting) := by
  intro itemId item found asOf
  change books.openItems[itemId]? = some item at found
  have nonneg : 0 ≤ settledBy books entryId itemId :=
    settledBy_nonneg linked reverses.found reverses.notReversal
  have before := bounded itemId item found asOf
  rw [settled_reversed found]
  by_cases within : Within asOf bookingDate
  · rw [if_pos within]
    by_cases own : item.journalEntryId = entryId
    · have member : (item, itemId) ∈ itemsOf books entryId :=
        List.mem_filter.mpr ⟨List.mem_zipIdx_iff_getElem?.mpr found, by simpa using own⟩
      rw [if_pos own, fits _ member asOf within]
      linarith
    · rw [if_neg own]
      linarith
  · rw [if_neg within]
    linarith

theorem journalStep_neverOversettled (db : Db) (call : JournalCall) (next : Db)
    (holds : db.books.Sound ∧ NeverOversettled db.books) (fits : FitsOnEveryDay db call)
    (accepted : journalStep db call = .ok next) : next.books.Sound ∧ NeverOversettled next.books := by
  obtain ⟨sound, bounded⟩ := holds
  refine ⟨journalStep_sound db call next sound accepted, ?_⟩
  cases journalStep_effect accepted sound.linked.draftOpen with
  | none call same => rw [same]; exact bounded
  | quiet call step =>
    intro itemId item found asOf
    rw [settled, step.settlements]
    exact bounded itemId item (step.openItems ▸ found) asOf
  | post ledgerId entryId userId entry ledger posting rows posts after =>
    rw [after]
    exact neverOversettled_posted sound.linked bounded posts (fits entry posts.found posts.draft)
  | reverse ledgerId entryId userId reason given reasonCode today entry ledger reversal posting found
      reverses after =>
      rw [after]
      exact neverOversettled_reversed sound.linked bounded reverses (fits ledger found)

theorem Books.Fresh.neverOversettled (fresh : books.Fresh) : NeverOversettled books := by
  intro itemId item found
  simp [fresh.openItems] at found

/-- The open items report lists no item with more left than its amount, or less than nothing. -/
theorem openItems_within (bounded : BoundedOnEveryDay books)
    (member : row ∈ openItems books ledgerId asOf accountId) :
    0 < row.remaining ∧ row.remaining ≤ row.amount := by
  have listed := (List.mem_insertionSort _).mp member
  obtain ⟨⟨item, itemId⟩, present, isRow⟩ := List.mem_filterMap.mp listed
  have found := List.mem_zipIdx_iff_getElem?.mp present
  obtain ⟨nonneg, within⟩ := bounded itemId item found (some asOf)
  simp only [openItemRow, Option.bind_eq_bind, Option.bind_eq_some_iff] at isRow
  obtain ⟨account, -, isRow⟩ := isRow
  split at isRow
  · rename_i selected
    cases isRow
    have open' : item.amount - settled books itemId (some asOf) ≠ 0 := selected.2.2.2
    have left : 0 ≤ item.amount - settled books itemId (some asOf) := sub_nonneg.mpr within
    exact ⟨lt_of_le_of_ne left open'.symm, sub_le_self _ nonneg⟩
  · cases isRow

/-- In a run whose requests all leave room on every day, no item is settled below zero or beyond its
amount on any cut-off day, and no open items report shows it so. The lower bound needs no condition. -/
theorem journal_run_bounded_on_every_day (start : Db) (fresh : start.books.Fresh) (calls : List JournalCall) :
    (∀ (itemId : OpenItemId) (item : OpenItem),
      (run journalStep start calls).books.openItems[itemId]? = some item → ∀ asOf,
      0 ≤ settled (run journalStep start calls).books itemId asOf) ∧
    (Guarded journalStep FitsOnEveryDay start calls →
      BoundedOnEveryDay (run journalStep start calls).books ∧
      ∀ ledgerId asOf accountId, ∀ row ∈ openItems (run journalStep start calls).books ledgerId asOf accountId,
        0 < row.remaining ∧ row.remaining ≤ row.amount) := by
  have sound := journal_sound fresh calls
  have nonneg : ∀ (itemId : OpenItemId) (item : OpenItem),
      (run journalStep start calls).books.openItems[itemId]? = some item → ∀ asOf,
      0 ≤ settled (run journalStep start calls).books itemId asOf :=
    fun itemId item found asOf => settled_nonneg sound.linked sound.split found
  refine ⟨nonneg, fun guarded => ?_⟩
  have bounded := (guarded.invariant journalStep_neverOversettled calls
    ⟨fresh.sound, fresh.neverOversettled⟩).2
  have onEveryDay : BoundedOnEveryDay (run journalStep start calls).books :=
    fun itemId item found asOf => ⟨nonneg itemId item found asOf, bounded itemId item found asOf⟩
  exact ⟨onEveryDay, fun _ _ _ _ member => openItems_within onEveryDay member⟩

theorem sample_fits : Guarded journalStep FitsOnEveryDay sampleDb sampleCalls := by
  refine ⟨trivial, ?_, trivial, ?_, ?_, trivial⟩
  · intro entry found draft
    refine postingFits_of_unsettled (by decide +kernel) ?_
    revert entry
    decide +kernel
  · intro entry found draft
    refine postingFits_of_unsettled (by decide +kernel) ?_
    revert entry
    decide +kernel
  · intro ledger found item member
    have none : itemsOf (run journalStep sampleDb (sampleCalls.take 4)).books 1 = [] := by decide +kernel
    have absent : item ∈ itemsOf (run journalStep sampleDb (sampleCalls.take 4)).books 1 := member
    rw [none] at absent
    cases absent

theorem sample_run_bounded : BoundedOnEveryDay (run journalStep sampleDb sampleCalls).books :=
  ((journal_run_bounded_on_every_day sampleDb sample_fresh sampleCalls).2 sample_fits).1

/-- The sample run, then a second payment dated before the reversal of the first. -/
def backDatedCalls : List JournalCall :=
  sampleCalls ++ [samplePayment (.ofYmd 2026 4 1) 100 [⟨0, 100⟩], .postEntry 0 3 7]

/-- On 1 April both payments count: the item of 100.00 is settled with 200.00. -/
theorem back_dated_oversettles :
    ¬ ∀ (start : Db) (calls : List JournalCall), start.books.Fresh →
      BoundedOnEveryDay (run journalStep start calls).books := by
  intro bounded
  have inRange : 0 < (run journalStep sampleDb backDatedCalls).books.openItems.length := by decide +kernel
  have within := (bounded sampleDb backDatedCalls sample_fresh 0 _ (List.getElem?_eq_getElem inRange)
    (some (.ofYmd 2026 4 1))).2
  have beyond : ∀ item ∈ (run journalStep sampleDb backDatedCalls).books.openItems[0]?,
      ¬ settled (run journalStep sampleDb backDatedCalls).books 0 (some (.ofYmd 2026 4 1)) ≤ item.amount := by
    decide +kernel
  exact beyond _ (List.getElem?_eq_getElem inRange) within

end Mhvp.Accounting
