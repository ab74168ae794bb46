import Mhvp.Accounting.CleanBooks
import Mhvp.Accounting.CreditPayables

namespace Mhvp.Accounting

open Core Lib.Aggregate Lib.Calendar Lib.Table Lib.Transition List

variable {books next : Books}

private theorem old_whole (linked : books.Linked) (originated : books.Originated)
    (whole : books.WholeCredits) (step : LedgerStep books next) (member : item ∈ books.openItems)
    (kind : item.kind = .payable)
    (found : next.entries[item.journalEntryId]? = some entry) :
    item.amount = creditOn item.accountId entry.lines - debitOn item.accountId entry.lines := by
  obtain ⟨author, foundAuthor, posted, -⟩ := linked.item member
  obtain ⟨kept, foundKept, same⟩ := step.posted_immutable foundAuthor posted
  obtain rfl : kept = entry := Option.mem_unique foundKept found
  have lines : kept.lines = author.lines := by rw [same.1]
  obtain ⟨origin, foundOrigin, ofItem⟩ := originated.origin member
  obtain rfl : author = origin := Option.mem_unique foundAuthor foundOrigin
  rw [lines]
  rcases ofItem.payable kind with ⟨creditor, amount⟩ | ⟨debtorBefore, -⟩
  · exact amount
  · exact whole item member kind debtorBefore author foundAuthor

theorem LedgerStep.wholeCredits (step : LedgerStep books next) (linked : books.Linked)
    (originated : books.Originated) (whole : books.WholeCredits) : next.WholeCredits := by
  intro item member kind debtor entry found
  have fromOld := fun old => old_whole linked originated whole step old kind found
  cases step with
  | post entryId draft ledger posting rows posts =>
    rcases mem_append.mp member with old | created
    · exact fromOld old
    · obtain ⟨-, -, -, -, ⟨receivable, -⟩ | ⟨-, -, amount⟩⟩ := openItem_of_createdItems created
      · rw [kind] at receivable
        cases receivable
      · have isDraft : entry = draft.withPosting posting := by
          rw [(openItem_of_createdItems created).1] at found
          exact (Option.some.inj (((found_set posts.found).mpr (Or.inl ⟨rfl, rfl⟩)).symm.trans found)).symm
        rw [isDraft]
        exact amount
  | master next edits => exact fromOld (edits.openItems ▸ member)
  | draft | redraft | reverse | lock => exact fromOld member

theorem flag_whole (whole : books.WholeCredits) (found : books.openItems[itemId]? = some item) :
    (WriteOffs.flagItem books itemId item effectiveOn).WholeCredits := by
  intro row member
  rcases mem_or_eq_of_mem_set member with old | rfl
  · exact whole row old
  · exact whole item (mem_of_getElem? found)

theorem QuietStep.covered (quiet : QuietStep books next) (originated : books.Originated)
    (covered : books.Covered) : next.Covered := by
  intro ledgerId accountId category known personal
  apply quiet.sameSubledger.covers
  cases before : categoryOf books accountId with
  | none => exact covers_unknown originated before
  | some category =>
    obtain rfl := Option.some.inj ((quiet.step.category_same before).symm.trans known)
    exact covered ledgerId accountId _ before personal

section

variable (linked : books.Linked) (originated : books.Originated) (covered : books.Covered)
include linked originated covered

theorem posted_covered (posts : Posts books entryId entry ledger posting rows) (within : PostingCovered books entry) :
    (books.posted entryId entry posting rows).Covered :=
  fun ledgerId accountId _ known personal =>
    posted_covers linked originated posts known personal (covered ledgerId accountId _ known personal) within

theorem reversed_covered (reverses : Reverses books entryId entry ledger bookingDate reversal posting)
    (within : ReversalCovered books entryId) :
    (books.reversed entryId entry bookingDate reversal posting).Covered :=
  fun ledgerId accountId _ known personal =>
    reversed_covers linked originated reverses known personal (covered ledgerId accountId _ known personal)
      within

end

/-- The released credit is taken as a whole, and the debtor account has postings left to raise it. -/
structure ReleaseCovered (books : Books) (row : CreditPayable) (candidate : Candidate) : Prop where
  whole : candidate.amount = row.amount
  room : ∀ accountId ∈ candidate.debtorAccountId, itemsAmount books row.ledgerId accountId + row.amount ≤
    debitOn accountId (ledgerLines books row.ledgerId none)

/-- Postings on the account that leave room for the item are of the ledger of the account. -/
theorem sameLedger_of_room (linked : books.Linked) (credits : Credits books item entry)
    (room : itemsAmount books item.ledgerId item.accountId + item.amount ≤
      debitOn item.accountId (ledgerLines books item.ledgerId none)) : entry.ledgerId = item.ledgerId := by
  by_contra differs
  obtain ⟨line, inEntry, onAccount⟩ := credits.onLine
  obtain ⟨account, foundAccount, ofEntry⟩ := (linked.sound credits.found).accounts line inEntry
  rw [onAccount] at foundAccount
  have noPosting : debitOn item.accountId (ledgerLines books item.ledgerId none) = 0 := by
    apply sumWhere_eq_zero
    intro posted member samePlace
    obtain ⟨other, isCounted, present⟩ := mem_flatMap.mp member
    obtain ⟨inBooks, counted⟩ := mem_filter.mp isCounted
    obtain ⟨id, found⟩ := mem_iff_getElem?.mp inBooks
    obtain ⟨same, foundSame, ofOther⟩ := (linked.sound found).accounts posted present
    rw [samePlace, foundAccount] at foundSame
    cases foundSame
    exact absurd ((ofEntry.symm.trans ofOther).trans (of_decide_eq_true counted).1) differs
  have nonneg : 0 ≤ itemsAmount books item.ledgerId item.accountId :=
    sumWhere_nonneg fun other _ _ => other.amountPositive.le
  have positive := item.amountPositive
  rw [noPosting] at room
  linarith

/-- The ledger tables between two requests when every request left the accounts covered. -/
structure Books.Clean (books : Books) : Prop where
  sound : books.Sound
  originated : books.Originated
  whole : books.WholeCredits
  covered : books.Covered

theorem Books.Fresh.clean (fresh : books.Fresh) : books.Clean where
  sound := fresh.sound
  originated := fresh.originated
  whole := by simp [Books.WholeCredits, fresh.openItems]
  covered := by
    intro ledgerId accountId category known personal
    constructor
    · simp [itemsAmount, fresh.openItems, Side.on_nonneg]
    · simp [itemsSettled, fresh.settlements, Side.on_nonneg]

private theorem LedgerStep.clean (step : LedgerStep books next) (clean : books.Clean) (covered : next.Covered) :
    next.Clean where
  sound := step.sound clean.sound
  originated := step.originated clean.sound.linked clean.originated
  whole := step.wholeCredits clean.sound.linked clean.originated clean.whole
  covered := covered

theorem QuietStep.clean (quiet : QuietStep books next) (clean : books.Clean) : next.Clean :=
  quiet.step.clean clean (quiet.covered clean.originated clean.covered)

section

variable (clean : books.Clean)
include clean

theorem Books.Clean.post (posts : Posts books entryId entry ledger posting rows)
    (within : PostingCovered books entry) : (books.posted entryId entry posting rows).Clean := by
  apply LedgerStep.clean (.post entryId entry ledger posting rows posts) clean
  exact posted_covered clean.sound.linked clean.originated clean.covered posts within

theorem Books.Clean.reverse (reverses : Reverses books entryId entry ledger bookingDate reversal posting)
    (within : ReversalCovered books entryId) :
    (books.reversed entryId entry bookingDate reversal posting).Clean := by
  apply LedgerStep.clean (.reverse entryId entry ledger bookingDate reversal posting reverses) clean
  exact reversed_covered clean.sound.linked clean.originated clean.covered reverses within

theorem Books.Clean.flag (found : books.openItems[itemId]? = some item) :
    (WriteOffs.flagItem books itemId item effectiveOn).Clean where
  sound := (BookStep.flag itemId item effectiveOn found).sound clean.sound
  originated := flag_originated clean.originated found
  whole := flag_whole clean.whole found
  covered := fun ledgerId accountId category known personal =>
    (flag_sameSubledger found).covers (clean.covered ledgerId accountId category known personal)

theorem Books.Clean.credit (credits : Credits books item entry)
    (amount : item.amount = creditOn item.accountId entry.lines - debitOn item.accountId entry.lines)
    (room : itemsAmount books item.ledgerId item.accountId + item.amount ≤
      debitOn item.accountId (ledgerLines books item.ledgerId none)) :
    ({ books with openItems := books.openItems ++ [item] } : Books).Clean := by
  constructor
  · exact (BookStep.credit item entry credits).sound clean.sound
  · exact credit_originated clean.sound.linked clean.originated credits
      (sameLedger_of_room clean.sound.linked credits room)
  · intro row member kind debtor author found
    rcases mem_append.mp member with old | added
    · exact clean.whole row old kind debtor author found
    · obtain rfl := mem_singleton.mp added
      obtain rfl : entry = author := Option.mem_unique credits.found found
      exact amount
  · intro ledgerId accountId category known personal
    apply credit_covers clean.sound.linked (clean.covered ledgerId accountId category known personal)
    rintro ⟨rfl, rfl⟩
    have isDebtor : category = .debtor := Option.mem_unique known credits.debtor
    rw [isDebtor]
    exact room

end

/-- The request leaves every debtor and creditor account covered. Only a payable on a debtor account can
break that: its release needs debits, its settlement and the reversal of its entry need credits. -/
def LeavesCovered (db : Db) : BookCall → Prop
  | .writeOff (.journal (.postEntry _ entryId _)) => ∀ entry ∈ db.books.entries[entryId]?,
      entry.status = .draft → PostingCovered db.books entry
  | .writeOff (.journal (.reverseEntry _ entryId _ _ _ _ _)) => ReversalCovered db.books entryId
  | .writeOff (.reversePosting writeOffId _ _ _ _ _) =>
    ∀ found ∈ WriteOffs.postingEntry db.books writeOffId, ReversalCovered db.books found.2
  | .releaseCredit rowId _ _ _ => ∀ row ∈ db.creditPayables[rowId]?, row.variant = .subledger →
      ∀ candidate ∈ answer? (CreditPayables.findCandidate db row.sourceType row.sourceId row.contractId),
        ReleaseCovered db.books row candidate
  | _ => True

theorem BookStep.item_kind {itemId : OpenItemId} {item : OpenItem} (step : BookStep books next)
    (found : books.openItems[itemId]? = some item) :
    ∃ kept, next.openItems[itemId]? = some kept ∧ kept.kind = item.kind := by
  cases step with
  | ledger next step => exact ⟨item, step.item_same found, rfl⟩
  | flag place flagged effectiveOn foundFlagged =>
    by_cases same : itemId = place
    · subst same
      obtain rfl : item = flagged := Option.mem_unique found foundFlagged
      exact ⟨_, (found_set foundFlagged).mpr (Or.inl ⟨rfl, rfl⟩), rfl⟩
    · exact ⟨item, (found_set foundFlagged).mpr (Or.inr ⟨same, found⟩), rfl⟩
  | credit added entry credits => exact ⟨item, found_append found, rfl⟩

theorem BookSteps.item_kind {itemId : OpenItemId} {item : OpenItem} (steps : BookSteps books next)
    (found : books.openItems[itemId]? = some item) :
    ∃ kept, next.openItems[itemId]? = some kept ∧ kept.kind = item.kind := by
  induction steps with
  | refl => exact ⟨item, found, rfl⟩
  | tail _ step ih =>
    obtain ⟨mid, foundMid, sameMid⟩ := ih
    obtain ⟨kept, foundKept, sameKept⟩ := step.item_kind foundMid
    exact ⟨kept, foundKept, sameKept.trans sameMid⟩

/-- The item is there and is a receivable. -/
def IsReceivable (books : Books) (itemId : OpenItemId) : Prop :=
  ∃ item, books.openItems[itemId]? = some item ∧ item.kind = .receivable

/-- Write offs are of receivables. -/
def WritesOffReceivables (db : Db) : Prop := ∀ row ∈ db.writeOffs, IsReceivable db.books row.openItemId

theorem IsReceivable.kept {itemId : OpenItemId} (receivable : IsReceivable books itemId)
    (steps : BookSteps books next) : IsReceivable next itemId := by
  obtain ⟨item, found, kind⟩ := receivable
  obtain ⟨kept, foundKept, same⟩ := steps.item_kind found
  exact ⟨kept, foundKept, same.trans kind⟩

private theorem bookStep_writeOffs {db next : Db} (accepted : bookStep db call = .ok next)
    (receivables : WritesOffReceivables db) (rent : CreditPayables.SubledgerRent db) :
    ∀ row ∈ next.writeOffs, IsReceivable db.books row.openItemId := by
  cases call with
  | writeOff call =>
    cases call with
    | journal call =>
      have same : next.writeOffs = db.writeOffs := by rw [journalStep_frame accepted]
      rw [same]
      exact receivables
    | propose openItemId effectiveOn reason documentId userId today =>
      obtain ⟨row, read, rfl⟩ := WriteOffs.propose_ok accepted
      obtain ⟨sameItem, -, item, found, -, kind, -⟩ := WriteOffs.readProposal_ok read
      intro other member
      rcases mem_append.mp member with old | added
      · exact receivables other old
      · obtain rfl := mem_singleton.mp added
        rw [sameItem]
        exact ⟨item, found, kind⟩
    | decide writeOffId decision note userId gateOpen =>
      obtain ⟨row, found, -, decided⟩ := WriteOffs.decide_ok accepted
      have ofRow : IsReceivable db.books row.openItemId := receivables row (mem_of_getElem? found)
      intro other member
      rcases decided with ⟨-, rfl⟩ | ⟨-, item, -, rfl⟩
      · rcases mem_or_eq_of_mem_set member with old | rfl
        · exact receivables other old
        · exact ofRow
      · rcases mem_or_eq_of_mem_set member with old | rfl
        · exact receivables other old
        · exact ofRow
    | post writeOffId amount counterId userId gateOpen =>
      simp only [bookStep, writeOffStep, bind_ok, pure_ok] at accepted
      obtain ⟨⟨entryId, result⟩, posted, rfl⟩ := accepted
      rcases WriteOffs.postWriteOff_ok posted with rfl | ⟨row, item, entry, drafted, ledger, posting, rows, place,
        -, -, -, -, -, -, -, -, -, -, -, rfl⟩
      · exact receivables
      · exact receivables
    | reversePosting writeOffId reason bookingDate userId gateOpen today =>
      rcases WriteOffs.reverseWriteOffPosting_ok accepted with rfl | ⟨entryId, entry, ledger, reversal,
        posting, orders, -, -, rfl⟩
      · exact receivables
      · exact receivables
    | putSettings settings =>
      obtain rfl := pure_ok.mp accepted
      exact receivables
  | proposeCredit sourceType sourceId contractId amount userId =>
    obtain ⟨-, -, -, rfl⟩ := CreditPayables.propose_ok accepted
    exact receivables
  | releaseCredit rowId userId gateOpen bookingDate =>
    obtain ⟨row, -, -, -, -, -, ⟨-, -, -, -, -, -, rfl⟩ | ⟨-, -, -, rfl⟩⟩ :=
      CreditPayables.release_ok rent accepted
    · exact receivables
    · exact receivables
  | putCreditSetting | setStatement | setReceivableItems =>
    obtain rfl := pure_ok.mp accepted
    exact receivables

/-- The state between two requests when every request left the accounts covered. -/
structure CleanState (db : Db) : Prop where
  books : db.books.Clean
  rent : CreditPayables.SubledgerRent db
  writeOffs : WritesOffReceivables db

theorem FreshOffice.cleanState (fresh : FreshOffice db) : CleanState db where
  books := fresh.books.clean
  rent := fresh.bookState.rent
  writeOffs := by simp [WritesOffReceivables, fresh.writeOffs]

private theorem writeOff_covered (receivable : IsReceivable books itemId)
    (plan : entry.settlementPlan = [{ openItemId := itemId, amount }]) : PostingCovered books entry := by
  rintro accountId - ⟨planned, inPlan, item, found, -, other⟩
  rw [plan] at inPlan
  obtain rfl := mem_singleton.mp inPlan
  obtain ⟨same, foundSame, kind⟩ := receivable
  obtain rfl : item = same := Option.mem_unique found foundSame
  exact absurd kind other

private theorem writeOffStep_clean {db next : Db} (clean : db.books.Clean) (receivables : WritesOffReceivables db)
    (covered : LeavesCovered db (.writeOff call)) (accepted : writeOffStep db call = .ok next) :
    next.books.Clean := by
  cases call with
  | journal call =>
    cases journalStep_effect accepted clean.sound.linked.draftOpen with
    | none call same => rw [same]; exact clean
    | quiet call step => exact step.clean clean
    | post ledgerId entryId userId entry ledger posting rows posts after =>
      rw [after]
      exact clean.post posts (covered entry posts.found posts.draft)
    | reverse ledgerId entryId userId reason given reasonCode today entry ledger reversal posting found
        reverses after =>
        rw [after]
        exact clean.reverse reverses covered
  | propose openItemId effectiveOn reason documentId userId today =>
    obtain ⟨-, -, rfl⟩ := WriteOffs.propose_ok accepted
    exact clean
  | decide writeOffId decision note userId gateOpen =>
    obtain ⟨row, -, -, ⟨-, rfl⟩ | ⟨-, item, found, rfl⟩⟩ := WriteOffs.decide_ok accepted
    · exact clean
    · exact clean.flag found
  | post writeOffId amount counterId userId gateOpen =>
    simp only [writeOffStep, bind_ok, pure_ok] at accepted
    obtain ⟨⟨entryId, result⟩, posted, rfl⟩ := accepted
    rcases WriteOffs.postWriteOff_ok posted with rfl | ⟨row, item, entry, drafted, ledger, posting, rows, place, found,
      -, -, -, -, -, plan, quiet, -, -, posts, rfl⟩
    · exact clean
    · have receivable : IsReceivable drafted row.openItemId :=
        (receivables row (mem_of_getElem? found)).kept (.single (.ledger _ quiet.step))
      exact (quiet.clean clean).post posts (writeOff_covered receivable plan)
  | reversePosting writeOffId reason bookingDate userId gateOpen today =>
    rcases WriteOffs.reverseWriteOffPosting_ok accepted with rfl | ⟨entryId, entry, ledger, reversal, posting,
      orders, isPosting, reverses, rfl⟩
    · exact clean
    · obtain ⟨found, named, rfl⟩ := Option.map_eq_some_iff.mp isPosting
      exact clean.reverse reverses (covered found named)
  | putSettings settings =>
    obtain rfl := pure_ok.mp accepted
    exact clean

theorem bookStep_clean (db : Db) (call : BookCall) (next : Db) (holds : CleanState db)
    (covered : LeavesCovered db call) (accepted : bookStep db call = .ok next) : CleanState next := by
  have steps := bookStep_steps holds.books.sound holds.rent accepted
  constructor
  · cases call with
    | writeOff call => exact writeOffStep_clean holds.books holds.writeOffs covered accepted
    | proposeCredit sourceType sourceId contractId amount userId =>
      obtain ⟨-, -, -, rfl⟩ := CreditPayables.propose_ok accepted
      exact holds.books
    | releaseCredit rowId userId gateOpen bookingDate =>
      obtain ⟨row, candidate, -, found, isCandidate, -,
        ⟨subledger, entryId, entry, accountId, credit, credits, rfl⟩ | ⟨-, drafted, quiet, rfl⟩⟩ :=
        CreditPayables.release_ok holds.rent accepted
      · obtain ⟨whole, room⟩ := covered row found subledger candidate (answer?_eq_some.mpr isCandidate)
        apply holds.books.credit credits
        · exact whole.symm.trans credit.amount
        · exact room accountId credit.accountNamed
      · exact quiet.clean holds.books
    | putCreditSetting | setStatement | setReceivableItems =>
      obtain rfl := pure_ok.mp accepted
      exact holds.books
  · exact CreditPayables.bookStep_subledgerRent holds.rent accepted
  · exact fun row member => (bookStep_writeOffs accepted holds.writeOffs holds.rent row member).kept steps

/-- In a run whose requests all leave the accounts covered, the consistency checks have no findings: on
every debtor and creditor account the items stay within the postings that raise it and their settlements
within those that pay it. -/
theorem book_run_no_findings (start : Db) (fresh : FreshOffice start) (calls : List BookCall)
    (covered : Guarded bookStep LeavesCovered start calls) (ledgerId : LedgerId) :
    checks (run bookStep start calls).books ledgerId = [] ∧
    Checks.subledgerFindings (run bookStep start calls).books ledgerId = [] ∧
    (run bookStep start calls).books.Covered := by
  have clean := (covered.invariant bookStep_clean calls fresh.cleanState).books
  exact ⟨checks_none clean.sound clean.originated clean.whole clean.covered,
    Checks.subledgerFindings_none clean.covered, clean.covered⟩

def sampleStatement : Billing.Statement where
  periodFrom := .ofYmd 2025 1 1
  periodTo := .ofYmd 2025 12 31

def sampleCreditDb : Db := { books := sampleBooks, statements := [sampleStatement] }

theorem sample_credit_fresh : FreshOffice sampleCreditDb := ⟨sample_fresh, rfl, rfl⟩

def sampleCredit : DraftIn where
  bookingDate := .ofYmd 2026 3 1
  text := "Ergebnis"
  kind := .statementResult
  contractId := some 0
  idempotencyKey := some "rent-statement:0:0"
  notReversal := by decide

def samplePayout : DraftIn where
  bookingDate := .ofYmd 2026 3 15
  text := "Auszahlung"
  kind := .creditorPayment
  notReversal := by decide

/-- The credit is posted, listed by its statement and proposed as a payable. -/
def proposedCredit : List BookCall :=
  [.putCreditSetting { mode := .subledger },
   .writeOff (.journal (.writeDraft 0 none sampleCredit (sampleLines 1 0 30) [])),
   .writeOff (.journal (.postEntry 0 0 7)),
   .setStatement 0 { sampleStatement with status := .posted, resultEntryIds := [0] },
   .proposeCredit .rentStatement 0 (some 0) none (some 7)]

def releasedCredit : BookCall := .releaseCredit 0 (some 8) true (.ofYmd 2026 4 1)

/-- 30.00 are paid out to the debtor before the release. -/
def paidBeforeRelease : List BookCall :=
  proposedCredit ++ [.writeOff (.journal (.writeDraft 0 none samplePayout (sampleLines 0 2 30) [])),
    .writeOff (.journal (.postEntry 0 1 7)), releasedCredit]

private theorem postingCovered_of_noPlan (noPlan : entry.settlementPlan = []) : PostingCovered books entry := by
  rintro accountId - ⟨planned, inPlan, -⟩
  rw [noPlan] at inPlan
  cases inPlan

theorem sample_leaves_covered : Guarded bookStep LeavesCovered sampleCreditDb paidBeforeRelease := by
  refine ⟨trivial, trivial, ?_, trivial, trivial, trivial, ?_, ?_, trivial⟩
  · intro entry found draft
    apply postingCovered_of_noPlan
    revert entry
    decide +kernel
  · intro entry found draft
    apply postingCovered_of_noPlan
    revert entry
    decide +kernel
  · have released : ∀ row ∈ (run bookStep sampleCreditDb (paidBeforeRelease.take 7)).creditPayables[0]?,
        ∀ candidate ∈ answer? (CreditPayables.findCandidate
          (run bookStep sampleCreditDb (paidBeforeRelease.take 7)) row.sourceType row.sourceId row.contractId),
        candidate.amount = row.amount ∧ ∀ accountId ∈ candidate.debtorAccountId,
          itemsAmount (run bookStep sampleCreditDb (paidBeforeRelease.take 7)).books row.ledgerId accountId +
            row.amount ≤ debitOn accountId
              (ledgerLines (run bookStep sampleCreditDb (paidBeforeRelease.take 7)).books row.ledgerId none) := by
      decide +kernel
    intro row found _ candidate isCandidate
    obtain ⟨whole, room⟩ := released row found candidate isCandidate
    exact ⟨whole, room⟩

theorem sample_no_findings : checks (run bookStep sampleCreditDb paidBeforeRelease).books 0 = [] :=
  (book_run_no_findings sampleCreditDb sample_credit_fresh paidBeforeRelease sample_leaves_covered 0).1

/-- The released payable of 30.00 stands on the debtor account, which nothing debits. -/
theorem released_credit_exceeds_ledger :
    ¬ ∀ (start : Db) (calls : List BookCall) (ledgerId : LedgerId), FreshOffice start →
      checks (run bookStep start calls).books ledgerId = [] ∧
      Checks.subledgerFindings (run bookStep start calls).books ledgerId = [] := by
  intro clean
  have none := (clean sampleCreditDb (proposedCredit ++ [releasedCredit]) 0 sample_credit_fresh).2
  have finding : Checks.subledgerFindings (run bookStep sampleCreditDb (proposedCredit ++ [releasedCredit])).books 0 =
      ["Nebenbuch Konto 100000 (debtor) übersteigt Hauptbuch: Posten 30.00, Ausgleich 0, Soll 0.00, Haben 30.00"] := by
    decide +kernel
  rw [finding] at none
  cases none

/-- The rows of a trial balance carry what the lines on the accounts of the ledger carry. -/
theorem trialRows_sum (lines : List JournalLine) (ledgerId : LedgerId) (accounts : List (LedgerAccount × AccountId)) :
    ((accounts.filterMap (trialRow lines ledgerId)).map TrialRow.debit).sum -
      ((accounts.filterMap (trialRow lines ledgerId)).map TrialRow.credit).sum =
      sumWhere (fun found : LedgerAccount × AccountId => found.1.ledgerId = ledgerId)
        (fun found => sumWhere (fun line => line.accountId = found.2) JournalLine.net lines) accounts := by
  induction accounts with
  | nil => exact sub_self 0
  | cons found rest ih =>
    obtain ⟨account, accountId⟩ := found
    have net : sumWhere (fun line => line.accountId = accountId) JournalLine.net lines =
        debitOn accountId lines - creditOn accountId lines :=
      sumWhere_sub ..
    rw [sumWhere_cons, ← ih, net]
    by_cases listed : account.ledgerId = ledgerId ∧ ∃ line ∈ lines, line.accountId = accountId
    · simp only [filterMap_cons, trialRow, if_pos listed, map_cons, sum_cons, if_pos listed.1]
      ring
    · have nothing : account.ledgerId = ledgerId → debitOn accountId lines - creditOn accountId lines = 0 := by
        intro ofLedger
        rw [← net]
        exact sumWhere_eq_zero fun line member same => absurd ⟨ofLedger, line, member, same⟩ listed
      simpa [filterMap_cons, trialRow, listed] using nothing

/-- All lines of an entry are on accounts of one ledger, so it adds to both sides of a trial balance or to none. -/
theorem entry_equal (sound : EntrySound books entry) (ledgerId : LedgerId) :
    sumWhere (fun line => ∃ account ∈ books.accounts[line.accountId]?, account.ledgerId = ledgerId)
      JournalLine.net entry.lines = 0 := by
  have constant : ∀ line ∈ entry.lines, (∃ account ∈ books.accounts[line.accountId]?, account.ledgerId = ledgerId) ↔
      entry.ledgerId = ledgerId := by
    intro line onEntry
    obtain ⟨account, isAccount, same⟩ := sound.accounts line onEntry
    simp [Option.mem_def.mp isAccount, same]
  rw [sumWhere_congr constant fun _ _ _ => rfl]
  by_cases ofLedger : entry.ledgerId = ledgerId
  · simpa [sumWhere, ofLedger] using Checks.net_zero sound.balanced
  · simp [sumWhere, ofLedger]

theorem trialBalance_balanced (linked : books.Linked) : (trialBalance books ledgerId asOf start).balanced = true := by
  have rows := trialRows_sum (postedLines books start (some asOf)) ledgerId books.accounts.zipIdx
  rw [sumWhere_references (fun account : LedgerAccount => account.ledgerId = ledgerId), postedLines, sumWhere_flatMap] at rows
  unfold trialBalance
  dsimp only
  rw [((perm_insertionSort _ _).map _).sum_eq, ((perm_insertionSort _ _).map _).sum_eq]
  refine decide_eq_true (sub_eq_zero.mp (rows.trans (sum_eq_zero ?_)))
  intro amount member
  obtain ⟨entry, posted, rfl⟩ := mem_map.mp member
  obtain ⟨id, found⟩ := mem_iff_getElem?.mp (mem_filter.mp posted).1
  exact entry_equal (linked.sound found) ledgerId

/-- In every run the trial balance of every ledger balances, for every period. -/
theorem book_run_trial_balanced (start : Db) (fresh : FreshOffice start) (calls : List BookCall)
    (ledgerId : LedgerId) (asOf : Date) (first : Option Date) :
    (trialBalance (run bookStep start calls).books ledgerId asOf first).balanced = true :=
  trialBalance_balanced (book_state fresh calls).sound.linked

theorem sample_trial_balanced :
    (trialBalance (run bookStep sampleCreditDb paidBeforeRelease).books 0 (.ofYmd 2026 12 31) none).balanced = true :=
  book_run_trial_balanced sampleCreditDb sample_credit_fresh paidBeforeRelease 0 _ none

end Mhvp.Accounting
