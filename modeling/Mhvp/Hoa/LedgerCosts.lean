import Mhvp.Billing.Status
import Mhvp.Hoa.Levies

namespace Mhvp.Hoa.LedgerCosts

open Core Accounting Billing Hoa.Levies Lib.Aggregate Lib.Calendar Lib.Transition List

structure HoaStatement where
  ledgerId : LedgerId
  year : ℕ
  status : StatementStatus := .draft

structure CostsFromLedgerIn where
  accountId : AccountId
  allocationKeyId : AllocationKeyId
  basis : String
  basisResolutionId : Option ResolutionId := none
  basisDocumentId : Option DocumentId := none

structure CostItem where
  label : String
  amount : Decimal
  allocationKeyId : AllocationKeyId
  basis : String
  accountId : AccountId
  journalEntryId : EntryId
  basisResolutionId : Option ResolutionId
  basisDocumentId : Option DocumentId
  deriving DecidableEq

inductive Skip
  | alreadyTaken
  | reversesTakenEntry
  | reversed
  | netCredit
  deriving DecidableEq

def numberOf : EntryStatus → ℕ
  | .draft => 0
  | .posted posting => posting.number

def InYear (year : ℕ) (entry : JournalEntry) : Prop :=
  entry.isPosted ∧ Date.ofYmd year 1 1 ≤ entry.bookingDate ∧ entry.bookingDate ≤ Date.ofYmd year 12 31

instance : DecidablePred (InYear year) := fun _ => inferInstanceAs (Decidable (_ ∧ _ ∧ _))

def Earlier (one other : JournalEntry × EntryId) : Prop :=
  one.1.bookingDate < other.1.bookingDate ∨
    one.1.bookingDate = other.1.bookingDate ∧ numberOf one.1.status ≤ numberOf other.1.status

instance : DecidableRel Earlier := fun _ _ => inferInstanceAs (Decidable (_ ∨ _ ∧ _))

/-- Posted entries of the year with a line on the account. -/
def yearRows (books : Books) (year : ℕ) (accountId : AccountId) : List (JournalEntry × EntryId) :=
  (books.entries.zipIdx.filter fun row =>
    InYear year row.1 ∧ ∃ line ∈ row.1.lines, line.accountId = accountId).insertionSort Earlier

/-- Why an entry is passed over; `inYear` are the entries of the account in the year. -/
def skipReason (taken inYear : List EntryId) (accountId : AccountId) (row : JournalEntry × EntryId) : Option Skip :=
  if row.2 ∈ taken then some .alreadyTaken
  else if ∃ reverses ∈ row.1.reverses, reverses.reversesId ∈ taken then some .reversesTakenEntry
  else if (∃ reversalId ∈ row.1.reversedById, reversalId ∈ inYear) ∨
      ∃ reverses ∈ row.1.reverses, reverses.reversesId ∈ inYear then some .reversed
  else if netOn accountId row.1.lines ≤ 0 then some .netCredit
  else none

def costItem (account : LedgerAccount) (body : CostsFromLedgerIn) (row : JournalEntry × EntryId) : CostItem where
  label := clip (account.number ++ " " ++ row.1.text) 200
  amount := netOn body.accountId row.1.lines
  allocationKeyId := body.allocationKeyId
  basis := body.basis
  accountId := body.accountId
  journalEntryId := row.2
  basisResolutionId := body.basisResolutionId
  basisDocumentId := body.basisDocumentId

section Takeover

variable (books : Books) (statement : HoaStatement)

/-- The positions afterwards, and the entries that were passed over. -/
def costsFromLedger (items : List CostItem) (body : CostsFromLedgerIn) :
    Result (List CostItem × List (EntryId × Skip)) := do
  require (statement.status = .draft) .conflict (some "Nach der Berechnung nur über neue Version.")
  let account ← orRefuse ((books.accounts[body.accountId]?).filter fun account => account.ledgerId = statement.ledgerId)
    .validation (some "Konto aus anderem Buchungskreis.")
  let rows := yearRows books statement.year body.accountId
  let reason := skipReason (items.map CostItem.journalEntryId) (rows.map Prod.snd) body.accountId
  pure (items ++ (rows.filter fun row => reason row = none).map (costItem account body),
    rows.filterMap fun row => (reason row).map (row.2, ·))

def takeover (items : List CostItem) (body : CostsFromLedgerIn) : Result (List CostItem) := do
  let answer ← costsFromLedger books statement items body
  pure answer.1

/-- Nothing is taken yet of what the account costs: neither its entry nor the one it reverses is a position of another
account. -/
def Free (items : List CostItem) (body : CostsFromLedgerIn) : Prop :=
  ∀ row ∈ yearRows books statement.year body.accountId, ∀ item ∈ items, item.accountId ≠ body.accountId →
    item.journalEntryId ≠ row.2 ∧ ∀ reverses ∈ row.1.reverses, item.journalEntryId ≠ reverses.reversesId

instance : Decidable (Free books statement items body) := by unfold Free; infer_instance

/-- Entries of the account that cost something: with a debit, and not reversed within the year. -/
def takable (accountId : AccountId) : List (JournalEntry × EntryId) :=
  let rows := yearRows books statement.year accountId
  rows.filter fun row => skipReason [] (rows.map Prod.snd) accountId row = none

def rowPosition (accountId : AccountId) (row : JournalEntry × EntryId) : EntryId × Decimal :=
  (row.2, netOn accountId row.1.lines)

def positions (items : List CostItem) (accountId : AccountId) : List (EntryId × Decimal) :=
  (items.filter fun item => item.accountId = accountId).map fun item => (item.journalEntryId, item.amount)

/-- Debit minus credit of an entry on the account. -/
def netOf (accountId : AccountId) (entryId : EntryId) : Decimal :=
  ((books.entries[entryId]?).map fun entry => netOn accountId entry.lines).getD 0

/-- The positions of the account and the entries left out beside them are the balance of the year. -/
def CompleteFor (accountId : AccountId) (items : List CostItem) (skipped : List (EntryId × Skip)) : Prop :=
  ((positions items accountId).map Prod.snd).sum +
      ((skipped.filter fun skip => skip.2 ≠ .alreadyTaken).map fun skip => netOf books accountId skip.1).sum =
    sumWhere (InYear statement.year) (fun entry => netOn accountId entry.lines) books.entries

instance : Decidable (CompleteFor books statement accountId items skipped) := inferInstanceAs (Decidable (_ = _))

/-- No entry is taken twice, and of an account either nothing is taken or all it costs. -/
structure Held (items : List CostItem) : Prop where
  once : (items.map CostItem.journalEntryId).Nodup
  whole : ∀ accountId, positions items accountId = [] ∨
    positions items accountId = (takable books statement accountId).map (rowPosition accountId)

end Takeover

section Rules

variable {books : Books} {statement : HoaStatement} {items next : List CostItem} {body : CostsFromLedgerIn}
  {taken inYear : List EntryId} {accountId : AccountId} {row : JournalEntry × EntryId}

theorem mem_yearRows : row ∈ yearRows books year accountId ↔ books.entries[row.2]? = some row.1 ∧ InYear year row.1 ∧
    ∃ line ∈ row.1.lines, line.accountId = accountId := by
  rw [yearRows, mem_insertionSort, mem_filter, mem_zipIdx_iff_getElem?, decide_eq_true_eq]

theorem yearRows_nodup (books : Books) (year : ℕ) (accountId : AccountId) :
    ((yearRows books year accountId).map Prod.snd).Nodup := by
  have sorted := (perm_insertionSort Earlier (books.entries.zipIdx.filter fun row =>
    InYear year row.1 ∧ ∃ line ∈ row.1.lines, line.accountId = accountId)).map Prod.snd
  rw [yearRows, sorted.nodup_iff]
  refine List.Nodup.sublist (filter_sublist.map Prod.snd) ?_
  rw [zipIdx_map_snd]
  exact nodup_range'

theorem netOn_absent {lines : List JournalLine} (absent : ¬ ∃ line ∈ lines, line.accountId = accountId) :
    netOn accountId lines = 0 := by
  have none (column : JournalLine → Decimal) : sumWhere (fun line => line.accountId = accountId) column lines = 0 :=
    sumWhere_eq_zero fun line member isAccount => absurd ⟨line, member, isAccount⟩ absent
  rw [netOn, debitOn, creditOn, none, none, sub_zero]

theorem yearRows_sum (books : Books) (year : ℕ) (accountId : AccountId) :
    ((yearRows books year accountId).map fun row => netOn accountId row.1.lines).sum =
      sumWhere (InYear year) (fun entry => netOn accountId entry.lines) books.entries := by
  have flat := (sumWhere_map Prod.fst books.entries.zipIdx).symm.trans
    (congrArg (sumWhere (fun entry => InYear year entry ∧ ∃ line ∈ entry.lines, line.accountId = accountId)
      (fun entry => netOn accountId entry.lines)) (zipIdx_map_fst 0 books.entries))
  have nothing : sumWhere (fun entry => InYear year entry ∧ ¬ ∃ line ∈ entry.lines, line.accountId = accountId)
      (fun entry => netOn accountId entry.lines) books.entries = 0 :=
    sumWhere_eq_zero fun _ _ noLine => netOn_absent noLine.2
  rw [yearRows, ((perm_insertionSort Earlier _).map _).sum_eq,
    sumWhere_split fun entry => ∃ line ∈ entry.lines, line.accountId = accountId, nothing, add_zero]
  exact flat

theorem skipReason_none (untaken : skipReason taken inYear accountId row = none) :
    row.2 ∉ taken ∧ skipReason [] inYear accountId row = none := by
  unfold skipReason at untaken
  split at untaken
  · cases untaken
  · rename_i new
    refine ⟨new, ?_⟩
    split at untaken
    · cases untaken
    · rw [skipReason, if_neg not_mem_nil, if_neg (by simp)]
      exact untaken

theorem skipReason_taken : skipReason taken inYear accountId row = some .alreadyTaken ↔ row.2 ∈ taken := by
  unfold skipReason
  split
  · simp_all
  · split
    · simp_all
    · split <;> [skip; split] <;> simp_all

theorem skipReason_untaken (new : row.2 ∉ taken)
    (unreversed : ∀ reverses ∈ row.1.reverses, reverses.reversesId ∉ taken) :
    skipReason taken inYear accountId row = skipReason [] inYear accountId row := by
  have noReversal : ¬ ∃ reverses ∈ row.1.reverses, reverses.reversesId ∈ taken :=
    fun ⟨reverses, isReversal, isTaken⟩ => unreversed reverses isReversal isTaken
  have noneTaken : ¬ ∃ reverses ∈ row.1.reverses, reverses.reversesId ∈ ([] : List EntryId) := by simp
  rw [skipReason, if_neg new, if_neg noReversal, skipReason, if_neg not_mem_nil, if_neg noneTaken]

theorem skipped_sum (reason : JournalEntry × EntryId → Option Skip) {rows : List (JournalEntry × EntryId)}
    (found : ∀ row ∈ rows, books.entries[row.2]? = some row.1) :
    (((rows.filterMap fun row => (reason row).map (row.2, ·)).filter fun skip => skip.2 ≠ .alreadyTaken).map fun skip =>
      netOf books accountId skip.1).sum =
    sumWhere (fun row => reason row ≠ none ∧ reason row ≠ some .alreadyTaken) (fun row => netOn accountId row.1.lines)
      rows := by
  induction rows with
  | nil => rfl
  | cons row rest ih =>
    have later := ih fun other member => found other (mem_cons_of_mem row member)
    have net : netOf books accountId row.2 = netOn accountId row.1.lines := by
      rw [netOf, found row mem_cons_self]
      rfl
    rw [sumWhere_cons, ← later]
    cases isReason : reason row with
    | none => simp [isReason]
    | some skip =>
      by_cases taken : skip = .alreadyTaken
      · simp [isReason, taken]
      · simp [isReason, taken, net]

theorem positions_append (added : List (JournalEntry × EntryId)) (account : LedgerAccount) (other : AccountId) :
    positions (items ++ added.map (costItem account body)) other =
      positions items other ++ if other = body.accountId then added.map (rowPosition body.accountId) else [] := by
  rw [positions, filter_append, map_append]
  congr 1
  by_cases same : other = body.accountId
  · rw [if_pos same, filter_eq_self.mpr, map_map]
    · rfl
    · intro item member
      obtain ⟨row, -, rfl⟩ := mem_map.mp member
      exact decide_eq_true same.symm
  · rw [if_neg same, map_eq_nil_iff, filter_eq_nil_iff]
    intro item member
    obtain ⟨row, -, rfl⟩ := mem_map.mp member
    exact fun isOther => same (of_decide_eq_true isOther).symm

/-- Either nothing of the account is taken and the entries of other accounts play no part, or all it costs is. -/
theorem Held.cases (held : Held books statement items) (free : Free books statement items body)
    (isTaken : taken = items.map CostItem.journalEntryId)
    (isYear : inYear = (yearRows books statement.year body.accountId).map Prod.snd) :
    positions items body.accountId = [] ∧ (∀ row ∈ yearRows books statement.year body.accountId,
        skipReason taken inYear body.accountId row = skipReason [] inYear body.accountId row) ∨
      positions items body.accountId = (takable books statement body.accountId).map (rowPosition body.accountId) ∧
        ∀ row ∈ yearRows books statement.year body.accountId,
          row.2 ∈ taken ↔ skipReason [] inYear body.accountId row = none := by
  subst isTaken isYear
  have own {item : CostItem} (member : item ∈ items) (isAccount : item.accountId = body.accountId) :
      (item.journalEntryId, item.amount) ∈ positions items body.accountId :=
    mem_map.mpr ⟨item, mem_filter.mpr ⟨member, decide_eq_true isAccount⟩, rfl⟩
  rcases held.whole body.accountId with nothing | whole
  · left
    refine ⟨nothing, fun row isRow => ?_⟩
    have others (item : CostItem) (member : item ∈ items) : item.accountId ≠ body.accountId := by
      intro isAccount
      have present := own member isAccount
      rw [nothing] at present
      cases present
    apply skipReason_untaken
    · intro present
      obtain ⟨item, member, isRow'⟩ := mem_map.mp present
      exact (free row isRow item member (others item member)).1 isRow'
    · intro reverses isReversal present
      obtain ⟨item, member, isEntry⟩ := mem_map.mp present
      exact (free row isRow item member (others item member)).2 reverses isReversal isEntry
  · right
    refine ⟨whole, fun row isRow => ⟨fun present => ?_, fun costs => ?_⟩⟩
    · obtain ⟨item, member, isRow'⟩ := mem_map.mp present
      have isAccount : item.accountId = body.accountId := by
        by_contra other
        exact (free row isRow item member other).1 isRow'
      have isPosition := own member isAccount
      rw [whole] at isPosition
      obtain ⟨taken, isTakable, same⟩ := mem_map.mp isPosition
      obtain ⟨inRows, costs⟩ := mem_filter.mp isTakable
      have sameEntry : taken.2 = row.2 := (congrArg Prod.fst same).trans isRow'
      have entry := (mem_yearRows.mp inRows).1
      rw [sameEntry, (mem_yearRows.mp isRow).1] at entry
      obtain rfl : taken = row := Prod.ext (Option.some.inj entry).symm sameEntry
      exact of_decide_eq_true costs
    · have isPosition : rowPosition body.accountId row ∈ positions items body.accountId := by
        rw [whole]
        exact mem_map_of_mem (mem_filter.mpr ⟨isRow, decide_eq_true costs⟩)
      obtain ⟨item, member, same⟩ := mem_map.mp isPosition
      exact mem_map.mpr ⟨item, mem_of_mem_filter member, congrArg Prod.fst same⟩

/-- After a call all the account costs is taken, and nothing changes for other accounts. -/
structure Taken (books : Books) (statement : HoaStatement) (items next : List CostItem) (accountId : AccountId)
    (skipped : List (EntryId × Skip)) : Prop where
  held : Held books statement next
  own : positions next accountId = (takable books statement accountId).map (rowPosition accountId)
  others : ∀ other ≠ accountId, positions next other = positions items other
  complete : CompleteFor books statement accountId next skipped

theorem costsFromLedger_ok (held : Held books statement items) (free : Free books statement items body)
    (accepted : costsFromLedger books statement items body = .ok (next, skipped)) :
    Taken books statement items next body.accountId skipped := by
  simp only [costsFromLedger, bind_ok, exists_unit, require_ok, orRefuse_ok, pure_ok, Prod.mk.injEq] at accepted
  obtain ⟨-, account, -, rfl, rfl⟩ := accepted
  obtain ⟨taken, isTaken⟩ : ∃ taken, taken = items.map CostItem.journalEntryId := ⟨_, rfl⟩
  obtain ⟨inYear, isYear⟩ : ∃ inYear, inYear = (yearRows books statement.year body.accountId).map Prod.snd := ⟨_, rfl⟩
  have cases := held.cases free isTaken isYear
  rw [← isTaken, ← isYear]
  have takableRows : takable books statement body.accountId = (yearRows books statement.year body.accountId).filter
      fun row => skipReason [] inYear body.accountId row = none := by
    rw [isYear]
    rfl
  have own : positions (items ++ ((yearRows books statement.year body.accountId).filter fun row =>
      skipReason taken inYear body.accountId row = none).map (costItem account body)) body.accountId =
        (takable books statement body.accountId).map (rowPosition body.accountId) := by
    rw [positions_append, if_pos rfl]
    rcases cases with ⟨nothing, same⟩ | ⟨whole, iff⟩
    · rw [nothing, nil_append, takableRows]
      congr 1
      exact filter_congr fun row isRow => by rw [same row isRow]
    · rw [whole, filter_eq_nil_iff.mpr, map_nil, append_nil]
      intro row isRow untaken
      obtain ⟨new, costs⟩ := skipReason_none (of_decide_eq_true untaken)
      exact new ((iff row isRow).mpr costs)
  have others : ∀ other ≠ body.accountId, positions (items ++ ((yearRows books statement.year body.accountId).filter
      fun row => skipReason taken inYear body.accountId row = none).map (costItem account body)) other =
        positions items other := by
    intro other different
    rw [positions_append, if_neg different, append_nil]
  refine ⟨⟨?_, fun accountId => ?_⟩, own, others, ?_⟩
  · rw [map_append, map_map, ← isTaken, nodup_append]
    refine ⟨isTaken ▸ held.once, (yearRows_nodup books statement.year body.accountId).sublist
      (filter_sublist.map Prod.snd), ?_⟩
    rintro old isOld new isNew rfl
    obtain ⟨row, isRow, rfl⟩ := mem_map.mp isNew
    exact (skipReason_none (of_decide_eq_true (mem_filter.mp isRow).2)).1 isOld
  · by_cases same : accountId = body.accountId
    · subst same
      exact Or.inr own
    · rw [others accountId same]
      exact held.whole accountId
  · rw [CompleteFor, own, skipped_sum _ fun row isRow => (mem_yearRows.mp isRow).1, ← yearRows_sum, takableRows,
      map_map]
    have counted : ∀ row ∈ yearRows books statement.year body.accountId,
        (skipReason taken inYear body.accountId row ≠ none ∧
          skipReason taken inYear body.accountId row ≠ some .alreadyTaken) ↔
        True ∧ ¬ skipReason [] inYear body.accountId row = none := by
      intro row isRow
      rw [Ne, Ne, skipReason_taken, true_and]
      rcases cases with ⟨-, same⟩ | ⟨-, iff⟩
      · have untaken : row.2 ∉ taken := by
          rw [← skipReason_taken, same row isRow, skipReason_taken]
          exact not_mem_nil
        rw [same row isRow]
        exact and_iff_left untaken
      · rw [iff row isRow]
        refine ⟨fun both => both.2, fun costs => ⟨fun untaken => ?_, costs⟩⟩
        exact costs (skipReason_none untaken).2
    rw [sumWhere_congr counted fun _ _ _ => rfl]
    have split : sumWhere (fun _ => True) (fun row => netOn body.accountId row.1.lines)
        (yearRows books statement.year body.accountId) = _ + _ :=
      sumWhere_split (fun row => skipReason [] inYear body.accountId row = none) _
    simp only [sumWhere, true_and, decide_true, filter_true] at split ⊢
    exact split.symm

theorem takeover_ok : takeover books statement items body = .ok next ↔
    ∃ skipped, costsFromLedger books statement items body = .ok (next, skipped) := by
  simp only [takeover, bind_ok, pure_ok]
  constructor
  · rintro ⟨⟨positions, skipped⟩, accepted, rfl⟩
    exact ⟨skipped, accepted⟩
  · rintro ⟨skipped, accepted⟩
    exact ⟨_, accepted, rfl⟩

theorem run_positions (calls : List CostsFromLedgerIn) (held : Held books statement items)
    (free : ∀ moment ∈ trace (takeover books statement) items calls, Free books statement moment.before moment.call) :
    Held books statement (run (takeover books statement) items calls) ∧
      ∀ accountId, positions (run (takeover books statement) items calls) accountId =
        if ∃ moment ∈ trace (takeover books statement) items calls, moment.call.accountId = accountId
        then (takable books statement accountId).map (rowPosition accountId) else positions items accountId := by
  induction calls generalizing items with
  | nil => exact ⟨held, fun accountId => by simp [trace]⟩
  | cons body rest ih =>
    rw [run_cons]
    cases outcome : takeover books statement items body with
    | error reason =>
      simp only [trace, outcome] at free ⊢
      rw [commit_refused outcome]
      exact ih held free
    | ok next =>
      simp only [trace, outcome, forall_mem_cons] at free
      obtain ⟨skipped, accepted⟩ := takeover_ok.mp outcome
      have taken := costsFromLedger_ok held free.1 accepted
      obtain ⟨heldAfter, after⟩ := ih taken.held free.2
      rw [commit_accepted outcome]
      refine ⟨heldAfter, fun accountId => ?_⟩
      simp only [trace, outcome, mem_cons, exists_eq_or_imp]
      rw [after]
      by_cases later : ∃ moment ∈ trace (takeover books statement) next rest, moment.call.accountId = accountId
      · rw [if_pos later, if_pos (Or.inr later)]
      · rw [if_neg later]
        by_cases same : body.accountId = accountId
        · rw [if_pos (Or.inl same), ← same]
          exact taken.own
        · rw [if_neg (not_or.mpr ⟨same, later⟩)]
          exact taken.others accountId (Ne.symm same)

end Rules

/-- No entry is taken twice on an account, after each call the account is complete, and in the end every account called
has what it costs, whatever the order. -/
structure Complete (books : Books) (statement : HoaStatement) (calls : List CostsFromLedgerIn) : Prop where
  once : ((run (takeover books statement) [] calls).map fun item => (item.journalEntryId, item.accountId)).Nodup
  each : ∀ moment ∈ trace (takeover books statement) [] calls, ∀ next skipped,
    costsFromLedger books statement moment.before moment.call = .ok (next, skipped) →
      CompleteFor books statement moment.call.accountId next skipped
  whole : ∀ accountId, positions (run (takeover books statement) [] calls) accountId =
    if ∃ moment ∈ trace (takeover books statement) [] calls, moment.call.accountId = accountId
    then (takable books statement accountId).map (rowPosition accountId) else []

/-- In every run of calls that find the costs of their account free, the takeover is complete. -/
theorem costs_complete (books : Books) (statement : HoaStatement) (calls : List CostsFromLedgerIn)
    (free : ∀ moment ∈ trace (takeover books statement) [] calls, Free books statement moment.before moment.call) :
    Complete books statement calls := by
  have nothing : Held books statement [] := ⟨nodup_nil, fun _ => Or.inl rfl⟩
  have preserved : ∀ items body next, Held books statement items → Free books statement items body →
      takeover books statement items body = .ok next → Held books statement next := by
    intro items body next held free accepted
    obtain ⟨skipped, accepted⟩ := takeover_ok.mp accepted
    exact (costsFromLedger_ok held free accepted).held
  obtain ⟨after, taken⟩ := run_positions calls nothing free
  refine ⟨?_, fun moment member next skipped accepted => ?_, taken⟩
  · apply List.Nodup.of_map Prod.fst
    rw [map_map]
    exact after.once
  · have before := (trace_guarded preserved calls nothing free moment member).1
    exact (costsFromLedger_ok before (free moment member) accepted).complete

/-- One receipt with lines on two cost accounts. -/
theorem custom_reversalRef : EntryKind.custom = .reversal → (none : Option ReversalOf).isSome := by decide

def sampleEntry : JournalEntry where
  bookingDate := .ofYmd 2025 6 1
  text := "Versicherung"
  kind := .custom
  ledgerId := 0
  status := .posted { fiscalYear := 2025, number := 1, postedBy := none }
  lines := [⟨0, 60, 0, none, none, none, none, none, none, none, by norm_num⟩,
    ⟨1, 40, 0, none, none, none, none, none, none, none, by norm_num⟩,
    ⟨2, 0, 100, none, none, none, none, none, none, none, hundred_credited⟩]
  reversalRef := custom_reversalRef

def sampleBooks : Books where
  ledgers := [{ propertyId := some 0 }]
  accounts := [{ ledgerId := 0, number := "040000", category := .cost },
    { ledgerId := 0, number := "041000", category := .cost },
    { ledgerId := 0, number := "001000", category := .bank }]
  entries := [sampleEntry]

def sampleYear : HoaStatement where
  ledgerId := 0
  year := 2025

def takeCosts (accountId : AccountId) : CostsFromLedgerIn where
  accountId
  allocationKeyId := 0
  basis := "Teilungserklärung"

theorem one_account_complete : Complete sampleBooks sampleYear [takeCosts 0] :=
  costs_complete sampleBooks sampleYear [takeCosts 0] (by decide +kernel)

/-- What the receipt costs on the second account is taken by no call. -/
theorem second_account_lost : ¬ ∀ (books : Books) (statement : HoaStatement) (calls : List CostsFromLedgerIn),
    Complete books statement calls := by
  intro complete
  have lost : ∃ answer ∈ answer? (costsFromLedger sampleBooks sampleYear
      (run (takeover sampleBooks sampleYear) [] [takeCosts 0]) (takeCosts 1)),
      ¬ CompleteFor sampleBooks sampleYear 1 answer.1 answer.2 := by
    decide +kernel
  obtain ⟨⟨next, skipped⟩, isAnswer, incomplete⟩ := lost
  have accepted := answer?_eq_some.mp isAnswer
  have member := accepted_mem_trace [takeCosts 0] (takeover_ok.mpr ⟨skipped, accepted⟩)
  exact incomplete ((complete _ _ _).each _ member next skipped accepted)

end Mhvp.Hoa.LedgerCosts
