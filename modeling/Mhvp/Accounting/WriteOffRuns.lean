import Mhvp.Accounting.Undoing
import Mhvp.Accounting.Proposals

namespace Mhvp.Accounting.WriteOffs

open Core Lib.Calendar Lib.Table Lib.Transition Lib.Locking Lib.Aggregate List

variable {state next : Audited} {work other : Work}

/-- Somebody else than the proposer decided. -/
def ByOther (row : OpenItemWriteOff) : Prop :=
  ∃ proposer decider, row.proposedBy = some proposer ∧ row.decidedBy = some decider ∧ decider ≠ proposer

def NotPosted (records : List PostingRecord) (writeOffId : WriteOffId) : Prop :=
  ∀ entryId amount, PostingRecord.posted writeOffId entryId amount ∉ records

/-- The entry that posted the write off settles its item with its amount. -/
structure Booked (db : Db) (writeOffId : WriteOffId) (entryId : EntryId) (amount : Decimal) : Prop where
  row : ∃ row item, db.writeOffs[writeOffId]? = some row ∧ row.status = .approved ∧ row.amount = amount ∧
    db.books.openItems[row.openItemId]? = some item ∧ item.journalEntryId ≠ entryId ∧
    settledBy db.books entryId row.openItemId = amount
  entry : ∃ entry, db.books.entries[entryId]? = some entry ∧ entry.isPosted ∧
    entry.idempotencyKey = some (idempotencyKey writeOffId)

def postedId : PostingRecord → Option WriteOffId
  | .posted writeOffId _ _ => some writeOffId
  | .postingReversed _ _ _ => none

/-- The invariant of the write offs. -/
structure Kept (state : Audited) : Prop where
  sound : state.db.books.Sound
  proposals : ProposalsOpen state.db
  approved : ∀ row ∈ state.db.writeOffs, row.status = .approved → ByOther row
  booked : ∀ writeOffId entryId amount, .posted writeOffId entryId amount ∈ state.records →
    Booked state.db writeOffId entryId amount
  once : (state.records.filterMap postedId).Nodup

/-- What a request read under its locks. -/
def Ready (state : Audited) : Work → Prop
  | .insert row => row.status = .proposed ∧ Proposable state.db row.openItemId
  | .decide writeOffId decided flags => ∃ row, state.db.writeOffs[writeOffId]? = some row ∧ row.status = .proposed ∧
      decided.openItemId = row.openItemId ∧ decided.status ≠ .proposed ∧
      (decided.status = .approved → ByOther decided) ∧
      ∀ item ∈ flags, state.db.books.openItems[decided.openItemId]? = some item
  | .post writeOffId plan _ => state.db.writeOffs[writeOffId]? = some plan.row ∧ plan.row.status = .approved ∧
      state.db.books.openItems[plan.row.openItemId]? = some plan.item ∧
      plan.item.amount - settled state.db.books plan.row.openItemId none = plan.row.amount ∧
      NotPosted state.records writeOffId
  | _ => True

theorem readDecision_ok (read : readDecision db writeOffId decision note userId gateOpen = .ok (decided, flags)) :
    ∃ row, db.writeOffs[writeOffId]? = some row ∧ row.status = .proposed ∧
      decided.openItemId = row.openItemId ∧ decided.status ≠ .proposed ∧
      (decided.status = .approved → ByOther decided) ∧
      ∀ item ∈ flags, db.books.openItems[decided.openItemId]? = some item := by
  simp only [readDecision, bind_ok, exists_unit, require_ok, orRefuse_ok] at read
  obtain ⟨row, foundRow, -, -, proposed, item, foundItem, read⟩ := read
  refine ⟨row, foundRow, proposed, ?_⟩
  cases decision with
  | approve =>
    simp only [readApproval, bind_ok, exists_unit, require_ok, pure_ok, Prod.mk.injEq] at read
    obtain ⟨approved, ⟨different, known, current, -, -, -, rfl⟩, rfl, rfl⟩ := read
    obtain ⟨proposer, isProposer⟩ := Option.isSome_iff_exists.mp known
    have byOther : userId ≠ proposer := by
      rintro rfl
      exact different isProposer
    refine ⟨rfl, by simp, fun _ => ⟨proposer, userId, isProposer, rfl, byOther⟩, ?_⟩
    intro own isOwn
    cases isOwn
    exact foundItem
  | reject =>
    simp only [pure_ok, Prod.mk.injEq] at read
    obtain ⟨rfl, rfl⟩ := read
    exact ⟨rfl, by simp, by simp, by simp⟩

theorem notPosted_of_noEntry (kept : Kept state) (none' : postingEntry state.db.books writeOffId = none) :
    NotPosted state.records writeOffId := by
  intro entryId amount recorded
  obtain ⟨entry, found, -, key⟩ := (kept.booked writeOffId entryId amount recorded).entry
  have noKey := List.find?_eq_none.mp none' (entry, entryId) (mem_zipIdx_iff_getElem?.mpr found)
  simp [key] at noKey

theorem readWork_ready (kept : Kept state) (read : readWork state call = .ok work) : Ready state work := by
  cases call with
  | journal | putSettings =>
    obtain rfl := pure_ok.mp read
    trivial
  | propose openItemId effectiveOn reason documentId userId today =>
    simp only [readWork, bind_ok, pure_ok] at read
    obtain ⟨row, isRow, rfl⟩ := read
    obtain ⟨rfl, proposed, item, found, open', -, noOther⟩ := readProposal_ok isRow
    exact ⟨proposed, proposable_of_checks found open' noOther⟩
  | decide writeOffId decision note userId gateOpen =>
    simp only [readWork, bind_ok, pure_ok] at read
    obtain ⟨⟨decided, flags⟩, isDecision, rfl⟩ := read
    exact readDecision_ok isDecision
  | post writeOffId expectedAmount counterAccountId userId gateOpen =>
    simp only [readWork, bind_ok] at read
    obtain ⟨answer, isAnswer, read⟩ := read
    rcases readPosting_ok isAnswer with ⟨existing, -, rfl⟩ | ⟨plan, rfl, noEntry, foundRow, approved, foundItem, rest⟩
    · obtain rfl := pure_ok.mp read
      trivial
    · obtain rfl := pure_ok.mp read
      exact ⟨foundRow, approved, foundItem, rest, notPosted_of_noEntry kept noEntry⟩
  | reversePosting writeOffId reason bookingDate userId gateOpen today =>
    simp only [readWork, bind_ok] at read
    obtain ⟨answer, -, read⟩ := read
    cases answer with
    | none | some =>
      obtain rfl := pure_ok.mp read
      trivial

/-- The table of the write offs after a request. -/
def rowsAfter (rows : List OpenItemWriteOff) : Work → List OpenItemWriteOff
  | .insert row => rows ++ [row]
  | .decide writeOffId decided _ => rows.set writeOffId decided
  | _ => rows

theorem writeWork_records (written : writeWork state work = .ok next) :
    next.records = state.records ∨
    (∃ writeOffId entryId reversalId, next.records = state.records ++ [.postingReversed writeOffId entryId reversalId]) ∨
    ∃ writeOffId entryId plan userId, next.records = state.records ++ [.posted writeOffId entryId plan.row.amount] ∧
      work = .post writeOffId plan userId ∧
      bookPlan state.db.books writeOffId plan userId = .ok (entryId, next.db.books) := by
  cases work with
  | journal call =>
    simp only [writeWork, bind_ok, pure_ok] at written
    obtain ⟨db, -, rfl⟩ := written
    exact Or.inl rfl
  | insert | decide | repeated | putSettings =>
    obtain rfl := pure_ok.mp written
    exact Or.inl rfl
  | reverse writeOffId ledgerId entryId reason bookingDate userId =>
    simp only [writeWork, bind_ok, pure_ok] at written
    obtain ⟨⟨reversalId, db⟩, -, rfl⟩ := written
    exact Or.inr (Or.inl ⟨writeOffId, entryId, reversalId, rfl⟩)
  | post writeOffId plan userId =>
    simp only [writeWork, bind_ok, pure_ok] at written
    obtain ⟨⟨entryId, books⟩, booked, rfl⟩ := written
    exact Or.inr (Or.inr ⟨writeOffId, entryId, plan, userId, rfl, rfl, booked⟩)

theorem writeWork_services (sound : state.db.books.Sound) (written : writeWork state work = .ok next)
    (notDecision : ∀ writeOffId decided flags, work ≠ .decide writeOffId decided flags) :
    Relation.ReflTransGen LedgerStep state.db.books next.db.books := by
  cases work with
  | decide writeOffId decided flags => exact absurd rfl (notDecision _ _ _)
  | insert | repeated | putSettings =>
    obtain rfl := pure_ok.mp written
    exact .refl
  | journal call =>
    simp only [writeWork, bind_ok, pure_ok] at written
    obtain ⟨db, accepted, rfl⟩ := written
    rcases journalStep_step accepted sound.linked.draftOpen with same | step
    · exact same ▸ .refl
    · exact .single step
  | post writeOffId plan userId =>
    simp only [writeWork, bind_ok, pure_ok] at written
    obtain ⟨⟨entryId, books⟩, isBooked, rfl⟩ := written
    obtain ⟨drafted, entry, ledger, posting, rows, booked, rfl⟩ := bookPlan_ok isBooked
    have drafts := Relation.ReflTransGen.single booked.quiet.step
    exact drafts.tail (.post entryId entry ledger posting rows booked.posts)
  | reverse writeOffId ledgerId entryId reason bookingDate userId =>
    simp only [writeWork, bind_ok, pure_ok] at written
    obtain ⟨⟨reversalId, db⟩, reversed, rfl⟩ := written
    obtain ⟨entry, ledger, reversal, posting, orders, reverses, -, -, -, rfl⟩ := reverse_ok reversed
    exact .single (.reverse entryId entry ledger bookingDate reversal posting reverses)

theorem writeWork_rows (written : writeWork state work = .ok next) :
    next.db.writeOffs = rowsAfter state.db.writeOffs work := by
  cases work with
  | decide | insert | repeated | putSettings =>
    obtain rfl := pure_ok.mp written
    rfl
  | journal call =>
    simp only [writeWork, bind_ok, pure_ok] at written
    obtain ⟨db, accepted, rfl⟩ := written
    have frame := journalStep_frame accepted
    rw [frame]
    rfl
  | post writeOffId plan userId =>
    simp only [writeWork, bind_ok, pure_ok] at written
    obtain ⟨⟨entryId, books⟩, -, rfl⟩ := written
    rfl
  | reverse writeOffId ledgerId entryId reason bookingDate userId =>
    simp only [writeWork, bind_ok, pure_ok] at written
    obtain ⟨⟨reversalId, db⟩, reversed, rfl⟩ := written
    obtain ⟨entry, ledger, reversal, posting, orders, -, -, -, -, rfl⟩ := reverse_ok reversed
    rfl

theorem writeWork_steps (sound : state.db.books.Sound) (ready : Ready state work)
    (written : writeWork state work = .ok next) : BookSteps state.db.books next.db.books := by
  by_cases notDecision : ∀ writeOffId decided flags, work ≠ .decide writeOffId decided flags
  · exact Relation.ReflTransGen.mono (fun _ _ step => .ledger _ step) _ _
      (writeWork_services sound written notDecision)
  · push Not at notDecision
    obtain ⟨writeOffId, decided, flags, rfl⟩ := notDecision
    obtain ⟨row, -, -, sameItem, -, -, flagged⟩ := ready
    obtain rfl := pure_ok.mp written
    cases flags with
    | none => exact .refl
    | some item => exact .single (.flag decided.openItemId item decided.effectiveOn (flagged item rfl))

/-- Whoever holds an item finds it as before: nobody else writes its row or settles it. -/
structure ItemLeft (state next : Audited) (itemId : OpenItemId) : Prop where
  row : ∀ {item : OpenItem}, state.db.books.openItems[itemId]? = some item →
    next.db.books.openItems[itemId]? = some item
  settled : ∀ asOf, settled next.db.books itemId asOf = settled state.db.books itemId asOf

theorem item_left (sound : state.db.books.Sound) (ready : Ready state work)
    (written : writeWork state work = .ok next) (holds : Row.item itemId ∈ lockedRows other)
    (free : writeOffProtocol.Free work other) (passes : writeOffProtocol.Passes state work other) :
    ItemLeft state next itemId where
  settled := by
    intro asOf
    apply (writeWork_steps sound ready written).settled_same
    intro row member named
    apply passes (.item itemId) ?_ holds
    change Row.item itemId ∈ settledRows state work
    rw [settledRows, written]
    exact mem_map.mpr ⟨row, member, by rw [named]⟩
  row := by
    intro item found
    by_cases notDecision : ∀ writeOffId decided flags, work ≠ .decide writeOffId decided flags
    · exact services_item_same (writeWork_services sound written notDecision) found
    · push Not at notDecision
      obtain ⟨writeOffId, decided, flags, rfl⟩ := notDecision
      obtain rfl := pure_ok.mp written
      cases flags with
      | none => exact found
      | some flagged =>
        have different : decided.openItemId ≠ itemId := by
          rintro rfl
          exact free (.item decided.openItemId) (by simp [writeOffProtocol, lockedRows]) holds
        exact (List.getElem?_set_ne different).trans found

theorem row_left (written : writeWork state work = .ok next) (holds : Row.writeOff writeOffId ∈ lockedRows other)
    (free : writeOffProtocol.Free work other) (found : state.db.writeOffs[writeOffId]? = some row) :
    next.db.writeOffs[writeOffId]? = some row := by
  rw [writeWork_rows written]
  cases work with
  | insert added => exact found_append found
  | decide place decided flags =>
    have different : place ≠ writeOffId := by
      rintro rfl
      exact free (.writeOff place) (by simp [writeOffProtocol, lockedRows]) holds
    exact (List.getElem?_set_ne different).trans found
  | journal | post | reverse | repeated | putSettings => exact found

theorem proposable_left (sound : state.db.books.Sound) (written : writeWork state work = .ok next)
    (holds : Row.item itemId ∈ lockedRows other) (free : writeOffProtocol.Free work other)
    (proposable : Proposable state.db itemId) : Proposable next.db itemId where
  unflagged := by
    by_cases notDecision : ∀ writeOffId decided flags, work ≠ .decide writeOffId decided flags
    · exact services_unflagged (writeWork_services sound written notDecision) proposable.unflagged
    · push Not at notDecision
      obtain ⟨writeOffId, decided, flags, rfl⟩ := notDecision
      obtain rfl := pure_ok.mp written
      have different : decided.openItemId ≠ itemId := by
        rintro rfl
        exact free (.item decided.openItemId) (by simp [writeOffProtocol, lockedRows]) holds
      cases flags with
      | none => exact proposable.unflagged
      | some flagged =>
        intro item found
        rw [Option.mem_def] at found
        exact proposable.unflagged item ((List.getElem?_set_ne different).symm.trans found)
  single := by
    intro row member active same
    rw [writeWork_rows written] at member
    cases work with
    | insert added =>
      rcases mem_append.mp member with old | isAdded
      · exact proposable.single row old active same
      · obtain rfl := mem_singleton.mp isAdded
        exact free (.item row.openItemId) (by simp [writeOffProtocol, lockedRows]) (same ▸ holds)
    | decide writeOffId decided flags =>
      rcases mem_or_eq_of_mem_set member with old | rfl
      · exact proposable.single row old active same
      · exact free (.item row.openItemId) (by simp [writeOffProtocol, lockedRows]) (same ▸ holds)
    | journal | post | reverse | repeated | putSettings => exact proposable.single row member active same

theorem notPosted_left (written : writeWork state work = .ok next)
    (holds : Row.writeOff writeOffId ∈ lockedRows other) (free : writeOffProtocol.Free work other)
    (notPosted : NotPosted state.records writeOffId) : NotPosted next.records writeOffId := by
  intro entryId amount recorded
  rcases writeWork_records written with same | ⟨place, reversed, reversalId, added⟩ |
    ⟨place, posted, plan, userId, added, rfl, -⟩
  · exact notPosted entryId amount (same ▸ recorded)
  · rw [added, mem_append, mem_singleton] at recorded
    exact notPosted entryId amount (recorded.resolve_right (by simp))
  · rw [added, mem_append, mem_singleton] at recorded
    rcases recorded with old | isNew
    · exact notPosted entryId amount old
    · obtain ⟨rfl, -, -⟩ := PostingRecord.posted.inj isNew
      exact free (.writeOff writeOffId) (by simp [writeOffProtocol, lockedRows]) holds

theorem Ready.beside (kept : Kept state) (ready : Ready state work) (readyOther : Ready state other)
    (free : writeOffProtocol.Free work other) (passes : writeOffProtocol.Passes state work other)
    (written : writeWork state work = .ok next) : Ready next other := by
  cases other with
  | journal | reverse | repeated | putSettings => trivial
  | insert row =>
    exact ⟨readyOther.1, proposable_left kept.sound written (by simp [lockedRows]) free readyOther.2⟩
  | decide writeOffId decided flags =>
    obtain ⟨row, found, proposed, sameItem, closed, byOther, flagged⟩ := readyOther
    have left : ItemLeft state next decided.openItemId :=
      item_left kept.sound ready written (by simp [lockedRows]) free passes
    exact ⟨row, row_left written (by simp [lockedRows]) free found, proposed, sameItem, closed, byOther,
      fun item isItem => left.row (flagged item isItem)⟩
  | post writeOffId plan userId =>
    obtain ⟨found, approved, foundItem, rest, notPosted⟩ := readyOther
    have left : ItemLeft state next plan.row.openItemId :=
      item_left kept.sound ready written (by simp [lockedRows]) free passes
    refine ⟨row_left written (by simp [lockedRows]) free found, approved, left.row foundItem, ?_,
      notPosted_left written (by simp [lockedRows]) free notPosted⟩
    rw [left.settled none]
    exact rest

theorem Booked.kept {db next : Db} (booked : Booked db writeOffId entryId amount) (sound : db.books.Sound)
    (steps : BookSteps db.books next.books)
    (rows : ∀ row, db.writeOffs[writeOffId]? = some row → row.status = .approved →
      next.writeOffs[writeOffId]? = some row) : Booked next writeOffId entryId amount := by
  obtain ⟨row, item, found, approved, sameAmount, foundItem, notOwn, settles⟩ := booked.row
  obtain ⟨entry, foundEntry, posted, key⟩ := booked.entry
  obtain ⟨keptItem, foundKept, -, sameOrigin⟩ := steps.item_kept foundItem
  obtain ⟨keptEntry, keeps⟩ := steps.entry_kept sound foundEntry posted
  constructor
  · exact ⟨row, keptItem, rows row found approved, approved, sameAmount, foundKept, sameOrigin ▸ notOwn,
      (keeps.settles _).trans settles⟩
  · refine ⟨keptEntry, keeps.found, keeps.isPosted posted, ?_⟩
    rw [keeps.same.1]
    exact key

theorem approved_row_kept {writeOffId : WriteOffId} {row : OpenItemWriteOff} (ready : Ready state work) (written : writeWork state work = .ok next)
    (found : state.db.writeOffs[writeOffId]? = some row) (approved : row.status = .approved) :
    next.db.writeOffs[writeOffId]? = some row := by
  rw [writeWork_rows written]
  cases work with
  | insert added => exact found_append found
  | decide place decided flags =>
    obtain ⟨old, foundOld, proposed, -⟩ := ready
    have different : place ≠ writeOffId := by
      rintro rfl
      obtain rfl : old = row := Option.mem_unique foundOld found
      simp [proposed] at approved
    exact (List.getElem?_set_ne different).trans found
  | journal | post | reverse | repeated | putSettings => exact found

theorem PlanBooked.settles (booked : PlanBooked books writeOffId plan entryId drafted entry ledger posting rows) :
    settledIn itemId rows = if plan.row.openItemId = itemId then plan.row.amount else 0 := by
  rw [settledIn_eq_plannedFor booked.posts.planned, booked.planned, plannedFor, sumWhere_singleton]

theorem Booked.ofPlan (kept : Kept state) (ready : Ready state (.post writeOffId plan userId))
    (written : writeWork state (.post writeOffId plan userId) = .ok next)
    (isBooked : bookPlan state.db.books writeOffId plan userId = .ok (entryId, next.db.books)) :
    Booked next.db writeOffId entryId plan.row.amount := by
  obtain ⟨found, approved, foundItem, -, -⟩ := ready
  obtain ⟨drafted, entry, ledger, posting, rows, booked, after⟩ := bookPlan_ok isBooked
  have soundDrafted := booked.quiet.step.sound kept.sound
  have foundPosted : next.db.books.entries[entryId]? = some (entry.withPosting posting) := by
    rw [after]
    exact (found_set booked.posts.found).mpr (Or.inl ⟨rfl, rfl⟩)
  constructor
  · refine ⟨plan.row, plan.item, ?_, approved, rfl, ?_, ?_, ?_⟩
    · rw [writeWork_rows written]
      exact found
    · have foundDrafted : drafted.openItems[plan.row.openItemId]? = some plan.item := by
        rw [booked.quiet.openItems]
        exact foundItem
      rw [after]
      exact found_append foundDrafted
    · obtain ⟨origin, foundOrigin, -⟩ := kept.sound.linked.item (mem_of_getElem? foundItem)
      rw [booked.place]
      exact (found_lt foundOrigin).ne
    · rw [after, settledBy_posted soundDrafted.linked booked.posts, booked.settles, if_pos rfl]
  · refine ⟨_, foundPosted, by simp [JournalEntry.isPosted, JournalEntry.withPosting], ?_⟩
    exact booked.key

section

variable (kept : Kept state) (ready : Ready state work) (written : writeWork state work = .ok next)
include kept ready written

theorem Kept.proposals_after : ProposalsOpen next.db := by
  cases work with
  | insert row =>
    obtain rfl := pure_ok.mp written
    exact kept.proposals.inserted ready.2
  | decide writeOffId decided flags =>
    obtain ⟨row, found, proposed, sameItem, closed, -, flagged⟩ := ready
    obtain rfl := pure_ok.mp written
    cases flags with
    | none => exact kept.proposals.decided found proposed sameItem closed
    | some item =>
      have foundItem := flagged item rfl
      rw [sameItem] at foundItem
      change ProposalsOpen { state.db with
        books := flagItem state.db.books decided.openItemId item decided.effectiveOn
        writeOffs := state.db.writeOffs.set writeOffId decided }
      rw [sameItem]
      exact kept.proposals.approved found proposed sameItem closed foundItem
  | journal | post | reverse | repeated | putSettings =>
    exact kept.proposals.services (writeWork_rows written) (writeWork_services kept.sound written (by simp))

theorem Kept.approved_after :
    ∀ row ∈ next.db.writeOffs, row.status = .approved → ByOther row := by
  intro row member approved
  rw [writeWork_rows written] at member
  cases work with
  | insert added =>
    rcases mem_append.mp member with old | isAdded
    · exact kept.approved row old approved
    · obtain rfl := mem_singleton.mp isAdded
      simp [ready.1] at approved
  | decide writeOffId decided flags =>
    obtain ⟨old, -, -, -, -, byOther, -⟩ := ready
    rcases mem_or_eq_of_mem_set member with before | rfl
    · exact kept.approved row before approved
    · exact byOther approved
  | journal | post | reverse | repeated | putSettings => exact kept.approved row member approved

end

theorem postedId_notPosted (notPosted : NotPosted records writeOffId) :
    writeOffId ∉ records.filterMap postedId := by
  intro member
  obtain ⟨record, recorded, isPosted⟩ := mem_filterMap.mp member
  cases record with
  | posted place entryId amount =>
    cases isPosted
    exact notPosted entryId amount recorded
  | postingReversed place entryId reversalId => cases isPosted

theorem Kept.written (kept : Kept state) (ready : Ready state work)
    (written : writeWork state work = .ok next) : Kept next := by
  have steps := writeWork_steps kept.sound ready written
  have old : ∀ writeOffId entryId amount, PostingRecord.posted writeOffId entryId amount ∈ state.records →
      Booked next.db writeOffId entryId amount :=
    fun writeOffId entryId amount recorded => (kept.booked writeOffId entryId amount recorded).kept kept.sound steps
      fun row found approved => approved_row_kept ready written found approved
  refine ⟨steps.sound kept.sound, kept.proposals_after ready written, kept.approved_after ready written, ?_, ?_⟩
  · intro writeOffId entryId amount recorded
    rcases writeWork_records written with same | ⟨place, reversed, reversalId, added⟩ |
      ⟨place, posted, plan, userId, added, rfl, booked⟩
    · exact old writeOffId entryId amount (same ▸ recorded)
    · rw [added, mem_append, mem_singleton] at recorded
      exact old writeOffId entryId amount (recorded.resolve_right (by simp))
    · rw [added, mem_append, mem_singleton] at recorded
      rcases recorded with before | isNew
      · exact old writeOffId entryId amount before
      · obtain ⟨rfl, rfl, rfl⟩ := PostingRecord.posted.inj isNew
        exact Booked.ofPlan kept ready written booked
  · rcases writeWork_records written with same | ⟨place, reversed, reversalId, added⟩ |
      ⟨place, posted, plan, userId, added, rfl, booked⟩
    · exact same ▸ kept.once
    · rw [added, filterMap_append, filterMap_cons_none rfl, filterMap_nil, append_nil]
      exact kept.once
    · have isNew : [PostingRecord.posted place posted plan.row.amount].filterMap postedId = [place] := rfl
      rw [added, filterMap_append, isNew]
      apply kept.once.append (nodup_singleton _)
      rw [disjoint_singleton]
      exact postedId_notPosted ready.2.2.2.2

/-- No request under way, nothing recorded. -/
def idle (start : Db) : Config Audited Work := ⟨{ db := start }, []⟩

/-- The tables after an interleaving of requests. -/
def reached (start : Db) (moves : List (Move WriteOffCall)) : Audited :=
  (run writeOffProtocol.step (idle start) moves).state

theorem kept_step (config : Config Audited Work) (move : Move WriteOffCall) (next : Config Audited Work)
    (holds : Protocol.Holds Kept Ready writeOffProtocol.Free config)
    (moved : writeOffProtocol.step config move = .ok next) :
    Protocol.Holds Kept Ready writeOffProtocol.Free next := by
  refine LateProtocol.interleaving_step ?_ ?_ ?_ config move next holds moved
  · exact fun state call work kept read => readWork_ready kept read
  · exact fun state work next kept ready written => kept.written ready written
  · exact fun state work other next kept ready readyOther free passes written =>
      ready.beside kept readyOther free passes written

theorem idle_holds (fresh : start.books.Fresh) (noWriteOffs : start.writeOffs = []) :
    Protocol.Holds Kept Ready writeOffProtocol.Free (idle start) := by
  apply Protocol.holds_initial
  constructor
  · exact fresh.sound
  · constructor <;> simp [noWriteOffs]
  · simp [noWriteOffs]
  · simp
  · exact nodup_nil

/-- A recorded posting booked an approved write off with all that was open, and left nothing open. -/
def PostsToZero (before after : Audited) : Prop :=
  ∀ writeOffId entryId amount, after.records = before.records ++ [.posted writeOffId entryId amount] →
    ∃ row, before.db.writeOffs[writeOffId]? = some row ∧ row.status = .approved ∧ row.amount = amount ∧
      remaining before.db.books row.openItemId none = .ok amount ∧
      remaining after.db.books row.openItemId none = .ok 0

/-- Whoever reverses the entry of a posting gives its item the posted amount back. -/
def GivesBack (before after : Audited) : Prop :=
  ∀ writeOffId entryId amount entry kept, .posted writeOffId entryId amount ∈ before.records →
    before.db.books.entries[entryId]? = some entry → after.db.books.entries[entryId]? = some kept →
    entry.reversedById = none → kept.reversedById.isSome →
    ∃ row rest, before.db.writeOffs[writeOffId]? = some row ∧
      remaining before.db.books row.openItemId none = .ok rest ∧
      remaining after.db.books row.openItemId none = .ok (rest + amount)

theorem PostsToZero.same (state : Audited) : PostsToZero state state := by
  intro writeOffId entryId amount recorded
  simp at recorded

theorem GivesBack.same (state : Audited) : GivesBack state state := by
  intro writeOffId entryId amount entry kept recorded found foundKept unreversed reversed
  obtain rfl : entry = kept := Option.mem_unique found foundKept
  simp [unreversed] at reversed

theorem remaining_of_found (found : books.openItems[itemId]? = some item)
    (asOf : Option Date) : remaining books itemId asOf = .ok (item.amount - settled books itemId asOf) := by
  rw [remaining, found]
  rfl

theorem written_postsToZero (ready : Ready state work)
    (written : writeWork state work = .ok next) : PostsToZero state next := by
  intro writeOffId entryId amount recorded
  rcases writeWork_records written with same | ⟨place, reversed, reversalId, added⟩ |
    ⟨place, posted, plan, userId, added, rfl, isBooked⟩
  · simp [same] at recorded
  · simp [added] at recorded
  · obtain ⟨rfl, rfl, rfl⟩ : place = writeOffId ∧ posted = entryId ∧ plan.row.amount = amount := by
      simpa [added] using recorded
    obtain ⟨found, approved, foundItem, rest, -⟩ := ready
    obtain ⟨drafted, entry, ledger, posting, rows, booked, after⟩ := bookPlan_ok isBooked
    have foundDrafted : drafted.openItems[plan.row.openItemId]? = some plan.item := by
      rw [booked.quiet.openItems]
      exact foundItem
    have foundNext : next.db.books.openItems[plan.row.openItemId]? = some plan.item := by
      rw [after]
      exact found_append foundDrafted
    have settledDrafted : settled drafted plan.row.openItemId none =
        settled state.db.books plan.row.openItemId none := by
      rw [settled, booked.quiet.settlements, settled]
    refine ⟨plan.row, found, approved, rfl, ?_, ?_⟩
    · rw [remaining_of_found foundItem, rest]
    · rw [remaining_of_found foundNext, after, settled_posted booked.posts, if_pos within_none, booked.settles,
        if_pos rfl, settledDrafted, ← rest, add_sub_cancel, sub_self]

section

variable (kept : Kept state) (ready : Ready state work) (written : writeWork state work = .ok next)
include kept ready written

/-- A request that turns an entry into a reversed one reversed it and did nothing else to the books. -/
theorem written_reverses (found : state.db.books.entries[entryId]? = some entry)
    (foundKept : next.db.books.entries[entryId]? = some keptEntry) (unreversed : entry.reversedById = none)
    (reversed : keptEntry.reversedById.isSome) :
    ∃ ledger bookingDate reversal posting, Reverses state.db.books entryId entry ledger bookingDate reversal posting ∧
      next.db.books = state.db.books.reversed entryId entry bookingDate reversal posting := by
  have changed : state.db.books.entries[entryId]? ≠ some keptEntry := by
    intro same
    obtain rfl : entry = keptEntry := Option.mem_unique found same
    simp [unreversed] at reversed
  cases work with
  | insert | repeated | putSettings =>
    obtain rfl := pure_ok.mp written
    exact absurd foundKept changed
  | decide writeOffId decided flags =>
    obtain rfl := pure_ok.mp written
    cases flags with
    | none => exact absurd foundKept changed
    | some item => exact absurd foundKept changed
  | post writeOffId plan userId =>
    simp only [writeWork, bind_ok, pure_ok] at written
    obtain ⟨⟨place, books⟩, isBooked, rfl⟩ := written
    obtain ⟨drafted, draft, ledger, posting, rows, booked, rfl⟩ := bookPlan_ok isBooked
    rcases (found_set booked.posts.found).mp foundKept with ⟨rfl, -⟩ | ⟨-, same⟩
    · rw [booked.place] at found
      exact absurd (found_lt found) (lt_irrefl _)
    · rw [booked.drafts] at same
      rcases found_append_one.mp same with old | ⟨rfl, -⟩
      · exact absurd old changed
      · exact absurd (found_lt found) (lt_irrefl _)
  | journal call =>
    simp only [writeWork, bind_ok, pure_ok] at written
    obtain ⟨db, accepted, rfl⟩ := written
    rcases journalStep_step accepted kept.sound.linked.draftOpen with same | step
    · rw [same] at foundKept
      exact absurd foundKept changed
    · exact step.reverses_entry found unreversed foundKept reversed
  | reverse writeOffId ledgerId place reason bookingDate userId =>
    simp only [writeWork, bind_ok, pure_ok] at written
    obtain ⟨⟨reversalId, db⟩, isReversed, rfl⟩ := written
    obtain ⟨original, ledger, reversal, posting, orders, reverses, -, -, -, rfl⟩ := reverse_ok isReversed
    have step := LedgerStep.reverse place original ledger bookingDate reversal posting reverses
    exact step.reverses_entry found unreversed foundKept reversed

theorem written_givesBack : GivesBack state next := by
  intro writeOffId entryId amount entry keptEntry recorded found foundKept unreversed reversed
  obtain ⟨ledger, bookingDate, reversal, posting, reverses, after⟩ :=
    written_reverses kept ready written found foundKept unreversed reversed
  obtain ⟨row, item, foundRow, -, -, foundItem, notOwn, settles⟩ :=
    (kept.booked writeOffId entryId amount recorded).row
  have foundNext : next.db.books.openItems[row.openItemId]? = some item := by
    rw [after]
    exact foundItem
  refine ⟨row, _, foundRow, remaining_of_found foundItem none, ?_⟩
  rw [remaining_of_found foundNext, after, settled_reversed foundItem, if_pos within_none, if_neg notOwn, settles]
  congr 1
  ring

end

/-- In every interleaving of requests on write offs and on the journal an item has one write off in progress at
most, every approved write off was approved by another person than proposed it, each write off is posted once at
most, its posting leaves nothing of the item open, and reversing the posting gives back what it settled. -/
theorem write_offs_in_any_order (start : Db) (fresh : start.books.Fresh) (noWriteOffs : start.writeOffs = [])
    (moves : List (Move WriteOffCall)) :
    (∀ (first second : WriteOffId) (one other : OpenItemWriteOff),
      (reached start moves).db.writeOffs[first]? = some one → (reached start moves).db.writeOffs[second]? = some other →
      one.status ≠ .rejected → other.status ≠ .rejected → one.openItemId = other.openItemId → first = second) ∧
    (∀ row ∈ (reached start moves).db.writeOffs, row.status = .approved → ByOther row) ∧
    ((reached start moves).records.filterMap postedId).Nodup ∧
    ∀ moment ∈ trace writeOffProtocol.step (idle start) moves,
      PostsToZero moment.before.state moment.after.state ∧ GivesBack moment.before.state moment.after.state := by
  have holds := run_invariant kept_step moves (idle_holds fresh noWriteOffs)
  refine ⟨holds.state.proposals.single, holds.state.approved, holds.state.once, ?_⟩
  intro moment member
  obtain ⟨before, moved⟩ := trace_invariant kept_step moves (idle_holds fresh noWriteOffs) moment member
  have relates : ∀ state work next, Kept state → Ready state work → writeWork state work = .ok next →
      PostsToZero state next ∧ GivesBack state next :=
    fun state work next kept ready written => ⟨written_postsToZero ready written, written_givesBack kept ready written⟩
  exact (LateProtocol.step_ok moved).1.relates before (fun state => ⟨.same state, .same state⟩) relates

def sampleSettings : TenantSettings :=
  { writeOffApprovalEnabled := true, writeOffPosting := true, writeOffCounterAccount := some "400000" }

def sampleTenant : Db := { sampleDb with settings := sampleSettings }

/-- Requests served one after the other. -/
def inTurn (calls : List WriteOffCall) : List (Move WriteOffCall) :=
  calls.flatMap fun call => [.start call, .commit 0]

def sampleProposal : List WriteOffCall :=
  [.journal (sampleReceivable (.ofYmd 2026 1 1) 100), .journal (.postEntry 0 0 7),
   .propose 0 (.ofYmd 2026 4 5) "Mieter insolvent" none (some 8) (.ofYmd 2026 4 10)]

/-- The second posting starts while the first one is under way, and once more after it. -/
def samplePosting : List (Move WriteOffCall) :=
  inTurn (sampleProposal ++ [.decide 0 .approve none 7 true]) ++
    [.start (.post 0 100 1 7 true), .start (.post 0 100 1 9 true), .commit 0,
     .start (.post 0 100 1 9 true), .commit 0] ++
    inTurn [.reversePosting 0 "Zahlung doch eingegangen" none 7 true (.ofYmd 2026 5 1)]

theorem sample_write_off :
    (reached sampleTenant samplePosting).records = [.posted 0 1 100, .postingReversed 0 1 2] ∧
    remaining (reached sampleTenant samplePosting).db.books 0 none = .ok 100 ∧
    ((reached sampleTenant samplePosting).records.filterMap postedId).Nodup := by
  refine ⟨by decide +kernel, by decide +kernel, ?_⟩
  exact (write_offs_in_any_order sampleTenant sample_fresh rfl samplePosting).2.2.1

/-- Person 8 rejects the own proposal. -/
theorem proposer_rejects_own_proposal :
    ¬ ∀ (start : Db), start.books.Fresh → start.writeOffs = [] → ∀ moves : List (Move WriteOffCall),
      ∀ row ∈ (reached start moves).db.writeOffs, row.status ≠ .proposed → ByOther row := by
  intro decided
  have rejected : (⟨0, .rejected, .ofYmd 2026 4 5, 100, "Mieter insolvent", none, some 8, some 8, none, by decide⟩ :
      OpenItemWriteOff) ∈
      (reached sampleTenant (inTurn (sampleProposal ++ [.decide 0 .reject none 8 true]))).db.writeOffs := by
    decide +kernel
  obtain ⟨proposer, decider, isProposer, isDecider, different⟩ :=
    decided sampleTenant sample_fresh rfl _ _ rejected (by simp)
  exact different ((Option.some.inj isDecider).symm.trans (Option.some.inj isProposer))

end Mhvp.Accounting.WriteOffs
