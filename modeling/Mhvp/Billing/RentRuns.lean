import Mhvp.Billing.RentStatements
import Mhvp.Lib.Versions

namespace Mhvp.Billing.RentStatements

open Core Accounting Lib.Calendar List

/-- What the loops over the rows have done so far. -/
structure Drafts where
  entries : ResultEntries
  ids : List EntryId

/-- `write_draft` -/
def Drafts.write (drafts : Drafts) (entry : ResultEntry) : Drafts where
  entries := drafts.entries ++ [some entry]
  ids := drafts.ids ++ [drafts.entries.length]

section Rows

variable (statement : RentStatement) (statementId : StatementId) (bookingDate dueDate : Date) (policy : DeadlinePolicy)
  (surroundings : Surroundings)

def debtorOf (contractId : ContractId) : Option AccountId :=
  (surroundings.debtors.find? fun row => row.1 = contractId).map Prod.snd

/-- The mark of the calculation locks an additional payment. -/
def SnapshotRow.blocked (row : SnapshotRow) : Bool :=
  policy = .blockClaims ∧ 0 < row.balance ∧ row.lateClaimBlocked ∧ statement.deadlineExceptionEffective = false

def resultEntry (row : SnapshotRow) (debtor : AccountId) : ResultEntry where
  ledgerId := statement.ledgerId
  bookingDate := bookingDate
  dueDate := some dueDate
  accrualDate := statement.periodTo
  text := clip ("Betriebskostenabrechnung " ++ toString statement.periodFrom.year ++ " " ++
    (if 0 < row.balance then "Nachzahlung" else "Guthaben") ++ " Einheit " ++ row.unitNumber) 500
  contractId := row.contractId
  idempotencyKey := .rentStatement statementId row.contractId
  debtor := debtor
  amount := row.balance

def resultDraft (drafts : Drafts) (row : SnapshotRow) : Result Drafts :=
  if row.balance = 0 then pure drafts
  else do
    require (SnapshotRow.blocked statement policy row = false) .conflict
      (some ("Einheit " ++ row.unitNumber ++ ": Nachforderung nach Fristablauf gesperrt."))
    if Keyed drafts.entries statement.ledgerId (.rentStatement statementId row.contractId) then pure drafts
    else do
      let debtor ← orRefuse (debtorOf surroundings row.contractId) .conflict
        (some ("Kein Debitor für Einheit " ++ row.unitNumber ++ "."))
      pure (drafts.write (resultEntry statement statementId bookingDate dueDate row debtor))

def offsetEntry (row : SnapshotRow) (debtor : AccountId) : ResultEntry where
  ledgerId := statement.ledgerId
  bookingDate := bookingDate
  accrualDate := statement.periodTo
  text := clip ("Verrechnung offener Vorauszahlungen mit Betriebskostenabrechnung " ++
    toString statement.periodFrom.year ++ " Einheit " ++ row.unitNumber) 500
  contractId := row.contractId
  idempotencyKey := .rentStatementOffset statementId row.contractId
  debtor := debtor
  amount := -(row.offsetItems.map OffsetItem.remaining).sum

/-- One round of `_offset_drafts`. -/
def offsetDraft (drafts : Drafts) (row : SnapshotRow) : Result Drafts :=
  if row.openAdvanceMode ≠ .offsetReversal ∨ row.offsetItems = [] then pure drafts
  else if Keyed drafts.entries statement.ledgerId (.rentStatementOffset statementId row.contractId) then pure drafts
  else do
    let missing := some ("Verrechnung offener Vorauszahlungen Einheit " ++ row.unitNumber ++
      ": Debitor oder Gegenkonto fehlt.")
    let debtor ← orRefuse (debtorOf surroundings row.contractId) .conflict missing
    require (∀ item ∈ row.offsetItems, item.counterAccountId.isSome) .conflict missing
    pure (drafts.write (offsetEntry statement statementId bookingDate row debtor))

end Rows

/-- The entries of the version that is superseded are reversed or deleted. -/
def ensureSupersededResultsReversed (state : RentState) (statement : RentStatement) : Result Unit :=
  match statement.supersedesId.bind (state.statements[·]?) with
  | none => pure ()
  | some old =>
    require (∀ entryId ∈ old.resultEntryIds, ∀ entry ∈ storedEntry state.entries entryId,
        entry.posted = true ∧ entry.reversed = true) .conflict
      (some ("Ergebnisbuchungen der ersetzten Abrechnung bestehen noch: zuerst stornieren oder den Entwurf " ++
        "verwerfen."))

/-- Drafts of the results; in a second call rows that have an entry already are passed over. -/
def createResultDrafts (state : RentState) (statementId : StatementId) (statement : RentStatement)
    (snapshot : StatementSnapshot) (bookingDate dueDate : Date) (surroundings : Surroundings) : Result RentState := do
  let _ ← orRefuse surroundings.resultAccount .conflict
    (some "Konto für Abrechnungsergebnisse (Zahlungsart statement_result) fehlt.")
  ensureSupersededResultsReversed state statement
  let drafts ← snapshot.rows.foldlM (resultDraft statement statementId bookingDate dueDate state.policy surroundings)
    ⟨state.entries, statement.resultEntryIds⟩
  let drafts ← snapshot.rows.foldlM (offsetDraft statement statementId bookingDate surroundings) drafts
  pure { state with
    entries := drafts.entries
    statements := state.statements.set statementId { statement with resultEntryIds := drafts.ids } }

def createResultEntries (state : RentState) (statementId : StatementId) (bookingDate dueDate : Date)
    (surroundings : Surroundings) : Result RentState := do
  require (surroundings.gateOpen = true) .releaseGateClosed
  let statement ← statementOf state statementId
  require (statement.status = .due) .conflict (some "Ergebnisbuchung erst im Status fällig (6.9.3).")
  let snapshot ← snapshotOf statement
  createResultDrafts state statementId statement snapshot bookingDate dueDate surroundings

/-- The row is booked by the next call: it has a result and no entry yet. -/
def Pending (entries : ResultEntries) (ledgerId : LedgerId) (statementId : StatementId) (row : SnapshotRow) : Prop :=
  row.balance ≠ 0 ∧ ¬ Keyed entries ledgerId (.rentStatement statementId row.contractId)

/-- Entry of the result of a row. -/
structure Books (statement : RentStatement) (statementId : StatementId) (row : SnapshotRow) (entry : ResultEntry) :
    Prop where
  ledgerId : entry.ledgerId = statement.ledgerId
  contractId : entry.contractId = row.contractId
  key : entry.idempotencyKey = .rentStatement statementId row.contractId
  amount : entry.amount = row.balance
  inForce : entry.InForce

/-- Entry that offsets open advances against the result. -/
def Offsets (statementId : StatementId) (entry : ResultEntry) : Prop :=
  ∃ contractId, entry.idempotencyKey = .rentStatementOffset statementId contractId

theorem keyed_append :
    Keyed (entries ++ [some entry]) ledgerId key ↔
      Keyed entries ledgerId key ∨ entry.ledgerId = ledgerId ∧ entry.idempotencyKey = key := by
  constructor
  · rintro ⟨row, member, found, isFound, same⟩
    rcases mem_append.mp member with old | new
    · exact Or.inl ⟨row, old, found, isFound, same⟩
    · obtain rfl := mem_singleton.mp new
      obtain rfl := Option.mem_some.mp isFound
      exact Or.inr same
  · rintro (⟨row, old, found, isFound, same⟩ | same)
    · exact ⟨row, mem_append_left _ old, found, isFound, same⟩
    · exact ⟨some entry, mem_append_right _ (mem_singleton_self _), entry, rfl, same⟩

/-- The loop over the results appends one entry for every pending row, none of them locked. -/
structure Written (statement : RentStatement) (statementId : StatementId) (policy : DeadlinePolicy)
    (entries next : ResultEntries) (rows : List SnapshotRow) (added : List ResultEntry) : Prop where
  appended : next = entries ++ added.map some
  books : ∀ entry ∈ added, ∃ row ∈ rows, Pending entries statement.ledgerId statementId row ∧
    Books statement statementId row entry
  booked : ∀ row ∈ rows, Pending entries statement.ledgerId statementId row →
    ∃ entry ∈ added, Books statement statementId row entry
  unblocked : ∀ row ∈ rows, row.balance ≠ 0 → SnapshotRow.blocked statement policy row = false

section Loop

variable {statement : RentStatement} {statementId : StatementId} {bookingDate dueDate : Date} {policy : DeadlinePolicy}
  {surroundings : Surroundings} {drafts next : Drafts} {row : SnapshotRow} {rows : List SnapshotRow}

theorem resultDraft_ok
    (drafted : resultDraft statement statementId bookingDate dueDate policy surroundings drafts row = .ok next) :
    (row.balance ≠ 0 → SnapshotRow.blocked statement policy row = false) ∧
      (next = drafts ∧ ¬ Pending drafts.entries statement.ledgerId statementId row ∨
        Pending drafts.entries statement.ledgerId statementId row ∧
          ∃ entry, Books statement statementId row entry ∧ next = drafts.write entry) := by
  unfold resultDraft at drafted
  split at drafted
  · rename_i zero
    rw [pure_ok] at drafted
    exact ⟨fun notZero => absurd zero notZero, Or.inl ⟨drafted.symm, fun pending => pending.1 zero⟩⟩
  · rename_i notZero
    simp only [bind_ok, exists_unit, require_ok] at drafted
    obtain ⟨unblocked, drafted⟩ := drafted
    refine ⟨fun _ => unblocked, ?_⟩
    split at drafted
    · rename_i keyed
      rw [pure_ok] at drafted
      exact Or.inl ⟨drafted.symm, fun pending => pending.2 keyed⟩
    · rename_i unkeyed
      simp only [bind_ok, orRefuse_ok, pure_ok] at drafted
      obtain ⟨debtor, -, written⟩ := drafted
      refine Or.inr ⟨⟨notZero, unkeyed⟩, _, ?_, written.symm⟩
      exact ⟨rfl, rfl, rfl, rfl, rfl⟩

theorem pending_append (books : Books statement statementId row entry)
    (differs : other.contractId ≠ row.contractId) :
    Pending (entries ++ [some entry]) statement.ledgerId statementId other ↔
      Pending entries statement.ledgerId statementId other := by
  unfold Pending
  rw [keyed_append, books.key]
  constructor
  · exact fun pending => ⟨pending.1, fun keyed => pending.2 (Or.inl keyed)⟩
  · rintro ⟨notZero, unkeyed⟩
    refine ⟨notZero, ?_⟩
    rintro (keyed | ⟨-, same⟩)
    · exact unkeyed keyed
    · injection same with _ sameContract
      exact differs sameContract.symm

theorem resultDrafts_ok (distinct : (rows.map fun row => row.contractId).Nodup)
    (drafted : rows.foldlM (resultDraft statement statementId bookingDate dueDate policy surroundings) drafts =
      .ok next) :
    ∃ added, Written statement statementId policy drafts.entries next.entries rows added := by
  induction rows generalizing drafts with
  | nil =>
    obtain rfl : drafts = next := by simpa using drafted
    exact ⟨[], by simp, nofun, nofun, nofun⟩
  | cons row rest ih =>
    rw [map_cons, nodup_cons] at distinct
    rw [foldlM_cons, bind_ok] at drafted
    obtain ⟨between, first, drafted⟩ := drafted
    obtain ⟨added, written⟩ := ih distinct.2 drafted
    obtain ⟨unblocked, ⟨rfl, notPending⟩ | ⟨pending, entry, books, rfl⟩⟩ := resultDraft_ok first
    · refine ⟨added, written.appended, ?_, ?_, ?_⟩
      · intro entry member
        obtain ⟨booked, inRest, isBooked⟩ := written.books entry member
        exact ⟨booked, mem_cons_of_mem row inRest, isBooked⟩
      · intro other member isPending
        rcases mem_cons.mp member with rfl | inRest
        · exact absurd isPending notPending
        · exact written.booked other inRest isPending
      · intro other member
        rcases mem_cons.mp member with rfl | inRest
        · exact unblocked
        · exact written.unblocked other inRest
    · have others : ∀ other ∈ rest, other.contractId ≠ row.contractId :=
        fun other member same => distinct.1 (mem_map.mpr ⟨other, member, same⟩)
      refine ⟨entry :: added, ?_, ?_, ?_, ?_⟩
      · simpa [Drafts.write] using written.appended
      · intro written' member
        rcases mem_cons.mp member with rfl | later
        · exact ⟨row, mem_cons_self, pending, books⟩
        · obtain ⟨booked, inRest, stillPending, isBooked⟩ := written.books written' later
          have before := (pending_append books (others booked inRest)).mp stillPending
          exact ⟨booked, mem_cons_of_mem row inRest, before, isBooked⟩
      · intro other member isPending
        rcases mem_cons.mp member with rfl | inRest
        · exact ⟨entry, mem_cons_self, books⟩
        · have after := (pending_append books (others other inRest)).mpr isPending
          obtain ⟨found, inAdded, isBooked⟩ := written.booked other inRest after
          exact ⟨found, mem_cons_of_mem entry inAdded, isBooked⟩
      · intro other member
        rcases mem_cons.mp member with rfl | inRest
        · exact unblocked
        · exact written.unblocked other inRest

theorem offsetDraft_ok (drafted : offsetDraft statement statementId bookingDate surroundings drafts row = .ok next) :
    next = drafts ∨ ∃ entry, Offsets statementId entry ∧ next = drafts.write entry := by
  unfold offsetDraft at drafted
  split at drafted
  · exact Or.inl (pure_ok.mp drafted).symm
  · split at drafted
    · exact Or.inl (pure_ok.mp drafted).symm
    · simp only [bind_ok, exists_unit, require_ok, orRefuse_ok, pure_ok] at drafted
      obtain ⟨debtor, -, -, written⟩ := drafted
      exact Or.inr ⟨_, ⟨row.contractId, rfl⟩, written.symm⟩

theorem offsetDrafts_ok
    (drafted : rows.foldlM (offsetDraft statement statementId bookingDate surroundings) drafts = .ok next) :
    ∃ added : List ResultEntry, next.entries = drafts.entries ++ added.map some ∧
      ∀ entry ∈ added, Offsets statementId entry := by
  induction rows generalizing drafts with
  | nil =>
    obtain rfl : drafts = next := by simpa using drafted
    exact ⟨[], by simp, nofun⟩
  | cons row rest ih =>
    rw [foldlM_cons, bind_ok] at drafted
    obtain ⟨between, first, drafted⟩ := drafted
    obtain ⟨added, appended, offsets⟩ := ih drafted
    rcases offsetDraft_ok first with rfl | ⟨entry, isOffset, rfl⟩
    · exact ⟨added, appended, offsets⟩
    · refine ⟨entry :: added, ?_, ?_⟩
      · simpa [Drafts.write] using appended
      · intro other member
        rcases mem_cons.mp member with rfl | later
        · exact isOffset
        · exact offsets other later

end Loop

/-- What an accepted booking leaves: an entry per pending row of the snapshot, and offsets. -/
structure Booking (state : RentState) (statementId : StatementId) (next : RentState) (statement : RentStatement)
    (snapshot : StatementSnapshot) (added offsets : List ResultEntry) (ids : List EntryId) : Prop where
  found : state.statements[statementId]? = some statement
  due : statement.status = .due
  isSnapshot : statement.snapshot = some snapshot
  superseded : ensureSupersededResultsReversed state statement = .ok ()
  written : Written statement statementId state.policy state.entries (state.entries ++ added.map some) snapshot.rows
    added
  isOffset : ∀ entry ∈ offsets, Offsets statementId entry
  isNext : next = { state with
    entries := state.entries ++ added.map some ++ offsets.map some
    statements := state.statements.set statementId { statement with resultEntryIds := ids } }

theorem createResultEntries_ok {next}
    (accepted : createResultEntries state statementId bookingDate dueDate surroundings = .ok next) :
    ∃ statement snapshot added offsets ids, Booking state statementId next statement snapshot added offsets ids := by
  simp only [createResultEntries, createResultDrafts, statementOf, snapshotOf, bind_ok, exists_unit, require_ok,
    orRefuse_ok, pure_ok] at accepted
  obtain ⟨-, statement, found, due, snapshot, isSnapshot, account, -, superseded, booked, loop, offset, offsetLoop,
    rfl⟩ := accepted
  obtain ⟨added, written⟩ := resultDrafts_ok snapshot.distinct loop
  obtain ⟨offsets, appended, isOffset⟩ := offsetDrafts_ok offsetLoop
  have entries := written.appended
  refine ⟨statement, snapshot, added, offsets, offset.ids, found, due, isSnapshot, superseded, ?_, isOffset, ?_⟩
  · rw [← entries]
    exact written
  · rw [appended, entries]

inductive RentCall
  | create (body : StatementIn) (userId : UserId) (landlord : Option Bool)
  | patch (statementId : StatementId) (body : StatementPatchIn) (surroundings : Surroundings)
  | calculate (statementId : StatementId) (calculation : Calculation) (today : Date)
  | transition (statementId : StatementId) (body : TransitionIn) (userId : UserId) (surroundings : Surroundings)
  | setPolicy (policy : DeadlinePolicy)
  | newVersion (statementId : StatementId) (reason : String) (userId : UserId)
  | putDelivery (statementId : StatementId) (contractId : ContractId) (deliveredAt : Date)
      (documentIds : List DocumentId) (surroundings : Surroundings)
  | createResultEntries (statementId : StatementId) (bookingDate dueDate : Date) (surroundings : Surroundings)
  | entry (call : EntryCall)

def serve (state : RentState) : RentCall → Result RentState
  | .create body userId landlord => create state body userId landlord
  | .patch statementId body surroundings => patchStatement state statementId body surroundings
  | .calculate statementId calculation today => calculate state statementId calculation today
  | .transition statementId body userId surroundings => transition state statementId body userId surroundings
  | .setPolicy policy => pure { state with policy }
  | .newVersion statementId reason userId => newVersion state statementId reason userId
  | .putDelivery statementId contractId deliveredAt documentIds surroundings =>
    putDelivery state statementId contractId deliveredAt documentIds surroundings
  | .createResultEntries statementId bookingDate dueDate surroundings =>
    createResultEntries state statementId bookingDate dueDate surroundings
  | .entry call => do
      let entries ← call.serve state.entries
      pure { state with entries }

/-- A draft nobody calculated. -/
def RentStatement.Fresh (statement : RentStatement) : Prop :=
  statement.status = .draft ∧ statement.snapshot = none ∧ statement.deliveredAt = none ∧ statement.resultEntryIds = []

/-- What a call may do to a statement: its head stays once it is no draft, its snapshot comes with the calculation,
its access with the issue. -/
inductive Changed (policy : DeadlinePolicy) (old new : RentStatement) : Prop
  | patched (draft : old.status = .draft) (body : StatementPatchIn) (isPatched : new = old.patched body)
  | calculated (draft : old.status = .draft) (calculation : Calculation) (today : Date)
      (isCalculated : new = { old with
        status := .calculated, snapshot := some (calculatedSnapshot old calculation today) })
  | issued (deliveredAt : Date) (result : StatementSnapshot) (isSnapshot : old.snapshot = some result)
      (checked : checkIssue old result deliveredAt policy = .ok ())
      (isIssued : new = { old with status := .issued, deliveredAt := some deliveredAt })
  | moved (target : StatementStatus) (allowed : target ∈ old.status.next)
      (isMoved : new = { old with status := target })
  | booked (due : old.status = .due) (ids : List EntryId) (isBooked : new = { old with resultEntryIds := ids })

/-- What a call does to the tables. -/
inductive Step (state next : RentState) : RentCall → Prop
  | added (statement : RentStatement) (fresh : statement.Fresh)
      (superseded : ∀ prior ∈ statement.supersedesId, ∃ old, state.statements[prior]? = some old ∧
        statement.ledgerId = old.ledgerId)
      (isNext : next = { state with statements := state.statements ++ [statement] }) : Step state next call
  | changed (statementId : StatementId) (old new : RentStatement) (found : state.statements[statementId]? = some old)
      (changed : Changed state.policy old new) (isNext : next = state.setStatement statementId new) :
      Step state next call
  | policy (policy : DeadlinePolicy) (isNext : next = { state with policy }) : Step state next (.setPolicy policy)
  | delivered (statement : RentStatement) (found : state.statements[statementId]? = some statement)
      (calculated : statement.snapshot.isSome) (results : List StatementResult)
      (isResults : ∀ result ∈ results, result ∈ state.results ∨ result = { statementId, contractId, deliveredAt })
      (isNext : next = { state with results }) :
      Step state next (.putDelivery statementId contractId deliveredAt documentIds surroundings)
  | booked (statement : RentStatement) (snapshot : StatementSnapshot) (added offsets : List ResultEntry)
      (ids : List EntryId) (booking : Booking state statementId next statement snapshot added offsets ids) :
      Step state next (.createResultEntries statementId bookingDate dueDate surroundings)
  | entries (call : EntryCall) (served : call.serve state.entries = .ok next.entries)
      (isNext : next = { state with entries := next.entries }) : Step state next (.entry call)

theorem moved_ok {next} : moved statement target = .ok next ↔
    checkTransition statement.status target false none false = none ∧ next = { statement with status := target } := by
  simp only [moved, bind_ok, permit_ok, exists_unit, pure_ok]
  exact and_congr_right fun _ => eq_comm

theorem transition_ok {next} (accepted : transition state statementId body userId surroundings = .ok next) :
    ∃ old new, state.statements[statementId]? = some old ∧ Changed state.policy old new ∧
      next = state.setStatement statementId new := by
  simp only [transition, statementOf, bind_ok, exists_unit, require_ok, orRefuse_ok, moved_ok, pure_ok] at accepted
  obtain ⟨-, old, found, -, -, issue, isIssue, -, moved, ⟨allowed, rfl⟩, rfl⟩ := accepted
  refine ⟨old, _, found, ?_, rfl⟩
  unfold issued at isIssue
  split at isIssue
  · rename_i isTarget
    simp only [snapshotOf, bind_ok, orRefuse_ok, exists_unit, pure_ok] at isIssue
    obtain ⟨deliveredAt, -, snapshot, isSnapshot, checked, rfl⟩ := isIssue
    exact .issued deliveredAt snapshot isSnapshot checked (by rw [isTarget])
  · obtain rfl := pure_ok.mp isIssue
    exact .moved body.target (checkTransition_next allowed) rfl

theorem serve_step {next} (accepted : serve state call = .ok next) : Step state next call := by
  cases call with
  | create body userId landlord =>
    simp only [serve, create, bind_ok, orRefuse_ok, exists_unit, require_ok, pure_ok] at accepted
    obtain ⟨-, isLandlord, -, -, rfl⟩ := accepted
    exact .added _ ⟨rfl, rfl, rfl, rfl⟩ (by rintro _ ⟨⟩) rfl
  | patch statementId body surroundings =>
    simp only [serve, patchStatement, statementOf, bind_ok, orRefuse_ok, exists_unit, require_ok, pure_ok] at accepted
    obtain ⟨old, found, draft, -, -, rfl⟩ := accepted
    exact .changed statementId old _ found (.patched draft body rfl) rfl
  | calculate statementId calculation today =>
    simp only [serve, calculate, statementOf, bind_ok, orRefuse_ok, exists_unit, require_ok, moved_ok, pure_ok]
      at accepted
    obtain ⟨old, found, draft, calculated, ⟨-, rfl⟩, rfl⟩ := accepted
    exact .changed statementId old _ found (.calculated draft calculation today rfl) rfl
  | transition statementId body userId surroundings =>
    obtain ⟨old, new, found, changed, isNext⟩ := transition_ok accepted
    exact .changed statementId old new found changed isNext
  | setPolicy policy => exact .policy policy (pure_ok.mp accepted).symm
  | newVersion statementId reason userId =>
    simp only [serve, newVersion, statementOf, bind_ok, orRefuse_ok, exists_unit, require_ok, pure_ok] at accepted
    obtain ⟨-, old, found, -, rfl⟩ := accepted
    exact .added _ ⟨rfl, rfl, rfl, rfl⟩ (by rintro _ ⟨⟩; exact ⟨old, found, rfl⟩) rfl
  | putDelivery statementId contractId deliveredAt documentIds surroundings =>
    simp only [serve, putDelivery, statementOf, bind_ok, orRefuse_ok, exists_unit, require_ok, pure_ok] at accepted
    obtain ⟨statement, found, snapshot, isSnapshot, -, -, -, -, rfl⟩ := accepted
    refine .delivered statement found ?_ _ ?_ rfl
    · have present := orRefuse_ok.mp isSnapshot
      rw [present]
      rfl
    · intro result member
      rcases mem_append.mp member with other | new
      · exact Or.inl (mem_filter.mp other).1
      · exact Or.inr (mem_singleton.mp new)
  | createResultEntries statementId bookingDate dueDate surroundings =>
    obtain ⟨statement, snapshot, added, offsets, ids, booking⟩ := createResultEntries_ok accepted
    exact .booked statement snapshot added offsets ids booking
  | entry call =>
    simp only [serve, bind_ok, pure_ok] at accepted
    obtain ⟨entries, served, rfl⟩ := accepted
    exact .entries call served rfl

theorem Step.entries_length {next} (step : Step state next call) :
    (∃ statementId bookingDate dueDate surroundings,
      call = .createResultEntries statementId bookingDate dueDate surroundings) ∨
    next.entries.length = state.entries.length := by
  cases step with
  | added statement fresh superseded isNext => exact Or.inr (by rw [isNext])
  | changed statementId old new found changed isNext => exact Or.inr (by rw [isNext]; rfl)
  | policy policy isNext => exact Or.inr (by rw [isNext])
  | delivered statement found calculated results isResults isNext => exact Or.inr (by rw [isNext])
  | booked => exact Or.inl ⟨_, _, _, _, rfl⟩
  | entries call served isNext =>
    obtain ⟨entryId, entry, row, -, isSet, -⟩ := call.serve_ok served
    exact Or.inr (by rw [isSet, length_set])

def sampleOffice : Surroundings where
  resultAccount := some 7
  debtors := [(0, 12)]

def samplePayment : Calculation where
  rows := [{ contractId := 0, unitNumber := "WE 1", balance := 100 }]
  distinct := by decide

def sampleCreated : RentCall :=
  .create { ledgerId := 3, periodFrom := Date.ofYmd 2024 1 1, periodTo := Date.ofYmd 2024 12 31 } 1 (some true)

/-- Calculated, approved by a second person, issued in March 2025 and due. -/
def broughtDue (statementId : StatementId) : List RentCall :=
  [.calculate statementId samplePayment (Date.ofYmd 2025 3 1),
    .transition statementId { target := .internallyApproved } 2 {},
    .transition statementId { target := .issued, deliveredAt := some (Date.ofYmd 2025 3 10) } 2 {},
    .transition statementId { target := .due } 2 {}]

end Mhvp.Billing.RentStatements
