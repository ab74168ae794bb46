import Mhvp.Accounting.DirectDebitRequests

namespace Mhvp.Accounting.DirectDebit

open Core Contacts Lib.Calendar Lib.Locking Lib.Table Lib.Transition List

/-- Collections of the item in runs that are not cancelled. -/
def activeDebits (db : Db) (itemId : OpenItemId) : List Order :=
  db.debits.filter fun order => order.openItemId = itemId ∧ InActiveRun db order

/-- Open items a request is about to collect. -/
def takenItems : DebitWork → List OpenItemId
  | .insert _ orders => orders.map Order.openItemId
  | _ => []

/-- What a request found still holds when it writes. -/
def DebitReady (db : Db) : DebitWork → Prop
  | .insert run orders => run.status = .draft ∧ (orders.map Order.openItemId).Nodup ∧
      ∀ order ∈ orders, order.openItemId ∉ itemsInActiveRuns db
  | .change runId run _ _ _ exports => ∃ old, db.debitRuns[runId]? = some old ∧ Continues old run exports
  | .elsewhere _ => True

structure CollectedOnce (db : Db) : Prop where
  runs : ∀ order ∈ db.debits, order.runId < db.debitRuns.length
  once : ∀ (first second : ℕ) (order other : Order), db.debits[first]? = some order →
    db.debits[second]? = some other → order.openItemId = other.openItemId → InActiveRun db order →
    InActiveRun db other → first = second

section Requests

variable {db next : Db} {work other : DebitWork} {run : Run} {order : Order}

theorem approve_continues (accepted : approve db runId userId isPlatformAdmin = .ok answer)
    (present : db.debitRuns[runId]? = some run) :
    run.status ∈ [.draft, RunStatus.approved] ∧ ∀ approval approved, answer = some (approval, approved) →
      approved.status ∈ [.draft, RunStatus.approved] := by
  simp only [approve, runOf, bind_ok, exists_unit, require_ok, orRefuse_ok] at accepted
  obtain ⟨row, same, isOpen, _, _, accepted⟩ := accepted
  obtain rfl : run = row := Option.mem_unique present same
  refine ⟨isOpen, ?_⟩
  intro approval approved isNew
  split at accepted
  · rw [← pure_ok.mp accepted] at isNew
    cases isNew
  · simp only [bind_ok, exists_unit] at accepted
    rw [← pure_ok.mp accepted.2] at isNew
    obtain ⟨rfl, rfl⟩ := Prod.mk.inj (Option.some.inj isNew)
    split
    · simp
    · exact isOpen

theorem continues_open (before : old.status ∈ [.draft, RunStatus.approved])
    (after : run.status ∈ [.draft, RunStatus.approved]) : Continues old run false := by
  simp only [mem_cons, not_mem_nil, or_false] at before after
  refine ⟨?_, ?_, ?_⟩
  · intro cancelled
    rcases before with before | before <;> simp [before] at cancelled
  · intro exported
    rcases before with before | before <;> simp [before] at exported
  · rcases after with after | after <;> simp [after]

theorem readDebit_ready (read : readDebit db request = .ok work) : DebitReady db work := by
  cases request with
  | createRun body =>
    simp only [readDebit, bind_ok, pure_ok] at read
    obtain ⟨⟨run, orders⟩, accepted, rfl⟩ := read
    have new := createRun_ok accepted
    exact ⟨new.draft, new.once, fun order member => (new.collects order member).free⟩
  | approveRun runId userId isPlatformAdmin =>
    simp only [readDebit, runOf, bind_ok, orRefuse_ok] at read
    obtain ⟨run, present, answer, accepted, read⟩ := read
    obtain ⟨isOpen, approves⟩ := approve_continues accepted present
    cases answer with
    | none =>
      obtain rfl := pure_ok.mp read
      exact ⟨run, present, continues_open isOpen isOpen⟩
    | some pair =>
      obtain rfl := pure_ok.mp read
      exact ⟨run, present, continues_open isOpen (approves pair.1 pair.2 rfl)⟩
  | cancelRun runId =>
    simp only [readDebit, cancelRun, runOf, bind_ok, exists_unit, require_ok, orRefuse_ok, pure_ok] at read
    obtain ⟨_, ⟨run, present, notExported, rfl⟩, rfl⟩ := read
    exact ⟨run, present, fun _ => rfl, fun exported => absurd exported notExported, by simp⟩
  | generateFile runId documentId =>
    simp only [readDebit, generateFile, runOf, bind_ok, exists_unit, require_ok, orRefuse_ok, pure_ok] at read
    obtain ⟨_, ⟨run, present, approved, _, _, _, _, _, _, _, _, rfl⟩, rfl⟩ := read
    refine ⟨run, present, ?_, ?_, by simp⟩
    · intro cancelled
      rw [approved] at cancelled
      cases cancelled
    · intro exported
      rw [approved] at exported
      cases exported
  | downloadFile runId gateOpen =>
    simp only [readDebit, downloadFile, runOf, bind_ok, exists_unit, require_ok, orRefuse_ok, pure_ok] at read
    obtain ⟨_, ⟨_, run, present, generated, _, rfl⟩, rfl⟩ := read
    refine ⟨run, present, ?_, fun _ => rfl, by simp⟩
    intro cancelled
    simp [cancelled] at generated
  | elsewhere tables =>
    obtain rfl := pure_ok.mp read
    trivial

theorem mem_itemsInActiveRuns : itemId ∈ itemsInActiveRuns db ↔
    ∃ order ∈ db.debits, InActiveRun db order ∧ order.openItemId = itemId := by
  simp [itemsInActiveRuns, and_assoc]

theorem notCancelled_iff : status ∈ activeRunStatuses ↔ status ≠ .cancelled := by
  cases status <;> simp [activeRunStatuses]

section

variable (present : db.debitRuns[runId]? = some old) (debitRuns : next.debitRuns = db.debitRuns.set runId run)
include present debitRuns

theorem runStatus_set (index : RunId) : runStatus next index = if index = runId then some run.status else runStatus db index := by
  unfold runStatus
  rw [debitRuns]
  by_cases same : index = runId
  · subst same
    rw [List.getElem?_set_self (found_lt present), if_pos rfl]
    rfl
  · rw [List.getElem?_set_ne (Ne.symm same), if_neg same]

theorem active_set (continues : Continues old run exports) (active : InActiveRun next order) : InActiveRun db order := by
  obtain ⟨status, isStatus, isActive⟩ := active
  rw [runStatus_set present debitRuns] at isStatus
  split at isStatus
  · rename_i same
    cases isStatus
    refine ⟨old.status, by rw [runStatus, same, present]; rfl, notCancelled_iff.mpr ?_⟩
    exact fun cancelled => notCancelled_iff.mp isActive (continues.cancelled cancelled)
  · exact ⟨status, isStatus, isActive⟩

end

/-- An order that is active after a write was active before, or is an order of the new run. -/
theorem writeDebit_active (ready : DebitReady db work) (runs : ∀ order ∈ db.debits, order.runId < db.debitRuns.length)
    (written : writeDebit db work = .ok next) (found : next.debits[place]? = some order)
    (active : InActiveRun next order) :
    (db.debits[place]? = some order ∧ InActiveRun db order) ∨
      (db.debits.length ≤ place ∧ order.openItemId ∈ takenItems work ∧ ∃ new, next.debits = db.debits ++ new ∧
        new.map Order.openItemId = takenItems work) := by
  cases work with
  | insert run orders =>
    obtain rfl := pure_ok.mp written
    rcases found_append_cases found with present | ⟨beyond, isNew⟩
    · refine Or.inl ⟨present, ?_⟩
      have ofOld := runs order (mem_of_getElem? present)
      obtain ⟨status, isStatus, isActive⟩ := active
      refine ⟨status, ?_, isActive⟩
      simpa only [runStatus, List.getElem?_append_left ofOld] using isStatus
    · refine Or.inr ⟨beyond, ?_, _, rfl, ?_⟩
      · obtain ⟨drawn, member, rfl⟩ := mem_map.mp isNew
        exact mem_map.mpr ⟨drawn, member, rfl⟩
      · rw [map_map]
        rfl
  | change runId run voids approval document exports =>
    obtain rfl := pure_ok.mp written
    obtain ⟨old, present, continues⟩ := ready
    exact Or.inl ⟨found, active_set present rfl continues active⟩
  | elsewhere tables =>
    obtain rfl := pure_ok.mp written
    exact Or.inl ⟨found, active⟩

theorem writeDebit_runs (runs : ∀ order ∈ db.debits, order.runId < db.debitRuns.length)
    (written : writeDebit db work = .ok next) : ∀ order ∈ next.debits, order.runId < next.debitRuns.length := by
  cases work with
  | insert run orders =>
    obtain rfl := pure_ok.mp written
    intro order member
    rw [length_append, length_singleton]
    rcases mem_append.mp member with old | isNew
    · exact Nat.lt_succ_of_lt (runs order old)
    · obtain ⟨drawn, _, rfl⟩ := mem_map.mp isNew
      exact Nat.lt_succ_self _
  | change runId run voids approval document exports =>
    obtain rfl := pure_ok.mp written
    simpa using runs
  | elsewhere tables =>
    obtain rfl := pure_ok.mp written
    exact runs

theorem CollectedOnce.write (once : CollectedOnce db) (ready : DebitReady db work)
    (written : writeDebit db work = .ok next) : CollectedOnce next where
  runs := writeDebit_runs once.runs written
  once := by
    intro first second order other found foundOther same active activeOther
    rcases writeDebit_active ready once.runs written found active with
      ⟨present, wasActive⟩ | ⟨beyond, taken, new, rows, items⟩
    · rcases writeDebit_active ready once.runs written foundOther activeOther with
        ⟨presentOther, wasActiveOther⟩ | ⟨_, takenOther, _⟩
      · exact once.once first second order other present presentOther same wasActive wasActiveOther
      · cases work with
        | insert run orders =>
          obtain ⟨drawn, member, isItem⟩ := mem_map.mp takenOther
          have busy := mem_itemsInActiveRuns.mpr ⟨order, mem_of_getElem? present, wasActive, same⟩
          exact absurd (isItem ▸ busy) (ready.2.2 drawn member)
        | change runId run voids approval document exports => cases takenOther
        | elsewhere tables => cases takenOther
    · cases work with
      | insert run orders =>
        rcases writeDebit_active ready once.runs written foundOther activeOther with
          ⟨presentOther, wasActiveOther⟩ | ⟨beyondOther, _, _⟩
        · obtain ⟨drawn, member, isItem⟩ := mem_map.mp taken
          have busy := mem_itemsInActiveRuns.mpr
            ⟨other, mem_of_getElem? presentOther, wasActiveOther, same.symm⟩
          exact absurd (isItem ▸ busy) (ready.2.2 drawn member)
        · rw [rows, List.getElem?_append_right beyond] at found
          rw [rows, List.getElem?_append_right beyondOther] at foundOther
          have distinct : (new.map Order.openItemId).Nodup := items ▸ ready.2.1
          have place := place_of_key distinct found foundOther same
          omega
      | change runId run voids approval document exports => cases taken
      | elsewhere tables => cases taken

/-- The run of another request that changes one stays. -/
theorem run_beside (free : debitProtocol.Free work (.change runId run voids approval document exports))
    (written : writeDebit db work = .ok next) (present : db.debitRuns[runId]? = some old) :
    next.debitRuns[runId]? = some old := by
  cases work with
  | insert added orders =>
    obtain rfl := pure_ok.mp written
    exact found_append present
  | change place changed _ _ _ _ =>
    obtain rfl := pure_ok.mp written
    have differ : runId ≠ place := fun same =>
      free place (by simp [debitProtocol, debitLocks]) (by simp [debitProtocol, debitLocks, same])
    exact (List.getElem?_set_ne (Ne.symm differ)).trans present
  | elsewhere tables =>
    obtain rfl := pure_ok.mp written
    exact present

theorem DebitReady.beside (once : CollectedOnce db) (ready : DebitReady db work) (readyOther : DebitReady db other)
    (free : debitProtocol.Free work other) (apart : ∀ itemId ∈ takenItems work, itemId ∉ takenItems other)
    (written : writeDebit db work = .ok next) : DebitReady next other := by
  cases other with
  | insert run orders =>
    obtain ⟨draft, distinct, notBusy⟩ := readyOther
    refine ⟨draft, distinct, ?_⟩
    intro order member busy
    obtain ⟨row, inNext, active, same⟩ := mem_itemsInActiveRuns.mp busy
    obtain ⟨place, found⟩ := mem_iff_getElem?.mp inNext
    rcases writeDebit_active ready once.runs written found active with ⟨present, wasActive⟩ | ⟨_, taken, _⟩
    · exact notBusy order member (mem_itemsInActiveRuns.mpr ⟨row, mem_of_getElem? present, wasActive, same⟩)
    · exact apart row.openItemId taken (same ▸ mem_map_of_mem member)
  | change runId run voids approval document exports =>
    obtain ⟨old, present, continues⟩ := readyOther
    exact ⟨old, run_beside free written present, continues⟩
  | elsewhere tables => trivial

end Requests

abbrev DebitConfig := Config Db DebitWork

/-- No pending request has taken an item that is due for a request that creates a run. -/
def RunsOneByOne (config : DebitConfig) : Move DebitRequest → Prop
  | .start (.createRun body) => ∀ work ∈ config.pending,
      ∀ found ∈ dueItems config.state body.ledgerId body.collectionDate body.openItemIds, found.2 ∉ takenItems work
  | _ => True

theorem runsOneByOne_apart (oneByOne : RunsOneByOne config (.start request))
    (read : readDebit config.state request = .ok work) :
    ∀ other ∈ config.pending, ∀ itemId ∈ takenItems other, itemId ∉ takenItems work := by
  intro other member itemId taken again
  cases work with
  | insert run orders =>
    obtain ⟨body, rfl, accepted⟩ := readDebit_insert read
    obtain ⟨order, isOrder, rfl⟩ := mem_map.mp again
    obtain ⟨item, _, _, _, due, _⟩ := ((createRun_ok accepted).collects order isOrder).mandate
    exact oneByOne other member _ due taken
  | change runId run voids approval document exports => cases again
  | elsewhere tables => cases again

/-- Runs over the same items created one after the other collect every item in one active run at most. -/
theorem items_in_one_active_run {db : Db} (noDebits : db.debits = []) (moves : List (Move DebitRequest))
    (oneByOne : Guarded debitProtocol.step RunsOneByOne ⟨db, []⟩ moves) (itemId : OpenItemId) :
    (activeDebits (run debitProtocol.step ⟨db, []⟩ moves).state itemId).length ≤ 1 := by
  have started : Protocol.Holds CollectedOnce DebitReady
      (fun work other => debitProtocol.Free work other ∧ ∀ itemId ∈ takenItems work, itemId ∉ takenItems other)
      (⟨db, []⟩ : DebitConfig) :=
    Protocol.holds_initial ⟨by simp [noDebits], by simp [noDebits]⟩
  have holds := Protocol.guarded_interleaving_invariant started ?_ ?_ ?_ ?_ ?_ moves oneByOne
  · apply filter_length_le_one
    intro first second order other found foundOther selected selectedOther
    simp only [decide_eq_true_eq] at selected selectedOther
    exact holds.state.once first second order other found foundOther
      (selected.1.trans selectedOther.1.symm) selected.2 selectedOther.2
  · rintro work other ⟨free, apart⟩
    exact ⟨fun row inOther inWork => free row inWork inOther, fun itemId inOther inWork => apart itemId inWork inOther⟩
  · intro config request work admitted read free other member
    exact ⟨fun row inOther inWork => free other member row inWork inOther,
      runsOneByOne_apart admitted read other member⟩
  · intro db request work _ read
    exact readDebit_ready read
  · intro db work next once ready written
    exact once.write ready written
  · intro db work other next once ready readyOther apart written
    exact ready.beside once readyOther apart.1 apart.2 written

def sampleReceivable (dueDate : Date) : OpenItem where
  ledgerId := 0
  accountId := 0
  journalEntryId := 0
  kind := .receivable
  bookingDate := dueDate
  dueDate
  amount := 500
  contractId := some 0
  amountPositive := by decide +kernel

def sampleMandate : ContactBankAccount where
  contactId := 0
  iban := "DE89370400440532013000"
  validFrom := .ofYmd 2025 1 1
  sepaEnabled := true
  mandateReference := some "M1"
  mandateSignedOn := some (.ofYmd 2025 1 1)
  mandateGrantedVia := some .brief
  approvalStatus := .approved

def sampleCreditor : Db where
  books := {
    ledgers := [{ leadingSystem := .mhvp }]
    contracts := [{ propertyId := 0, number := "V1", partyId := 0 }]
    openItems := [sampleReceivable (.ofYmd 2026 1 5), sampleReceivable (.ofYmd 2026 2 5)] }
  legalEntities := [{ name := "WEG", sepaCreditorId := some "DE98ZZZ09999999999" }]
  bankAccounts := [{ legalEntityId := 0, iban := "DE02120300000000202051", holder := "WEG" }]
  contacts := [{ displayName := "Mieter" }]
  contactBankAccounts := [sampleMandate]
  partyMembers := [{ partyId := 0, contactId := 0 }]
  members := [{ email := "anna@example.org" }, { email := "ben@example.org" }]

def sampleRun (openItemIds : List OpenItemId) (messageId : String) : DebitRequest :=
  .createRun { ledgerId := 0, bankAccountId := 0, collectionDate := .ofYmd 2026 3 20, leadDays := 5,
               openItemIds := some openItemIds, today := .ofYmd 2026 3 1, messageId,
               endToEndIds := fun drawn => messageId ++ toString drawn }

/-- Two runs, the second created before the first commits. -/
def sampleTwoRuns (first second : List OpenItemId) : List (Move DebitRequest) :=
  [.start (sampleRun first "DD1"), .start (sampleRun second "DD2"), .commit 0, .commit 0]

theorem concurrent_runs_collect_twice :
    (activeDebits (run debitProtocol.step ⟨sampleCreditor, []⟩ (sampleTwoRuns [0] [0])).state 0).length = 2 := by
  decide +kernel

theorem sample_collected_once :
    (activeDebits (run debitProtocol.step ⟨sampleCreditor, []⟩ (sampleTwoRuns [0] [1])).state 0).length ≤ 1 := by
  have oneByOne : Guarded debitProtocol.step RunsOneByOne ⟨sampleCreditor, []⟩ (sampleTwoRuns [0] [1]) := by
    refine ⟨?_, ?_, trivial, trivial, trivial⟩
    · intro work member
      cases member
    · change ∀ work ∈ (commit debitProtocol.step ⟨sampleCreditor, []⟩ (.start (sampleRun [0] "DD1"))).pending,
        ∀ found ∈ dueItems (commit debitProtocol.step ⟨sampleCreditor, []⟩ (.start (sampleRun [0] "DD1"))).state 0
          (.ofYmd 2026 3 20) (some [1]), found.2 ∉ takenItems work
      decide +kernel
  exact items_in_one_active_run rfl _ oneByOne 0

end Mhvp.Accounting.DirectDebit
