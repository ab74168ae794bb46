import Mhvp.Accounting.DirectDebitRuns
import Mhvp.Banking.CoveredOrders

namespace Mhvp.Accounting.DirectDebit

open Core Banking Lib.Calendar Lib.Locking Lib.Table Lib.Transition List Option

/-- The open item covers the amount, and the mandate may be debited on the day. -/
structure DebitCovered (db : Db) (day : Date) (order : Order) : Prop where
  item : OpenBy db.books order.openItemId order.amount
  mandate : ∃ account ∈ db.contactBankAccounts[order.contactBankAccountId]?, mandateBlockReason account day = none

instance : Decidable (DebitCovered db day order) :=
  decidable_of_iff (OpenBy db.books order.openItemId order.amount ∧
      ∃ account ∈ db.contactBankAccounts[order.contactBankAccountId]?, mandateBlockReason account day = none)
    ⟨fun covered => ⟨covered.1, covered.2⟩, fun covered => ⟨covered.item, covered.mandate⟩⟩

def isOpenRun (run : Run) : Bool := run.status ∈ [.draft, RunStatus.approved]

/-- The collection day of a run that may still get a file. -/
def openDay (db : Db) (runId : RunId) : Option Date := (db.debitRuns[runId]?.filter isOpenRun).map Run.collectionDate

/-- The collections a request is about to insert. -/
def insertedDebits : DebitWork → List (Date × Order)
  | .insert run orders => orders.map fun order => (run.collectionDate, order)
  | _ => []

/-- Collections that may still be written to a file, with their days. -/
def debitsInWork (config : DebitConfig) : List (Date × Order) :=
  config.state.debits.filterMap (fun order => (openDay config.state order.runId).map fun day => (day, order)) ++
    config.pending.flatMap insertedDebits

/-- The request leaves the collections in work covered. -/
def LeavesDebits (config : DebitConfig) : DebitWork → Prop
  | .elsewhere tables => ∀ found ∈ debitsInWork config,
      DebitCovered config.state found.1 found.2 → DebitCovered tables found.1 found.2
  | _ => True

instance (config : DebitConfig) (work : DebitWork) : Decidable (LeavesDebits config work) := by
  cases work <;> unfold LeavesDebits <;> infer_instance

/-- What the requests do not check: no item of a new run is written off from a later day on, and the requests of
other parts leave the collections in work covered. -/
def KeepsDebits (config : DebitConfig) : Move DebitRequest → Prop
  | .start (.createRun body) => ∀ found ∈ dueItems config.state body.ledgerId body.collectionDate body.openItemIds,
      found.1.writtenOff = false
  | .commit place => ∀ work ∈ config.pending[place]?, LeavesDebits config work
  | _ => True

instance (config : DebitConfig) (move : Move DebitRequest) : Decidable (KeepsDebits config move) := by
  cases move with
  | start request => cases request <;> unfold KeepsDebits <;> infer_instance
  | commit place => unfold KeepsDebits; infer_instance
  | rollback place => unfold KeepsDebits; infer_instance

/-- The collections of a file are covered. -/
def FileCovered (db : Db) : DebitWork → Prop
  | .change runId run _ _ (some _) _ => ∀ order ∈ ordersOf db runId, DebitCovered db run.collectionDate order
  | _ => True

instance (db : Db) (work : DebitWork) : Decidable (FileCovered db work) := by
  cases work with
  | change runId run voids approval document exports => cases document <;> unfold FileCovered <;> infer_instance
  | insert | elsewhere => unfold FileCovered; infer_instance

/-- Every collection of a file in the making is covered. -/
def FilesCovered (config : DebitConfig) : Prop := ∀ work ∈ config.pending, FileCovered config.state work

instance (config : DebitConfig) : Decidable (FilesCovered config) := by unfold FilesCovered; infer_instance

section Reads

variable {db : Db} {run : Run} {orders : List Order} {body : RunIn}

theorem usable_found (member : (party, account, accountId) ∈ usable (partyAccounts db partyId) day) :
    db.contactBankAccounts[accountId]? = some account ∧ mandateBlockReason account day = none := by
  obtain ⟨row, inParty, isUsable⟩ := mem_filterMap.mp member
  obtain ⟨found, filtered, same⟩ := map_eq_some_iff.mp isUsable
  obtain ⟨rfl, rfl⟩ := Prod.mk.inj same
  obtain ⟨isAccount, unblocked⟩ := filter_eq_some_iff.mp filtered
  refine ⟨?_, of_decide_eq_true unblocked⟩
  obtain ⟨contactId, -, ofContact⟩ := mem_flatMap.mp inParty
  cases contact : db.contacts[contactId]?.filter fun contact => contact.deleted = false with
  | none =>
    rw [contact] at ofContact
    cases ofContact
  | some known =>
    simp only [contact] at ofContact
    cases accounts : accountsOf db contactId with
    | nil =>
      simp only [accounts, mem_singleton] at ofContact
      rw [ofContact] at isAccount
      cases isAccount
    | cons first rest =>
      simp only [accounts] at ofContact
      obtain ⟨each, inAccounts, rfl⟩ := mem_map.mp ofContact
      cases isAccount
      rw [← accounts, accountsOf, mem_insertionSort] at inAccounts
      exact mk_mem_zipIdx_iff_getElem?.mp (mem_filter.mp inAccounts).1

theorem createRun_covered (accepted : createRun db body = .ok (run, orders))
    (unwritten : ∀ found ∈ dueItems db body.ledgerId body.collectionDate body.openItemIds,
      found.1.writtenOff = false) : ∀ order ∈ orders, DebitCovered db run.collectionDate order := by
  obtain ⟨day, amounts⟩ := createRun_amounts accepted
  intro order member
  obtain ⟨item, contract, party, account, isDue, -, one, -⟩ := ((createRun_ok accepted).collects order member).mandate
  have found : db.books.openItems[order.openItemId]? = some item := by
    rw [dueItems, mem_insertionSort] at isDue
    exact mk_mem_zipIdx_iff_getElem?.mp (mem_filter.mp isDue).1
  obtain ⟨foundAccount, unblocked⟩ := usable_found (one ▸ mem_singleton_self _)
  rw [day]
  constructor
  · exact Payments.openBy_remaining found (unwritten _ isDue) (amounts order member) le_rfl
  · exact ⟨account, foundAccount, unblocked⟩

/-- What a change of a run keeps of it. -/
structure KeepsRun (old run : Run) (document : Option DocumentId) : Prop where
  day : run.collectionDate = old.collectionDate
  opened : isOpenRun run → isOpenRun old
  approved : document ≠ none → isOpenRun old

/-- The run of a pending change stands as it was read. -/
def RunReady (db : Db) : DebitWork → Prop
  | .change runId run _ _ document _ => ∃ old, db.debitRuns[runId]? = some old ∧ KeepsRun old run document
  | _ => True

theorem readDebit_run (read : readDebit db request = .ok work) : RunReady db work := by
  cases request with
  | createRun body =>
    simp only [readDebit, bind_ok, pure_ok] at read
    obtain ⟨made, -, rfl⟩ := read
    trivial
  | approveRun runId userId isPlatformAdmin =>
    simp only [readDebit, runOf, bind_ok, orRefuse_ok] at read
    obtain ⟨old, found, answer, accepted, read⟩ := read
    have isOpen : isOpenRun old := decide_eq_true (approve_continues accepted found).1
    cases answer with
    | none =>
      obtain rfl := pure_ok.mp read
      exact ⟨old, found, rfl, id, fun _ => isOpen⟩
    | some pair =>
      obtain rfl := pure_ok.mp read
      refine ⟨old, found, ?_, fun _ => isOpen, fun _ => isOpen⟩
      simp only [approve, runOf, bind_ok, exists_unit, require_ok, orRefuse_ok] at accepted
      obtain ⟨row, same, -, -, -, accepted⟩ := accepted
      obtain rfl : old = row := mem_unique found same
      split at accepted
      · cases pure_ok.mp accepted
      · simp only [bind_ok, exists_unit] at accepted
        obtain ⟨-, made⟩ := Prod.mk.inj (some.inj (pure_ok.mp accepted.2))
        rw [← made]
        split
        · rfl
        · rfl
  | cancelRun runId =>
    simp only [readDebit, cancelRun, runOf, bind_ok, exists_unit, require_ok, orRefuse_ok, pure_ok] at read
    obtain ⟨_, ⟨old, found, -, rfl⟩, rfl⟩ := read
    refine ⟨old, found, rfl, ?_, fun filed => absurd rfl filed⟩
    exact fun isOpen => absurd (of_decide_eq_true isOpen) (by simp)
  | generateFile runId documentId =>
    simp only [readDebit, generateFile, runOf, bind_ok, exists_unit, require_ok, orRefuse_ok, pure_ok] at read
    obtain ⟨_, ⟨old, found, approved, _, _, _, _, _, _, _, _, rfl⟩, rfl⟩ := read
    have isOpen : isOpenRun old := decide_eq_true (by rw [approved]; exact mem_cons_of_mem _ mem_cons_self)
    exact ⟨old, found, rfl, fun _ => isOpen, fun _ => isOpen⟩
  | downloadFile runId gateOpen =>
    simp only [readDebit, downloadFile, runOf, bind_ok, exists_unit, require_ok, orRefuse_ok, pure_ok] at read
    obtain ⟨_, ⟨_, old, found, -, -, rfl⟩, rfl⟩ := read
    refine ⟨old, found, rfl, ?_, fun filed => absurd rfl filed⟩
    exact fun isOpen => absurd (of_decide_eq_true isOpen) (by simp)
  | elsewhere tables =>
    obtain rfl := pure_ok.mp read
    trivial

end Reads

section Writes

variable {db next : Db} {work other : DebitWork} {order : Order}

theorem RunReady.beside (ready : RunReady db other) (free : debitProtocol.Free work other)
    (written : writeDebit db work = .ok next) : RunReady next other := by
  cases other with
  | insert run orders => trivial
  | change runId run voids approval document exports =>
    obtain ⟨old, found, keeps⟩ := ready
    exact ⟨old, run_beside free written found, keeps⟩
  | elsewhere tables => trivial

theorem writeDebit_open (written : writeDebit db work = .ok next) (ready : RunReady db work)
    (runs : ∀ order ∈ db.debits, order.runId < db.debitRuns.length) (member : order ∈ next.debits)
    (inWork : openDay next order.runId = some day) :
    (order ∈ db.debits ∧ openDay db order.runId = some day) ∨
      ∃ drawn, (day, drawn) ∈ insertedDebits work ∧ ∃ runId, order = { drawn with runId } := by
  cases work with
  | insert run orders =>
    obtain rfl := pure_ok.mp written
    rcases mem_append.mp member with old | new
    · refine Or.inl ⟨old, ?_⟩
      simpa only [openDay, List.getElem?_append_left (runs order old)] using inWork
    · obtain ⟨drawn, isDrawn, rfl⟩ := mem_map.mp new
      simp only [openDay, List.getElem?_concat_length] at inWork
      obtain ⟨opened, isOpened, rfl⟩ := map_eq_some_iff.mp inWork
      obtain rfl := some.inj (filter_eq_some_iff.mp isOpened).1
      exact Or.inr ⟨drawn, mem_map_of_mem isDrawn, _, rfl⟩
  | change runId run voids approval document exports =>
    obtain rfl := pure_ok.mp written
    obtain ⟨old, found, keeps⟩ := ready
    refine Or.inl ⟨member, ?_⟩
    simp only [openDay] at inWork ⊢
    by_cases here : order.runId = runId
    · rw [here, List.getElem?_set_self (found_lt found)] at inWork
      obtain ⟨opened, isOpened, rfl⟩ := map_eq_some_iff.mp inWork
      obtain ⟨same, isOpen⟩ := filter_eq_some_iff.mp isOpened
      cases same
      rw [here, found, filter_some, if_pos (keeps.opened isOpen), keeps.day]
      rfl
    · rwa [List.getElem?_set_ne (Ne.symm here)] at inWork
  | elsewhere tables =>
    obtain rfl := pure_ok.mp written
    exact Or.inl ⟨member, inWork⟩

theorem writeDebit_covered (written : writeDebit db work = .ok next) (covered : DebitCovered db day order)
    (keeps : ∀ tables, work = .elsewhere tables → DebitCovered tables day order) : DebitCovered next day order := by
  cases work with
  | insert | change =>
    obtain rfl := pure_ok.mp written
    exact ⟨covered.item, covered.mandate⟩
  | elsewhere tables =>
    obtain rfl := pure_ok.mp written
    have after := keeps tables rfl
    exact ⟨after.item, after.mandate⟩

/-- Requests on the journal and on write offs leave a collection covered whose item they leave open. -/
theorem DebitCovered.afterBooks (covered : DebitCovered db day order) (sound : db.books.Sound)
    (accepted : writeOffStep db call = .ok next) (leaves : LeavesItem db order.openItemId order.amount call) :
    DebitCovered next day order := by
  have accounts : next.contactBankAccounts = db.contactBankAccounts := by rw [writeOffStep_frame accepted]
  constructor
  · exact writeOffStep_openBy sound accepted leaves covered.item
  · rw [accounts]
    exact covered.mandate

end Writes

/-- The invariant of the collections in work. -/
structure DebitsHold (config : DebitConfig) : Prop where
  runs : Protocol.Holds (fun db => ∀ order ∈ db.debits, order.runId < db.debitRuns.length) RunReady
    debitProtocol.Free config
  covered : ∀ found ∈ debitsInWork config, DebitCovered config.state found.1 found.2

theorem mem_debitsInWork : found ∈ debitsInWork config ↔
    (found.2 ∈ config.state.debits ∧ openDay config.state found.2.runId = some found.1) ∨
      ∃ work ∈ config.pending, found ∈ insertedDebits work := by
  rw [debitsInWork, mem_append, mem_filterMap, mem_flatMap]
  apply or_congr_left
  constructor
  · rintro ⟨order, stored, isOpen⟩
    obtain ⟨day, isDay, rfl⟩ := map_eq_some_iff.mp isOpen
    exact ⟨stored, isDay⟩
  · rintro ⟨stored, isDay⟩
    exact ⟨found.2, stored, by rw [isDay]; rfl⟩

theorem DebitsHold.step {next} (holds : DebitsHold config)
    (keeps : KeepsDebits config move) (moved : debitProtocol.step config move = .ok next) : DebitsHold next := by
  constructor
  · apply Protocol.interleaving_step ?_ ?_ ?_ config move next holds.runs moved
    · intro db request work _ read
      exact readDebit_run read
    · intro db work next runs _ written
      exact writeDebit_runs runs written
    · intro db work other next _ _ ready free written
      exact ready.beside free written
  · cases Protocol.step_ok moved with
    | start request work read free =>
      intro found member
      rcases mem_debitsInWork.mp member with stored | ⟨other, pending, inserted⟩
      · exact holds.covered found (mem_debitsInWork.mpr (Or.inl stored))
      · rcases mem_append.mp pending with old | new
        · exact holds.covered found (mem_debitsInWork.mpr (Or.inr ⟨other, old, inserted⟩))
        · obtain rfl := mem_singleton.mp new
          cases other with
          | insert run orders =>
            obtain ⟨body, rfl, accepted⟩ := readDebit_insert read
            obtain ⟨order, isOrder, rfl⟩ := mem_map.mp inserted
            exact createRun_covered accepted keeps order isOrder
          | change | elsewhere => cases inserted
    | commit place work state found written =>
      have leaves : LeavesDebits config work := keeps work found
      have stays : ∀ each ∈ debitsInWork config, DebitCovered state each.1 each.2 := by
        intro each member
        refine writeDebit_covered written (holds.covered each member) ?_
        rintro tables rfl
        exact leaves each member (holds.covered each member)
      have isPending := mem_of_getElem? found
      rintro ⟨day, order⟩ member
      rcases mem_debitsInWork.mp member with ⟨stored, isDay⟩ | ⟨other, pending, inserted⟩
      · rcases writeDebit_open written (holds.runs.ready work isPending) holds.runs.state stored isDay with
          was | ⟨drawn, inserted, runId, rfl⟩
        · exact stays _ (mem_debitsInWork.mpr (Or.inl was))
        · have covered := stays _ (mem_debitsInWork.mpr (Or.inr ⟨work, isPending, inserted⟩))
          exact ⟨covered.item, covered.mandate⟩
      · exact stays _ (mem_debitsInWork.mpr (Or.inr ⟨other, mem_of_mem_eraseIdx pending, inserted⟩))
    | rollback place =>
      intro found member
      apply holds.covered found
      rcases mem_debitsInWork.mp member with stored | ⟨other, pending, inserted⟩
      · exact mem_debitsInWork.mpr (Or.inl stored)
      · exact mem_debitsInWork.mpr (Or.inr ⟨other, mem_of_mem_eraseIdx pending, inserted⟩)

theorem mem_ordersOf (member : order ∈ ordersOf db runId) : order ∈ db.debits ∧ order.runId = runId := by
  have inFilter : order ∈ db.debits.filter fun order => order.runId = runId := by
    rcases mem_append.mp member with first | later
    · exact (mem_filter.mp first).1
    · exact (mem_filter.mp later).1
  obtain ⟨stored, ofRun⟩ := mem_filter.mp inFilter
  exact ⟨stored, of_decide_eq_true ofRun⟩

theorem DebitsHold.files (holds : DebitsHold config) : FilesCovered config := by
  intro work isPending
  cases work with
  | change runId run voids approval document exports =>
    cases document with
    | none => trivial
    | some documentId =>
      intro order member
      obtain ⟨old, found, keeps⟩ := holds.runs.ready _ isPending
      obtain ⟨stored, rfl⟩ := mem_ordersOf member
      apply holds.covered (run.collectionDate, order)
      refine mem_debitsInWork.mpr (Or.inl ⟨stored, ?_⟩)
      rw [openDay, found, filter_some, if_pos (keeps.approved (some_ne_none _)), keeps.day]
      rfl
  | insert | elsewhere => trivial

theorem debit_files_covered (noDebits : db.debits = []) (moves : List (Move DebitRequest))
    (keeps : Guarded debitProtocol.step KeepsDebits ⟨db, []⟩ moves) :
    FilesCovered (run debitProtocol.step ⟨db, []⟩ moves) := by
  have start : DebitsHold ⟨db, []⟩ := by
    constructor
    · apply Protocol.holds_initial
      simp [noDebits]
    · intro found member
      simp [debitsInWork, noDebits] at member
  have holds : DebitsHold (run debitProtocol.step ⟨db, []⟩ moves) := by
    refine Guarded.invariant ?_ moves keeps start
    intro config move next holds keeps moved
    exact holds.step keeps moved
  exact holds.files

/-- While each request keeps the orders and collections in work covered, so are those of every file in the making.
Requests on the journal and on write offs keep those whose items they leave open. -/
theorem generated_files_covered {db : Db} (noOrders : db.orders = []) (noApprovals : db.approvals = [])
    (noDebits : db.debits = []) (payments : List (Move Payments.PaymentRequest)) (moves : List (Move DebitRequest))
    (keepsOrders : Guarded Payments.paymentProtocol.step Payments.KeepsCovered ⟨db, []⟩ payments)
    (keepsDebits : Guarded debitProtocol.step KeepsDebits ⟨db, []⟩ moves) :
    Payments.FilesCovered (run Payments.paymentProtocol.step ⟨db, []⟩ payments) ∧
      FilesCovered (run debitProtocol.step ⟨db, []⟩ moves) ∧
      ∀ (tables next : Db) (call : WriteOffCall), tables.books.Sound → writeOffStep tables call = .ok next →
        (∀ order, (∀ itemId ∈ order.openItemId, LeavesItem tables itemId (order.amount + order.discount) call) →
          Payments.OrderCovered tables order → Payments.OrderCovered next order) ∧
        ∀ day order, LeavesItem tables order.openItemId order.amount call →
          DebitCovered tables day order → DebitCovered next day order := by
  refine ⟨Payments.payment_files_covered noOrders noApprovals payments keepsOrders,
    debit_files_covered noDebits moves keepsDebits, ?_⟩
  intro tables next call sound accepted
  constructor
  · intro order leaves covered
    exact covered.afterBooks sound accepted leaves
  · intro day order leaves covered
    exact covered.afterBooks sound accepted leaves

def sampleOffice : Db where
  books := {
    ledgers := [{ leadingSystem := .mhvp }]
    contracts := [{ propertyId := 0, number := "V1", partyId := 0 }]
    entries := [Payments.sampleInvoiceEntry]
    openItems := [Payments.samplePayable 0, sampleReceivable (.ofYmd 2026 1 5)] }
  invoices := [{ Payments.sampleInvoice "R1" 0 with
    discountPercent := some 2
    discountUntil := some (.ofYmd 2026 2 5) }]
  legalEntities := [{ name := "WEG", sepaCreditorId := some "DE98ZZZ09999999999" }]
  bankAccounts := [{ legalEntityId := 0, iban := "DE02120300000000202051", holder := "WEG" }]
  contacts := [{ displayName := "Mieter" }]
  contactBankAccounts := [sampleMandate]
  partyMembers := [{ partyId := 0, contactId := 0 }]
  members := [{ email := "anna@example.org" }, { email := "ben@example.org" }]

def sampleApprovedRun : List (Move DebitRequest) :=
  [.start (sampleRun [1] "DD1"), .commit 0, .start (.approveRun 0 0 false), .commit 0,
   .start (.approveRun 0 1 false), .commit 0]

theorem sample_files_covered :
    let payments := Payments.sampleApproved 0 0 "E2E1" ++ [.start (.createBatch [0] true "MSG1")]
    let moves := sampleApprovedRun ++ [.start (.generateFile 0 0)]
    Payments.FilesCovered (run Payments.paymentProtocol.step ⟨sampleOffice, []⟩ payments) ∧
      FilesCovered (run debitProtocol.step ⟨sampleOffice, []⟩ moves) := by
  intro payments moves
  have noOrders : sampleOffice.orders = [] := rfl
  have covered := generated_files_covered noOrders rfl rfl payments moves (by decide +kernel) (by decide +kernel)
  exact ⟨covered.1, covered.2.1⟩

/-- The payable is paid otherwise. -/
def samplePaid : Db :=
  { sampleOffice with
    books := { sampleOffice.books with
      settlements := [{ openItemId := 0, journalEntryId := 0, amount := 100, date := .ofYmd 2026 1 20,
                        amountNonZero := by decide +kernel }] } }

def sampleWrittenOff : Db :=
  { sampleOffice with
    books := WriteOffs.flagItem sampleOffice.books 0 (Payments.samplePayable 0) (.ofYmd 2026 1 20) }

def sampleRevoked : Db :=
  { sampleOffice with contactBankAccounts := [{ sampleMandate with mandateStatus := .revoked }] }

/-- A file is generated for an item that was paid or written off meanwhile, with a discount after its date, and under
a revoked mandate. -/
theorem uncovered_files_generated :
    let paid := run Payments.paymentProtocol.step ⟨sampleOffice, []⟩
      (Payments.sampleApproved 0 0 "E2E1" ++ Payments.alone (.elsewhere samplePaid) ++
        [.start (.createBatch [0] true "MSG1")])
    let writtenOff := run Payments.paymentProtocol.step ⟨sampleWrittenOff, []⟩
      (Payments.sampleApproved 0 0 "E2E1" ++ [.start (.createBatch [0] true "MSG1")])
    let late := run Payments.paymentProtocol.step ⟨sampleOffice, []⟩
      (Payments.alone (.createOrder 0 0 (.ofYmd 2026 2 2) "E2E1") ++
        Payments.alone (.changeOrder 0 { executionDate := some (.ofYmd 2026 3 2) }) ++
        Payments.alone (.approveOrder 0 0 false) ++ Payments.alone (.approveOrder 0 1 false) ++
        [.start (.createBatch [0] true "MSG1")])
    let revoked := run debitProtocol.step ⟨sampleOffice, []⟩
      (sampleApprovedRun ++ [.start (.elsewhere sampleRevoked), .commit 0, .start (.generateFile 0 0)])
    ¬ Payments.FilesCovered paid ∧ ¬ Payments.FilesCovered writtenOff ∧ ¬ Payments.FilesCovered late ∧
      ¬ FilesCovered revoked := by
  decide +kernel

end Mhvp.Accounting.DirectDebit
