import Mhvp.Accounting.DirectDebit

namespace Mhvp.Accounting.DirectDebit

open Core Lib.Calendar Lib.Locking Lib.Table Lib.Transition List

inductive DebitRequest
  | createRun (body : RunIn)
  | approveRun (runId : RunId) (userId : UserId) (isPlatformAdmin : Bool)
  | cancelRun (runId : RunId)
  | generateFile (runId : RunId) (documentId : DocumentId)
  | downloadFile (runId : RunId) (gateOpen : Bool)
  /-- A request of another part of the program. -/
  | elsewhere (tables : Db)

/-- What a request decided to write. -/
inductive DebitWork
  | insert (run : Run) (orders : List Order)
  | change (runId : RunId) (run : Run) (voids : Bool) (approval : Option Approval) (document : Option DocumentId)
      (exports : Bool)
  | elsewhere (tables : Db)

def readDebit (db : Db) : DebitRequest → Result DebitWork
  | .createRun body => do
      let (run, orders) ← createRun db body
      pure (.insert run orders)
  | .approveRun runId userId isPlatformAdmin => do
      let run ← runOf db runId
      match ← approve db runId userId isPlatformAdmin with
      | none => pure (.change runId run false none none false)
      | some (approval, approved) => pure (.change runId approved false (some approval) none false)
  | .cancelRun runId => do
      let run ← cancelRun db runId
      pure (.change runId run true none none false)
  | .generateFile runId documentId => do
      let run ← generateFile db runId documentId
      pure (.change runId run false none (some documentId) false)
  | .downloadFile runId gateOpen => do
      let (run, exports) ← downloadFile db runId gateOpen
      pure (.change runId run false none none exports)
  | .elsewhere tables => pure (.elsewhere tables)

/-- Creating a run locks no row. -/
def debitLocks : DebitWork → List RunId
  | .insert _ _ => []
  | .change runId _ _ _ _ _ => [runId]
  | .elsewhere _ => []

/-- The tables without the rows of direct debit runs. -/
def besideDebits (db tables : Db) : Db :=
  { tables with
    debitRuns := db.debitRuns
    debits := db.debits
    debitApprovals := db.debitApprovals
    debitExports := db.debitExports }

def invalidate (runId : RunId) (approvals : List Approval) : List Approval :=
  approvals.map fun approval => if approval.runId = runId then { approval with invalidated := true } else approval

/-- A new run gets its id when it is inserted. -/
def writeDebit (db : Db) : DebitWork → Result Db
  | .insert run orders =>
    let runId := db.debitRuns.length
    pure { db with
      debitRuns := db.debitRuns ++ [run]
      debits := db.debits ++ orders.map fun order => { order with runId } }
  | .change runId run voids approval document exports =>
    let kept := if voids then invalidate runId db.debitApprovals else db.debitApprovals
    pure { db with
      debitRuns := db.debitRuns.set runId run
      debitApprovals := kept ++ approval.toList
      documents := db.documents ++ document.toList
      debitExports := if exports then db.debitExports ++ [runId] else db.debitExports }
  | .elsewhere tables => pure (besideDebits db tables)

def debitProtocol : Protocol Db DebitRequest DebitWork RunId ProblemError where
  read := readDebit
  locks := debitLocks
  write := writeDebit

/-- A discarded run stays discarded, a handed out run stays handed out, and only a handed out run is so. -/
structure Continues (old run : Run) (exports : Bool) : Prop where
  cancelled : old.status = .cancelled → run.status = .cancelled
  exported : old.status = .exported → run.status = .exported
  exports : exports = true ↔ old.status ≠ .exported ∧ run.status = .exported

/-- An order of a new run collects a due item in no active run, under the only usable mandate of its party. -/
structure Collects (db : Db) (body : RunIn) (order : Order) : Prop where
  free : order.openItemId ∉ itemsInActiveRuns db
  mandate : ∃ item contract member account,
    (item, order.openItemId) ∈ dueItems db body.ledgerId body.collectionDate body.openItemIds ∧
    item.contractId.bind (db.books.contracts[·]?) = some contract ∧
    usable (partyAccounts db contract.partyId) body.collectionDate =
      [(member, account, order.contactBankAccountId)] ∧
    account.mandateReference = some order.mandateReference ∧
    order.sequenceType = sequenceType (previousUses db order.contactBankAccountId)

structure NewRun (db : Db) (body : RunIn) (run : Run) (orders : List Order) : Prop where
  draft : run.status = .draft
  once : (orders.map Order.openItemId).Nodup
  collects : ∀ order ∈ orders, Collects db body order

section Reads

variable {db : Db} {run : Run} {orders : List Order} {selection : Selection} {ledger : Ledger} {body : RunIn}

theorem dueItems_nodup (db : Db) (ledgerId : LedgerId) (day : Date) (wanted : Option (List OpenItemId)) :
    ((dueItems db ledgerId day wanted).map Prod.snd).Nodup := by
  unfold dueItems
  refine ((perm_insertionSort _ _).map Prod.snd).nodup_iff.mpr ?_
  refine List.Nodup.sublist (List.Sublist.map Prod.snd filter_sublist) ?_
  rw [zipIdx_map_snd]
  exact nodup_range'

theorem resolveParty_openItemId (db : Db) (contract : Contract) (day : Date) (candidate : Candidate) :
    (resolveParty db contract day candidate).openItemId = candidate.openItemId := by
  unfold resolveParty
  split
  · rfl
  · dsimp only
    split <;> rfl

theorem candidateOf_openItemId (db : Db) (ledger : Ledger) (ledgerId : LedgerId) (day : Date)
    (found : OpenItem × OpenItemId) (rest : Decimal) :
    (candidateOf db ledger ledgerId day found rest).openItemId = found.2 := by
  unfold candidateOf
  dsimp only
  split
  · rfl
  · split
    · rfl
    · split
      · rfl
      · split
        · rfl
        · exact resolveParty_openItemId _ _ _ _

theorem resolveParty_amount (db : Db) (contract : Contract) (day : Date) (candidate : Candidate) :
    (resolveParty db contract day candidate).amount = candidate.amount := by
  unfold resolveParty
  split
  · rfl
  · dsimp only
    split <;> rfl

theorem candidateOf_amount (db : Db) (ledger : Ledger) (ledgerId : LedgerId) (day : Date)
    (found : OpenItem × OpenItemId) (rest : Decimal) :
    (candidateOf db ledger ledgerId day found rest).amount = rest := by
  unfold candidateOf
  dsimp only
  split
  · rfl
  · split
    · rfl
    · split
      · rfl
      · split
        · rfl
        · exact resolveParty_amount _ _ _ _

theorem resolveParty_eligible (eligible : (resolveParty db contract day candidate).blockReason = none) :
    ∃ member account accountId, usable (partyAccounts db contract.partyId) day = [(member, account, accountId)] ∧
      (resolveParty db contract day candidate).contactBankAccountId = some accountId ∧
      (resolveParty db contract day candidate).mandateReference = account.mandateReference ∧
      (resolveParty db contract day candidate).sequenceType = some (sequenceType (previousUses db accountId)) := by
  unfold resolveParty at eligible ⊢
  cases members : partyAccounts db contract.partyId with
  | nil =>
    simp only [members] at eligible
    cases eligible
  | cons first rest =>
    simp only [members] at eligible ⊢
    split at eligible
    · cases eligible
    · rename_i member account accountId one
      exact ⟨member, account, accountId, one, rfl, rfl, rfl⟩
    · cases eligible

theorem candidateOf_eligible (eligible : (candidateOf db ledger ledgerId day found rest).blockReason = none) :
    found.2 ∉ itemsInActiveRuns db ∧ ∃ contract member account accountId,
      found.1.contractId.bind (db.books.contracts[·]?) = some contract ∧
      usable (partyAccounts db contract.partyId) day = [(member, account, accountId)] ∧
      (candidateOf db ledger ledgerId day found rest).contactBankAccountId = some accountId ∧
      (candidateOf db ledger ledgerId day found rest).mandateReference = account.mandateReference ∧
      (candidateOf db ledger ledgerId day found rest).sequenceType =
        some (sequenceType (previousUses db accountId)) := by
  unfold candidateOf at eligible ⊢
  dsimp only at eligible ⊢
  by_cases busy : found.2 ∈ itemsInActiveRuns db
  · rw [if_pos busy] at eligible
    cases eligible
  · rw [if_neg busy] at eligible ⊢
    by_cases unreviewed : found.1.accountId ∈ unreviewedAutoAccounts db ledgerId
    · rw [if_pos unreviewed] at eligible
      cases eligible
    · rw [if_neg unreviewed] at eligible ⊢
      cases ofContract : found.1.contractId.bind (db.books.contracts[·]?) with
      | none =>
        simp only [ofContract] at eligible
        cases eligible
      | some contract =>
        simp only [ofContract] at eligible ⊢
        by_cases otherEntity : contract.legalEntityId ≠ ledger.legalEntityId
        · rw [if_pos otherEntity] at eligible
          cases eligible
        · rw [if_neg otherEntity] at eligible ⊢
          obtain ⟨member, account, accountId, one, ofAccount, mandate, sequence⟩ := resolveParty_eligible eligible
          exact ⟨busy, contract, member, account, accountId, rfl, one, ofAccount, mandate, sequence⟩

theorem candidatesOf_ok (read : candidatesOf db ledger ledgerId day due = .ok candidates) :
    (candidates.map Candidate.openItemId).Sublist (due.map Prod.snd) ∧
      ∀ candidate ∈ candidates, ∃ found ∈ due, ∃ rest, remaining db.books found.2 none = .ok rest ∧
        candidate = candidateOf db ledger ledgerId day found rest := by
  induction due generalizing candidates with
  | nil =>
    obtain rfl := pure_ok.mp read
    exact ⟨List.Sublist.refl _, by simp⟩
  | cons found others ih =>
    simp only [candidatesOf, bind_ok] at read
    obtain ⟨rest, isRest, later, readLater, read⟩ := read
    obtain ⟨items, whence⟩ := ih readLater
    have others : ∀ candidate ∈ later, ∃ each ∈ found :: others, ∃ rest,
        remaining db.books each.2 none = .ok rest ∧ candidate = candidateOf db ledger ledgerId day each rest := by
      intro candidate member
      obtain ⟨each, isDue, rest, same⟩ := whence candidate member
      exact ⟨each, mem_cons_of_mem _ isDue, rest, same⟩
    split at read
    · obtain rfl := pure_ok.mp read
      exact ⟨items.cons _, others⟩
    · obtain rfl := pure_ok.mp read
      refine ⟨?_, ?_⟩
      · rw [map_cons, map_cons, candidateOf_openItemId]
        exact items.cons_cons _
      · intro candidate member
        rcases mem_cons.mp member with rfl | isLater
        · exact ⟨found, mem_cons_self, rest, isRest, rfl⟩
        · exact others candidate isLater

theorem withLeadDays_eligible (db : Db) (body : RunIn) (selection : Selection) :
    (withLeadDays db body selection).eligible.Sublist selection.eligible := by
  unfold withLeadDays Selection.eligible
  apply filter_map_sublist
  intro candidate _ stays
  by_cases eligible : candidate.blockReason = none
  · simp only [eligible, if_true, decide_eq_true_eq] at stays ⊢
    rw [stays, ← eligible]
  · simp only [eligible, if_false]

theorem debitOf_ok (read : debitOf runId candidate endToEndId = .ok order) :
    order.openItemId = candidate.openItemId ∧ order.amount = candidate.amount ∧
      candidate.contactBankAccountId = some order.contactBankAccountId ∧
      candidate.mandateReference = some order.mandateReference ∧
      candidate.sequenceType = some order.sequenceType := by
  unfold debitOf at read
  split at read
  · rename_i iban contactId accountId mandate signedOn sequence _ _ ofAccount ofMandate _ ofSequence
    obtain rfl := pure_ok.mp read
    exact ⟨rfl, rfl, ofAccount, (Option.filter_eq_some_iff.mp ofMandate).1, ofSequence⟩
  · cases read

theorem debitsOf_ok (read : debitsOf runId endToEndIds candidates drawn = .ok orders) :
    orders.map Order.openItemId = candidates.map Candidate.openItemId ∧
      ∀ order ∈ orders, ∃ candidate ∈ candidates, ∃ endToEndId, debitOf runId candidate endToEndId = .ok order := by
  induction candidates generalizing orders drawn with
  | nil =>
    obtain rfl := pure_ok.mp read
    exact ⟨rfl, by simp⟩
  | cons candidate rest ih =>
    simp only [debitsOf, bind_ok, pure_ok] at read
    obtain ⟨first, readFirst, others, readOthers, rfl⟩ := read
    obtain ⟨items, whence⟩ := ih readOthers
    refine ⟨by rw [map_cons, map_cons, items, (debitOf_ok readFirst).1], ?_⟩
    intro order member
    rcases mem_cons.mp member with rfl | later
    · exact ⟨candidate, mem_cons_self, _, readFirst⟩
    · obtain ⟨each, isCandidate, made⟩ := whence order later
      exact ⟨each, mem_cons_of_mem _ isCandidate, made⟩

section

variable (accepted : createRun db body = .ok (run, orders))
include accepted

theorem createRun_ok : NewRun db body run orders := by
  simp only [createRun, bind_ok, exists_unit, require_ok, orRefuse_ok, pure_ok] at accepted
  obtain ⟨ledger, _, _, _, bank, _, _, due, selected, _, _, made, orderRows, same⟩ := accepted
  obtain ⟨rfl, rfl⟩ := Prod.mk.inj same
  simp only [selectDue, bind_ok, orRefuse_ok, pure_ok] at selected
  obtain ⟨entity, _, creditorId, _, candidates, readCandidates, rfl⟩ := selected
  obtain ⟨items, whence⟩ := candidatesOf_ok readCandidates
  obtain ⟨orderItems, whenceOrder⟩ := debitsOf_ok orderRows
  have eligible := withLeadDays_eligible db body { creditorId, creditorName := entity.name, candidates }
  refine ⟨rfl, ?_, ?_⟩
  · rw [orderItems]
    refine List.Nodup.sublist (((eligible.map _).trans ?_).trans items) (dueItems_nodup _ _ _ _)
    exact filter_sublist.map _
  · intro order member
    obtain ⟨candidate, isEligible, _, debit⟩ := whenceOrder order member
    obtain ⟨itemId, -, ofAccount, ofMandate, ofSequence⟩ := debitOf_ok debit
    obtain ⟨isCandidate, unblocked⟩ := mem_filter.mp (eligible.subset isEligible)
    obtain ⟨found, isDue, rest, -, rfl⟩ := whence candidate isCandidate
    rw [candidateOf_openItemId] at itemId
    obtain ⟨free, contract, party, account, accountId, ofContract, one, candidateAccount, mandate, sequence⟩ :=
      candidateOf_eligible (by simpa using unblocked)
    obtain rfl : accountId = order.contactBankAccountId := Option.mem_unique candidateAccount ofAccount
    refine ⟨itemId ▸ free, found.1, contract, party, account, ?_, ofContract, one, mandate.symm.trans ofMandate, ?_⟩
    · rw [itemId]
      exact isDue
    · exact Option.mem_unique ofSequence sequence

theorem createRun_rows :
    ∀ order ∈ orders, ∃ candidate endToEndId, debitOf db.debitRuns.length candidate endToEndId = .ok order := by
  simp only [createRun, bind_ok, exists_unit, require_ok, orRefuse_ok, pure_ok] at accepted
  obtain ⟨_, _, _, _, _, _, _, _, _, _, _, made, orderRows, same⟩ := accepted
  obtain ⟨rfl, rfl⟩ := Prod.mk.inj same
  intro order member
  obtain ⟨candidate, _, endToEndId, made⟩ := (debitsOf_ok orderRows).2 order member
  exact ⟨candidate, endToEndId, made⟩

theorem createRun_amounts :
    run.collectionDate = body.collectionDate ∧
      ∀ order ∈ orders, remaining db.books order.openItemId none = .ok order.amount := by
  simp only [createRun, bind_ok, exists_unit, require_ok, orRefuse_ok, pure_ok] at accepted
  obtain ⟨ledger, -, -, -, bank, -, -, due, selected, -, -, made, orderRows, same⟩ := accepted
  obtain ⟨rfl, rfl⟩ := Prod.mk.inj same
  simp only [selectDue, bind_ok, orRefuse_ok, pure_ok] at selected
  obtain ⟨entity, -, creditorId, -, candidates, readCandidates, rfl⟩ := selected
  refine ⟨rfl, ?_⟩
  intro order member
  obtain ⟨candidate, isEligible, endToEndId, debit⟩ := (debitsOf_ok orderRows).2 order member
  obtain ⟨itemId, amount, -⟩ := debitOf_ok debit
  have eligible := withLeadDays_eligible db body { creditorId, creditorName := entity.name, candidates }
  obtain ⟨isCandidate, -⟩ := mem_filter.mp (eligible.subset isEligible)
  obtain ⟨found, -, rest, isRest, rfl⟩ := (candidatesOf_ok readCandidates).2 candidate isCandidate
  rw [itemId, amount, candidateOf_openItemId, candidateOf_amount]
  exact isRest

end

theorem readDebit_insert (read : readDebit db request = .ok (.insert run orders)) :
    ∃ body, request = .createRun body ∧ createRun db body = .ok (run, orders) := by
  cases request with
  | createRun body =>
    simp only [readDebit, bind_ok, pure_ok] at read
    obtain ⟨⟨made, rows⟩, accepted, same⟩ := read
    obtain ⟨rfl, rfl⟩ := DebitWork.insert.inj same
    exact ⟨body, rfl, accepted⟩
  | approveRun runId userId isPlatformAdmin =>
    simp only [readDebit, bind_ok] at read
    obtain ⟨_, _, answer, _, same⟩ := read
    cases answer with
    | none => cases pure_ok.mp same
    | some pair => cases pure_ok.mp same
  | cancelRun | generateFile | downloadFile =>
    simp only [readDebit, bind_ok, pure_ok] at read
    obtain ⟨_, _, same⟩ := read
    cases same
  | elsewhere tables => cases pure_ok.mp read

end Reads

end Mhvp.Accounting.DirectDebit
