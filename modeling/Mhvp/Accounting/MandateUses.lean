import Mhvp.Accounting.DirectDebitRuns

namespace Mhvp.Accounting.DirectDebit

open Core Contacts Lib.Locking Lib.Table Lib.Transition List

/-- Sequence types of a mandate in the file of a run. -/
def usesIn (db : Db) (mandate : String) (runId : RunId) : List SequenceType :=
  (db.debits.filter fun order => order.runId = runId ∧ order.mandateReference = mandate).map Order.sequenceType

/-- Sequence types of a mandate in the files handed out, in the order of their export. -/
def exportedUses (db : Db) (mandate : String) : List SequenceType := db.debitExports.flatMap (usesIn db mandate)

/-- FRST on the first use, RCUR on all later ones. -/
def FirstThenRecurring (uses : List SequenceType) : Prop :=
  uses = [] ∨ ∃ later, uses = .frst :: later ∧ ∀ use ∈ later, use = .rcur

/-- Requests on runs one after the other. -/
def debitStep : Db → DebitRequest → Result Db := debitProtocol.serve

/-- The order was handed out. -/
def HandedOut (db : Db) (order : Order) : Prop := runStatus db order.runId = some .exported

instance : DecidablePred (HandedOut db) := fun _ => by unfold HandedOut; infer_instance

/-- A due item that no active run holds, with a mandate its payer may be debited under. -/
structure Collectable (db : Db) (body : RunIn) (itemId : OpenItemId) (accountId : ContactBankAccountId)
    (mandate : String) : Prop where
  free : itemId ∉ itemsInActiveRuns db
  mandate : ∃ item contract member account,
    (item, itemId) ∈ dueItems db body.ledgerId body.collectionDate body.openItemIds ∧
    item.contractId.bind (db.books.contracts[·]?) = some contract ∧
    (member, account, accountId) ∈ usable (partyAccounts db contract.partyId) body.collectionDate ∧
    account.mandateReference = some mandate

/-- A mandate on an account without use is in no active run and collects one item only; a mandate on an
account with a use was itself used. -/
def FirstUsePrepared (db : Db) : DebitRequest → Prop
  | .createRun body => ∀ itemId accountId mandate, Collectable db body itemId accountId mandate →
      ((∀ order ∈ db.debits, order.contactBankAccountId = accountId → ¬ HandedOut db order) →
        (∀ order ∈ db.debits, InActiveRun db order → order.mandateReference ≠ mandate) ∧
        ∀ otherId otherAccount, Collectable db body otherId otherAccount mandate → otherId = itemId) ∧
      ((∃ order ∈ db.debits, order.contactBankAccountId = accountId ∧ HandedOut db order) →
        ∃ order ∈ db.debits, order.mandateReference = mandate ∧ HandedOut db order)
  | _ => True

structure UsesSound (db : Db) : Prop where
  runs : ∀ order ∈ db.debits, order.runId < db.debitRuns.length
  exports : ∀ runId, runId ∈ db.debitExports ↔ runStatus db runId = some .exported
  uses : ∀ mandate, FirstThenRecurring (exportedUses db mandate)
  /-- Orders waiting for their export: a recurring one follows a use, a first one is the only one. -/
  recurring : ∀ order ∈ db.debits, InActiveRun db order → order.sequenceType = .rcur →
    ∃ used ∈ db.debits, used.mandateReference = order.mandateReference ∧ HandedOut db used
  first : ∀ (place : ℕ) (order : Order), db.debits[place]? = some order → InActiveRun db order →
    ¬ HandedOut db order → order.sequenceType = .frst →
    ∀ (other : ℕ) (row : Order), db.debits[other]? = some row → InActiveRun db row →
      row.mandateReference = order.mandateReference → other = place

section Uses

variable {db next : Db} {order : Order} {mandate : String} {body : RunIn} {run : Run} {orders : List Order}

theorem FirstThenRecurring.append (uses : FirstThenRecurring before) (used : before ≠ [])
    (recurring : ∀ use ∈ later, use = SequenceType.rcur) : FirstThenRecurring (before ++ later) := by
  rcases uses with none | ⟨rest, rfl, rcur⟩
  · exact absurd none used
  · refine Or.inr ⟨rest ++ later, rfl, ?_⟩
    intro use member
    rcases mem_append.mp member with old | isNew
    · exact rcur use old
    · exact recurring use isNew

theorem mem_usesIn : use ∈ usesIn db mandate runId ↔
    ∃ order ∈ db.debits, order.runId = runId ∧ order.mandateReference = mandate ∧ order.sequenceType = use := by
  simp [usesIn, and_assoc]

theorem exportedUses_ne_nil (exports : ∀ runId, runId ∈ db.debitExports ↔ runStatus db runId = some .exported) :
    exportedUses db mandate ≠ [] ↔ ∃ order ∈ db.debits, order.mandateReference = mandate ∧ HandedOut db order := by
  constructor
  · intro used
    obtain ⟨use, member⟩ := exists_mem_of_ne_nil _ used
    obtain ⟨runId, exported, inRun⟩ := mem_flatMap.mp member
    obtain ⟨order, isOrder, rfl, ofMandate, _⟩ := mem_usesIn.mp inRun
    exact ⟨order, isOrder, ofMandate, (exports order.runId).mp exported⟩
  · rintro ⟨order, isOrder, ofMandate, handedOut⟩
    apply ne_nil_of_mem
    apply mem_flatMap.mpr
    exact ⟨order.runId, (exports order.runId).mpr handedOut, mem_usesIn.mpr ⟨order, isOrder, rfl, ofMandate, rfl⟩⟩

theorem handedOut_active (handedOut : HandedOut db order) : InActiveRun db order :=
  ⟨.exported, handedOut, by simp [activeRunStatuses]⟩

theorem previousUses_eq_zero : previousUses db accountId = 0 ↔
    ∀ order ∈ db.debits, order.contactBankAccountId = accountId → ¬ HandedOut db order := by
  simp [previousUses, HandedOut]

theorem sequenceType_frst : sequenceType uses = .frst ↔ uses = 0 := by
  unfold sequenceType
  split <;> simp_all

/-- Orders of a new run collect under a usable mandate, first if the account has no use. -/
theorem NewRun.collectable (new : NewRun db body run orders) (member : order ∈ orders) :
    Collectable db body order.openItemId order.contactBankAccountId order.mandateReference ∧
      (order.sequenceType = .frst ↔
        ∀ other ∈ db.debits, other.contactBankAccountId = order.contactBankAccountId → ¬ HandedOut db other) := by
  obtain ⟨free, item, contract, party, account, due, ofContract, one, ofMandate, sequence⟩ := new.collects order member
  refine ⟨⟨free, item, contract, party, account, due, ofContract, ?_, ofMandate⟩, ?_⟩
  · rw [one]
    exact mem_singleton_self _
  · rw [sequence, sequenceType_frst, previousUses_eq_zero]

/-- The state with a new run. -/
abbrev withRun (db : Db) (run : Run) (orders : List Order) : Db :=
  { db with
    debitRuns := db.debitRuns ++ [run]
    debits := db.debits ++ orders.map fun order => { order with runId := db.debitRuns.length } }

theorem runStatus_withRun (draft : run.status = .draft) (runId : RunId) :
    runStatus (withRun db run orders) runId =
      if runId = db.debitRuns.length then some .draft else runStatus db runId := by
  unfold runStatus withRun
  dsimp only
  by_cases before : runId < db.debitRuns.length
  · rw [List.getElem?_append_left before, if_neg (Nat.ne_of_lt before)]
  · by_cases last : runId = db.debitRuns.length
    · rw [if_pos last, last, List.getElem?_append_right le_rfl]
      simp [draft]
    · have beyond : db.debitRuns.length < runId := lt_of_le_of_ne (Nat.le_of_not_lt before) (Ne.symm last)
      rw [if_neg last, List.getElem?_eq_none (by simp; omega), List.getElem?_eq_none (by omega)]

theorem exportedUses_withRun (exports : ∀ runId, runId ∈ db.debitExports ↔ runStatus db runId = some .exported)
    (run : Run) (orders : List Order) : exportedUses (withRun db run orders) mandate = exportedUses db mandate := by
  unfold exportedUses
  apply flatMap_congr
  intro runId exported
  have inTable : runId < db.debitRuns.length := by
    have status := (exports runId).mp exported
    rw [runStatus, Option.map_eq_some_iff] at status
    obtain ⟨_, found, _⟩ := status
    exact found_lt found
  have noneNew : ((orders.map fun order => { order with runId := db.debitRuns.length }).filter fun order =>
      order.runId = runId ∧ order.mandateReference = mandate) = [] := by
    apply filter_eq_nil_iff.mpr
    intro order member
    obtain ⟨drawn, _, rfl⟩ := mem_map.mp member
    simp [Nat.ne_of_gt inTable]
  unfold usesIn
  rw [filter_append, noneNew, append_nil]

section

variable (runs : ∀ order ∈ db.debits, order.runId < db.debitRuns.length) (draft : run.status = .draft)
  (member : order ∈ db.debits)
include runs draft member

theorem handedOut_withRun :
    HandedOut (withRun db run orders) order ↔ HandedOut db order := by
  unfold HandedOut
  rw [runStatus_withRun draft, if_neg (Nat.ne_of_lt (runs order member))]

theorem active_withRun :
    InActiveRun (withRun db run orders) order ↔ InActiveRun db order := by
  unfold InActiveRun
  rw [runStatus_withRun draft, if_neg (Nat.ne_of_lt (runs order member))]

end

theorem found_withRun (found : (withRun db run orders).debits[place]? = some order) :
    db.debits[place]? = some order ∨ ∃ (position : ℕ) (drawn : Order), place = db.debits.length + position ∧
      orders[position]? = some drawn ∧ order = { drawn with runId := db.debitRuns.length } := by
  by_cases before : place < db.debits.length
  · rw [List.getElem?_append_left before] at found
    exact Or.inl found
  · rw [List.getElem?_append_right (Nat.le_of_not_lt before), List.getElem?_map, Option.map_eq_some_iff] at found
    obtain ⟨drawn, isDrawn, rfl⟩ := found
    exact Or.inr ⟨place - db.debits.length, drawn, by omega, isDrawn, rfl⟩

theorem UsesSound.withRun (sound : UsesSound db) (new : NewRun db body run orders)
    (prepared : FirstUsePrepared db (.createRun body)) : UsesSound (withRun db run orders) := by
  have runs : ∀ order ∈ (DirectDebit.withRun db run orders).debits,
      order.runId < (DirectDebit.withRun db run orders).debitRuns.length := by
    intro order member
    rw [length_append, length_singleton]
    rcases mem_append.mp member with old | isNew
    · exact Nat.lt_succ_of_lt (sound.runs order old)
    · obtain ⟨drawn, _, rfl⟩ := mem_map.mp isNew
      exact Nat.lt_succ_self _
  -- what the condition says of one order of the new run
  have noUse : ∀ drawn ∈ orders, drawn.sequenceType = .frst →
      (∀ order ∈ db.debits, InActiveRun db order → order.mandateReference ≠ drawn.mandateReference) ∧
      ∀ other ∈ orders, other.mandateReference = drawn.mandateReference → other.openItemId = drawn.openItemId := by
    intro drawn member first
    obtain ⟨collectable, sequence⟩ := new.collectable member
    obtain ⟨noneActive, onlyItem⟩ := (prepared _ _ _ collectable).1 (sequence.mp first)
    refine ⟨noneActive, ?_⟩
    intro other isOther same
    exact onlyItem _ other.contactBankAccountId (same ▸ (new.collectable isOther).1)
  have hasUse : ∀ drawn ∈ orders, drawn.sequenceType = .rcur →
      ∃ used ∈ db.debits, used.mandateReference = drawn.mandateReference ∧ HandedOut db used := by
    intro drawn member recurring
    obtain ⟨collectable, sequence⟩ := new.collectable member
    apply (prepared _ _ _ collectable).2
    by_contra unused
    push Not at unused
    rw [sequence.mpr unused] at recurring
    cases recurring
  refine ⟨runs, ?_, ?_, ?_, ?_⟩
  · intro runId
    rw [runStatus_withRun new.draft]
    split
    · rename_i isNew
      refine ⟨fun exported => ?_, fun status => by cases status⟩
      have status := (sound.exports runId).mp exported
      rw [runStatus, isNew, List.getElem?_eq_none le_rfl] at status
      cases status
    · exact sound.exports runId
  · intro mandate
    rw [exportedUses_withRun sound.exports]
    exact sound.uses mandate
  · intro order member active recurring
    have old : ∃ used ∈ db.debits, used.mandateReference = order.mandateReference ∧ HandedOut db used := by
      rcases mem_append.mp member with old | isNew
      · exact sound.recurring order old ((active_withRun sound.runs new.draft old).mp active) recurring
      · obtain ⟨drawn, isDrawn, rfl⟩ := mem_map.mp isNew
        exact hasUse drawn isDrawn recurring
    obtain ⟨used, isUsed, same, handedOut⟩ := old
    exact ⟨used, mem_append_left _ isUsed, same, (handedOut_withRun sound.runs new.draft isUsed).mpr handedOut⟩
  · intro place order found active waiting first other row foundRow activeRow same
    rcases found_withRun found with old | ⟨position, drawn, rfl, isDrawn, rfl⟩
    · have isOrder := mem_of_getElem? old
      have wasActive := (active_withRun sound.runs new.draft isOrder).mp active
      have wasWaiting := fun handedOut => waiting ((handedOut_withRun sound.runs new.draft isOrder).mpr handedOut)
      rcases found_withRun foundRow with oldRow | ⟨at', drawnRow, rfl, isDrawnRow, rfl⟩
      · have isRow := mem_of_getElem? oldRow
        exact sound.first place order old wasActive wasWaiting first other row oldRow
          ((active_withRun sound.runs new.draft isRow).mp activeRow) same
      · have isRow := mem_of_getElem? isDrawnRow
        cases sequence : drawnRow.sequenceType with
        | frst => exact absurd same.symm ((noUse drawnRow isRow sequence).1 order isOrder wasActive)
        | rcur =>
          obtain ⟨used, isUsed, ofMandate, handedOut⟩ := hasUse drawnRow isRow sequence
          obtain ⟨usedPlace, foundUsed⟩ := mem_iff_getElem?.mp isUsed
          have samePlace := sound.first place order old wasActive wasWaiting first usedPlace used foundUsed
            (handedOut_active handedOut) (ofMandate.trans same)
          rw [samePlace, old] at foundUsed
          exact absurd (Option.some.inj foundUsed ▸ handedOut) wasWaiting
    · have isOrder := mem_of_getElem? isDrawn
      obtain ⟨noneActive, onlyItem⟩ := noUse drawn isOrder first
      rcases found_withRun foundRow with oldRow | ⟨at', drawnRow, rfl, isDrawnRow, rfl⟩
      · have isRow := mem_of_getElem? oldRow
        exact absurd same (noneActive row isRow ((active_withRun sound.runs new.draft isRow).mp activeRow))
      · have sameItem := onlyItem drawnRow (mem_of_getElem? isDrawnRow) same
        rw [place_of_key new.once isDrawnRow isDrawn sameItem]

section Change

variable {runId : RunId} {old : Run} {exports : Bool}

theorem exportedUses_export (debits : next.debits = db.debits)
    (exported : next.debitExports = if exports then db.debitExports ++ [runId] else db.debitExports) :
    exportedUses next mandate = exportedUses db mandate ++ if exports then usesIn db mandate runId else [] := by
  have same : usesIn next mandate = usesIn db mandate := by
    funext
    rw [usesIn, usesIn, debits]
  unfold exportedUses
  rw [same, exported]
  cases exports with
  | true => simp
  | false => simp

/-- The file of a run waiting for its export continues the uses of every mandate rightly. -/
theorem UsesSound.export (sound : UsesSound db) (present : db.debitRuns[runId]? = some old)
    (waiting : old.status ≠ .exported) (active : old.status ∈ activeRunStatuses) (mandate : String) :
    FirstThenRecurring (exportedUses db mandate ++ usesIn db mandate runId) := by
  have status : runStatus db runId = some old.status := by rw [runStatus, present]; rfl
  have ofRun : ∀ order ∈ db.debits, order.runId = runId → InActiveRun db order ∧ ¬ HandedOut db order := by
    intro order _ inRun
    refine ⟨⟨old.status, by rw [inRun, status]; rfl, active⟩, ?_⟩
    rw [HandedOut, inRun, status]
    exact fun handedOut => waiting (Option.some.inj handedOut)
  by_cases allRecurring : ∀ use ∈ usesIn db mandate runId, use = .rcur
  · by_cases none : usesIn db mandate runId = []
    · rw [none, append_nil]
      exact sound.uses mandate
    · obtain ⟨use, member⟩ := exists_mem_of_ne_nil _ none
      obtain ⟨order, isOrder, inRun, ofMandate, rfl⟩ := mem_usesIn.mp member
      obtain ⟨used, isUsed, same, handedOut⟩ :=
        sound.recurring order isOrder (ofRun order isOrder inRun).1 (allRecurring _ member)
      have usedBefore := (exportedUses_ne_nil sound.exports).mpr ⟨used, isUsed, same.trans ofMandate, handedOut⟩
      exact (sound.uses mandate).append usedBefore allRecurring
  · push Not at allRecurring
    obtain ⟨use, member, notRecurring⟩ := allRecurring
    obtain ⟨order, isOrder, inRun, ofMandate, rfl⟩ := mem_usesIn.mp member
    have first : order.sequenceType = .frst := by
      cases sequence : order.sequenceType with
      | frst => rfl
      | rcur => exact absurd sequence notRecurring
    obtain ⟨place, found⟩ := mem_iff_getElem?.mp isOrder
    obtain ⟨isActive, notHandedOut⟩ := ofRun order isOrder inRun
    have only := sound.first place order found isActive notHandedOut first
    have unused : exportedUses db mandate = [] := by
      by_contra used
      obtain ⟨row, isRow, same, handedOut⟩ := (exportedUses_ne_nil sound.exports).mp used
      obtain ⟨rowPlace, foundRow⟩ := mem_iff_getElem?.mp isRow
      rw [only rowPlace row foundRow (handedOut_active handedOut) (same.trans ofMandate.symm), found] at foundRow
      exact notHandedOut (Option.some.inj foundRow ▸ handedOut)
    have once : (db.debits.filter fun order => order.runId = runId ∧ order.mandateReference = mandate).length ≤ 1 := by
      apply filter_length_le_one
      intro i j row other foundRow foundOther selected selectedOther
      simp only [decide_eq_true_eq] at selected selectedOther
      have ofRow := only i row foundRow (ofRun row (mem_of_getElem? foundRow) selected.1).1
        (selected.2.trans ofMandate.symm)
      have ofOther := only j other foundOther (ofRun other (mem_of_getElem? foundOther) selectedOther.1).1
        (selectedOther.2.trans ofMandate.symm)
      exact ofRow.trans ofOther.symm
    have inFile : order ∈ db.debits.filter fun order => order.runId = runId ∧ order.mandateReference = mandate :=
      mem_filter.mpr ⟨isOrder, by simp [inRun, ofMandate]⟩
    have single : usesIn db mandate runId = [order.sequenceType] := by
      unfold usesIn
      rw [eq_singleton_of_mem once inFile]
      rfl
    rw [unused, single, first]
    exact Or.inr ⟨[], rfl, by simp⟩

section

variable (present : db.debitRuns[runId]? = some old) (debitRuns : next.debitRuns = db.debitRuns.set runId run)
include present debitRuns

theorem exported_set (continues : Continues old run exports) (index : RunId) : runStatus next index = some .exported ↔
      runStatus db index = some .exported ∨ (index = runId ∧ exports = true) := by
  rw [runStatus_set present debitRuns]
  by_cases same : index = runId
  · have before : runStatus db runId = some old.status := by rw [runStatus, present]; rfl
    rw [if_pos same, same, before, continues.exports, Option.some_inj, Option.some_inj]
    constructor
    · intro exported
      by_cases was : old.status = .exported
      · exact Or.inl was
      · exact Or.inr ⟨rfl, was, exported⟩
    · rintro (was | ⟨_, _, exported⟩)
      · exact continues.exported was
      · exact exported
  · rw [if_neg same]
    simp [same]

end

theorem UsesSound.change (sound : UsesSound db) (present : db.debitRuns[runId]? = some old)
    (continues : Continues old run exports) (debits : next.debits = db.debits)
    (debitRuns : next.debitRuns = db.debitRuns.set runId run)
    (exported : next.debitExports = if exports then db.debitExports ++ [runId] else db.debitExports) :
    UsesSound next := by
  have handedOut : ∀ order, HandedOut db order → HandedOut next order := fun order handedOut =>
    (exported_set present debitRuns continues order.runId).mpr (Or.inl handedOut)
  have active : ∀ order, InActiveRun next order → InActiveRun db order := fun order =>
    active_set present debitRuns continues
  refine ⟨?_, ?_, ?_, ?_, ?_⟩
  · rw [debits, debitRuns, length_set]
    exact sound.runs
  · intro index
    rw [exported_set present debitRuns continues, exported, ← sound.exports index]
    cases exports with
    | true => simp
    | false => simp
  · intro mandate
    rw [exportedUses_export debits exported]
    cases exports with
    | true =>
      have waiting := (continues.exports.mp rfl).1
      have notCancelled : old.status ≠ .cancelled := by
        intro cancelled
        have later := (continues.exports.mp rfl).2
        rw [continues.cancelled cancelled] at later
        cases later
      exact sound.export present waiting (notCancelled_iff.mpr notCancelled) mandate
    | false => simpa using sound.uses mandate
  · intro order member isActive recurring
    rw [debits] at member ⊢
    obtain ⟨used, isUsed, same, out⟩ := sound.recurring order member (active order isActive) recurring
    exact ⟨used, isUsed, same, handedOut used out⟩
  · intro place order found isActive waiting first other row foundRow activeRow same
    rw [debits] at found foundRow
    exact sound.first place order found (active order isActive) (fun out => waiting (handedOut order out)) first
      other row foundRow (active row activeRow) same

end Change

theorem UsesSound.step (sound : UsesSound db) (prepared : FirstUsePrepared db request)
    (accepted : debitStep db request = .ok next) : UsesSound next := by
  obtain ⟨work, read, written⟩ := Protocol.serve_ok.mp accepted
  have ready := readDebit_ready read
  cases work with
  | insert run orders =>
    obtain ⟨body, rfl, made⟩ := readDebit_insert read
    obtain rfl := pure_ok.mp written
    exact sound.withRun (createRun_ok made) prepared
  | change runId run voids approval document exports =>
    obtain ⟨old, present, continues⟩ := ready
    obtain rfl := pure_ok.mp written
    exact sound.change present continues rfl rfl rfl
  | elsewhere tables =>
    obtain rfl := pure_ok.mp written
    exact ⟨sound.runs, sound.exports, sound.uses, sound.recurring, sound.first⟩

end Uses

/-- Exported files use every mandate first and then recurring, if every first use is prepared alone. -/
theorem exported_first_then_recurring {db : Db} (noRuns : db.debitRuns = []) (noDebits : db.debits = [])
    (noExports : db.debitExports = []) (requests : List DebitRequest)
    (prepared : Guarded debitStep FirstUsePrepared db requests) (mandate : String) :
    FirstThenRecurring (exportedUses (run debitStep db requests) mandate) := by
  have started : UsesSound db := by
    refine ⟨by simp [noDebits], by simp [noExports, noRuns, runStatus], ?_, by simp [noDebits], by simp [noDebits]⟩
    intro mandate
    rw [exportedUses, noExports]
    exact Or.inl rfl
  have sound := prepared.invariant (fun _ _ _ sound admitted accepted => sound.step admitted accepted) requests started
  exact sound.uses mandate

/-- Approval by two persons, file and export of a run. -/
def sampleExports (runId : RunId) (documentId : DocumentId) : List DebitRequest :=
  [.approveRun runId 0 false, .approveRun runId 1 false, .generateFile runId documentId, .downloadFile runId true]

/-- One run collects both first receivables of a contract. -/
theorem two_first_uses_in_one_run :
    exportedUses (run debitStep sampleCreditor (sampleRun [0, 1] "DD1" :: sampleExports 0 0)) "M1" = [.frst, .frst] := by
  decide +kernel

/-- The items that can be collected, with account and mandate. -/
def collectables (db : Db) (body : RunIn) : List (OpenItemId × ContactBankAccountId × String) :=
  (dueItems db body.ledgerId body.collectionDate body.openItemIds).flatMap fun found =>
    match found.1.contractId.bind (db.books.contracts[·]?) with
    | none => []
    | some contract =>
      (usable (partyAccounts db contract.partyId) body.collectionDate).filterMap fun way =>
        if found.2 ∈ itemsInActiveRuns db then none
        else way.2.1.mandateReference.map fun mandate => (found.2, way.2.2, mandate)

theorem Collectable.mem {db : Db} {body : RunIn} {mandate : String}
    (collectable : Collectable db body itemId accountId mandate) : (itemId, accountId, mandate) ∈ collectables db body := by
  obtain ⟨free, item, contract, member, account, due, ofContract, way, ofMandate⟩ := collectable
  apply mem_flatMap.mpr
  refine ⟨(item, itemId), due, ?_⟩
  simp only [ofContract]
  apply mem_filterMap.mpr
  refine ⟨(member, account, accountId), way, ?_⟩
  simp [free, ofMandate]

theorem prepared_of_collectables {db : Db} {body : RunIn}
    (first : ∀ found ∈ collectables db body,
      (∀ order ∈ db.debits, order.contactBankAccountId = found.2.1 → ¬ HandedOut db order) →
        (∀ order ∈ db.debits, InActiveRun db order → order.mandateReference ≠ found.2.2) ∧
        ∀ other ∈ collectables db body, other.2.2 = found.2.2 → other.1 = found.1)
    (later : ∀ found ∈ collectables db body,
      (∃ order ∈ db.debits, order.contactBankAccountId = found.2.1 ∧ HandedOut db order) →
        ∃ order ∈ db.debits, order.mandateReference = found.2.2 ∧ HandedOut db order) :
    FirstUsePrepared db (.createRun body) := by
  intro itemId accountId mandate collectable
  refine ⟨?_, later _ collectable.mem⟩
  intro unused
  obtain ⟨noneActive, onlyItem⟩ := first _ collectable.mem unused
  exact ⟨noneActive, fun otherId otherAccount other => onlyItem _ other.mem rfl⟩

/-- The second receivable is collected after the export of the first. -/
def sampleUses : List DebitRequest :=
  sampleRun [0] "DD1" :: (sampleExports 0 0 ++ sampleRun [1] "DD2" :: sampleExports 1 1)

theorem sample_first_then_recurring :
    FirstThenRecurring (exportedUses (run debitStep sampleCreditor sampleUses) "M1") := by
  have prepared : Guarded debitStep FirstUsePrepared sampleCreditor sampleUses := by
    refine ⟨?_, trivial, trivial, trivial, trivial, ?_, trivial, trivial, trivial, trivial, trivial⟩
    · apply prepared_of_collectables
      · decide +kernel
      · decide +kernel
    · apply prepared_of_collectables
      · decide +kernel
      · decide +kernel
  exact exported_first_then_recurring rfl rfl rfl _ prepared _

end Mhvp.Accounting.DirectDebit
