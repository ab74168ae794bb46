import Mhvp.Billing.RentRuns

namespace Mhvp.Billing

open Core Accounting Lib Lib.Calendar Lib.Versions

/-- An entry in force has the key. -/
def Claimed (entries : ResultEntries) (key : ResultKey) : Prop :=
  ∃ row ∈ entries, ∃ entry ∈ row, entry.InForce ∧ entry.idempotencyKey = key

instance : Decidable (Claimed entries key) := by unfold Claimed; infer_instance

theorem claimed_iff :
    Claimed entries key ↔ ∃ entryId entry, Standing entries entryId entry ∧ entry.idempotencyKey = key := by
  constructor
  · rintro ⟨row, member, entry, isEntry, inForce, isKey⟩
    obtain ⟨entryId, found⟩ := List.mem_iff_getElem?.mp member
    rw [Option.mem_def.mp isEntry] at found
    exact ⟨entryId, entry, ⟨storedEntry_eq_some.mpr found, inForce⟩, isKey⟩
  · rintro ⟨entryId, entry, ⟨stored, inForce⟩, isKey⟩
    exact ⟨some entry, List.mem_of_getElem? (storedEntry_eq_some.mp stored), entry, rfl, inForce, isKey⟩

theorem claimed_append {entries : ResultEntries} {added : List ResultEntry} :
    Claimed (entries ++ added.map some) key ↔
      Claimed entries key ∨ ∃ entry ∈ added, entry.InForce ∧ entry.idempotencyKey = key := by
  constructor
  · rintro ⟨row, member, entry, isEntry, holds⟩
    rcases List.mem_append.mp member with old | new
    · exact Or.inl ⟨row, old, entry, isEntry, holds⟩
    · obtain ⟨added', isAdded, rfl⟩ := List.mem_map.mp new
      obtain rfl := Option.mem_some.mp isEntry
      exact Or.inr ⟨added', isAdded, holds⟩
  · rintro (⟨row, old, holds⟩ | ⟨entry, isAdded, holds⟩)
    · exact ⟨row, List.mem_append_left _ old, holds⟩
    · exact ⟨some entry, List.mem_append_right _ (List.mem_map_of_mem isAdded), entry, rfl, holds⟩

/-- Entries in force carry the balance that the result of their version has for the party. -/
def Backed (key : StatementId → Party → ResultKey) (entries : ResultEntries)
    (balance : StatementId → Party → Option Decimal) : Prop :=
  ∀ entryId entry, Standing entries entryId entry → ∀ statementId party, entry.idempotencyKey = key statementId party →
    balance statementId party = some entry.amount

/-- The results of the versions of one statement are claimed once, as the version has them. -/
structure ResultsOnce (key : StatementId → Party → ResultKey) (earlier : List (Option StatementId))
    (entries : ResultEntries) (balance : StatementId → Party → Option Decimal) : Prop where
  once : ClaimedOnce earlier fun statementId party => Claimed entries (key statementId party)
  backed : Backed key entries balance

section Rules

variable {key : StatementId → Party → ResultKey} {earlier : List (Option StatementId)} {entries : ResultEntries}
  {balance : StatementId → Party → Option Decimal}

theorem ResultsOnce.entry {call : EntryCall} (results : ResultsOnce key earlier entries balance)
    (served : call.serve entries = .ok next) : ResultsOnce key earlier next balance := by
  constructor
  · apply results.once.of_before
    intro statementId party claimed
    obtain ⟨entryId, entry, stands, isKey⟩ := claimed_iff.mp claimed
    obtain ⟨before, stood, -, -, sameKey, -⟩ := call.standing_before served stands
    exact claimed_iff.mpr ⟨entryId, before, stood, sameKey.symm.trans isKey⟩
  · intro entryId entry stands statementId party isKey
    obtain ⟨before, stood, -, -, sameKey, sameAmount⟩ := call.standing_before served stands
    rw [sameAmount]
    exact results.backed entryId before stood statementId party (sameKey.symm.trans isKey)

theorem Backed.mono (backed : Backed key entries balance)
    (kept : ∀ statementId party amount, balance statementId party = some amount →
      later statementId party = some amount) : Backed key entries later :=
  fun entryId entry stands statementId party isKey =>
    kept statementId party entry.amount (backed entryId entry stands statementId party isKey)

theorem Backed.append (backed : Backed key entries balance) {added : List ResultEntry}
    (amounts : ∀ entry ∈ added, ∀ statementId party, entry.idempotencyKey = key statementId party →
      balance statementId party = some entry.amount) : Backed key (entries ++ added.map some) balance := by
  intro entryId entry stands statementId party isKey
  obtain ⟨stored, inForce⟩ := stands
  rcases Table.found_append_cases (storedEntry_eq_some.mp stored) with old | ⟨-, new⟩
  · exact backed entryId entry ⟨storedEntry_eq_some.mpr old, inForce⟩ statementId party isKey
  · obtain ⟨written, isAdded, same⟩ := List.mem_map.mp new
    obtain rfl := Option.some.inj same
    exact amounts written isAdded statementId party isKey

end Rules

namespace RentStatements

open Lib.Transition

def RentState.earlier (state : RentState) : List (Option StatementId) := state.statements.map RentStatement.supersedesId

/-- Balance of a contract in the result of a version. -/
def RentState.balance (state : RentState) (statementId : StatementId) (contractId : ContractId) : Option Decimal :=
  (state.statements[statementId]?.bind RentStatement.snapshot).bind fun snapshot =>
    (snapshot.rows.find? fun row => row.contractId = contractId).map fun row => row.balance

def RentState.ResultsOnce (state : RentState) : Prop :=
  Billing.ResultsOnce .rentStatement state.earlier state.entries state.balance

theorem StatementSnapshot.find_row {snapshot : StatementSnapshot} (member : row ∈ snapshot.rows) :
    (snapshot.rows.find? fun other => other.contractId = row.contractId) = some row := by
  obtain ⟨other, found⟩ : ∃ other, (snapshot.rows.find? fun other => other.contractId = row.contractId) = some other :=
    Option.isSome_iff_exists.mp (List.find?_isSome.mpr ⟨row, member, decide_eq_true rfl⟩)
  have isRow := List.find?_some found
  have same : other.contractId = row.contractId := of_decide_eq_true isRow
  rw [found, List.inj_on_of_nodup_map snapshot.distinct (List.mem_of_find?_eq_some found) member same]

theorem balance_of_row {state : RentState} (found : state.statements[statementId]? = some statement)
    (isSnapshot : statement.snapshot = some snapshot) (member : row ∈ snapshot.rows) :
    state.balance statementId row.contractId = some row.balance := by
  rw [RentState.balance, found, Option.bind_some, isSnapshot, Option.bind_some, StatementSnapshot.find_row member]
  rfl

/-- Statements keep what they supersede; a draft nobody calculated has no result. -/
structure RentState.Sound (state : RentState) : Prop where
  results : state.ResultsOnce
  ordered : Ordered state.earlier
  drafts : ∀ (statementId : StatementId) (statement : RentStatement), state.statements[statementId]? = some statement →
    statement.status = .draft → statement.snapshot = none

theorem Changed.supersedesId_eq (changed : Changed policy old new) : new.supersedesId = old.supersedesId := by
  cases changed with
  | patched draft body isPatched => rw [isPatched]; rfl
  | calculated draft calculation today isCalculated => rw [isCalculated]
  | issued deliveredAt result isSnapshot checked isIssued => rw [isIssued]
  | moved target allowed isMoved => rw [isMoved]
  | booked due ids isBooked => rw [isBooked]

theorem Changed.snapshot_cases (changed : Changed policy old new) :
    old.status = .draft ∧ (new.status = .draft → new.snapshot = old.snapshot) ∨
      new.status ≠ .draft ∧ new.snapshot = old.snapshot := by
  cases changed with
  | patched draft body isPatched => exact Or.inl ⟨draft, fun _ => by rw [isPatched]; rfl⟩
  | calculated draft calculation today isCalculated => exact Or.inl ⟨draft, isCalculated ▸ nofun⟩
  | issued deliveredAt result isSnapshot checked isIssued => exact Or.inr (isIssued ▸ ⟨nofun, rfl⟩)
  | moved target allowed isMoved =>
    subst isMoved
    refine Or.inr ⟨?_, rfl⟩
    rintro rfl
    exact old.status.draft_not_next allowed
  | booked due ids isBooked =>
    subst isBooked
    refine Or.inr ⟨?_, rfl⟩
    rw [due]
    exact nofun

theorem RentState.earlier_set {state : RentState} (found : state.statements[statementId]? = some old)
    (same : new.supersedesId = old.supersedesId) : (state.setStatement statementId new).earlier = state.earlier :=
  Table.map_set_same found same

theorem RentState.earlier_length (state : RentState) : state.earlier.length = state.statements.length :=
  List.length_map ..

theorem RentState.balance_known {state : RentState} (isBalance : state.balance statementId contractId = some amount) :
    statementId < state.statements.length := by
  obtain ⟨snapshot, found, -⟩ := Option.bind_eq_some_iff.mp isBalance
  obtain ⟨statement, isStatement, -⟩ := Option.bind_eq_some_iff.mp found
  exact Table.found_lt isStatement

theorem RentState.Sound.known {state : RentState} (sound : state.Sound)
    (claimed : Claimed state.entries (.rentStatement statementId contractId)) :
    statementId < state.statements.length := by
  obtain ⟨entryId, entry, stands, isKey⟩ := claimed_iff.mp claimed
  exact RentState.balance_known (sound.results.backed entryId entry stands statementId contractId isKey)

theorem RentState.Sound.balance_set {state : RentState} (sound : state.Sound)
    (found : state.statements[statementId]? = some old) (changed : Changed state.policy old new)
    (isBalance : state.balance other contractId = some amount) :
    (state.setStatement statementId new).balance other contractId = some amount := by
  obtain ⟨snapshot, isSnapshot, isRow⟩ := Option.bind_eq_some_iff.mp isBalance
  obtain ⟨statement, isStatement, has⟩ := Option.bind_eq_some_iff.mp isSnapshot
  by_cases here : other = statementId
  · subst here
    obtain rfl : old = statement := Option.mem_unique found isStatement
    have kept : new.snapshot = old.snapshot := by
      rcases changed.snapshot_cases with ⟨draft, -⟩ | ⟨-, same⟩
      · rw [sound.drafts other old found draft] at has
        cases has
      · exact same
    have foundNew : (state.setStatement other new).statements[other]? = some new :=
      (Table.found_set found).mpr (Or.inl ⟨rfl, rfl⟩)
    rw [RentState.balance, foundNew, Option.bind_some, kept, has, Option.bind_some]
    exact isRow
  · have foundOther : (state.setStatement statementId new).statements[other]? = some statement :=
      (Table.found_set found).mpr (Or.inr ⟨here, isStatement⟩)
    rw [RentState.balance, foundOther, Option.bind_some, has, Option.bind_some]
    exact isRow

theorem RentState.Sound.set {state : RentState} (sound : state.Sound)
    (found : state.statements[statementId]? = some old) (changed : Changed state.policy old new) :
    (state.setStatement statementId new).Sound := by
  have sameEarlier := RentState.earlier_set found changed.supersedesId_eq
  refine ⟨⟨?_, ?_⟩, ?_, ?_⟩
  · rw [sameEarlier]
    exact sound.results.once
  · exact sound.results.backed.mono fun _ _ _ isBalance => sound.balance_set found changed isBalance
  · rw [sameEarlier]
    exact sound.ordered
  · intro place statement foundAfter draft
    rcases (Table.found_set found).mp foundAfter with ⟨rfl, rfl⟩ | ⟨-, kept⟩
    · rcases changed.snapshot_cases with ⟨wasDraft, same⟩ | ⟨noDraft, -⟩
      · rw [same draft]
        exact sound.drafts place old found wasDraft
      · exact absurd draft noDraft
    · exact sound.drafts place statement kept draft

theorem RentState.Sound.append {state : RentState} (sound : state.Sound) {statement : RentStatement}
    (fresh : statement.Fresh) (superseded : ∀ prior ∈ statement.supersedesId, prior < state.statements.length) :
    ({ state with statements := state.statements ++ [statement] } : RentState).Sound := by
  have earlier : ({ state with statements := state.statements ++ [statement] } : RentState).earlier =
      state.earlier ++ [statement.supersedesId] := List.map_append
  refine ⟨⟨?_, ?_⟩, ?_, ?_⟩
  · rw [earlier]
    apply sound.results.once.append sound.ordered
    intro statementId contractId claimed
    rw [state.earlier_length]
    exact sound.known claimed
  · apply sound.results.backed.mono
    intro statementId contractId amount isBalance
    have known := RentState.balance_known isBalance
    have same : (state.statements ++ [statement])[statementId]? = state.statements[statementId]? :=
      List.getElem?_append_left known
    unfold RentState.balance
    rw [same]
    exact isBalance
  · rw [earlier]
    apply sound.ordered.append_one
    rw [state.earlier_length]
    exact superseded
  · intro place other found draft
    rcases Table.found_append_one.mp found with old | ⟨-, rfl⟩
    · exact sound.drafts place other old draft
    · exact fresh.2.1

section Booked

variable {state next : RentState} {statement : RentStatement} {snapshot : StatementSnapshot}
  {added offsets : List ResultEntry} {ids : List EntryId}

/-- The call books for the contract. -/
def BooksFor (state : RentState) (statementId : StatementId) (statement : RentStatement) (snapshot : StatementSnapshot)
    (contractId : ContractId) : Prop :=
  ∃ row ∈ snapshot.rows, Pending state.entries statement.ledgerId statementId row ∧ row.contractId = contractId

section

variable (booking : Booking state statementId next statement snapshot added offsets ids)
include booking

theorem Booking.claimed_iff (other : StatementId) (contractId : ContractId) :
    Claimed next.entries (.rentStatement other contractId) ↔
      Claimed state.entries (.rentStatement other contractId) ∨
        other = statementId ∧ BooksFor state statementId statement snapshot contractId := by
  rw [booking.isNext, List.append_assoc, ← List.map_append, claimed_append]
  apply or_congr_right
  constructor
  · rintro ⟨entry, member, -, isKey⟩
    rcases List.mem_append.mp member with isResult | isOffset
    · obtain ⟨row, isRow, pending, books⟩ := booking.written.books entry isResult
      have same := books.key.symm.trans isKey
      injection same with sameStatement sameContract
      exact ⟨sameStatement.symm, row, isRow, pending, sameContract⟩
    · obtain ⟨offsetContract, offsetKey⟩ := booking.isOffset entry isOffset
      rw [offsetKey] at isKey
      cases isKey
  · rintro ⟨rfl, row, isRow, pending, rfl⟩
    obtain ⟨entry, isAdded, books⟩ := booking.written.booked row isRow pending
    exact ⟨entry, List.mem_append_left _ isAdded, books.inForce, books.key⟩

theorem Booking.changed :
    Changed state.policy statement { statement with resultEntryIds := ids } := .booked booking.due ids rfl

theorem Booking.backed (sound : state.Sound) : Backed .rentStatement next.entries next.balance := by
  have later : ∀ other contractId amount, state.balance other contractId = some amount →
      next.balance other contractId = some amount := by
    intro other contractId amount isBalance
    rw [booking.isNext]
    exact sound.balance_set booking.found booking.changed isBalance
  have entries : next.entries = state.entries ++ (added ++ offsets).map some := by
    rw [booking.isNext, List.append_assoc, ← List.map_append]
  rw [entries]
  apply (sound.results.backed.mono later).append
  intro entry member other contractId isKey
  rcases List.mem_append.mp member with isResult | isOffset
  · obtain ⟨row, isRow, -, books⟩ := booking.written.books entry isResult
    have same := books.key.symm.trans isKey
    injection same with sameStatement sameContract
    subst sameStatement sameContract
    rw [books.amount]
    exact later _ _ _ (balance_of_row booking.found booking.isSnapshot isRow)
  · obtain ⟨offsetContract, offsetKey⟩ := booking.isOffset entry isOffset
    rw [offsetKey] at isKey
    cases isKey

theorem Booking.earlier :
    next.earlier = state.earlier := by
  rw [booking.isNext]
  exact RentState.earlier_set booking.found rfl

theorem Booking.sound (sound : state.Sound) (results : next.ResultsOnce) : next.Sound := by
  have moved := sound.set booking.found booking.changed
  refine ⟨results, ?_, ?_⟩
  · rw [booking.earlier]
    exact sound.ordered
  · have drafts := moved.drafts
    rw [booking.isNext]
    exact drafts

end

end Booked

section

variable (state : RentState) (call : RentCall) (next : RentState) (sound : state.Sound)
include state call next sound

end

end RentStatements

end Mhvp.Billing
