import Mhvp.Billing.ClaimedOnce
import Mhvp.Hoa.ResolutionRuns

namespace Mhvp.Hoa.Resolutions

open Core Accounting Billing Lib.Calendar Lib.Table Lib.Transition List
open Lib.Versions

def booked (units : List StatementUnit) : List StatementUnit := units.filter fun unit => unit.result ≠ 0

/-- Entry of the result of a unit. -/
structure PostsUnit (statementId : StatementId) (ledgerId : LedgerId) (unit : StatementUnit) (entry : ResultEntry) :
    Prop where
  key : entry.idempotencyKey = .hoaStatement statementId unit.unitId
  ledgerId : entry.ledgerId = ledgerId
  amount : entry.amount = unit.result
  inForce : entry.InForce

/-- Every unit with a result has one entry, under a key nobody used before. -/
structure UnitsPosted (statementId : StatementId) (ledgerId : LedgerId) (entries next : ResultEntries)
    (units : List StatementUnit) (added : List ResultEntry) : Prop where
  appended : next = entries ++ added.map some
  posts : ∀ entry ∈ added, ∃ unit ∈ booked units, PostsUnit statementId ledgerId unit entry
  posted : ∀ unit ∈ booked units, ∃ entry ∈ added, PostsUnit statementId ledgerId unit entry
  unused : ∀ unit ∈ booked units, ¬ Keyed entries ledgerId (.hoaStatement statementId unit.unitId)
  distinct : ((booked units).map StatementUnit.unitId).Nodup

section Loop

variable {statement : AnnualStatement} {statementId : StatementId} {decidedOn : Date} {office : PostingOffice}
  {entries next : ResultEntries} {units : List StatementUnit} {unit : StatementUnit}

theorem postUnit_ok (posted : postUnit statement statementId decidedOn office entries unit = .ok next) :
    unit.result = 0 ∧ next = entries ∨
      unit.result ≠ 0 ∧ ¬ Keyed entries statement.ledgerId (.hoaStatement statementId unit.unitId) ∧
        ∃ entry, PostsUnit statementId statement.ledgerId unit entry ∧ next = entries ++ [some entry] := by
  unfold postUnit at posted
  split at posted
  · rename_i zero
    exact Or.inl ⟨zero, (pure_ok.mp posted).symm⟩
  · rename_i notZero
    simp only [bind_ok, orRefuse_ok, exists_unit, require_ok, pure_ok] at posted
    obtain ⟨owner, -, debtor, -, unused, rfl⟩ := posted
    refine Or.inr ⟨notZero, unused, _, ?_, rfl⟩
    exact ⟨rfl, rfl, rfl, rfl⟩

theorem booked_cons_zero (zero : unit.result = 0) : booked (unit :: units) = booked units := by
  simp [booked, zero]

theorem booked_cons (notZero : unit.result ≠ 0) : booked (unit :: units) = unit :: booked units := by
  simp [booked, notZero]

theorem postUnits_ok (posted : units.foldlM (postUnit statement statementId decidedOn office) entries = .ok next) :
    ∃ added, UnitsPosted statementId statement.ledgerId entries next units added := by
  induction units generalizing entries with
  | nil =>
    obtain rfl : entries = next := by simpa using posted
    refine ⟨[], by simp, ?_, ?_, ?_, nodup_nil⟩
    all_goals exact fun _ member => absurd member not_mem_nil
  | cons unit rest ih =>
    rw [foldlM_cons, bind_ok] at posted
    obtain ⟨between, first, posted⟩ := posted
    obtain ⟨added, later⟩ := ih posted
    rcases postUnit_ok first with ⟨zero, rfl⟩ | ⟨notZero, unused, entry, posts, rfl⟩
    · refine ⟨added, later.appended, ?_, ?_, ?_, ?_⟩
      all_goals rw [booked_cons_zero zero]
      · exact later.posts
      · exact later.posted
      · exact later.unused
      · exact later.distinct
    · have others : ∀ other ∈ booked rest, other.unitId ≠ unit.unitId := by
        intro other member same
        apply later.unused other member
        rw [same]
        exact ⟨some entry, mem_append_right _ (mem_singleton_self _), entry, rfl, posts.ledgerId, posts.key⟩
      refine ⟨entry :: added, ?_, ?_, ?_, ?_, ?_⟩
      all_goals try rw [booked_cons notZero]
      · simpa using later.appended
      · intro written member
        rcases mem_cons.mp member with rfl | isLater
        · exact ⟨unit, mem_cons_self, posts⟩
        · obtain ⟨other, inRest, isPosted⟩ := later.posts written isLater
          exact ⟨other, mem_cons_of_mem unit inRest, isPosted⟩
      · intro other member
        rcases mem_cons.mp member with rfl | inRest
        · exact ⟨entry, mem_cons_self, posts⟩
        · obtain ⟨written, isLater, isPosted⟩ := later.posted other inRest
          exact ⟨written, mem_cons_of_mem entry isLater, isPosted⟩
      · intro other member
        rcases mem_cons.mp member with rfl | inRest
        · exact unused
        · rintro ⟨row, old, keyed⟩
          exact later.unused other inRest ⟨row, mem_append_left _ old, keyed⟩
      · rw [map_cons, nodup_cons]
        refine ⟨?_, later.distinct⟩
        intro member
        obtain ⟨other, inRest, same⟩ := mem_map.mp member
        exact others other inRest same

end Loop

def HoaState.earlier (state : HoaState) : List (Option StatementId) := state.statementRows.map fun row => row.supersedesId

def bookedUnits (row : Resolvable StatementItem StatementResult) : List StatementUnit :=
  booked ((row.snapshot.map StatementResult.units).getD [])

/-- Result of a unit in the snapshot of a version. -/
def HoaState.balance (state : HoaState) (statementId : StatementId) (unitId : UnitId) : Option Decimal := do
  let row ← state.statementRows[statementId]?
  let unit ← (bookedUnits row).find? fun unit => unit.unitId = unitId
  some unit.result

def HoaState.ResultsOnce (state : HoaState) : Prop :=
  Billing.ResultsOnce .hoaStatement state.earlier state.entries state.balance

/-- Statements keep what they supersede; a draft has no result. -/
structure HoaState.Sound (state : HoaState) : Prop where
  results : state.ResultsOnce
  ordered : Ordered state.earlier
  drafts : ∀ (statementId : StatementId) (row : Resolvable StatementItem StatementResult),
    state.statementRows[statementId]? = some row → row.status = .draft → row.snapshot = none

theorem HoaState.balance_eq_some {state : HoaState} : state.balance statementId unitId = some amount ↔
    ∃ row unit, state.statementRows[statementId]? = some row ∧
      (bookedUnits row).find? (fun unit => unit.unitId = unitId) = some unit ∧ unit.result = amount := by
  simp only [HoaState.balance, Option.bind_eq_bind, Option.bind_eq_some_iff, Option.some.injEq]
  constructor
  · rintro ⟨row, found, unit, isUnit, isAmount⟩
    exact ⟨row, unit, found, isUnit, isAmount⟩
  · rintro ⟨row, unit, found, isUnit, isAmount⟩
    exact ⟨row, found, unit, isUnit, isAmount⟩

theorem HoaState.Sound.known {state : HoaState} (sound : state.Sound)
    (claimed : Claimed state.entries (.hoaStatement statementId unitId)) : statementId < state.statementRows.length := by
  obtain ⟨entryId, entry, stands, isKey⟩ := claimed_iff.mp claimed
  obtain ⟨row, unit, found, -, -⟩ :=
    HoaState.balance_eq_some.mp (sound.results.backed entryId entry stands statementId unitId isKey)
  exact found_lt found

theorem HoaState.Sound.balance_kept {state next : HoaState} (sound : state.Sound)
    (kept : Onward RowKept state.statementRows next.statementRows)
    (isBalance : state.balance statementId unitId = some amount) : next.balance statementId unitId = some amount := by
  obtain ⟨row, unit, found, isUnit, isAmount⟩ := HoaState.balance_eq_some.mp isBalance
  obtain ⟨later, foundLater, rowKept⟩ := kept statementId row found
  have notDraft : row.status ≠ .draft := by
    intro draft
    rw [bookedUnits, sound.drafts statementId row found draft] at isUnit
    cases isUnit
  refine HoaState.balance_eq_some.mpr ⟨later, unit, foundLater, ?_, isAmount⟩
  rw [bookedUnits, (rowKept.frozen notDraft).2.1]
  exact isUnit

theorem TableStep.earlier {rows next : List (Resolvable Item Snapshot)}
    (step : TableStep resolutions subject rows next decision) :
    (next.map fun row => row.supersedesId) = rows.map (fun row => row.supersedesId) ∨
      ∃ supersedes : Option ℕ, (∀ prior ∈ supersedes, prior < rows.length) ∧
        (next.map fun row => row.supersedesId) = rows.map (fun row => row.supersedesId) ++ [supersedes] := by
  cases step with
  | unchanged same => exact Or.inl (by rw [same])
  | added row draft blank superseded isNext =>
    exact Or.inr ⟨row.supersedesId, superseded, by rw [isNext, map_append]; rfl⟩
  | item id row found draft item isNext | calculated id row found draft result hash isNext =>
    exact Or.inl (by rw [isNext]; exact map_set_same found rfl)
  | moved id row moved found body userId isMoved isNext =>
    exact Or.inl (by rw [isNext]; exact map_set_same found isMoved.kept.head.2.2)

theorem TableStep.drafts {rows next : List (Resolvable Item Snapshot)}
    (step : TableStep resolutions subject rows next decision)
    (drafts : ∀ (id : ℕ) (row : Resolvable Item Snapshot), rows[id]? = some row → row.status = .draft →
      row.snapshot = none) :
    ∀ (id : ℕ) (row : Resolvable Item Snapshot), next[id]? = some row → row.status = .draft → row.snapshot = none := by
  intro place other found draft
  cases step with
  | unchanged same => exact drafts place other (same ▸ found) draft
  | added row _ blank superseded isNext =>
    rw [isNext] at found
    rcases found_append_one.mp found with old | ⟨-, rfl⟩
    · exact drafts place other old draft
    · exact blank
  | item id row foundRow wasDraft item isNext =>
    rw [isNext] at found
    rcases (found_set foundRow).mp found with ⟨rfl, rfl⟩ | ⟨-, old⟩
    · exact drafts place row foundRow wasDraft
    · exact drafts place other old draft
  | calculated id row foundRow wasDraft result hash isNext =>
    rw [isNext] at found
    rcases (found_set foundRow).mp found with ⟨rfl, rfl⟩ | ⟨-, old⟩
    · cases draft
    · exact drafts place other old draft
  | moved id row moved foundRow body userId isMoved isNext =>
    rw [isNext] at found
    rcases (found_set foundRow).mp found with ⟨rfl, rfl⟩ | ⟨-, old⟩
    · rw [isMoved.isNext] at draft
      exact absurd (draft ▸ isMoved.allowed) row.status.draft_not_next
    · exact drafts place other old draft

theorem HoaState.Sound.tables {state next : HoaState} (sound : state.Sound)
    (step : TableStep state.resolutions .statement state.statementRows next.statementRows decision)
    (once : ClaimedOnce state.earlier fun statementId unitId => Claimed next.entries (.hoaStatement statementId unitId))
    (known : ∀ statementId unitId, Claimed next.entries (.hoaStatement statementId unitId) →
      statementId < state.statementRows.length)
    (backed : Backed .hoaStatement next.entries next.balance) : next.Sound := by
  have drafts := step.drafts sound.drafts
  have length : state.earlier.length = state.statementRows.length := length_map ..
  rcases step.earlier with same | ⟨supersedes, inside, appended⟩
  · have sameEarlier : next.earlier = state.earlier := same
    refine ⟨⟨?_, backed⟩, ?_, drafts⟩
    · rw [sameEarlier]
      exact once
    · rw [sameEarlier]
      exact sound.ordered
  · have longer : next.earlier = state.earlier ++ [supersedes] := appended
    refine ⟨⟨?_, backed⟩, ?_, drafts⟩
    · rw [longer]
      exact once.append sound.ordered (fun statementId unitId claimed => length ▸ known statementId unitId claimed) _
    · rw [longer]
      exact sound.ordered.append_one (length ▸ inside)

section Posted

variable {state next : HoaState} {statementId : StatementId} {statement : AnnualStatement} {userId : UserId}
  {moved : Resolvable StatementItem StatementResult} {decidedOn : Date} {office : PostingOffice}
  {entries : ResultEntries} {ids : List EntryId}

section

variable (posting : Posting state next statementId statement userId moved decidedOn office entries ids)
include posting

theorem Posting.units :
    ∃ added, UnitsPosted statementId statement.ledgerId state.entries next.entries
      ((statement.snapshot.map StatementResult.units).getD []) added := by
  rw [posting.isNext]
  exact postUnits_ok posting.booked

theorem Posting.claimed_iff (other : StatementId) (unitId : UnitId) :
    Claimed next.entries (.hoaStatement other unitId) ↔ Claimed state.entries (.hoaStatement other unitId) ∨
      other = statementId ∧ ∃ unit ∈ bookedUnits statement.toResolvable, unit.unitId = unitId := by
  obtain ⟨added, units⟩ := posting.units
  rw [units.appended, claimed_append]
  apply or_congr_right
  constructor
  · rintro ⟨entry, member, -, isKey⟩
    obtain ⟨unit, isBooked, posts⟩ := units.posts entry member
    have same := posts.key.symm.trans isKey
    injection same with sameStatement sameUnit
    exact ⟨sameStatement.symm, unit, isBooked, sameUnit⟩
  · rintro ⟨rfl, unit, isBooked, rfl⟩
    obtain ⟨entry, member, posts⟩ := units.posted unit isBooked
    exact ⟨entry, member, posts.inForce, posts.key⟩

theorem Posting.tableStep (found : state.statements[statementId]? = some statement) : TableStep state.resolutions .statement
      state.statementRows next.statementRows
      (some ⟨.statement statementId, .posted, userId, standing state.resolutions moved.resolutionId⟩) := by
  rw [posting.isNext]
  exact .moved statementId statement.toResolvable moved (statementRows_found found) { target := .posted } userId
    posting.isMoved map_set

end

theorem UnitsPosted.find_unit
    (units : UnitsPosted statementId ledgerId entries next' ((row.snapshot.map StatementResult.units).getD []) added)
    (isBooked : unit ∈ bookedUnits row) :
    ((bookedUnits row).find? fun other => other.unitId = unit.unitId) = some unit := by
  obtain ⟨other, found⟩ := Option.isSome_iff_exists.mp
    (List.find?_isSome (p := fun other : StatementUnit => decide (other.unitId = unit.unitId)).mpr
      ⟨unit, isBooked, decide_eq_true rfl⟩)
  have isUnit := List.find?_some found
  have same : other.unitId = unit.unitId := of_decide_eq_true isUnit
  rw [found, inj_on_of_nodup_map units.distinct (mem_of_find?_eq_some found) isBooked same]

section

variable (posting : Posting state next statementId statement userId moved decidedOn office entries ids)
  (found : state.statements[statementId]? = some statement)
include posting found

theorem Posting.backed (sound : state.Sound) :
    Backed .hoaStatement next.entries next.balance := by
  have later : ∀ other unitId amount, state.balance other unitId = some amount →
      next.balance other unitId = some amount :=
    fun other unitId amount => sound.balance_kept (posting.tableStep found).kept
  obtain ⟨added, units⟩ := posting.units
  rw [units.appended]
  apply (sound.results.backed.mono later).append
  intro entry member other unitId isKey
  obtain ⟨unit, isBooked, posts⟩ := units.posts entry member
  have same := posts.key.symm.trans isKey
  injection same with sameStatement sameUnit
  subst sameStatement sameUnit
  rw [posts.amount]
  apply later
  exact HoaState.balance_eq_some.mpr
    ⟨statement.toResolvable, unit, statementRows_found found, units.find_unit isBooked, rfl⟩

theorem Posting.earlier : next.earlier = state.earlier := by
  rw [posting.isNext, HoaState.earlier, HoaState.statementRows, map_set]
  exact map_set_same (statementRows_found found) posting.isMoved.kept.head.2.2

end

end Posted

theorem HoaState.Sound.step {state next : HoaState} (sound : state.Sound)
    (rows : ∃ decision, TableStep state.resolutions .statement state.statementRows next.statementRows decision)
    (entries : next.entries = state.entries ∨ ∃ call : EntryCall, call.serve state.entries = .ok next.entries) :
    next.Sound := by
  obtain ⟨decision, step⟩ := rows
  have results : Billing.ResultsOnce .hoaStatement state.earlier next.entries state.balance := by
    rcases entries with same | ⟨call, served⟩
    · exact same ▸ sound.results
    · exact sound.results.entry served
  refine sound.tables step results.once ?_ ?_
  · intro statementId unitId claimed
    obtain ⟨entryId, entry, stands, isKey⟩ := claimed_iff.mp claimed
    obtain ⟨row, unit, found, -, -⟩ :=
      HoaState.balance_eq_some.mp (results.backed entryId entry stands statementId unitId isKey)
    exact found_lt found
  · exact results.backed.mono fun statementId unitId amount => sound.balance_kept step.kept

variable {digest : Digest}

section

variable (state : HoaState) (call : HoaCall) (next : HoaState) (sound : state.Sound)
include state call next sound

end

end Mhvp.Hoa.Resolutions
