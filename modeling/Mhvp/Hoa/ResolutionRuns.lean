import Mhvp.Hoa.Resolutions
import Mhvp.Lib.Transition

namespace Mhvp.Hoa.Resolutions

open Core Accounting Billing Lib.Calendar Lib.Table Lib.Transition
open Lib.History

inductive HoaCall
  | createResolution (body : ResolutionIn)
  | patchResolution (resolutionId : ResolutionId) (body : ResolutionPatch) (current : Bool)
  | createPlan (body : PlanIn) (userId : UserId)
  | addPlanItem (planId : PlanId) (item : PlanItem) (reserves : List LedgerId)
  | calculatePlan (planId : PlanId) (register : PropertyRegister) (mode : RemainderMode)
  | transitionPlan (planId : PlanId) (body : TransitionIn) (userId : UserId)
  | createStatement (body : StatementIn) (userId : UserId)
  | addCost (statementId : StatementId) (item : StatementItem) (books : Books) (subCommunities : List PropertyId)
  | calculateStatement (statementId : StatementId) (db : Db) (register : PropertyRegister)
  | transitionStatement (statementId : StatementId) (body : TransitionIn) (userId : UserId) (checks : Checks)
  | postStatement (statementId : StatementId) (userId : UserId) (office : PostingOffice)
  | newVersion (statementId : StatementId) (body : NewVersionIn) (userId : UserId)
  | entry (call : EntryCall)

def serve (digest : Digest) (state : HoaState) : HoaCall → Result HoaState
  | .createResolution body => pure (createResolution state body)
  | .patchResolution resolutionId body current => patchResolution state resolutionId body current
  | .createPlan body userId => createPlan state body userId
  | .addPlanItem planId item reserves => addPlanItem state planId item reserves
  | .calculatePlan planId register mode => calculatePlan digest state planId register mode
  | .transitionPlan planId body userId => transitionPlan state planId body userId
  | .createStatement body userId => createStatement state body userId
  | .addCost statementId item books subCommunities => addCost state statementId item books subCommunities
  | .calculateStatement statementId db register => calculateStatement digest state statementId db register
  | .transitionStatement statementId body userId checks => transitionStatement state statementId body userId checks
  | .postStatement statementId userId office => postStatement state statementId userId office
  | .newVersion statementId body userId => newVersion state statementId body userId
  | .entry call => do
      let entries ← call.serve state.entries
      pure { state with entries }

inductive Subject
  | plan (planId : PlanId)
  | statement (statementId : StatementId)

/-- Who moved a row where, and the resolution of the row with its status at that moment. -/
structure Decision where
  subject : Subject
  target : StatementStatus
  userId : UserId
  resolution : Option (ResolutionId × ResolutionStatus)

def standing (resolutions : List Resolution) (resolutionId : Option ResolutionId) :
    Option (ResolutionId × ResolutionStatus) := do
  let resolutionId ← resolutionId
  let resolution ← resolutions[resolutionId]?
  some (resolutionId, resolution.status)

def HoaState.statementRows (state : HoaState) : List (Resolvable StatementItem StatementResult) :=
  state.statements.map AnnualStatement.toResolvable

/-- The decision of an accepted call. -/
def decisionOf (before : HoaState) (call : HoaCall) (after : HoaState) : Option Decision :=
  match call with
  | .transitionPlan planId body userId =>
    after.plans[planId]?.map fun row =>
      { subject := .plan planId, target := body.target, userId
        resolution := standing before.resolutions row.resolutionId }
  | .transitionStatement statementId body userId _ =>
    after.statementRows[statementId]?.map fun row =>
      { subject := .statement statementId, target := body.target, userId
        resolution := standing before.resolutions row.resolutionId }
  | .postStatement statementId userId _ =>
    if ∃ row ∈ before.statements[statementId]?, row.status = .posted then none
    else after.statementRows[statementId]?.map fun row =>
      { subject := .statement statementId, target := .posted, userId
        resolution := standing before.resolutions row.resolutionId }
  | _ => none

def note (before : HoaState) (call : HoaCall) (after : HoaState) (decisions : List Decision) : List Decision :=
  decisions ++ (decisionOf before call after).toList

/-- Every call, with the decisions noted. -/
def notedServe (digest : Digest) : HoaState × List Decision → HoaCall → Result (HoaState × List Decision) :=
  noted (serve digest) note

section Rows

variable {Item Snapshot : Type} {resolutions : List Resolution} {row next : Resolvable Item Snapshot}

/-- What an accepted `_move` did, and what it checked. -/
structure Moved (resolutions : List Resolution) (row next : Resolvable Item Snapshot) (body : TransitionIn)
    (userId : UserId) : Prop where
  isNext : next = { row with
    status := body.target
    resolutionId := if body.target = .resolved then body.resolutionId else row.resolutionId }
  allowed : body.target ∈ row.status.next
  issued : body.target = .issued → row.status = .resolved
  fourEyes : body.target = .internallyApproved → row.createdBy ≠ some userId
  resolved : body.target = .resolved → ∃ resolutionId resolution, body.resolutionId = some resolutionId ∧
    resolutions[resolutionId]? = some resolution ∧ resolution.status ∈ binding ∧ resolution.Matches row
  posted : body.target = .posted → ∃ resolutionId resolution, row.resolutionId = some resolutionId ∧
    resolutions[resolutionId]? = some resolution ∧ resolution.status ∈ binding

theorem move_ok (accepted : move resolutions row findings body userId = .ok next) :
    Moved resolutions row next body userId := by
  simp only [move, bind_ok, exists_unit, require_ok, permit_ok, checkTransition_hoa, pure_ok] at accepted
  obtain ⟨-, bound, fourEyes, -, ⟨allowed, issued, matching, posted⟩, rfl⟩ := accepted
  refine ⟨rfl, allowed, issued, fourEyes, ?_, ?_⟩
  · intro isResolved
    obtain ⟨resolution, isNamed, isBinding⟩ := bound isResolved
    obtain ⟨resolutionId, isId, found⟩ := Option.bind_eq_some_iff.mp isNamed
    refine ⟨resolutionId, resolution, isId, found, isBinding, ?_⟩
    have matched := matching isResolved
    have notPosted : body.target ≠ .posted := by rw [isResolved]; decide
    simp only [notPosted, if_false, decide_eq_true_eq] at matched
    obtain ⟨held, isHeld, isMatch⟩ := matched
    obtain rfl : resolution = held := Option.mem_unique isNamed isHeld
    exact isMatch
  · intro isPosted
    obtain ⟨status, isStatus, isBinding⟩ := posted isPosted
    simp only [isPosted, if_true] at isStatus
    obtain ⟨resolution, isHeld, rfl⟩ := Option.map_eq_some_iff.mp isStatus
    obtain ⟨resolutionId, isId, found⟩ := Option.bind_eq_some_iff.mp isHeld
    exact ⟨resolutionId, resolution, isId, found, isBinding⟩

/-- What a call does to one table, and the decision that comes with it. -/
inductive TableStep (resolutions : List Resolution) (subject : ℕ → Subject) (rows next : List (Resolvable Item Snapshot)) :
    Option Decision → Prop
  | unchanged (same : next = rows) : TableStep resolutions subject rows next none
  | added (row : Resolvable Item Snapshot) (draft : row.status = .draft) (blank : row.snapshot = none)
      (superseded : ∀ prior ∈ row.supersedesId, prior < rows.length) (isNext : next = rows ++ [row]) :
      TableStep resolutions subject rows next none
  | item (id : ℕ) (row : Resolvable Item Snapshot) (found : rows[id]? = some row) (draft : row.status = .draft)
      (item : Item) (isNext : next = rows.set id { row with items := row.items ++ [item] }) :
      TableStep resolutions subject rows next none
  | calculated (id : ℕ) (row : Resolvable Item Snapshot) (found : rows[id]? = some row) (draft : row.status = .draft)
      (result : Snapshot) (hash : String) (isNext : next = rows.set id (row.calculated result hash)) :
      TableStep resolutions subject rows next none
  | moved (id : ℕ) (row moved : Resolvable Item Snapshot) (found : rows[id]? = some row) (body : TransitionIn)
      (userId : UserId) (isMoved : Moved resolutions row moved body userId) (isNext : next = rows.set id moved) :
      TableStep resolutions subject rows next
        (some ⟨subject id, body.target, userId, standing resolutions moved.resolutionId⟩)

/-- From one row to the next: the status moves along the table, the content stays once it is no draft. -/
structure RowKept (row next : Resolvable Item Snapshot) : Prop where
  status : next.status = row.status ∨ next.status ∈ row.status.next
  frozen : row.status ≠ .draft → next.items = row.items ∧ next.snapshot = row.snapshot ∧
    next.snapshotHash = row.snapshotHash
  head : next.ledgerId = row.ledgerId ∧ next.createdBy = row.createdBy ∧ next.supersedesId = row.supersedesId

theorem RowKept.refl (row : Resolvable Item Snapshot) : RowKept row row :=
  ⟨Or.inl rfl, fun _ => ⟨rfl, rfl, rfl⟩, rfl, rfl, rfl⟩

theorem Moved.kept (moved : Moved resolutions row next body userId) : RowKept row next := by
  have allowed := moved.allowed
  rw [moved.isNext]
  exact ⟨Or.inr allowed, fun _ => ⟨rfl, rfl, rfl⟩, rfl, rfl, rfl⟩

theorem TableStep.kept
    (step : TableStep resolutions subject rows nextRows decision) : Onward RowKept rows nextRows := by
  cases step with
  | unchanged same => exact same ▸ Onward.refl RowKept.refl rows
  | added row draft blank superseded isNext => exact isNext ▸ Onward.append RowKept.refl rows [row]
  | item id row found draft item isNext =>
    rw [isNext]
    apply Onward.set RowKept.refl found
    exact ⟨Or.inl rfl, fun noDraft => absurd draft noDraft, rfl, rfl, rfl⟩
  | calculated id row found draft result hash isNext =>
    rw [isNext]
    apply Onward.set RowKept.refl found
    refine ⟨Or.inr ?_, fun noDraft => absurd draft noDraft, rfl, rfl, rfl⟩
    rw [draft]
    exact List.mem_singleton_self _
  | moved id row moved found body userId isMoved isNext =>
    rw [isNext]
    exact Onward.set RowKept.refl found isMoved.kept

def approvedOrLater : List StatementStatus := [.internallyApproved, .boardReviewed, .resolved, .issued, .due, .posted, .locked]

def resolvedOrLater : List StatementStatus := [.resolved, .issued, .due, .posted, .locked]

def postedOrLater : List StatementStatus := [.posted, .locked]

/-- Somebody moved the row to the target, on a resolution that was binding then. -/
def MovedOn (decisions : List Decision) (subject : Subject) (target : StatementStatus) (resolutionId : ResolutionId) :
    Prop :=
  ∃ decision ∈ decisions, decision.subject = subject ∧ decision.target = target ∧
    ∃ status ∈ binding, decision.resolution = some (resolutionId, status)

/-- The approval was another person's than the creator's; the resolution refers to the snapshot and was binding when
the row was resolved, and when it was posted. -/
structure Vouched (resolutions : List Resolution) (decisions : List Decision) (subject : Subject)
    (row : Resolvable Item Snapshot) : Prop where
  approved : row.status ∈ approvedOrLater → ∃ decision ∈ decisions, decision.subject = subject ∧
    decision.target = .internallyApproved ∧ row.createdBy ≠ some decision.userId
  resolved : row.status ∈ resolvedOrLater → ∃ resolutionId resolution, row.resolutionId = some resolutionId ∧
    resolutions[resolutionId]? = some resolution ∧ resolution.Matches row ∧
    MovedOn decisions subject .resolved resolutionId
  posted : row.status ∈ postedOrLater → ∃ resolutionId, row.resolutionId = some resolutionId ∧
    MovedOn decisions subject .posted resolutionId

/-- The column of a resolution that is read again later stays. -/
def SameReference (old new : Resolution) : Prop :=
  new.snapshotHash = old.snapshotHash ∧ new.legalEntityId = old.legalEntityId

variable {decisions more : List Decision} {subject : Subject}

theorem MovedOn.mono (movedOn : MovedOn decisions subject target resolutionId) (kept : decisions ⊆ more) :
    MovedOn more subject target resolutionId := by
  obtain ⟨decision, member, holds⟩ := movedOn
  exact ⟨decision, kept member, holds⟩

theorem Vouched.mono (vouched : Vouched resolutions decisions subject row)
    (onward : Onward SameReference resolutions later) (kept : decisions ⊆ more) : Vouched later more subject row := by
  refine ⟨?_, ?_, ?_⟩
  · intro isApproved
    obtain ⟨decision, member, holds⟩ := vouched.approved isApproved
    exact ⟨decision, kept member, holds⟩
  · intro isResolved
    obtain ⟨resolutionId, resolution, isId, found, ⟨hash, isHash, filled, same⟩, movedOn⟩ := vouched.resolved isResolved
    obtain ⟨next, foundNext, sameHash, -⟩ := onward resolutionId resolution found
    exact ⟨resolutionId, next, isId, foundNext, ⟨hash, isHash, filled, sameHash.trans same⟩, movedOn.mono kept⟩
  · intro isPosted
    obtain ⟨resolutionId, isId, movedOn⟩ := vouched.posted isPosted
    exact ⟨resolutionId, isId, movedOn.mono kept⟩

theorem Vouched.of_early (early : row.status ∉ approvedOrLater) : Vouched resolutions decisions subject row := by
  refine ⟨fun isApproved => absurd isApproved early, fun isResolved => absurd ?_ early, fun isPosted => absurd ?_ early⟩
  · revert isResolved
    cases row.status <;> decide
  · revert isPosted
    cases row.status <;> decide

theorem before_approved (allowed : target ∈ current.next)
    (late : target ∈ approvedOrLater) : target = .internallyApproved ∨ current ∈ approvedOrLater := by
  revert allowed late
  cases current <;> cases target <;> decide

theorem before_resolved (allowed : target ∈ current.next)
    (issued : target = .issued → current = .resolved) (late : target ∈ resolvedOrLater) :
    target = .resolved ∨ target ≠ .resolved ∧ current ∈ resolvedOrLater := by
  revert allowed issued late
  cases current <;> cases target <;> decide

theorem before_posted (allowed : target ∈ current.next)
    (late : target ∈ postedOrLater) : target = .posted ∨ target = .locked ∧ current ∈ postedOrLater := by
  revert allowed late
  cases current <;> cases target <;> decide

theorem standing_some (found : resolutions[resolutionId]? = some resolution) :
    standing resolutions (some resolutionId) = some (resolutionId, resolution.status) := by
  simp [standing, found]

theorem Vouched.moved (vouched : Vouched resolutions decisions subject row)
    (moved : Moved resolutions row next body userId) :
    Vouched resolutions (decisions ++ [⟨subject, body.target, userId, standing resolutions next.resolutionId⟩]) subject
      next := by
  have kept : decisions ⊆ decisions ++ [⟨subject, body.target, userId, standing resolutions next.resolutionId⟩] :=
    List.subset_append_left ..
  have isLast {decision : Decision} : decision ∈ decisions ++ [decision] :=
    List.mem_append_right _ (List.mem_singleton_self _)
  have allowed := moved.allowed
  have isNext := moved.isNext
  refine ⟨?_, ?_, ?_⟩
  · intro late
    rw [isNext] at late
    rcases before_approved allowed late with isApproved | before
    · refine ⟨_, isLast, rfl, isApproved, ?_⟩
      rw [isNext]
      exact moved.fourEyes isApproved
    · obtain ⟨decision, member, isSubject, isTarget, other⟩ := vouched.approved before
      refine ⟨decision, kept member, isSubject, isTarget, ?_⟩
      rw [isNext]
      exact other
  · intro late
    rw [isNext] at late
    rcases before_resolved allowed moved.issued late with isResolved | ⟨notResolved, before⟩
    · obtain ⟨resolutionId, resolution, isId, found, isBinding, isMatch⟩ := moved.resolved isResolved
      have isNamed : next.resolutionId = some resolutionId := by
        rw [isNext]
        simp only [isResolved, if_true]
        exact isId
      refine ⟨resolutionId, resolution, isNamed, found, ?_, ?_⟩
      · rw [isNext]
        exact isMatch
      · refine ⟨_, isLast, rfl, isResolved, resolution.status, isBinding, ?_⟩
        rw [isNamed]
        exact standing_some found
    · obtain ⟨resolutionId, resolution, isId, found, isMatch, movedOn⟩ := vouched.resolved before
      refine ⟨resolutionId, resolution, ?_, found, ?_, movedOn.mono kept⟩
      · rw [isNext]
        simp only [notResolved, if_false]
        exact isId
      · rw [isNext]
        exact isMatch
  · intro late
    rw [isNext] at late
    rcases before_posted allowed late with isPosted | ⟨isLocked, before⟩
    · obtain ⟨resolutionId, resolution, isId, found, isBinding⟩ := moved.posted isPosted
      have isNamed : next.resolutionId = some resolutionId := by
        rw [isNext]
        simp only [isPosted, reduceCtorEq, if_false]
        exact isId
      refine ⟨resolutionId, isNamed, _, isLast, rfl, isPosted, resolution.status, isBinding, ?_⟩
      rw [isNamed]
      exact standing_some found
    · obtain ⟨resolutionId, isId, movedOn⟩ := vouched.posted before
      refine ⟨resolutionId, ?_, movedOn.mono kept⟩
      rw [isNext]
      simp only [isLocked, reduceCtorEq, if_false]
      exact isId

end Rows

section Tables

variable {Item Snapshot : Type} {resolutions later : List Resolution} {subject : ℕ → Subject}
  {rows nextRows : List (Resolvable Item Snapshot)} {decisions more : List Decision} {decision : Option Decision}

def TableVouched (resolutions : List Resolution) (decisions : List Decision) (subject : ℕ → Subject)
    (rows : List (Resolvable Item Snapshot)) : Prop :=
  ∀ (id : ℕ) (row : Resolvable Item Snapshot), rows[id]? = some row → Vouched resolutions decisions (subject id) row

theorem TableVouched.mono (vouched : TableVouched resolutions decisions subject rows)
    (onward : Onward SameReference resolutions later) (kept : decisions ⊆ more) :
    TableVouched later more subject rows :=
  fun id row found => (vouched id row found).mono onward kept

theorem sameReference_refl (resolutions : List Resolution) : Onward SameReference resolutions resolutions :=
  Onward.refl (fun _ => ⟨rfl, rfl⟩) resolutions

theorem TableVouched.step (vouched : TableVouched resolutions decisions subject rows)
    (step : TableStep resolutions subject rows nextRows decision) :
    TableVouched resolutions (decisions ++ decision.toList) subject nextRows := by
  have kept := vouched.mono (sameReference_refl resolutions) (List.subset_append_left decisions decision.toList)
  cases step with
  | unchanged same =>
    rw [same]
    exact kept
  | added row draft blank superseded isNext =>
    intro id found' found
    rw [isNext] at found
    rcases found_append_one.mp found with old | ⟨-, rfl⟩
    · exact kept id found' old
    · exact .of_early (by rw [draft]; decide)
  | item id row foundRow draft item isNext =>
    intro place found' found
    rw [isNext] at found
    rcases (found_set foundRow).mp found with ⟨rfl, rfl⟩ | ⟨-, old⟩
    · exact .of_early (by rw [draft]; decide)
    · exact kept place found' old
  | calculated id row foundRow draft result hash isNext =>
    intro place found' found
    rw [isNext] at found
    rcases (found_set foundRow).mp found with ⟨rfl, rfl⟩ | ⟨-, old⟩
    · exact .of_early (show StatementStatus.calculated ∉ approvedOrLater by decide)
    · exact kept place found' old
  | moved id row moved foundRow body userId isMoved isNext =>
    intro place found' found
    rw [isNext] at found
    rcases (found_set foundRow).mp found with ⟨rfl, rfl⟩ | ⟨-, old⟩
    · exact (vouched place row foundRow).moved isMoved
    · exact kept place found' old

variable {ledgers : List Ledger}

/-- The resolution is one of the community whose ledger it is. -/
def OwnResolution (ledgers : List Ledger) (resolutions : List Resolution) (ledgerId : LedgerId)
    (resolutionId : ResolutionId) : Prop :=
  ∀ resolution ∈ resolutions[resolutionId]?, ∃ ledger ∈ ledgers[ledgerId]?,
    resolution.legalEntityId = ledger.legalEntityId

instance : Decidable (OwnResolution ledgers resolutions ledgerId resolutionId) := by
  unfold OwnResolution; infer_instance

def TableOwn (ledgers : List Ledger) (resolutions : List Resolution) (rows : List (Resolvable Item Snapshot)) : Prop :=
  ∀ (id : ℕ) (row : Resolvable Item Snapshot), rows[id]? = some row → row.status ∈ resolvedOrLater →
    ∀ resolutionId ∈ row.resolutionId, OwnResolution ledgers resolutions row.ledgerId resolutionId

section

variable (own : TableOwn ledgers resolutions rows)
include own

/-- A row that is resolved names a resolution of its community; other moves keep the resolution. -/
theorem TableOwn.moved_iff {id : ℕ}
    {row moved : Resolvable Item Snapshot} (found : rows[id]? = some row) (isMoved : Moved resolutions row moved body userId) :
    TableOwn ledgers resolutions (rows.set id moved) ↔
      (body.target = .resolved → ∀ resolutionId ∈ body.resolutionId,
        OwnResolution ledgers resolutions row.ledgerId resolutionId) := by
  have isNext := isMoved.isNext
  have here : (rows.set id moved)[id]? = some moved := (found_set found).mpr (Or.inl ⟨rfl, rfl⟩)
  constructor
  · intro after isResolved resolutionId isId
    have isLate : moved.status = .resolved := by rw [isNext]; exact isResolved
    have late : moved.status ∈ resolvedOrLater := by rw [isLate]; decide
    have named : resolutionId ∈ moved.resolutionId := by
      rw [isNext]
      simp only [isResolved, if_true]
      exact isId
    have sameLedger : moved.ledgerId = row.ledgerId := by rw [isNext]
    exact sameLedger ▸ after id moved here late resolutionId named
  · intro resolves place other foundOther late resolutionId isId
    rcases (found_set found).mp foundOther with ⟨rfl, rfl⟩ | ⟨-, old⟩
    · rw [isNext] at late isId ⊢
      rcases before_resolved isMoved.allowed isMoved.issued late with isResolved | ⟨notResolved, before⟩
      · simp only [isResolved, if_true] at isId
        exact resolves isResolved resolutionId isId
      · simp only [notResolved, if_false] at isId
        exact own place row found before resolutionId isId
    · exact own place other old late resolutionId isId

theorem TableOwn.quiet (step : TableStep resolutions subject rows nextRows none) :
    TableOwn ledgers resolutions nextRows := by
  have early {status : StatementStatus} (early : status = .draft ∨ status = .calculated) : status ∉ resolvedOrLater := by
    rcases early with rfl | rfl <;> decide
  cases step with
  | unchanged same => exact same ▸ own
  | added row draft blank superseded isNext =>
    intro id other found late
    rw [isNext] at found
    rcases found_append_one.mp found with old | ⟨-, rfl⟩
    · exact own id other old late
    · exact absurd late (early (Or.inl draft))
  | item id row foundRow draft item isNext =>
    intro place other found late
    rw [isNext] at found
    rcases (found_set foundRow).mp found with ⟨rfl, rfl⟩ | ⟨-, old⟩
    · exact absurd late (early (Or.inl draft))
    · exact own place other old late
  | calculated id row foundRow draft result hash isNext =>
    intro place other found late
    rw [isNext] at found
    rcases (found_set foundRow).mp found with ⟨rfl, rfl⟩ | ⟨-, old⟩
    · exact absurd late (early (Or.inr rfl))
    · exact own place other old late

theorem TableOwn.onward (vouched : TableVouched resolutions decisions subject rows)
    (onward : Onward SameReference resolutions later) : TableOwn ledgers later rows := by
  intro id row found late resolutionId isId resolution isResolution
  obtain ⟨held, old, isHeld, foundOld, -, -⟩ := (vouched id row found).resolved late
  obtain rfl : resolutionId = held := Option.some.inj ((Option.mem_def.mp isId).symm.trans isHeld)
  obtain ⟨next, foundNext, -, sameEntity⟩ := onward resolutionId old foundOld
  obtain rfl : resolution = next := Option.some.inj ((Option.mem_def.mp isResolution).symm.trans foundNext)
  rw [sameEntity]
  exact own id row found late resolutionId isId old foundOld

end

end Tables

/-- The other inputs of the calculation of a statement. -/
def SameReserves (old new : AnnualStatement) : Prop :=
  new.reserveOpening = old.reserveOpening ∧ new.reserveWithdrawals = old.reserveWithdrawals ∧
    new.reserveInterest = old.reserveInterest

theorem sameReserves_refl (statement : AnnualStatement) : SameReserves statement statement := ⟨rfl, rfl, rfl⟩

/-- Entries are written by a posting, and changed one by one. -/
inductive EntriesStep (state next : HoaState) : HoaCall → Prop
  | same (isSame : next.entries = state.entries) : EntriesStep state next call
  | entry (call : EntryCall) (served : call.serve state.entries = .ok next.entries) : EntriesStep state next (.entry call)
  | posted : EntriesStep state next (.postStatement statementId userId office)

/-- What a call does to the tables, and its decision. -/
inductive Step (state next : HoaState) (call : HoaCall) : Option Decision → Prop
  | resolutions (onward : Onward SameReference state.resolutions next.resolutions)
      (isNext : next = { state with resolutions := next.resolutions }) : Step state next call none
  | plans (decision : Option Decision) (step : TableStep state.resolutions .plan state.plans next.plans decision)
      (isNext : next = { state with plans := next.plans }) : Step state next call decision
  | statements (decision : Option Decision)
      (step : TableStep state.resolutions .statement state.statementRows next.statementRows decision)
      (reserves : Onward SameReserves state.statements next.statements) (entries : EntriesStep state next call)
      (isNext : next = { state with statements := next.statements, entries := next.entries }) :
      Step state next call decision

theorem statementRows_found {state : HoaState} {statementId : StatementId} {statement : AnnualStatement}
    (found : state.statements[statementId]? = some statement) :
    state.statementRows[statementId]? = some statement.toResolvable := by
  rw [HoaState.statementRows, List.getElem?_map, found]
  rfl

/-- A posting moves the statement, and books the result of every unit. -/
structure Posting (state next : HoaState) (statementId : StatementId) (statement : AnnualStatement) (userId : UserId)
    (moved : Resolvable StatementItem StatementResult) (decidedOn : Date) (office : PostingOffice)
    (entries : ResultEntries) (ids : List EntryId) : Prop where
  isMoved : Moved state.resolutions statement.toResolvable moved { target := .posted } userId
  booked : ((statement.snapshot.map StatementResult.units).getD []).foldlM
    (postUnit statement statementId decidedOn office) state.entries = .ok entries
  isNext : next = { state with
    entries
    statements := state.statements.set statementId { statement with toResolvable := moved, postedEntryIds := ids } }

theorem postStatement_ok (accepted : postStatement state statementId userId office = .ok next) :
    ∃ statement, state.statements[statementId]? = some statement ∧
      (statement.status = .posted ∧ next = state ∨ statement.status ≠ .posted ∧ ∃ moved decidedOn entries ids,
        Posting state next statementId statement userId moved decidedOn office entries ids) := by
  simp only [postStatement, bind_ok, orRefuse_ok, exists_unit, require_ok] at accepted
  obtain ⟨-, statement, found, posted⟩ := accepted
  refine ⟨statement, found, ?_⟩
  split at posted
  · rename_i already
    exact Or.inl ⟨already, (pure_ok.mp posted).symm⟩
  · rename_i notYet
    simp only [bind_ok, orRefuse_ok, exists_unit, require_ok, pure_ok] at posted
    obtain ⟨-, moved, isMoved, -, -, resolution, -, -, -, entries, booked, rfl⟩ := posted
    exact Or.inr ⟨notYet, moved, resolution.decidedOn, entries, _, move_ok isMoved, booked, rfl⟩

theorem serve_step {digest : Digest} {call : HoaCall} (accepted : serve digest state call = .ok next) :
    Step state next call (decisionOf state call next) := by
  cases call with
  | createResolution body =>
    obtain rfl := pure_ok.mp accepted
    exact .resolutions (Onward.append (fun _ => ⟨rfl, rfl⟩) _ _) rfl
  | patchResolution resolutionId body current =>
    simp only [serve, patchResolution, bind_ok, orRefuse_ok, exists_unit, require_ok, pure_ok] at accepted
    obtain ⟨row, found, -, -, rfl⟩ := accepted
    exact .resolutions (Onward.set (fun _ => ⟨rfl, rfl⟩) found ⟨rfl, rfl⟩) rfl
  | createPlan body userId =>
    simp only [serve, createPlan, bind_ok, exists_unit, require_ok, pure_ok] at accepted
    obtain ⟨-, -, -, rfl⟩ := accepted
    exact .plans _ (.added _ rfl rfl (by rintro _ ⟨⟩) rfl) rfl
  | addPlanItem planId item reserves =>
    simp only [serve, addPlanItem, bind_ok, orRefuse_ok, exists_unit, require_ok, pure_ok] at accepted
    obtain ⟨plan, found, draft, -, rfl⟩ := accepted
    exact .plans _ (.item planId plan found draft item rfl) rfl
  | calculatePlan planId register mode =>
    simp only [serve, calculatePlan, bind_ok, orRefuse_ok, exists_unit, require_ok, pure_ok] at accepted
    obtain ⟨plan, found, draft, -, -, -, result, -, rfl⟩ := accepted
    exact .plans _ (.calculated planId plan found draft result _ rfl) rfl
  | transitionPlan planId body userId =>
    simp only [serve, transitionPlan, bind_ok, orRefuse_ok, pure_ok] at accepted
    obtain ⟨plan, found, moved, isMoved, rfl⟩ := accepted
    have here : (state.plans.set planId moved)[planId]? = some moved := (found_set found).mpr (Or.inl ⟨rfl, rfl⟩)
    simp only [decisionOf, here, Option.map_some]
    exact .plans _ (.moved planId plan moved found body userId (move_ok isMoved) rfl) rfl
  | createStatement body userId =>
    simp only [serve, createStatement, bind_ok, pure_ok] at accepted
    obtain ⟨-, -, rfl⟩ := accepted
    exact .statements _ (.added _ rfl rfl (by rintro _ ⟨⟩) List.map_append) (Onward.append sameReserves_refl _ _) (.same rfl) rfl
  | addCost statementId item books subCommunities =>
    simp only [serve, addCost, bind_ok, orRefuse_ok, exists_unit, require_ok, pure_ok] at accepted
    obtain ⟨statement, found, draft, -, -, -, rfl⟩ := accepted
    exact .statements _ (.item statementId statement.toResolvable (statementRows_found found) draft item List.map_set)
      (Onward.set sameReserves_refl found ⟨rfl, rfl, rfl⟩) (.same rfl) rfl
  | calculateStatement statementId db register =>
    simp only [serve, calculateStatement, bind_ok, orRefuse_ok, exists_unit, require_ok, pure_ok] at accepted
    obtain ⟨statement, found, draft, -, -, -, result, -, rfl⟩ := accepted
    exact .statements _ (.calculated statementId statement.toResolvable (statementRows_found found) draft result _
      List.map_set) (Onward.set sameReserves_refl found ⟨rfl, rfl, rfl⟩) (.same rfl) rfl
  | transitionStatement statementId body userId checks =>
    simp only [serve, transitionStatement, bind_ok, orRefuse_ok, exists_unit, require_ok, pure_ok] at accepted
    obtain ⟨-, statement, found, -, -, moved, isMoved, rfl⟩ := accepted
    have here : (state.statements.set statementId { statement with toResolvable := moved })[statementId]? =
        some { statement with toResolvable := moved } := (found_set found).mpr (Or.inl ⟨rfl, rfl⟩)
    have row := @statementRows_found { state with statements := _ } _ _ here
    simp only [decisionOf, row, Option.map_some]
    exact .statements _ (.moved statementId statement.toResolvable moved (statementRows_found found) body userId
      (move_ok isMoved) List.map_set) (Onward.set sameReserves_refl found ⟨rfl, rfl, rfl⟩) (.same rfl) rfl
  | postStatement statementId userId office =>
    obtain ⟨statement, found, ⟨already, rfl⟩ | ⟨notYet, moved, decidedOn, entries, ids, posting⟩⟩ :=
      postStatement_ok accepted
    · have isPosted : ∃ row ∈ next.statements[statementId]?, row.status = .posted := ⟨statement, found, already⟩
      simp only [decisionOf, isPosted, if_true]
      exact .statements _ (.unchanged rfl) (Onward.refl sameReserves_refl _) (.same rfl) rfl
    · have notPosted : ¬ ∃ row ∈ state.statements[statementId]?, row.status = .posted := by
        rintro ⟨row, isRow, posted⟩
        obtain rfl : statement = row := Option.mem_unique found isRow
        exact notYet posted
      have here : next.statements[statementId]? =
          some { statement with toResolvable := moved, postedEntryIds := ids } := by
        rw [posting.isNext]
        exact (found_set found).mpr (Or.inl ⟨rfl, rfl⟩)
      simp only [decisionOf, notPosted, if_false, statementRows_found here, Option.map_some]
      rw [posting.isNext]
      exact .statements _ (.moved statementId statement.toResolvable moved (statementRows_found found)
        { target := .posted } userId posting.isMoved List.map_set)
        (Onward.set sameReserves_refl found ⟨rfl, rfl, rfl⟩) .posted rfl
  | newVersion statementId body userId =>
    simp only [serve, newVersion, bind_ok, orRefuse_ok, exists_unit, require_ok, pure_ok] at accepted
    obtain ⟨-, old, found, -, -, rfl⟩ := accepted
    have known : statementId < state.statementRows.length := found_lt (statementRows_found found)
    exact .statements _ (.added _ rfl rfl (by rintro _ ⟨⟩; exact known) List.map_append)
      (Onward.append sameReserves_refl _ _) (.same rfl) rfl
  | entry call =>
    simp only [serve, bind_ok, pure_ok] at accepted
    obtain ⟨entries, served, rfl⟩ := accepted
    exact .statements _ (.unchanged rfl) (Onward.refl sameReserves_refl _) (.entry call served) rfl

/-- Decisions of the run stand behind every plan and every statement. -/
structure AllVouched (now : HoaState × List Decision) : Prop where
  plans : TableVouched now.1.resolutions now.2 .plan now.1.plans
  statements : TableVouched now.1.resolutions now.2 .statement now.1.statementRows

structure AllOwn (state : HoaState) : Prop where
  plans : TableOwn state.ledgers state.resolutions state.plans
  statements : TableOwn state.ledgers state.resolutions state.statementRows

/-- What a call leaves of the rows. -/
structure RowsKept (state next : HoaState) : Prop where
  plans : Onward RowKept state.plans next.plans
  statements : Onward RowKept state.statementRows next.statementRows
  reserves : Onward SameReserves state.statements next.statements

/-- A row is resolved on a resolution of the community whose ledger it is in. -/
def ResolvedByOwn (state : HoaState) : HoaCall → Prop
  | .transitionPlan planId body _ => body.target = .resolved → ∀ plan ∈ state.plans[planId]?,
      ∀ resolutionId ∈ body.resolutionId, OwnResolution state.ledgers state.resolutions plan.ledgerId resolutionId
  | .transitionStatement statementId body _ _ => body.target = .resolved →
      ∀ statement ∈ state.statements[statementId]?, ∀ resolutionId ∈ body.resolutionId,
        OwnResolution state.ledgers state.resolutions statement.ledgerId resolutionId
  | _ => True

variable {digest : Digest}

theorem Step.rowsKept (step : Step state next call decision) : RowsKept state next := by
  cases step with
  | resolutions onward isNext =>
    rw [isNext]
    exact ⟨Onward.refl RowKept.refl _, Onward.refl RowKept.refl _, Onward.refl sameReserves_refl _⟩
  | plans _ step isNext =>
    have kept := step.kept
    rw [isNext]
    exact ⟨kept, Onward.refl RowKept.refl _, Onward.refl sameReserves_refl _⟩
  | statements _ step reserves entries isNext =>
    have kept := step.kept
    refine ⟨?_, kept, reserves⟩
    rw [isNext]
    exact Onward.refl RowKept.refl _

theorem AllVouched.step (vouched : AllVouched (state, decisions))
    (step : Step state next call decision) : AllVouched (next, decisions ++ decision.toList) := by
  have kept : decisions ⊆ decisions ++ decision.toList := List.subset_append_left ..
  have same := sameReference_refl state.resolutions
  cases step with
  | resolutions onward isNext =>
    have plans := vouched.plans.mono onward kept
    have statements := vouched.statements.mono onward kept
    rw [isNext]
    exact ⟨plans, statements⟩
  | plans _ step isNext =>
    have plans := vouched.plans.step step
    have statements := vouched.statements.mono same kept
    rw [isNext]
    exact ⟨plans, statements⟩
  | statements _ step reserves entries isNext =>
    have plans := vouched.plans.mono same kept
    have statements := vouched.statements.step step
    rw [isNext] at statements ⊢
    exact ⟨plans, statements⟩

theorem allVouched_serve (now : HoaState × List Decision) (call : HoaCall) (next : HoaState × List Decision)
    (vouched : AllVouched now) (accepted : notedServe digest now call = .ok next) : AllVouched next := by
  obtain ⟨served, noted⟩ := noted_ok.mp accepted
  have after := vouched.step (serve_step served)
  rw [show next = (next.1, note now.1 call next.1 now.2) from Prod.ext rfl noted]
  exact after

theorem AllOwn.quiet (own : AllOwn state) (vouched : AllVouched (state, decisions))
    (step : Step state next call none) : AllOwn next := by
  cases step with
  | resolutions onward isNext =>
    have plans := own.plans.onward vouched.plans onward
    have statements := own.statements.onward vouched.statements onward
    rw [isNext]
    exact ⟨plans, statements⟩
  | plans _ step isNext =>
    have plans := own.plans.quiet step
    rw [isNext]
    exact ⟨plans, own.statements⟩
  | statements _ step reserves entries isNext =>
    have statements := own.statements.quiet step
    rw [isNext] at statements ⊢
    exact ⟨own.plans, statements⟩

/-- An accepted call keeps all resolutions with their community exactly if it resolves on one of the own. -/
theorem allOwn_serve_iff {call : HoaCall} {decisions : List Decision} (vouched : AllVouched (state, decisions))
    (own : AllOwn state) (accepted : serve digest state call = .ok next) : AllOwn next ↔ ResolvedByOwn state call := by
  have quietly (quiet : decisionOf state call next = none) (free : ResolvedByOwn state call) :
      AllOwn next ↔ ResolvedByOwn state call := by
    have step := serve_step accepted
    rw [quiet] at step
    exact ⟨fun _ => free, fun _ => own.quiet vouched step⟩
  cases call with
  | transitionPlan planId body userId =>
    simp only [serve, transitionPlan, bind_ok, orRefuse_ok, pure_ok] at accepted
    obtain ⟨plan, found, moved, isMoved, rfl⟩ := accepted
    have plans := own.plans.moved_iff found (move_ok isMoved)
    constructor
    · intro after isResolved held isHeld
      obtain rfl : plan = held := Option.mem_unique found isHeld
      exact plans.mp after.plans isResolved
    · intro free
      exact ⟨plans.mpr fun isResolved => free isResolved plan found, own.statements⟩
  | transitionStatement statementId body userId checks =>
    simp only [serve, transitionStatement, bind_ok, orRefuse_ok, exists_unit, require_ok, pure_ok] at accepted
    obtain ⟨-, statement, found, -, -, moved, isMoved, rfl⟩ := accepted
    have statements := own.statements.moved_iff (statementRows_found found) (move_ok isMoved)
    have rows : HoaState.statementRows { state with
        statements := state.statements.set statementId { statement with toResolvable := moved } } =
        state.statementRows.set statementId moved := List.map_set
    constructor
    · intro after isResolved held isHeld
      obtain rfl : statement = held := Option.mem_unique found isHeld
      exact statements.mp (rows ▸ after.statements) isResolved
    · intro free
      refine ⟨own.plans, ?_⟩
      rw [rows]
      exact statements.mpr fun isResolved => free isResolved statement found
  | postStatement statementId userId office =>
    obtain ⟨statement, found, ⟨-, rfl⟩ | ⟨-, moved, decidedOn, entries, ids, posting⟩⟩ := postStatement_ok accepted
    · exact ⟨fun _ => trivial, fun _ => own⟩
    · have statements := (own.statements.moved_iff (statementRows_found found) posting.isMoved).mpr fun isResolved => by cases isResolved
      rw [posting.isNext]
      refine ⟨fun _ => trivial, fun _ => ⟨own.plans, ?_⟩⟩
      rw [HoaState.statementRows, List.map_set]
      exact statements
  | _ => exact quietly rfl trivial

/-- Rows stand on decisions of the run and on resolutions of their own community. -/
structure RowsBound (now : HoaState × List Decision) : Prop where
  vouched : AllVouched now
  own : AllOwn now.1

theorem rowsBound_start (ledgers : List Ledger) (communities : List LegalEntityId) :
    RowsBound ({ ledgers, communities }, []) := by
  refine ⟨⟨?_, ?_⟩, ?_, ?_⟩
  all_goals
    intro id row found
    simp [HoaState.statementRows] at found

/-- Throughout a run rows move along the table, freeze after the draft and stand on binding resolutions of their own
community, exactly if every row is resolved on a resolution of its own. -/
theorem resolved_rows_iff (digest : Digest) (ledgers : List Ledger) (communities : List LegalEntityId)
    (calls : List HoaCall) :
    (∀ moment ∈ trace (notedServe digest) ({ ledgers, communities }, []) calls,
      RowsKept moment.before.1 moment.after.1 ∧ RowsBound moment.after) ↔
    ∀ moment ∈ trace (notedServe digest) ({ ledgers, communities }, []) calls,
      ResolvedByOwn moment.before.1 moment.call := by
  have start := rowsBound_start ledgers communities
  have kept : ∀ moment ∈ trace (notedServe digest) ({ ledgers, communities }, []) calls,
      RowsKept moment.before.1 moment.after.1 := by
    intro moment member
    have accepted := (trace_invariant allVouched_serve calls start.vouched moment member).2
    exact (serve_step (noted_ok.mp accepted).1).rowsKept
  have exactly : ∀ now call next, RowsBound now → notedServe digest now call = .ok next →
      (RowsBound next ↔ ResolvedByOwn now.1 call) := by
    intro now call next bound accepted
    have after := allVouched_serve now call next bound.vouched accepted
    have own := allOwn_serve_iff bound.vouched bound.own (noted_ok.mp accepted).1
    exact ⟨fun bound => own.mp bound.own, fun free => ⟨after, own.mpr free⟩⟩
  have bound := trace_exact exactly (fun now call next bound free accepted => (exactly now call next bound accepted).mpr free)
    calls start
  constructor
  · intro holds
    exact bound.mp fun moment member => (holds moment member).2
  · intro free moment member
    exact ⟨kept moment member, bound.mpr free moment member⟩

def sampleDigest : Digest := { plan := fun _ => "3f1a", statement := fun _ => "3f1a" }

/-- Two communities with a ledger each. -/
def sampleLedgers : List Ledger :=
  [{ legalEntityId := 0, propertyId := some 0 }, { legalEntityId := 1, propertyId := some 1 }]

def sampleRegister : PropertyRegister where
  units := [{ propertyId := 0, number := "WE 1" }]
  values := [{ unitId := 0, allocationKeyId := 0, value := 1, validFrom := Date.ofYmd 2020 1 1 }]

def samplePlanItem : PlanItem where
  component := .hoaFee
  amount := 1200
  allocationKeyId := 0
  isMoney := ⟨isCents_iff.mpr ⟨120000, by norm_num [cent]⟩, by norm_num⟩

/-- The plan of the first community, calculated and approved; the second community resolves the same hash. -/
def approvedPlan : List HoaCall :=
  [.createPlan { ledgerId := 0, year := 2026 } 1, .addPlanItem 0 samplePlanItem [], .calculatePlan 0 sampleRegister .reportOnly,
    .transitionPlan 0 { target := .internallyApproved } 2,
    .createResolution
      { legalEntityId := 1, decidedOn := Date.ofYmd 2026 5 4, status := .positive, snapshotHash := some "3f1a" }]

def approvedState : HoaState × List Decision :=
  run (notedServe sampleDigest) ({ ledgers := sampleLedgers, communities := [0, 1] }, []) approvedPlan

def foreignResolution : HoaCall := .transitionPlan 0 { target := .resolved, resolutionId := some 0 } 2

/-- The plan of one community is resolved on the resolution of another. -/
theorem resolved_on_foreign :
    ¬ ∀ calls, ∀ moment ∈
      trace (notedServe sampleDigest) ({ ledgers := sampleLedgers, communities := [0, 1] }, []) calls,
        RowsKept moment.before.1 moment.after.1 ∧ RowsBound moment.after := by
  intro bound
  have resolved : ∃ next ∈ answer? (notedServe sampleDigest approvedState foreignResolution),
      ∃ plan ∈ next.1.plans[0]?, plan.status ∈ resolvedOrLater ∧ plan.resolutionId = some 0 ∧
        ¬ OwnResolution next.1.ledgers next.1.resolutions plan.ledgerId 0 := by decide +kernel
  obtain ⟨next, isNext, plan, found, late, isId, foreign⟩ := resolved
  have accepted : notedServe sampleDigest approvedState foreignResolution = .ok next := answer?_eq_some.mp isNext
  have member := accepted_mem_trace approvedPlan accepted
  have own := (bound _ _ member).2.own.plans
  exact foreign (own 0 plan found late 0 isId)

end Mhvp.Hoa.Resolutions
