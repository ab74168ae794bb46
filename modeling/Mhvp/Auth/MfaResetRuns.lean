import Mhvp.Auth.MfaReset
import Mhvp.Lib.Table

namespace Mhvp.Auth.MfaReset

open Core Lib.Transition Lib.Table List

theorem approvalIn_ok : approvalIn state place phase = .ok approval ↔
    state.approvals[place]? = some approval ∧ approval.phase = phase := by
  simp [approvalIn, Option.filter_eq_some_iff]

theorem openRequest_ok : openRequest state requestId = .ok row ↔
    state.requests[requestId]? = some row ∧ row.status = .requested := by
  simp only [openRequest, bind_ok, orRefuse_ok, exists_unit, require_ok, pure_ok]
  constructor
  · rintro ⟨found, isThere, isOpen, rfl⟩
    exact ⟨isThere, isOpen⟩
  · rintro ⟨isThere, isOpen⟩
    exact ⟨row, isThere, isOpen, rfl⟩

/-- An approval fits its request: it comes from neither of the two users involved, and once it has reset the factors it
is the approval of a person, the request is not rejected, and it is approved when the approval ends. -/
structure Fits (requests : List MfaResetRequest) (approval : Approval) (row : MfaResetRequest) : Prop where
  found : requests[approval.requestId]? = some row
  target : row.targetUserId = approval.target
  requester : row.requestedBy = approval.requester
  independent : approval.approver ≠ some approval.requester ∧ approval.approver ≠ some approval.target
  person : approval.hasReset = true → approval.approver.isSome
  standing : approval.hasReset = true → row.status ≠ .rejected
  decided : approval.hasReset = true → approval.phase = .ended → row.status = .approved

def AllFit (state : MfaState) : Prop := ∀ approval ∈ state.approvals, ∃ row, Fits state.requests approval row

def statusOf (state : MfaState) (approval : Approval) : Option RequestStatus :=
  state.requests[approval.requestId]?.map (·.status)

/-- Only persons reset factors, and only for a request that is not rejected. An approval that has reset factors is
carried through until the request is approved, and meanwhile nobody rejects it. -/
def Orderly (state : MfaState) : MfaEvent → Prop
  | .resetFactors place _ => ∀ approval ∈ state.approvals[place]?,
      approval.approver.isSome ∧ statusOf state approval ≠ some .rejected
  | .breakOff place => ∀ approval ∈ state.approvals[place]?,
      approval.hasReset = true → approval.phase = .ended ∨ statusOf state approval = some .approved
  | .reject _ requestId _ _ => ∀ approval ∈ state.approvals,
      approval.requestId = requestId → approval.hasReset = true → approval.phase = .ended
  | _ => True

instance : Decidable (Orderly state event) := by
  unfold Orderly
  split <;> infer_instance

theorem Fits.append (fits : Fits requests approval row) (added : List MfaResetRequest) :
    Fits (requests ++ added) approval row :=
  { fits with found := found_append fits.found }

/-- A decided request still fits its approvals, unless it was rejected under one of them. -/
theorem AllFit.decided (all : AllFit state) (status : RequestStatus) (found : state.requests[requestId]? = some row)
    (isOpen : row.status = .requested) (allowed : status = .rejected → ∀ approval ∈ state.approvals,
      approval.requestId = requestId → approval.hasReset = true → approval.phase = .ended)
    (present : approval ∈ state.approvals) (decidedBy : Option UserId) (now : Instant) (comment : Option String) :
    ∃ row', Fits (state.requests.set requestId (row.decide status decidedBy now comment)) approval row' := by
  obtain ⟨before, fits⟩ := all approval present
  by_cases same : approval.requestId = requestId
  · obtain rfl : before = row := by
      have isThere := fits.found
      rw [same, found] at isThere
      exact (Option.some.inj isThere).symm
    -- the request was still open, so no ended approval had reset the factors
    have unended : approval.hasReset = true → approval.phase ≠ .ended := by
      intro hasReset ended
      have approved := fits.decided hasReset ended
      rw [isOpen] at approved
      cases approved
    refine ⟨before.decide status decidedBy now comment,
      { fits with found := (found_set found).mpr (Or.inl ⟨same, rfl⟩), standing := ?_, decided := ?_ }⟩
    · intro hasReset rejected
      exact unended hasReset (allowed rejected approval present same hasReset)
    · exact fun hasReset ended => absurd ended (unended hasReset)
  · exact ⟨before, { fits with found := (found_set found).mpr (Or.inr ⟨same, fits.found⟩) }⟩

/-- A changed approval fits if it still names the same people and its new phase is allowed. -/
theorem AllFit.setApproval (all : AllFit state) (found : state.approvals[place]? = some old)
    (fitsNew : ∀ row, Fits state.requests old row → Fits state.requests new row) :
    AllFit { state with approvals := state.approvals.set place new } := by
  intro approval present
  rcases mem_or_eq_of_mem_set present with unchanged | rfl
  · exact all approval unchanged
  · obtain ⟨row, fits⟩ := all old (mem_of_getElem? found)
    exact ⟨row, fitsNew row fits⟩

theorem allFit_step (state : MfaState) (event : MfaEvent) (next : MfaState) (all : AllFit state)
    (orderly : Orderly state event) (accepted : mfaStep state event = .ok next) : AllFit next := by
  cases event with
  | setEnabled | ownFactors | setMembers =>
    simp only [mfaStep, pure_ok] at accepted
    subst accepted
    exact all
  | checkFiling principal membershipId reason =>
    simp only [mfaStep, checkFiling, bind_ok, exists_unit, orRefuse_ok, require_ok, pure_ok] at accepted
    obtain ⟨-, -, _, -, -, -, -, _, -, rfl⟩ := accepted
    exact all
  | insertRequest place =>
    simp only [mfaStep, insertRequest, bind_ok, orRefuse_ok, pure_ok] at accepted
    obtain ⟨filing, -, rfl⟩ := accepted
    intro approval present
    obtain ⟨row, fits⟩ := all approval present
    exact ⟨row, fits.append _⟩
  | checkApproval principal requestId comment =>
    simp only [mfaStep, checkApproval, bind_ok, exists_unit, require_ok, openRequest_ok, pure_ok] at accepted
    obtain ⟨-, -, -, row, ⟨found, isOpen⟩, notRequester, notTarget, rfl⟩ := accepted
    intro approval present
    rcases mem_append.mp present with old | isNew
    · exact all approval old
    · obtain rfl := mem_singleton.mp isNew
      exact ⟨row, found, rfl, rfl, ⟨Ne.symm notRequester, Ne.symm notTarget⟩, by simp, by simp, by simp⟩
  | resetFactors place now =>
    simp only [mfaStep, resetFactors, bind_ok, approvalIn_ok, orRefuse_ok, pure_ok] at accepted
    obtain ⟨approval, ⟨found, -⟩, _, -, rfl⟩ := accepted
    obtain ⟨isPerson, notRejected⟩ := orderly approval found
    refine AllFit.setApproval all found fun row fits =>
      { fits with person := fun _ => isPerson, standing := fun _ rejected => ?_, decided := fun _ ended => by cases ended }
    apply notRejected
    rw [statusOf, fits.found, Option.map_some, rejected]
  | revokeDevices place now =>
    simp only [mfaStep, revokeDevices, bind_ok, approvalIn_ok, pure_ok] at accepted
    obtain ⟨approval, ⟨found, -⟩, rfl⟩ := accepted
    exact AllFit.setApproval all found fun row fits => { fits with decided := fun _ ended => by cases ended }
  | writeApproval place now =>
    simp only [mfaStep, writeApproval, bind_ok, approvalIn_ok] at accepted
    obtain ⟨approval, ⟨found, -⟩, written⟩ := accepted
    obtain ⟨row, fits⟩ := all approval (mem_of_getElem? found)
    cases opened : openRequest state approval.requestId with
    | error refusal =>
      -- another approval decided first, and nobody rejected
      have approved : approval.hasReset = true → row.status = .approved := by
        intro hasReset
        cases status : row.status with
        | approved => rfl
        | rejected => exact absurd status (fits.standing hasReset)
        | requested =>
          have isOpen := openRequest_ok.mpr ⟨fits.found, status⟩
          rw [opened] at isOpen
          cases isOpen
      simp only [opened, pure_ok] at written
      subst written
      refine AllFit.setApproval all found fun other otherFits =>
        { otherFits with decided := fun hasReset _ => ?_ }
      obtain rfl : other = row := Option.mem_unique otherFits.found fits.found
      exact approved hasReset
    | ok opened' =>
      obtain ⟨isThere, isOpen⟩ := openRequest_ok.mp opened
      simp only [opened, pure_ok] at written
      subst written
      intro other present
      rcases mem_or_eq_of_mem_set present with unchanged | rfl
      · exact all.decided .approved isThere isOpen (fun rejected => by cases rejected) unchanged approval.approver now approval.comment
      · obtain rfl : opened' = row := Option.mem_unique isThere fits.found
        exact ⟨opened'.decide .approved approval.approver now approval.comment,
          (found_set isThere).mpr (Or.inl ⟨rfl, rfl⟩), fits.target, fits.requester, fits.independent, fits.person,
          fun _ rejected => (by cases rejected), fun _ _ => rfl⟩
  | breakOff place =>
    simp only [mfaStep, bind_ok, orRefuse_ok, pure_ok] at accepted
    obtain ⟨approval, found, rfl⟩ := accepted
    refine AllFit.setApproval all found fun row fits => { fits with decided := ?_ }
    intro hasReset _
    rcases orderly approval found hasReset with ended | approved
    · exact fits.decided hasReset ended
    · rw [statusOf, fits.found, Option.map_some] at approved
      exact Option.some.inj approved
  | reject principal requestId now comment =>
    simp only [mfaStep, rejectRequest, bind_ok, exists_unit, openRequest_ok, pure_ok] at accepted
    obtain ⟨-, -, row, ⟨found, isOpen⟩, rfl⟩ := accepted
    intro approval present
    exact all.decided .rejected found isOpen (fun _ => orderly) present principal.userId now comment

/-- The factors of a user, with all that skips or carries them. -/
def factorsOf (state : MfaState) (userId : UserId) : Option Factors × List Held × List Held × List Held :=
  (state.users[userId]?, state.passkeys.filter (·.userId = userId), state.sessions.filter (·.userId = userId),
    state.devices.filter (·.userId = userId))

theorem filter_revokeAll (different : userId ≠ target) (rows : List Held) (now : Instant) :
    (revokeAll target now rows).filter (·.userId = userId) = rows.filter (·.userId = userId) := by
  induction rows with
  | nil => rfl
  | cons row rest ih =>
    unfold revokeAll at ih ⊢
    rw [map_cons, filter_cons, filter_cons, ih]
    by_cases same : row.userId = target
    · have other : ¬ row.userId = userId := fun equal => different (equal.symm.trans same)
      rw [if_pos same, if_neg (by simpa using other), if_neg (by simpa using other)]
    · rw [if_neg same]

/-- An approval past its reset is marked. -/
def Marked (state : MfaState) : Prop :=
  ∀ approval ∈ state.approvals, approval.phase = .reset ∨ approval.phase = .devicesRevoked → approval.hasReset = true

theorem Marked.setApproval (marked : Marked state) (markedNew : new.phase = .reset ∨ new.phase = .devicesRevoked →
    new.hasReset = true) : Marked { state with approvals := state.approvals.set place new } := by
  intro approval present
  rcases mem_or_eq_of_mem_set present with unchanged | rfl
  · exact marked approval unchanged
  · exact markedNew

/-- Users change their factors themselves, or an approval resets those of its target. -/
def ChangedBy (userId : UserId) (moment : Moment MfaState MfaEvent) : Prop :=
  (∃ users passkeys sessions devices, moment.call = .ownFactors users passkeys sessions devices) ∨
    ∃ place approval now, moment.after.approvals[place]? = some approval ∧ approval.target = userId ∧
      approval.hasReset = true ∧ (moment.call = .resetFactors place now ∨ moment.call = .revokeDevices place now)

theorem marked_step {next} (marked : Marked state) (accepted : mfaStep state event = .ok next) : Marked next ∧
    ∀ userId, factorsOf next userId ≠ factorsOf state userId → ChangedBy userId ⟨state, event, next⟩ := by
  have untouched : ∀ {later : MfaState}, later.users = state.users → later.passkeys = state.passkeys →
      later.sessions = state.sessions → later.devices = state.devices →
      ∀ userId, factorsOf later userId ≠ factorsOf state userId → ChangedBy userId ⟨state, event, later⟩ := by
    intro later users passkeys sessions devices userId changed
    refine absurd ?_ changed
    rw [factorsOf, factorsOf, users, passkeys, sessions, devices]
  cases event with
  | setEnabled | setMembers =>
    simp only [mfaStep, pure_ok] at accepted
    subst accepted
    exact ⟨marked, untouched rfl rfl rfl rfl⟩
  | checkFiling principal membershipId reason =>
    simp only [mfaStep, checkFiling, bind_ok, exists_unit, orRefuse_ok, require_ok, pure_ok] at accepted
    obtain ⟨-, -, _, -, -, -, -, _, -, rfl⟩ := accepted
    exact ⟨marked, untouched rfl rfl rfl rfl⟩
  | insertRequest place =>
    simp only [mfaStep, insertRequest, bind_ok, orRefuse_ok, pure_ok] at accepted
    obtain ⟨filing, -, rfl⟩ := accepted
    exact ⟨marked, untouched rfl rfl rfl rfl⟩
  | checkApproval principal requestId comment =>
    simp only [mfaStep, checkApproval, bind_ok, exists_unit, require_ok, openRequest_ok, pure_ok] at accepted
    obtain ⟨-, -, -, row, -, -, -, rfl⟩ := accepted
    refine ⟨?_, untouched rfl rfl rfl rfl⟩
    intro approval present
    rcases mem_append.mp present with old | isNew
    · exact marked approval old
    · obtain rfl := mem_singleton.mp isNew
      simp
  | resetFactors place now =>
    simp only [mfaStep, resetFactors, bind_ok, approvalIn_ok, orRefuse_ok, pure_ok] at accepted
    obtain ⟨approval, ⟨found, -⟩, _, -, rfl⟩ := accepted
    refine ⟨Marked.setApproval marked fun _ => rfl, ?_⟩
    intro userId changed
    by_cases same : userId = approval.target
    · exact Or.inr ⟨place, _, now, (found_set found).mpr (Or.inl ⟨rfl, rfl⟩), same.symm, rfl, Or.inl rfl⟩
    · refine absurd ?_ changed
      simp only [factorsOf, filter_revokeAll same, List.getElem?_set_ne (Ne.symm same)]
  | revokeDevices place now =>
    simp only [mfaStep, revokeDevices, bind_ok, approvalIn_ok, pure_ok] at accepted
    obtain ⟨approval, ⟨found, reset⟩, rfl⟩ := accepted
    have hasReset := marked approval (mem_of_getElem? found) (Or.inl reset)
    refine ⟨Marked.setApproval marked fun _ => hasReset, ?_⟩
    intro userId changed
    by_cases same : userId = approval.target
    · exact Or.inr ⟨place, _, now, (found_set found).mpr (Or.inl ⟨rfl, rfl⟩), same.symm, hasReset, Or.inr rfl⟩
    · refine absurd ?_ changed
      simp only [factorsOf, filter_revokeAll same]
  | writeApproval place now =>
    simp only [mfaStep, writeApproval, bind_ok, approvalIn_ok] at accepted
    obtain ⟨approval, -, written⟩ := accepted
    cases opened : openRequest state approval.requestId with
    | error | ok =>
      simp only [opened, pure_ok] at written
      subst written
      exact ⟨Marked.setApproval marked (by simp), untouched rfl rfl rfl rfl⟩
  | breakOff place =>
    simp only [mfaStep, bind_ok, orRefuse_ok, pure_ok] at accepted
    obtain ⟨approval, -, rfl⟩ := accepted
    exact ⟨Marked.setApproval marked (by simp), untouched rfl rfl rfl rfl⟩
  | reject principal requestId now comment =>
    simp only [mfaStep, rejectRequest, bind_ok, exists_unit, openRequest_ok, pure_ok] at accepted
    obtain ⟨-, -, row, -, rfl⟩ := accepted
    exact ⟨marked, untouched rfl rfl rfl rfl⟩
  | ownFactors users passkeys sessions devices =>
    simp only [mfaStep, pure_ok] at accepted
    subst accepted
    exact ⟨marked, fun _ _ => Or.inl ⟨users, passkeys, sessions, devices, rfl⟩⟩

/-- A tenant before the first request. -/
def mfaStart (members : List Member) (users : List Factors) (passkeys sessions devices : List Held) : MfaState :=
  { members, users, passkeys, sessions, devices }

/-- Only approvals reset the factors of other users. In an orderly run each approval that has reset factors comes from a
third person, and its request is not rejected and is approved when the approval ends. -/
theorem mfa_reset_runs (members : List Member) (users : List Factors) (passkeys sessions devices : List Held)
    (events : List MfaEvent) :
    (∀ moment ∈ trace mfaStep (mfaStart members users passkeys sessions devices) events, ∀ userId,
      factorsOf moment.after userId ≠ factorsOf moment.before userId → ChangedBy userId moment) ∧
    (Guarded mfaStep Orderly (mfaStart members users passkeys sessions devices) events →
      ∀ approval ∈ (run mfaStep (mfaStart members users passkeys sessions devices) events).approvals,
        approval.hasReset = true →
        ∃ row, (run mfaStep (mfaStart members users passkeys sessions devices) events).requests[approval.requestId]? =
            some row ∧
          (∃ person, approval.approver = some person ∧ person ≠ row.requestedBy ∧ person ≠ row.targetUserId) ∧
          approval.target = row.targetUserId ∧ row.status ≠ .rejected ∧
          (approval.phase = .ended → row.status = .approved)) := by
  constructor
  · intro moment present userId changed
    have markedStart : Marked (mfaStart members users passkeys sessions devices) :=
      fun _ none => absurd none not_mem_nil
    obtain ⟨marked, accepted⟩ := trace_invariant
      (fun state event next marked accepted => (marked_step marked accepted).1) events markedStart moment present
    exact (marked_step marked accepted).2 userId changed
  · intro guarded approval present hasReset
    have allStart : AllFit (mfaStart members users passkeys sessions devices) :=
      fun _ none => absurd none not_mem_nil
    obtain ⟨row, fits⟩ := Guarded.invariant allFit_step events guarded allStart approval present
    obtain ⟨person, isPerson⟩ := Option.isSome_iff_exists.mp (fits.person hasReset)
    obtain ⟨notRequester, notTarget⟩ := fits.independent
    rw [isPerson, Ne, Option.some.injEq] at notRequester notTarget
    exact ⟨row, fits.found, ⟨person, isPerson, fits.requester ▸ notRequester, fits.target ▸ notTarget⟩,
      fits.target.symm, fits.standing hasReset, fits.decided hasReset⟩

private def admin (userId : UserId) : Principal :=
  { userId := some userId, tenantId := 0, permissions := ["members:update"] }

private def apiKey : Principal := { userId := none, tenantId := 0, permissions := ["members:update"] }

private def threeMembers : List Member := [⟨0, 0⟩, ⟨0, 1⟩, ⟨0, 2⟩]

private def enrolled : List Factors := List.replicate 3 { totpEnabled := true, totpSecret := some 7 }

/-- User 0 asks for a reset of user 2. -/
private def filed : List MfaEvent :=
  [.setEnabled true, .checkFiling (admin 0) 2 "Telefon verloren", .insertRequest 0]

private def approved : List MfaEvent :=
  [.checkApproval (admin 1) 0 none, .resetFactors 0 100, .revokeDevices 0 101, .writeApproval 0 102]

theorem sample_mfa_reset_runs :
    ∃ row, (run mfaStep (mfaStart threeMembers enrolled [] [] []) (filed ++ approved)).requests[0]? = some row ∧
      row.status = .approved := by
  have guarded : Guarded mfaStep Orderly (mfaStart threeMembers enrolled [] [] []) (filed ++ approved) := by
    decide +kernel
  obtain ⟨row, found, -, -, -, decided⟩ := (mfa_reset_runs threeMembers enrolled [] [] [] (filed ++ approved)).2 guarded
    { requestId := 0, target := 2, requester := 0, approver := some 1, phase := .ended, hasReset := true }
    (by decide +kernel) rfl
  exact ⟨row, found, decided rfl⟩

private def afterFiling (events : List MfaEvent) : MfaState :=
  run mfaStep (mfaStart threeMembers enrolled [] [] []) (filed ++ events)

/-- A rejection between the check and the decision, and an approval by an API key. -/
theorem reset_without_approval :
    ((afterFiling [.checkApproval (admin 1) 0 none, .reject (admin 0) 0 99 none, .resetFactors 0 100,
        .revokeDevices 0 101, .writeApproval 0 102]).users[2]? = some ({} : Factors) ∧
      (afterFiling [.checkApproval (admin 1) 0 none, .reject (admin 0) 0 99 none, .resetFactors 0 100,
        .revokeDevices 0 101, .writeApproval 0 102]).requests.map (·.status) = [.rejected]) ∧
    (afterFiling [.checkApproval apiKey 0 none, .resetFactors 0 100]).users[2]? = some ({} : Factors) ∧
    (afterFiling [.checkApproval apiKey 0 none, .resetFactors 0 100, .revokeDevices 0 101,
      .writeApproval 0 102]).requests.map (·.decidedBy) = [none] := by
  decide +kernel

end Mhvp.Auth.MfaReset
