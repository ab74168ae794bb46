import Mhvp.Auth.Sessions
import Mhvp.Core.Decimal

namespace Mhvp.Auth.MfaReset

open Core

abbrev MembershipId := ℕ
abbrev RequestId := ℕ

/-- The columns of a user that belong to the sign-in. -/
structure Factors where
  totpEnabled : Bool := false
  totpSecret : Option Secret := none
  totpLastStep : Option ℕ := none
  failedLogins : ℕ := 0
  lockedUntil : Option Instant := none
  deriving DecidableEq

/-- A passkey, a refresh token or a trusted device of a user. -/
structure Held where
  userId : UserId
  revokedAt : Option Instant := none

inductive RequestStatus
  | requested
  | approved
  | rejected
  deriving DecidableEq

/-- Row of `auth_mfa_reset_request`. -/
structure MfaResetRequest where
  membershipId : MembershipId
  targetUserId : UserId
  reason : String
  status : RequestStatus := .requested
  requestedBy : UserId
  decidedBy : Option UserId := none
  decidedAt : Option Instant := none
  decisionComment : Option String := none

/-- Who calls; an API key has no user. -/
structure Principal where
  userId : Option UserId
  tenantId : TenantId
  permissions : List String

/-- A call that passed the checks of a new request and has not inserted it yet. -/
structure Filing where
  row : MfaResetRequest
  open' : Bool := true

/-- How far an approval has come. -/
inductive ApprovalPhase
  | checked
  | reset
  | devicesRevoked
  | ended
  deriving DecidableEq

/-- An approval under way, with what it read of the request. -/
structure Approval where
  requestId : RequestId
  target : UserId
  requester : UserId
  approver : Option UserId
  comment : Option String := none
  phase : ApprovalPhase := .checked
  /-- The factors of the target were reset. -/
  hasReset : Bool := false
  deriving DecidableEq

/-- Membership of a user in a tenant. -/
structure Member where
  tenantId : TenantId
  userId : UserId

/-- One tenant with its switch and requests, and the factors of all users. -/
structure MfaState where
  enabled : Bool := false
  members : List Member := []
  users : List Factors := []
  passkeys : List Held := []
  sessions : List Held := []
  devices : List Held := []
  requests : List MfaResetRequest := []
  filing : List Filing := []
  approvals : List Approval := []

def requirePermission (principal : Principal) (permission : String) : Result Unit :=
  require (permission ∈ principal.permissions) .forbidden

/-- `(comment or "").strip() or None` -/
def cleaned (comment : Option String) : Option String :=
  ((comment.map strip).filter (· ≠ ""))

/-- The checks of `create_mfa_reset_request`; the column of the requester takes no API key. -/
def checkFiling (state : MfaState) (principal : Principal) (membershipId : MembershipId) (reason : String) :
    Result MfaState := do
  requirePermission principal "members:update"
  require (10 ≤ reason.length ∧ reason.length ≤ 2000) .validation
  let member ← orRefuse (state.members[membershipId]?.filter fun member => member.tenantId = principal.tenantId)
    .resourceNotFound
  require (principal.userId ≠ some member.userId) .validation
    (some "Den eigenen zweiten Faktor bitte selbst verwalten.")
  require (state.enabled = true) .mfaResetDisabled
  require (∀ row ∈ state.requests, row.membershipId = membershipId → row.status ≠ .requested) .conflict
    (some "Es gibt bereits einen offenen Antrag.")
  let requestedBy ← orRefuse principal.userId .databaseRefused
  let row := { membershipId, targetUserId := member.userId, reason := strip reason, requestedBy }
  pure { state with filing := state.filing ++ [{ row }] }

def insertRequest (state : MfaState) (place : ℕ) : Result MfaState := do
  let filing ← orRefuse (state.filing[place]?.filter fun filing => filing.open') .resourceNotFound
  pure { state with
    requests := state.requests ++ [filing.row]
    filing := state.filing.set place { filing with open' := false } }

/-- The request, while it is open. -/
def openRequest (state : MfaState) (requestId : RequestId) : Result MfaResetRequest := do
  let row ← orRefuse state.requests[requestId]? .resourceNotFound
  require (row.status = .requested) .mfaResetState
  pure row

def requireComment (comment : Option String) : Result Unit :=
  require (∀ text ∈ comment, text.length ≤ 2000) .validation

/-- First transaction of an approval. -/
def checkApproval (state : MfaState) (principal : Principal) (requestId : RequestId) (comment : Option String) :
    Result MfaState := do
  requirePermission principal "members:update"
  requireComment comment
  require (state.enabled = true) .mfaResetDisabled
  let row ← openRequest state requestId
  require (some row.requestedBy ≠ principal.userId) .mfaResetFourEyes
  require (some row.targetUserId ≠ principal.userId) .mfaResetFourEyes
  pure { state with
    approvals := state.approvals ++
      [{ requestId, target := row.targetUserId, requester := row.requestedBy, approver := principal.userId, comment }] }

def approvalIn (state : MfaState) (place : ℕ) (phase : ApprovalPhase) : Result Approval :=
  orRefuse (state.approvals[place]?.filter fun approval => approval.phase = phase) .resourceNotFound

/-- `update(…).where(user_id == …, revoked_at.is_(None)).values(revoked_at=now)` -/
def revokeAll (userId : UserId) (now : Instant) (rows : List Held) : List Held :=
  rows.map fun row => if row.userId = userId then { row with revokedAt := row.revokedAt.or (some now) } else row

/-- The transaction of `_reset_factors`. -/
def resetFactors (state : MfaState) (place : ℕ) (now : Instant) : Result MfaState := do
  let approval ← approvalIn state place .checked
  let _ ← orRefuse state.users[approval.target]? .resourceNotFound
  pure { state with
    users := state.users.set approval.target {}
    passkeys := revokeAll approval.target now state.passkeys
    sessions := revokeAll approval.target now state.sessions
    approvals := state.approvals.set place { approval with phase := .reset, hasReset := true } }

def revokeDevices (state : MfaState) (place : ℕ) (now : Instant) : Result MfaState := do
  let approval ← approvalIn state place .reset
  pure { state with
    devices := revokeAll approval.target now state.devices
    approvals := state.approvals.set place { approval with phase := .devicesRevoked } }

def MfaResetRequest.decide (row : MfaResetRequest) (status : RequestStatus) (decidedBy : Option UserId) (now : Instant)
    (comment : Option String) : MfaResetRequest :=
  { row with status, decidedBy, decidedAt := some now, decisionComment := cleaned comment }

/-- Last transaction of an approval; a request that was decided in between is left as it is. -/
def writeApproval (state : MfaState) (place : ℕ) (now : Instant) : Result MfaState := do
  let approval ← approvalIn state place .devicesRevoked
  let ended := { state with approvals := state.approvals.set place { approval with phase := .ended } }
  match openRequest state approval.requestId with
  | .error _ => pure ended
  | .ok row =>
    pure { ended with
      requests := state.requests.set approval.requestId
        (row.decide .approved approval.approver now approval.comment) }

def rejectRequest (state : MfaState) (principal : Principal) (requestId : RequestId) (now : Instant)
    (comment : Option String) : Result MfaState := do
  requirePermission principal "members:update"
  requireComment comment
  let row ← openRequest state requestId
  pure { state with
    requests := state.requests.set requestId (row.decide .rejected principal.userId now comment) }

inductive MfaEvent
  | setEnabled (enabled : Bool)
  | checkFiling (principal : Principal) (membershipId : MembershipId) (reason : String)
  | insertRequest (place : ℕ)
  | checkApproval (principal : Principal) (requestId : RequestId) (comment : Option String)
  | resetFactors (place : ℕ) (now : Instant)
  | revokeDevices (place : ℕ) (now : Instant)
  | writeApproval (place : ℕ) (now : Instant)
  /-- The approval ends without an answer: a lost worker or a failed statement. -/
  | breakOff (place : ℕ)
  | reject (principal : Principal) (requestId : RequestId) (now : Instant) (comment : Option String)
  /-- Users sign in and manage their own factors. -/
  | ownFactors (users : List Factors) (passkeys sessions devices : List Held)
  | setMembers (members : List Member)

def mfaStep (state : MfaState) : MfaEvent → Result MfaState
  | .setEnabled enabled => pure { state with enabled }
  | .checkFiling principal membershipId reason => checkFiling state principal membershipId reason
  | .insertRequest place => insertRequest state place
  | .checkApproval principal requestId comment => checkApproval state principal requestId comment
  | .resetFactors place now => resetFactors state place now
  | .revokeDevices place now => revokeDevices state place now
  | .writeApproval place now => writeApproval state place now
  | .breakOff place => do
      let approval ← orRefuse state.approvals[place]? .resourceNotFound
      pure { state with approvals := state.approvals.set place { approval with phase := .ended } }
  | .reject principal requestId now comment => rejectRequest state principal requestId now comment
  | .ownFactors users passkeys sessions devices => pure { state with users, passkeys, sessions, devices }
  | .setMembers members => pure { state with members }

end Mhvp.Auth.MfaReset
