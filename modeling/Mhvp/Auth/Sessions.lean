import Mhvp.Core.Clock
import Mhvp.Core.Problem
import Mhvp.Lib.Transition

namespace Mhvp.Auth

open Core

abbrev UserId := ℕ
abbrev TenantId := ℕ
abbrev FamilyId := ℕ

/-- A secret handed to a client; it stands for its hash. -/
abbrev Secret := ℕ

structure Membership where
  userId : UserId
  tenantId : TenantId
  active : Bool := true

/-- Row of `refresh_token`. -/
structure RefreshToken where
  userId : UserId
  familyId : FamilyId
  tokenHash : Secret
  tenantId : Option TenantId := none
  issuedAt : Instant
  expiresAt : Instant
  usedAt : Option Instant := none
  revokedAt : Option Instant := none
  deriving DecidableEq

/-- Neither used nor revoked. -/
def RefreshToken.Live (token : RefreshToken) : Prop := token.usedAt = none ∧ token.revokedAt = none

instance : DecidablePred RefreshToken.Live := fun _ => inferInstanceAs (Decidable (_ ∧ _))

/-- How far `issue_session` has come; each phase starts a new transaction. -/
inductive Phase
  | begun
  | chosen
  | cleared
  | ended
  deriving DecidableEq

/-- A request that issues a session; without a family it starts one. -/
structure Issuing where
  userId : UserId
  tenantId : Option TenantId
  familyId : Option FamilyId
  phase : Phase := .begun

/-- Users by their number (`active`), their memberships and tokens, and the requests under way. -/
structure SessionState where
  active : List Bool := []
  memberships : List Membership := []
  tokens : List RefreshToken := []
  issuing : List Issuing := []
  nextFamily : FamilyId := 0

structure Settings where
  refreshTokenTtlDays : ℕ := 30

def tokenAt (state : SessionState) (raw : Secret) : Option (ℕ × RefreshToken) := do
  let place ← state.tokens.findIdx? fun token => token.tokenHash = raw
  let token ← state.tokens[place]?
  pure (place, token)

/-- What the first transaction of a rotation finds: a token used before, or one it takes. -/
inductive Presented
  | reused (familyId : FamilyId)
  | taken (place : ℕ) (token : RefreshToken)
  deriving DecidableEq

def takeToken (state : SessionState) (now : Instant) (place : ℕ) (token : RefreshToken) : Result Presented := do
  require (now < token.expiresAt) .refreshInvalid
  require (state.active[token.userId]? = some true) .refreshInvalid
  pure (.taken place token)

def judge (state : SessionState) (raw : Secret) (now : Instant) : Result Presented := do
  let (place, token) ← orRefuse (tokenAt state raw) .refreshInvalid
  if token.Live then takeToken state now place token else pure (.reused token.familyId)

def RefreshToken.revoke (now : Instant) (token : RefreshToken) : RefreshToken :=
  { token with revokedAt := token.revokedAt.or (some now) }

/-- `update(RefreshToken).where(…, revoked_at.is_(None)).values(revoked_at=now)` -/
def revokeWhere (state : SessionState) (selects : RefreshToken → Bool) (now : Instant) : SessionState :=
  { state with tokens := state.tokens.map fun token => if selects token then token.revoke now else token }

/-- The first transaction of `rotate_refresh`: a reuse revokes the family, otherwise the token is used. -/
def applyPresented (state : SessionState) (now : Instant) : Presented → SessionState
  | .reused familyId => revokeWhere state (fun token => token.familyId = familyId) now
  | .taken place token =>
    { state with
      tokens := state.tokens.set place { token with usedAt := some now }
      issuing := state.issuing ++
        [{ userId := token.userId, tenantId := token.tenantId, familyId := some token.familyId }] }

def memberTenants (state : SessionState) (userId : UserId) : List TenantId :=
  (state.memberships.filter fun membership => membership.userId = userId ∧ membership.active).map (·.tenantId)

def setIssuing (state : SessionState) (place : ℕ) (row : Issuing) : SessionState :=
  { state with issuing := state.issuing.set place row }

def issuingIn (state : SessionState) (place : ℕ) (phase : Phase) : Result Issuing :=
  orRefuse (state.issuing[place]?.filter fun row => row.phase = phase) .resourceNotFound

/-- The tenant of the session: the given one, or the only one of the user. -/
def chooseTenant (state : SessionState) (place : ℕ) : Result SessionState := do
  let row ← issuingIn state place .begun
  let tenants := memberTenants state row.userId
  let tenantId := if row.tenantId = none ∧ tenants.length = 1 then tenants.head? else row.tenantId
  let allowed := ∀ tenant ∈ tenantId, tenant ∈ tenants
  pure (setIssuing state place { row with tenantId, phase := if allowed then .chosen else .ended })

/-- The roles of the user in the tenant need an active membership there. -/
def readRoles (state : SessionState) (place : ℕ) : Result SessionState := do
  let row ← issuingIn state place .chosen
  let allowed := ∀ tenant ∈ row.tenantId, tenant ∈ memberTenants state row.userId
  pure (setIssuing state place { row with phase := if allowed then .cleared else .ended })

/-- The token joins its family or starts a new one. -/
def storeToken (settings : Settings) (state : SessionState) (row : Issuing) (refresh : Secret) (now : Instant) :
    SessionState :=
  { state with
    tokens := state.tokens ++
      [{ userId := row.userId, familyId := row.familyId.getD state.nextFamily, tokenHash := refresh,
         tenantId := row.tenantId, issuedAt := now,
         expiresAt := now + settings.refreshTokenTtlDays * secondsPerDay }]
    nextFamily := if row.familyId.isSome then state.nextFamily else state.nextFamily + 1 }

/-- The last transaction of `issue_session`; hashes are unique. -/
def insertToken (settings : Settings) (state : SessionState) (place : ℕ) (refresh : Secret) (now : Instant) :
    Result SessionState := do
  let row ← issuingIn state place .cleared
  let ended := setIssuing state place { row with phase := .ended }
  pure (if ∃ token ∈ state.tokens, token.tokenHash = refresh then ended
    else storeToken settings ended row refresh now)

inductive SessionEvent
  /-- A login, a change of tenant or a magic link: the session gets a family of its own. -/
  | login (userId : UserId) (tenantId : Option TenantId)
  | present (raw : Secret) (now : Instant)
  | chooseTenant (place : ℕ)
  | readRoles (place : ℕ)
  | insertToken (place : ℕ) (refresh : Secret) (now : Instant)
  /-- The worker of the request is lost. -/
  | abandon (place : ℕ)
  /-- `revoke_family`, also at the end of a logout. -/
  | revokeFamily (userId : UserId) (familyId : FamilyId) (now : Instant)
  /-- New password, reset of the second factor, or (with a tenant) a disabled membership. -/
  | revokeUser (userId : UserId) (tenantId : Option TenantId) (now : Instant)
  | setActive (userId : UserId) (active : Bool)
  | setMemberships (memberships : List Membership)

def OfFamily (userId : UserId) (familyId : FamilyId) (token : RefreshToken) : Bool :=
  token.familyId = familyId ∧ token.userId = userId

def OfUser (userId : UserId) (tenantId : Option TenantId) (token : RefreshToken) : Bool :=
  token.userId = userId ∧ (tenantId.isSome → token.tenantId = tenantId)

def sessionStep (settings : Settings) (state : SessionState) : SessionEvent → Result SessionState
  | .login userId tenantId =>
    pure { state with issuing := state.issuing ++ [{ userId, tenantId, familyId := none }] }
  | .present raw now => do
      let presented ← judge state raw now
      pure (applyPresented state now presented)
  | .chooseTenant place => chooseTenant state place
  | .readRoles place => readRoles state place
  | .insertToken place refresh now => insertToken settings state place refresh now
  | .abandon place => do
      let row ← orRefuse state.issuing[place]? .resourceNotFound
      pure (setIssuing state place { row with phase := .ended })
  | .revokeFamily userId familyId now => pure (revokeWhere state (OfFamily userId familyId) now)
  | .revokeUser userId tenantId now => pure (revokeWhere state (OfUser userId tenantId) now)
  | .setActive userId active => pure { state with active := state.active.set userId active }
  | .setMemberships memberships => pure { state with memberships }

end Mhvp.Auth
