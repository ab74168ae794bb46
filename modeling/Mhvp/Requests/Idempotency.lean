import Mhvp.Auth.Sessions
import Mhvp.Core.Decimal

/-! The middleware for `Idempotency-Key`. -/

namespace Mhvp.Requests

open Core Auth

abbrev Bytes := List UInt8

def lineBreak : UInt8 := 10

def encode (text : String) : Bytes := text.toList.map Char.toUInt8

inductive Method
  | post
  | put
  | patch
  | delete
  /-- Methods that do not write. -/
  | other
  deriving DecidableEq

def Method.writes (method : Method) : Bool := method ≠ .other

def Method.bytes : Method → Bytes
  | .post => encode "POST"
  | .put => encode "PUT"
  | .patch => encode "PATCH"
  | .delete => encode "DELETE"
  | .other => encode "GET"

/-- The claims of a bearer token with a valid signature. -/
structure Claims where
  userId : UserId
  tenantId : Option TenantId

/-- `mhvp_<tenant>_<prefix>_<secret>` -/
structure ApiKey where
  tenantId : TenantId
  keyPrefix : String
  secret : Secret

structure Request where
  method : Method
  /-- Decoded path in UTF-8, without the query string. -/
  path : Bytes
  query : Bytes := []
  body : Bytes := []
  idempotencyKey : Option String := none
  /-- A bearer token; the inner `none` is one that does not decode. -/
  bearer : Option (Option Claims) := none
  /-- Header `X-API-Key`; the inner `none` is a malformed one. -/
  apiKey : Option (Option ApiKey) := none

inductive Actor
  | user (userId : UserId)
  | apiKey (keyPrefix : String)
  deriving DecidableEq

structure RequestIdentity where
  tenant : Option TenantId
  actor : Actor
  deriving DecidableEq

/-- The secret of an API key is not checked here. -/
def identify (request : Request) : Option RequestIdentity :=
  match request.bearer, request.apiKey with
  | some (some claims), _ => some { tenant := claims.tenantId, actor := .user claims.userId }
  | some none, _ => none
  | none, some (some key) => some { tenant := some key.tenantId, actor := .apiKey key.keyPrefix }
  | none, _ => none

def maxKeyLength : ℕ := 255

def maxStoredBody : ℕ := 1024 * 1024

/-- `redis_key`; the key stands for its hash. -/
structure RecordKey where
  identity : RequestIdentity
  key : String
  deriving DecidableEq

/-- Method, path and body, joined by line breaks; they stand for their hash. -/
def fingerprint (request : Request) : Bytes :=
  request.method.bytes ++ lineBreak :: (request.path ++ lineBreak :: request.body)

structure Answer where
  status : ℕ
  contentType : Option String := none
  body : Bytes := []
  deriving DecidableEq

inductive Record
  | inProgress (print : Bytes)
  | done (print : Bytes) (answer : Answer)

def Record.print : Record → Bytes
  | .inProgress print | .done print _ => print

/-- What the middleware does with a request. -/
inductive Admission
  | passThrough
  | invalid
  | recorded (key : RecordKey)
  deriving DecidableEq

def admission (request : Request) : Admission :=
  match request.method.writes, request.idempotencyKey with
  | true, some raw =>
    let key := strip raw
    if key = "" ∨ maxKeyLength < key.length then .invalid
    else match identify request with
      | none => .passThrough
      | some identity => .recorded { identity, key }
  | _, _ => .passThrough

/-- What a client gets. -/
inductive Reply
  | own (answer : Answer)
  | replayed (answer : Answer)
  | problem (error : ErrorCode)
  /-- The connection breaks off. -/
  | aborted
  deriving DecidableEq

def replayOrConflict (existing : Option Record) (print : Bytes) : Reply :=
  match existing with
  | none => .problem .idempotencyKeyMismatch
  | some record =>
    if record.print ≠ print then .problem .idempotencyKeyMismatch
    else match record with
      | .inProgress _ => .problem .idempotencyInProgress
      | .done _ answer => .replayed answer

/-- Endpoints over a state, with what each run of one finds (`Env`). -/
structure Application (State Env : Type) where
  /-- Rows of `api_key` by tenant and prefix. -/
  secretOf : TenantId → String → Option Secret
  /-- Neither revoked nor expired. -/
  usable : State → Env → ApiKey → Bool
  /-- `last_used_at` -/
  touch : State → Env → ApiKey → State
  /-- The endpoint has no authentication. -/
  isOpen : Request → Bool
  /-- Without an answer it ends in an exception. -/
  endpoint : State → Env → Request → State × Option Answer
  /-- The answer of `NOT_AUTHENTICATED`. -/
  rejection : Request → Answer

variable {State Env : Type}

/-- `get_principal` and the endpoint. -/
def serve (application : Application State Env) (state : State) (env : Env) (request : Request) :
    State × Option Answer :=
  if application.isOpen request then application.endpoint state env request
  else match request.bearer, request.apiKey with
    | some (some _), _ => application.endpoint state env request
    | none, some (some key) =>
      if application.secretOf key.tenantId key.keyPrefix = some key.secret ∧ application.usable state env key then
        application.endpoint (application.touch state env key) env request
      else (state, some (application.rejection request))
    | _, _ => (state, some (application.rejection request))

inductive Phase
  | absent
  | claiming
  | looking
  | retrying
  | lookingAgain
  | executing
  /-- The application has ended; the record is not written yet. -/
  | storing (outcome : Option Answer)
  | answered (reply : Reply)
  deriving DecidableEq

/-- What a request sees: the application, its record, and how far it has come. -/
structure View (State : Type) where
  app : State
  record : Option Record
  phase : Phase

/-- What the next step of a request finds outside. -/
structure Input (Env : Type) where
  env : Env
  redisFails : Bool := false

def replyOf (outcome : Option Answer) : Reply :=
  match outcome with
  | some answer => .own answer
  | none => .aborted

def storable (answer : Answer) : Bool := answer.status < 500 ∧ answer.body.length ≤ maxStoredBody

/-- `SET NX`, with the phase after a refusal. -/
def take (request : Request) (view : View State) (refused : Phase) : View State :=
  match view.record with
  | none => { view with record := some (.inProgress (fingerprint request)), phase := .executing }
  | some _ => { view with phase := refused }

/-- The end of `_execute_and_store`: the answer is stored, or the record released. -/
def store (request : Request) (view : View State) (outcome : Option Answer) (redisFails : Bool) : View State :=
  let written := (outcome.filter storable).map (Record.done (fingerprint request))
  { view with record := if redisFails then view.record else written, phase := .answered (replyOf outcome) }

def progressRecorded (application : Application State Env) (request : Request) (input : Input Env) (view : View State) :
    View State :=
  match view.phase with
  | .absent => { view with phase := .claiming }
  | .claiming => take request view .looking
  | .looking =>
    if view.record.isNone then { view with phase := .retrying }
    else { view with phase := .answered (replayOrConflict view.record (fingerprint request)) }
  | .retrying => take request view .lookingAgain
  | .lookingAgain => { view with phase := .answered (replayOrConflict view.record (fingerprint request)) }
  | .executing =>
    let served := serve application view.app input.env request
    { view with app := served.1, phase := .storing served.2 }
  | .storing outcome => store request view outcome input.redisFails
  | .answered _ => view

def progressPlain (application : Application State Env) (request : Request) (input : Input Env) (view : View State) :
    View State :=
  match view.phase with
  | .absent => { view with phase := .executing }
  | .executing =>
    let served := serve application view.app input.env request
    { view with app := served.1, phase := .answered (replyOf served.2) }
  | _ => view

def refuseKey (view : View State) : View State :=
  match view.phase with
  | .absent => { view with phase := .answered (.problem .idempotencyKeyInvalid) }
  | _ => view

abbrev RequestId := ℕ

/-- Redis, the application, and the phases of the requests. -/
structure Server (State : Type) where
  app : State
  records : RecordKey → Option Record := fun _ => none
  phase : RequestId → Phase := fun _ => .absent

inductive Event (Env : Type)
  /-- The next step of a request. -/
  | advance (id : RequestId) (input : Input Env)
  /-- The worker of a request is lost. -/
  | lose (id : RequestId)
  /-- A record reaches the end of its 24 hours. -/
  | expire (key : RecordKey)

/-- The view of a request, with the record under a key. -/
def Server.view (server : Server State) (id : RequestId) (record : Option Record) : View State :=
  { app := server.app, record, phase := server.phase id }

def advance (application : Application State Env) (requests : RequestId → Request) (server : Server State)
    (id : RequestId) (input : Input Env) : Server State :=
  match admission (requests id) with
  | .passThrough =>
    let after := progressPlain application (requests id) input (server.view id none)
    { server with app := after.app, phase := Function.update server.phase id after.phase }
  | .invalid =>
    let after := refuseKey (server.view id none)
    { server with phase := Function.update server.phase id after.phase }
  | .recorded key =>
    let after := progressRecorded application (requests id) input (server.view id (server.records key))
    { app := after.app
      records := Function.update server.records key after.record
      phase := Function.update server.phase id after.phase }

def losePhase : Phase → Phase
  | .absent => .absent
  | .answered reply => .answered reply
  | _ => .answered .aborted

/-- Every event is served; a step that does not fit the phase changes nothing. -/
def serverStep (application : Application State Env) (requests : RequestId → Request) (server : Server State) :
    Event Env → Result (Server State)
  | .advance id input => pure (advance application requests server id input)
  | .lose id => pure { server with phase := Function.update server.phase id (losePhase (server.phase id)) }
  | .expire key => pure { server with records := Function.update server.records key none }

end Mhvp.Requests
