import Mhvp.Automation.Actions
import Mhvp.Core.Problem
import Mhvp.Lib.Sorting
import Mhvp.Lib.Sessions

/-! The beat job of the rule engine. -/

namespace Mhvp.Automation

open Core Lib.Batch Lib.Sessions

/-- Seconds an event is left for late commits. -/
def processLag : ℕ := 5

def batchLimit : ℕ := 500

/-- `order_by(DomainEvent.occurred_at, DomainEvent.id)` -/
def Before (first second : DomainEvent) : Prop :=
  first.occurredAt < second.occurredAt ∨ first.occurredAt = second.occurredAt ∧ first.id ≤ second.id

instance : DecidableRel Before := fun _ _ => inferInstanceAs (Decidable (_ ∨ _ ∧ _))

/-- The event lies behind the watermark. -/
def AutomationWatermark.Precedes (watermark : AutomationWatermark) (event : DomainEvent) : Prop :=
  watermark.lastOccurredAt < event.occurredAt ∨
    ∃ lastId ∈ watermark.lastEventId, watermark.lastOccurredAt = event.occurredAt ∧ lastId < event.id

instance (watermark : AutomationWatermark) : DecidablePred watermark.Precedes := fun _ =>
  inferInstanceAs (Decidable (_ ∨ ∃ _ ∈ _, _))

/-- The position of an event. -/
def DomainEvent.position (event : DomainEvent) : AutomationWatermark := ⟨event.occurredAt, some event.id⟩

/-- What a rule runs on: a stored event, or a window of its schedule. -/
inductive Source
  | event (event : DomainEvent)
  | window (ruleId : RuleId) (due : Instant)

namespace Source

def key : Source → EventKey
  | .event stored => .stored stored.id
  | .window ruleId due => .window ruleId due

/-- Event type; windows carry `SCHEDULE_EVENT_TYPE`. -/
def type : Source → String
  | .event stored => stored.type
  | .window _ _ => "schedule.due"

def entityId : Source → Option ℕ
  | .event stored => stored.entityId
  | .window _ _ => none

end Source

/-- A rule and what it may run on. -/
structure Candidate where
  source : Source
  ruleId : RuleId
  rule : AutomationRule

def Candidate.key (candidate : Candidate) : RuleId × EventKey := (candidate.ruleId, candidate.source.key)

/-- What the data behind the actions of a candidate made of them. -/
structure Execution where
  candidate : Candidate
  outcomes : ℕ → Outcome
  /-- Decision of the contact's data sharing consent, with its reason. -/
  dataSharing : Bool
  sharingReason : String

inductive Phase
  | schedules
  | positioned
  | ruled
  | events
  | finished
  /-- An exception no handler caught; the transaction can only roll back. -/
  | aborted
  deriving DecidableEq

/-- The transaction of one `process_tenant`. -/
structure Worker where
  now : Instant
  phase : Phase := .schedules
  /-- `last_scheduled_at` as written. -/
  scheduled : List (RuleId × Instant) := []
  /-- The watermark as read. -/
  position : Option AutomationWatermark := none
  rules : List (RuleId × AutomationRule) := []
  /-- The committed events when the batch was read. -/
  visible : List DomainEvent := []
  batch : List DomainEvent := []
  /-- Candidates taken up, those still to look at, and the one whose conditions matched. -/
  asked : List Candidate := []
  todo : List Candidate := []
  matched : Option Candidate := none
  unmatched : List (RuleId × EventKey) := []
  /-- Candidates whose actions violated a constraint. -/
  violations : List (RuleId × EventKey) := []
  executions : List Execution := []
  events : List DomainEvent := []
  runs : List AutomationRun := []
  effects : List Effect := []
  deliveries : List AutomationWebhookDelivery := []
  /-- The position the pass reached. -/
  target : Option AutomationWatermark := none

namespace Worker

/-- Nothing is under way. -/
def Idle (worker : Worker) : Prop := worker.todo = [] ∧ worker.matched.isNone

instance (worker : Worker) : Decidable worker.Idle :=
  match h : worker.todo with
  | [] => decidable_of_iff (worker.matched.isNone) (by simp [Idle, h])
  | _ :: _ => isFalse (by simp [Idle, h])

/-- `process_schedules`, one rule: the first pass only positions the rule. -/
def schedule (state : AutomationState) (worker : Worker) (ruleId : RuleId) (due : Instant) : Result Worker := do
  require (worker.phase = .schedules ∧ worker.Idle ∧ ruleId ∉ worker.scheduled.map Prod.fst) .internal
  let rule ← orRefuse state.rules[ruleId]? .resourceNotFound
  require (rule.active = true ∧ rule.triggerKind = .schedule) .internal
  match rule.lastScheduledAt with
  | none => pure { worker with scheduled := worker.scheduled ++ [(ruleId, worker.now)] }
  | some last =>
    if due ≤ last then pure worker
    else
      let candidate : Candidate := { source := .window ruleId due, ruleId, rule }
      pure { worker with
        scheduled := worker.scheduled ++ [(ruleId, due)], asked := worker.asked ++ [candidate], todo := [candidate] }

/-- The first pass of a tenant starts at the cut-off: older events are history. -/
def readWatermark (state : AutomationState) (worker : Worker) : Result Worker := do
  require (worker.phase = .schedules ∧ worker.Idle) .internal
  match state.watermark with
  | none => pure { worker with phase := .finished, target := some ⟨worker.now - processLag, none⟩ }
  | some watermark => pure { worker with phase := .positioned, position := some watermark }

/-- The active rules with an event type, in the order of their creation. -/
def eventRules (rules : List AutomationRule) : List (RuleId × AutomationRule) :=
  (rules.zipIdx.map Prod.swap).filter fun entry =>
    entry.2.active ∧ entry.2.triggerKind = .event ∧ entry.2.triggerEventType.isSome

def readRules (state : AutomationState) (worker : Worker) : Result Worker := do
  require (worker.phase = .positioned) .internal
  pure { worker with phase := .ruled, rules := eventRules state.rules }

/-- The batch behind a watermark, up to the cut-off. -/
def query (events : List DomainEvent) (watermark : AutomationWatermark) (cutoff : Instant) : List DomainEvent :=
  firstOf Before batchLimit (events.filter fun event => event.occurredAt ≤ cutoff ∧ watermark.Precedes event)

/-- The rules of an event; none for an event a rule action wrote. -/
def candidates (rules : List (RuleId × AutomationRule)) (event : DomainEvent) : List Candidate :=
  if IsAutomationEvent event.payload then []
  else (rules.filter fun entry => entry.2.triggerEventType = some event.type).map fun entry =>
    { source := .event event, ruleId := entry.1, rule := entry.2 }

def readEvents (state : AutomationState) (worker : Worker) : Result Worker := do
  require (worker.phase = .ruled) .internal
  let watermark ← orRefuse worker.position .internal
  let batch := query state.events watermark (worker.now - processLag)
  let todo := batch.flatMap (candidates worker.rules)
  pure { worker with phase := .events, visible := state.events, batch, asked := worker.asked ++ todo, todo }

/-- A run of the rule and event is there, committed or written by the transaction. -/
def Recorded (state : AutomationState) (worker : Worker) (key : RuleId × EventKey) : Prop :=
  key ∈ state.runs.map AutomationRun.key ∨ key ∈ worker.runs.map AutomationRun.key

instance (state : AutomationState) (worker : Worker) : DecidablePred (worker.Recorded state) := fun _ =>
  inferInstanceAs (Decidable (_ ∨ _))

/-- `_record` of a failure, outside any savepoint: a second run of the pair ends the transaction. -/
def recordFailed (state : AutomationState) (worker : Worker) (candidate : Candidate) (error : String) : Worker :=
  if worker.Recorded state candidate.key then { worker with phase := .aborted }
  else { worker with
    runs := worker.runs ++ [{ ruleId := candidate.ruleId, event := candidate.source.key
                              eventType := candidate.source.type, status := .failed, error := some error }] }

/-- `_run_rule` up to its conditions. -/
def look (state : AutomationState) (worker : Worker) (comparisons : Comparisons) : Result Worker := do
  require (worker.matched.isNone ∧ worker.phase ≠ .aborted) .internal
  match worker.todo with
  | [] => throw { error := .internal }
  | candidate :: rest =>
    let worker := { worker with todo := rest }
    if worker.Recorded state candidate.key then pure worker
    else
      match evaluate comparisons candidate.rule.conditions with
      | .error text => pure (worker.recordFailed state candidate text)
      | .ok false => pure { worker with unmatched := worker.unmatched ++ [candidate.key] }
      | .ok true => pure { worker with matched := some candidate }

/-- The events of an executed rule: those of its actions, then those of the outbox. -/
def newEvents (candidate : Candidate) (point : Savepoint) (dataSharing : Bool) (reason : String) (firstDelivery : ℕ) :
    List NewEvent :=
  let withheld := withholds candidate.source.type candidate.source.entityId dataSharing point.pending
  point.events ++ (if withheld then [dataWithheld candidate.ruleId candidate.source.entityId reason] else []) ++
    point.pending.mapIdx fun index entry =>
      webhookTransfer candidate.key candidate.source.type (firstDelivery + index) withheld entry.2.2

/-- Events get their numbers when they are stored. -/
def store (firstId : EventId) (now : Instant) (events : List NewEvent) : List DomainEvent :=
  events.mapIdx fun index event =>
    { id := firstId + index, type := event.type, entityType := event.entityType, entityId := event.entityId
      payload := event.payload, occurredAt := now }

/-- `_record` of an executed rule, in the savepoint of its actions. -/
def recordExecuted (state : AutomationState) (worker : Worker) (execution : Execution) (firstId : EventId)
    (point : Savepoint) (results : List ActionResult) : Worker :=
  let candidate := execution.candidate
  let withheld := withholds candidate.source.type candidate.source.entityId execution.dataSharing point.pending
  let firstDelivery := state.deliveries.length + worker.deliveries.length
  { worker with
    executions := worker.executions ++ [execution]
    runs := worker.runs ++ [{ ruleId := candidate.ruleId, event := candidate.source.key
                              eventType := candidate.source.type
                              status := if candidate.rule.testMode then .dryRun else .executed, actions := results }]
    effects := worker.effects ++ point.effects
    deliveries := worker.deliveries ++ point.pending.map fun entry =>
      { key := candidate.key, actionIndex := entry.1, url := entry.2.1, personalDataWithheld := withheld }
    events := worker.events ++ store firstId worker.now
      (newEvents candidate point execution.dataSharing execution.sharingReason firstDelivery) }

/-- The actions of the matched rule in a savepoint. Any violated constraint is taken for a run of another worker; any
other failure rolls back to the savepoint and is recorded. -/
def execute (state : AutomationState) (worker : Worker) (outcomes : ℕ → Outcome) (dataSharing : Bool)
    (sharingReason : String) (firstId : EventId) : Result Worker := do
  require (worker.phase ≠ .aborted) .internal
  let candidate ← orRefuse worker.matched .internal
  let worker := { worker with matched := none }
  match executeActions candidate.rule.testMode candidate.key outcomes 0 candidate.rule.actions {} with
  | .error .constraint => pure { worker with violations := worker.violations ++ [candidate.key] }
  | .error (.action text) => pure (worker.recordFailed state candidate (String.ofList (text.toList.take 2000)))
  | .ok (point, results) =>
    if worker.Recorded state candidate.key then pure worker
    else pure (worker.recordExecuted state { candidate, outcomes, dataSharing, sharingReason } firstId point results)

/-- The watermark moves to the last event of the batch. -/
def finish (worker : Worker) : Result Worker := do
  require (worker.phase = .events ∧ worker.Idle) .internal
  pure { worker with
    phase := .finished, target := (worker.batch.getLast?.map DomainEvent.position).or worker.position }

end Worker

inductive WorkerOp
  | schedule (ruleId : RuleId) (due : Instant)
  | readWatermark
  | readRules
  | readEvents
  | look (comparisons : Comparisons)
  | execute (outcomes : ℕ → Outcome) (dataSharing : Bool) (sharingReason : String) (firstId : EventId)
  | finish

def Worker.serve (state : AutomationState) (worker : Worker) : WorkerOp → Result Worker
  | .schedule ruleId due => worker.schedule state ruleId due
  | .readWatermark => worker.readWatermark state
  | .readRules => worker.readRules state
  | .readEvents => worker.readEvents state
  | .look comparisons => worker.look state comparisons
  | .execute outcomes dataSharing sharingReason firstId => worker.execute state outcomes dataSharing sharingReason firstId
  | .finish => worker.finish

/-- Another transaction of the tenant: events of its changes, and rules it saves. -/
structure Writer where
  events : List DomainEvent := []
  saved : List (Option RuleId × AutomationRule) := []

inductive Task
  | process (now : Instant)
  | write

inductive Session
  | worker (worker : Worker)
  | writer (writer : Writer)

inductive Op
  | worker (op : WorkerOp)
  | emit (event : DomainEvent)
  | saveRule (ruleId : Option RuleId) (rule : AutomationRule)

def opened : Task → Session
  | .process now => .worker { now }
  | .write => .writer {}

def work (state : AutomationState) : Session → Op → Result Session
  | .worker worker, .worker op => do
      let next ← worker.serve state op
      pure (.worker next)
  | .writer writer, .emit event => pure (.writer { writer with events := writer.events ++ [event] })
  | .writer writer, .saveRule ruleId rule => pure (.writer { writer with saved := writer.saved ++ [(ruleId, rule)] })
  | _, _ => throw { error := .internal }

inductive LockRow
  | run (key : RuleId × EventKey)
  | watermark
  deriving DecidableEq

/-- Uncommitted runs and a written watermark make other writers wait. -/
def locks : Session → List LockRow
  | .worker worker => worker.runs.map (fun run => .run run.key) ++ if worker.phase = .finished then [.watermark] else []
  | .writer _ => []

/-- Event numbers are unique. -/
def Fresh (state : AutomationState) (events : List DomainEvent) : Prop :=
  (events.map DomainEvent.id).Nodup ∧ ∀ event ∈ events, event.id ∉ state.events.map DomainEvent.id

instance (state : AutomationState) : DecidablePred (Fresh state) := fun _ => inferInstanceAs (Decidable (_ ∧ _))

/-- A saved rule: a new one, or an edited one, which keeps its schedule position. -/
def saveRule (rules : List AutomationRule) (saved : Option RuleId × AutomationRule) : List AutomationRule :=
  match saved.1 with
  | none => rules ++ [{ saved.2 with lastScheduledAt := none }]
  | some ruleId => rules.modify ruleId fun rule => { saved.2 with lastScheduledAt := rule.lastScheduledAt }

/-- A pass that went on to an event writes the changed columns of the row only: the moment of the watermark stays as it
is when the event has the moment that was read. -/
def AutomationWatermark.moved (current read : AutomationWatermark) (last : DomainEvent) : AutomationWatermark :=
  { lastOccurredAt := if last.occurredAt = read.lastOccurredAt then current.lastOccurredAt else last.occurredAt
    lastEventId := some last.id }

/-- The watermark row after the pass. -/
def Worker.written (worker : Worker) (current : Option AutomationWatermark) : Option AutomationWatermark :=
  match worker.position, worker.batch.getLast? with
  | none, _ => worker.target
  | some _, none => current
  | some read, some last => current.map fun row => row.moved read last

/-- The watermark is unique per tenant, so only one pass creates it. -/
def Worker.commit (state : AutomationState) (worker : Worker) : Result AutomationState := do
  require (worker.phase = .finished) .internal
  require (worker.position.isSome ∨ state.watermark.isNone) .databaseRefused
  require (Fresh state worker.events) .databaseRefused
  pure {
    rules := state.rules.mapIdx fun ruleId rule =>
      { rule with lastScheduledAt := (worker.scheduled.lookup ruleId).or rule.lastScheduledAt }
    events := state.events ++ worker.events
    runs := state.runs ++ worker.runs
    effects := state.effects ++ worker.effects
    deliveries := state.deliveries ++ worker.deliveries
    watermark := worker.written state.watermark }

def Writer.commit (state : AutomationState) (writer : Writer) : Result AutomationState := do
  require (Fresh state writer.events) .databaseRefused
  pure { state with
    rules := writer.saved.foldl saveRule state.rules
    events := state.events ++ writer.events }

def commit (state : AutomationState) : Session → Result AutomationState
  | .worker worker => worker.commit state
  | .writer writer => writer.commit state

def engine : Engine AutomationState Task Session Op LockRow ProblemError where
  opened := opened
  work := work
  locks := locks
  commit := commit

end Mhvp.Automation
