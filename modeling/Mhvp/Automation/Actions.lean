import Mhvp.Automation.Models

namespace Mhvp.Automation

/-- Answers of the comparisons; a comparison may raise. -/
abbrev Comparisons := String → String → String → Except String Bool

mutual

/-- `evaluate`: whether a condition tree matches. -/
def evaluate (comparisons : Comparisons) : Condition → Except String Bool
  | .always => .ok true
  | .all conditions => evaluateAll comparisons conditions
  | .any [] => .ok true
  | .any (first :: rest) => do
      if ← evaluate comparisons first then .ok true else evaluateAny comparisons rest
  | .compare op field value => comparisons op field value
  | .unknown op => .error ("Unbekannter Operator: '" ++ op ++ "'")

def evaluateAll (comparisons : Comparisons) : List Condition → Except String Bool
  | [] => .ok true
  | first :: rest => do
      if ← evaluate comparisons first then evaluateAll comparisons rest else .ok false

def evaluateAny (comparisons : Comparisons) : List Condition → Except String Bool
  | [] => .ok false
  | first :: rest => do
      if ← evaluate comparisons first then .ok true else evaluateAny comparisons rest

end

/-- `AUTOMATION_MARKER` -/
def automationMarkerKey : String := "automation"

/-- Events written by rule actions carry the marker and are never processed again. -/
def IsAutomationEvent (payload : Payload) : Prop := automationMarkerKey ∈ payload.map Prod.fst

instance : DecidablePred IsAutomationEvent := fun _ => inferInstanceAs (Decidable (_ ∈ _))

def automationMarker (ruleId : RuleId) (event : EventKey) : Payload :=
  [(automationMarkerKey, .marker ruleId event 1)]

theorem isAutomationEvent_marked (payload : Payload) (ruleId : RuleId) (event : EventKey) :
    IsAutomationEvent (payload ++ automationMarker ruleId event) := by
  simp [IsAutomationEvent, automationMarker]

/-- A domain event before it is stored. -/
structure NewEvent where
  type : String
  entityType : String
  entityId : Option ℕ
  payload : Payload

/-- The record an action wrote, with what its events say about it. -/
structure Made where
  entityId : ℕ
  /-- Number of a new ticket. -/
  number : String := ""
  /-- New status of a work order. -/
  status : String := ""
  size : ℕ := 0
  templateCode : String := ""
  templateVersion : ℕ := 0
  /-- Reason of an assignment. -/
  reason : String := ""
  /-- Dimensions the sure chain of an assigned contact filled as well, with their records. -/
  chained : List (String × ℕ) := []
  /-- Host of a webhook, and whether it is in the processing register. -/
  host : String := ""
  targetReviewed : Bool := false
  /-- The body of a webhook names the entity or the payload, and the contact it concerns. -/
  personal : Bool := false
  contactId : Option ℕ := none

inductive Outcome
  /-- `ActionError`, or any exception but a violated constraint. -/
  | refused (text : String)
  /-- `IntegrityError` -/
  | violated
  /-- Nothing to write; switched off if not ok. -/
  | unchanged (ok : Bool)
  | written (made : Made)

inductive Failure
  | action (text : String)
  | constraint

/-- The event of `store_document`, with what its caller adds. -/
def storeDocument (documentId size : ℕ) (source : String) (eventPayload : Payload) : NewEvent :=
  { type := "document.created", entityType := "document", entityId := some documentId
    payload := [("size", .number size), ("source", .text source)] ++ eventPayload }

/-- `emit_completed_if_done` -/
def emitCompletedIfDone (orderId : ℕ) (status : String) (payload : Payload) : List NewEvent :=
  if status = "done" then
    [{ type := "work_order.completed", entityType := "work_order", entityId := some orderId, payload }]
  else []

/-- A new ticket of an action. -/
def ticketCreated (marker : Payload) (made : Made) : NewEvent :=
  { type := "ticket.created", entityType := "ticket", entityId := some made.entityId
    payload := [("number", .text made.number), ("source", .text "manual")] ++ marker }

/-- A field an action set on a record. -/
def fieldUpdated (marker : Payload) (entityType field : String) (made : Made) : NewEvent :=
  { type := entityType ++ ".updated", entityType, entityId := some made.entityId
    payload := [("fields", .list [field]), ("via", .text "automation")] ++ marker }

/-- `apply_rule_assignment`: the assignment, then what the sure chain of the contact filled. -/
def applyRuleAssignment (ruleId : RuleId) (marker : Payload) (target dimension : String) (value : ℕ) (made : Made) :
    List NewEvent :=
  { type := "assignment_review.auto", entityType := target, entityId := some made.entityId
    payload := [("dimension", .text dimension), ("decision", .text "rule"), ("chosen_id", .number value),
      ("reason", .text made.reason), ("rule_id", .number ruleId)] ++ marker } ::
  made.chained.map fun chosen =>
    { type := "assignment_review.auto", entityType := target, entityId := some made.entityId
      payload := [("dimension", .text chosen.1), ("decision", .text "auto"), ("chosen_id", .number chosen.2),
        ("reason", .text made.reason), ("prefilled", .flag false), ("rule_id", .number ruleId),
        ("candidates", .list [])] ++ marker }

/-- `_letter_draft`: the stored document, then the generated letter. -/
def letterDraftEvents (marker : Payload) (made : Made) : List NewEvent :=
  [storeDocument made.entityId made.size "generated" [],
   { type := "document.generated", entityType := "document", entityId := some made.entityId
     payload := [("template", .text made.templateCode), ("template_version", .number made.templateVersion)] ++ marker }]

/-- `_set_record_field` of a work order or a document; the assignee of an order is that of its ticket. -/
def setRecordFieldEvents (marker : Payload) (target field : String) (made : Made) : List NewEvent :=
  if target = "work_order" then
    if field = "status" then
      let payload := [("via", .text "automation")] ++ marker
      { type := "work_order." ++ made.status, entityType := "work_order", entityId := some made.entityId, payload } ::
        emitCompletedIfDone made.entityId made.status payload
    else if field = "scheduled_at" then [fieldUpdated marker "work_order" field made]
    else [fieldUpdated marker "ticket" field made]
  else [fieldUpdated marker "document" field made]

/-- The events a written action leaves. -/
def Action.events (ruleId : RuleId) (event : EventKey) (made : Made) : Action → List NewEvent
  | createTicket _ => [ticketCreated (automationMarker ruleId event) made]
  | createTask _ => [ticketCreated (automationMarker ruleId event) made]
  | setTicketField field =>
    [{ type := "ticket.field_set", entityType := "ticket", entityId := some made.entityId
       payload := [("field", .text field)] ++ automationMarker ruleId event }]
  | letterDraft _ _ => letterDraftEvents (automationMarker ruleId event) made
  | assignRecord target dimension value =>
    applyRuleAssignment ruleId (automationMarker ruleId event) target dimension value made
  | setField target field => [fieldUpdated (automationMarker ruleId event) target field made]
  | setRecordField target field => setRecordFieldEvents (automationMarker ruleId event) target field made
  | notify _ _ | webhook _ | mailDraft _ | aiTask _ | notifyProvider _ => []

/-- Webhooks are handed to the outbox: position, target and content. -/
def Action.pending (index : ℕ) (made : Made) : Action → List (ℕ × String × Made)
  | webhook url => [(index, url, made)]
  | _ => []

/-- What the actions of a rule wrote inside their savepoint. -/
structure Savepoint where
  events : List NewEvent := []
  effects : List Effect := []
  pending : List (ℕ × String × Made) := []

/-- `_execute_one`: a dry run answers before anything is written. -/
def executeOne (dryRun : Bool) (key : RuleId × EventKey) (index : ℕ) (action : Action) (outcome : Outcome)
    (point : Savepoint) : Except Failure (Savepoint × ActionResult) :=
  match outcome with
  | .refused text => .error (.action text)
  | .violated => .error .constraint
  | .unchanged ok => .ok (point, { type := action.type, ok })
  | .written made =>
    if dryRun then .ok (point, { type := action.type, ok := true })
    else
      let result : ActionResult := { type := action.type, ok := true, entityId := some made.entityId }
      .ok ({
        events := point.events ++ action.events key.1 key.2 made
        effects := point.effects ++ [{ key, actionIndex := index, result }]
        pending := point.pending ++ action.pending index made }, result)

/-- `execute_actions`: the actions in order, up to the first that fails. -/
def executeActions (dryRun : Bool) (key : RuleId × EventKey) (outcomes : ℕ → Outcome) :
    ℕ → List Action → Savepoint → Except Failure (Savepoint × List ActionResult)
  | _, [], point => .ok (point, [])
  | index, action :: rest, point => do
      let (point, result) ← executeOne dryRun key index action (outcomes index) point
      let (point, results) ← executeActions dryRun key outcomes (index + 1) rest point
      .ok (point, result :: results)

/-- `_apply_data_sharing`: without consent the payload of a changed contact is queued without personal fields. -/
def withholds (eventType : String) (entityId : Option ℕ) (dataSharing : Bool) (pending : List (ℕ × String × Made)) :
    Bool :=
  !pending.isEmpty && eventType == "contact.updated" && entityId.isSome && !dataSharing

def dataWithheld (ruleId : RuleId) (entityId : Option ℕ) (reason : String) : NewEvent :=
  { type := "automation.webhook_data_withheld", entityType := "contact", entityId
    payload := [("rule_id", .number ruleId), ("reason", .text reason)] }

/-- `_log_transfers`: one event per queued webhook. -/
def webhookTransfer (key : RuleId × EventKey) (eventType : String) (deliveryId : ℕ) (withheld : Bool) (made : Made) :
    NewEvent :=
  let personal := made.personal && !withheld
  { type := "automation.webhook_transfer", entityType := "automation_rule", entityId := some key.1
    payload := [("recipient", .text (if made.host = "" then "webhook" else "webhook:" ++ made.host)),
      ("contact_id", if personal then made.contactId.elim .absent .number else .absent),
      ("personal_data", .flag personal), ("target_reviewed", .flag made.targetReviewed),
      ("delivery_id", .number deliveryId), ("event_type", .text eventType)] ++ automationMarker key.1 key.2 }

end Mhvp.Automation
