import Mhvp.Core.Clock

namespace Mhvp.Automation

open Core

abbrev RuleId := ℕ
abbrev EventId := ℕ

/-- What a run refers to: a stored event, or the due moment of a schedule. -/
inductive EventKey
  | stored (id : EventId)
  | window (ruleId : RuleId) (due : Instant)
  deriving DecidableEq

/-- Values of an event payload, as far as rule actions write them. -/
inductive PayloadValue
  | text (value : String)
  | number (value : ℕ)
  | flag (value : Bool)
  | list (values : List String)
  | absent
  /-- The loop guard with rule, event and depth. -/
  | marker (ruleId : RuleId) (event : EventKey) (depth : ℕ)
  deriving DecidableEq

abbrev Payload := List (String × PayloadValue)

structure DomainEvent where
  id : EventId
  type : String
  entityType : String
  entityId : Option ℕ
  payload : Payload
  occurredAt : Instant
  deriving DecidableEq

/-- A node of a condition tree; a leaf compares a field of the context with a value. -/
inductive Condition
  | always
  | all (conditions : List Condition)
  | any (conditions : List Condition)
  | compare (op field value : String)
  | unknown (op : String)

inductive Action
  | createTicket (templateId : ℕ)
  | notify (userIds : List ℕ) (roleCodes : List String)
  | setTicketField (field : String)
  | webhook (url : String)
  | mailDraft (replyTemplateId : ℕ)
  | letterDraft (templateId : ℕ) (contactId : Option ℕ)
  | aiTask (task : String)
  | createTask (title : String)
  | assignRecord (target dimension : String) (value : ℕ)
  | setField (target field : String)
  | notifyProvider (contactId : Option ℕ)
  | setRecordField (target field : String)

/-- Name of the action in the stored rule and in the results of a run. -/
def Action.type : Action → String
  | createTicket _ => "create_ticket"
  | notify _ _ => "notify"
  | setTicketField _ => "set_ticket_field"
  | webhook _ => "webhook"
  | mailDraft _ => "mail_draft"
  | letterDraft _ _ => "letter_draft"
  | aiTask _ => "ai_task"
  | createTask _ => "create_task"
  | assignRecord _ _ _ => "assign_record"
  | setField _ _ => "set_field"
  | notifyProvider _ => "notify_provider"
  | setRecordField _ _ => "set_record_field"

inductive TriggerKind
  | event
  | schedule
  deriving DecidableEq

structure AutomationRule where
  active : Bool := false
  testMode : Bool := false
  triggerKind : TriggerKind := .event
  triggerEventType : Option String := none
  /-- Last due moment of a schedule that was processed. -/
  lastScheduledAt : Option Instant := none
  conditions : Condition := .always
  actions : List Action

inductive RunStatus
  | executed
  | failed
  | dryRun
  deriving DecidableEq

/-- What an action of a run did: the record it wrote, if any; that of a webhook is its delivery. -/
structure ActionResult where
  type : String
  ok : Bool
  entityId : Option ℕ := none

structure AutomationRun where
  ruleId : RuleId
  event : EventKey
  eventType : String
  status : RunStatus
  error : Option String := none
  actions : List ActionResult := []

/-- Unique per rule and event. -/
def AutomationRun.key (run : AutomationRun) : RuleId × EventKey := (run.ruleId, run.event)

/-- A row some action wrote. -/
structure Effect where
  key : RuleId × EventKey
  actionIndex : ℕ
  result : ActionResult

/-- Outbox of the webhook action. -/
structure AutomationWebhookDelivery where
  key : RuleId × EventKey
  actionIndex : ℕ
  url : String
  personalDataWithheld : Bool := false

structure AutomationWatermark where
  lastOccurredAt : Instant
  lastEventId : Option EventId

structure AutomationState where
  rules : List AutomationRule
  events : List DomainEvent := []
  runs : List AutomationRun := []
  effects : List Effect := []
  deliveries : List AutomationWebhookDelivery := []
  watermark : Option AutomationWatermark := none

end Mhvp.Automation
