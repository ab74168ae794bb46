import Mhvp.Core.Clock

namespace Mhvp.Webhooks

open Core

abbrev TenantId := ℕ
abbrev EventId := ℕ

structure DomainEvent where
  id : EventId
  tenantId : TenantId
  type : String
  /-- Start of the transaction that wrote the event. -/
  occurredAt : Instant
  /-- End of that transaction: from here on the event is visible. -/
  committedAt : Instant
  deriving DecidableEq

inductive DeliveryStatus
  | pending
  | succeeded
  | failed
  deriving DecidableEq

/-- Row of `webhook_delivery`. -/
structure Delivery where
  eventId : EventId
  createdAt : Instant
  status : DeliveryStatus := .pending
  attempts : ℕ := 0
  nextAttemptAt : Option Instant
  lastStatusCode : Option ℕ := none
  lastError : Option String := none
  deliveredAt : Option Instant := none
  deriving DecidableEq

/-- Row of `webhook_subscription`. -/
structure Subscription where
  tenantId : TenantId
  eventTypes : List String
  active : Bool := true
  createdAt : Instant
  consecutiveFailures : ℕ := 0
  lastFailureAt : Option Instant := none
  disabledReason : Option String := none
  watermarkOccurredAt : Option Instant := none
  deriving DecidableEq

/-- A subscription with its deliveries. -/
structure Channel where
  subscription : Subscription
  deliveries : List Delivery := []
  deriving DecidableEq

end Mhvp.Webhooks
