import Mhvp.Core.Problem
import Mhvp.Webhooks.Models

/-! Dispatch of one delivery. -/

namespace Mhvp.Webhooks

open Core

def retrySchedule : List ℕ := [60, 300, 1800, 7200, 21600, 86400]

def claimMarker : String := "sending"

def retryDelay (attempt : ℕ) : ℕ := retrySchedule.getD (min attempt retrySchedule.length - 1) 0

structure DeliveryOutcome where
  ok : Bool
  statusCode : Option ℕ := none
  error : Option String := none
  deriving DecidableEq

/-- How far the call of a claimed attempt has come. -/
inductive CallPhase
  | sending
  | answered (outcome : DeliveryOutcome) (answeredAt : Instant)
  | ended
  deriving DecidableEq

structure ClaimedDelivery where
  attempt : ℕ
  leaseUntil : Instant
  phase : CallPhase := .sending
  deriving DecidableEq

/-- A manual redelivery that has loaded the row. -/
structure Redelivery where
  loaded : DeliveryStatus
  ended : Bool := false

/-- A delivery with its subscription, the attempts handed out, and the clock. -/
structure DispatchState where
  now : Instant
  /-- `tenant_settings.webhook_auto_disable_after` -/
  autoDisableAfter : Option ℕ := none
  subscription : Subscription
  delivery : Delivery
  claims : List ClaimedDelivery := []
  redeliveries : List Redelivery := []
  /-- Redeliveries that were committed. -/
  redelivered : ℕ := 0

def recordFinalFailure (autoDisableAfter : Option ℕ) (subscription : Subscription) (now : Instant) : Subscription :=
  let failures := subscription.consecutiveFailures + 1
  let disabled := autoDisableAfter.any (· ≤ failures)
  { subscription with
    consecutiveFailures := failures
    lastFailureAt := some now
    active := subscription.active && !disabled
    disabledReason := if disabled then some "consecutive_failures" else subscription.disabledReason }

def failFinal (state : DispatchState) : DispatchState :=
  { state with
    delivery := { state.delivery with status := .failed, nextAttemptAt := none }
    subscription := recordFinalFailure state.autoDisableAfter state.subscription state.now }

def Due (state : DispatchState) : Prop :=
  state.delivery.status = .pending ∧ ∃ moment ∈ state.delivery.nextAttemptAt, moment ≤ state.now

instance : DecidablePred Due := fun _ => inferInstanceAs (Decidable (_ ∧ _))

/-- The last claim ended without an outcome and the schedule is used up. -/
def UsedUp (delivery : Delivery) : Prop :=
  delivery.lastError = some claimMarker ∧ retrySchedule.length < delivery.attempts

instance : DecidablePred UsedUp := fun _ => inferInstanceAs (Decidable (_ ∧ _))

def closeInactive (state : DispatchState) : DispatchState :=
  { state with
    delivery := { state.delivery with
      status := .failed, lastError := some "subscription inactive", nextAttemptAt := none } }

def giveUp (state : DispatchState) : DispatchState :=
  failFinal { state with delivery := { state.delivery with lastError := some "outcome unknown" } }

def startAttempt (state : DispatchState) : DispatchState :=
  let attempt := state.delivery.attempts + 1
  let leaseUntil := state.now + retryDelay attempt
  { state with
    delivery := { state.delivery with
      attempts := attempt, nextAttemptAt := some leaseUntil, lastError := some claimMarker }
    claims := state.claims ++ [{ attempt, leaseUntil }] }

/-- `_claim_row` -/
def claimRow (state : DispatchState) : DispatchState :=
  if !state.subscription.active then closeInactive state
  else if UsedUp state.delivery then giveUp state
  else startAttempt state

def setClaim (state : DispatchState) (place : ℕ) (claim : ClaimedDelivery) : DispatchState :=
  { state with claims := state.claims.set place claim }

def applyDelivered (state : DispatchState) (outcome : DeliveryOutcome) : DispatchState :=
  { state with
    delivery := { state.delivery with
      lastStatusCode := outcome.statusCode, lastError := outcome.error
      status := .succeeded, deliveredAt := some state.now, nextAttemptAt := none }
    subscription := { state.subscription with consecutiveFailures := 0 } }

def applyFailed (state : DispatchState) (outcome : DeliveryOutcome) : DispatchState :=
  let noted := { state with
    delivery := { state.delivery with lastStatusCode := outcome.statusCode, lastError := outcome.error } }
  if retrySchedule.length < state.delivery.attempts then failFinal noted
  else { noted with
    delivery := { noted.delivery with nextAttemptAt := some (state.now + retryDelay state.delivery.attempts) } }

/-- `_apply` -/
def applyRow (state : DispatchState) (outcome : DeliveryOutcome) : DispatchState :=
  if outcome.ok then applyDelivered state outcome else applyFailed state outcome

def claimIn (state : DispatchState) (place : ℕ) : Result ClaimedDelivery :=
  orRefuse (state.claims[place]?.filter fun claim => claim.phase ≠ .ended) .resourceNotFound

/-- The outcome of an answered call. -/
def CallPhase.outcome : CallPhase → Option DeliveryOutcome
  | .answered outcome _ => some outcome
  | _ => none

/-- `apply_outcome`: skipped where the row changed meanwhile. -/
def applyOutcome (state : DispatchState) (place : ℕ) : Result DispatchState := do
  let claim ← claimIn state place
  let outcome ← orRefuse claim.phase.outcome .resourceNotFound
  let ended := setClaim state place { claim with phase := .ended }
  pure (if state.delivery.status ≠ .pending ∨ state.delivery.attempts ≠ claim.attempt then ended
    else applyRow ended outcome)

/-- `redeliver`: the status is written where it was not pending when the row was loaded. -/
def redeliver (state : DispatchState) (place : ℕ) (redelivery : Redelivery) : DispatchState :=
  { state with
    delivery := { state.delivery with
      status := if redelivery.loaded = .pending then state.delivery.status else .pending
      nextAttemptAt := some state.now }
    redeliveries := state.redeliveries.set place { redelivery with ended := true }
    redelivered := state.redelivered + 1 }

inductive DispatchEvent
  | wait (seconds : ℕ)
  | claim
  | answer (place : ℕ) (outcome : DeliveryOutcome)
  | applyOutcome (place : ℕ)
  /-- The worker of a claimed attempt is lost. -/
  | lose (place : ℕ)
  | loadRedelivery
  | redeliver (place : ℕ)
  /-- Other deliveries of the subscription, and changes of it. -/
  | others (subscription : Subscription)

def dispatchStep (state : DispatchState) : DispatchEvent → Result DispatchState
  | .wait seconds => pure { state with now := state.now + seconds }
  | .claim => do
      require (Due state) .resourceNotFound
      pure (claimRow state)
  | .answer place outcome => do
      let claim ← orRefuse (state.claims[place]?.filter fun claim => claim.phase = .sending) .resourceNotFound
      pure (setClaim state place { claim with phase := .answered outcome state.now })
  | .applyOutcome place => applyOutcome state place
  | .lose place => do
      let claim ← claimIn state place
      pure (setClaim state place { claim with phase := .ended })
  | .loadRedelivery => pure { state with redeliveries := state.redeliveries ++ [{ loaded := state.delivery.status }] }
  | .redeliver place => do
      let redelivery ← orRefuse (state.redeliveries[place]?.filter fun redelivery => !redelivery.ended) .resourceNotFound
      pure (redeliver state place redelivery)
  | .others subscription => pure { state with subscription }

inductive Served (state : DispatchState) : DispatchEvent → DispatchState → Prop
  | wait (seconds : ℕ) : Served state (.wait seconds) { state with now := state.now + seconds }
  | inactive (due : Due state) (inactive : state.subscription.active = false) : Served state .claim (closeInactive state)
  | gaveUp (due : Due state) (active : state.subscription.active = true) (usedUp : UsedUp state.delivery) :
      Served state .claim (giveUp state)
  | attempt (due : Due state) (notUsedUp : ¬ UsedUp state.delivery) : Served state .claim (startAttempt state)
  | answer (place : ℕ) (claim : ClaimedDelivery) (outcome : DeliveryOutcome) (found : state.claims[place]? = some claim)
      (sending : claim.phase = .sending) : Served state (.answer place outcome)
        (setClaim state place { claim with phase := .answered outcome state.now })
  | skipped (place : ℕ) (claim : ClaimedDelivery) (found : state.claims[place]? = some claim) (notEnded : claim.phase ≠ .ended)
      (changed : state.delivery.status ≠ .pending ∨ state.delivery.attempts ≠ claim.attempt) :
      Served state (.applyOutcome place) (setClaim state place { claim with phase := .ended })
  | applied (place : ℕ) (claim : ClaimedDelivery) (outcome : DeliveryOutcome) (answeredAt : Instant)
      (found : state.claims[place]? = some claim) (answered : claim.phase = .answered outcome answeredAt)
      (pending : state.delivery.status = .pending) (same : state.delivery.attempts = claim.attempt) :
      Served state (.applyOutcome place) (applyRow (setClaim state place { claim with phase := .ended }) outcome)
  | lost (place : ℕ) (claim : ClaimedDelivery) (found : state.claims[place]? = some claim) (notEnded : claim.phase ≠ .ended) :
      Served state (.lose place) (setClaim state place { claim with phase := .ended })
  | loaded : Served state .loadRedelivery
      { state with redeliveries := state.redeliveries ++ [{ loaded := state.delivery.status }] }
  | redelivered (place : ℕ) (redelivery : Redelivery) : Served state (.redeliver place) (redeliver state place redelivery)
  | others (subscription : Subscription) : Served state (.others subscription) { state with subscription }

theorem claimIn_ok : claimIn state place = .ok claim ↔
    state.claims[place]? = some claim ∧ claim.phase ≠ .ended := by
  simp [claimIn, orRefuse_ok, Option.filter_eq_some_iff]

theorem dispatchStep_served (accepted : dispatchStep state event = .ok next) : Served state event next := by
  cases event with
  | wait seconds =>
    simp only [dispatchStep, pure_ok] at accepted
    exact accepted ▸ .wait seconds
  | claim =>
    simp only [dispatchStep, bind_ok, exists_unit, require_ok, pure_ok] at accepted
    obtain ⟨due, rfl⟩ := accepted
    unfold claimRow
    split
    · rename_i inactive
      exact .inactive due (by simpa using inactive)
    · rename_i active
      split
      · rename_i usedUp
        exact .gaveUp due (by simpa using active) usedUp
      · rename_i notUsedUp
        exact .attempt due notUsedUp
  | answer place outcome =>
    simp only [dispatchStep, bind_ok, orRefuse_ok, Option.filter_eq_some_iff, decide_eq_true_eq, pure_ok] at accepted
    obtain ⟨claim, ⟨found, sending⟩, rfl⟩ := accepted
    exact .answer place claim outcome found sending
  | applyOutcome place =>
    simp only [dispatchStep, applyOutcome, bind_ok, claimIn_ok, orRefuse_ok, pure_ok] at accepted
    obtain ⟨claim, ⟨found, notEnded⟩, outcome, isOutcome, rfl⟩ := accepted
    split
    · rename_i changed
      exact .skipped place claim found notEnded changed
    · rename_i unchanged
      obtain ⟨pending, same⟩ := not_or.mp unchanged
      cases answered : claim.phase with
      | answered given answeredAt =>
        rw [answered] at isOutcome
        obtain rfl : given = outcome := Option.some.inj isOutcome
        exact .applied place claim given answeredAt found answered (not_not.mp pending) (not_not.mp same)
      | _ => rw [answered] at isOutcome; cases isOutcome
  | lose place =>
    simp only [dispatchStep, bind_ok, claimIn_ok, pure_ok] at accepted
    obtain ⟨claim, ⟨found, notEnded⟩, rfl⟩ := accepted
    exact .lost place claim found notEnded
  | loadRedelivery =>
    simp only [dispatchStep, pure_ok] at accepted
    exact accepted ▸ .loaded
  | redeliver place =>
    simp only [dispatchStep, bind_ok, orRefuse_ok, pure_ok] at accepted
    obtain ⟨redelivery, -, rfl⟩ := accepted
    exact .redelivered place redelivery
  | others subscription =>
    simp only [dispatchStep, pure_ok] at accepted
    exact accepted ▸ .others subscription

end Mhvp.Webhooks
