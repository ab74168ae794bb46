import Mhvp.Lib.Table
import Mhvp.Lib.Transition
import Mhvp.Webhooks.Dispatch

namespace Mhvp.Webhooks

open Core Lib.Table Lib.Transition List

inductive Applied (state : DispatchState) (outcome : DeliveryOutcome) : DispatchState → Prop
  | delivered (ok : outcome.ok = true) : Applied state outcome (applyDelivered state outcome)
  | final (failed : outcome.ok = false) (exhausted : retrySchedule.length < state.delivery.attempts) :
      Applied state outcome (failFinal { state with
        delivery := { state.delivery with lastStatusCode := outcome.statusCode, lastError := outcome.error } })
  | retry (failed : outcome.ok = false) (left : state.delivery.attempts ≤ retrySchedule.length) :
      Applied state outcome { state with
        delivery := { state.delivery with
          lastStatusCode := outcome.statusCode, lastError := outcome.error
          nextAttemptAt := some (state.now + retryDelay state.delivery.attempts) } }

theorem applyRow_applied (state : DispatchState) (outcome : DeliveryOutcome) :
    Applied state outcome (applyRow state outcome) := by
  unfold applyRow
  split
  · rename_i ok
    exact .delivered ok
  · rename_i failed
    unfold applyFailed
    dsimp only
    split
    · rename_i exhausted
      exact .final (Bool.eq_false_of_not_eq_true failed) exhausted
    · rename_i left
      exact .retry (Bool.eq_false_of_not_eq_true failed) (Nat.not_lt.mp left)

section Steps

variable {state next : DispatchState} {event : DispatchEvent} {outcome : DeliveryOutcome}

theorem Applied.frame (applied : Applied state outcome next) : next.delivery.attempts = state.delivery.attempts ∧
    next.claims = state.claims ∧ next.redelivered = state.redelivered ∧ next.now = state.now := by
  cases applied <;> exact ⟨rfl, rfl, rfl, rfl⟩

theorem attempts_mono (served : Served state event next) : state.delivery.attempts ≤ next.delivery.attempts := by
  cases served with
  | applied place claim outcome =>
    have applied := applyRow_applied (setClaim state place { claim with phase := .ended }) outcome
    exact applied.frame.1.symm.le
  | attempt => exact Nat.le_succ _
  | _ => exact Nat.le_refl _

/-- Every attempt beyond the schedule takes a redelivery. -/
structure Budget (state : DispatchState) : Prop where
  attempts : state.delivery.attempts ≤ retrySchedule.length + 1 + state.redelivered
  open' : state.delivery.status = .pending → state.delivery.lastError ≠ some claimMarker →
    retrySchedule.length < state.delivery.attempts →
    state.delivery.attempts < retrySchedule.length + 1 + state.redelivered

theorem budget_step (budget : Budget state) (served : Served state event next) : Budget next := by
  cases served with
  | inactive => exact ⟨budget.attempts, nofun⟩
  | gaveUp => exact ⟨budget.attempts, nofun⟩
  | attempt due notUsedUp =>
    refine ⟨?_, fun _ notMarked => absurd rfl notMarked⟩
    by_cases beyond : retrySchedule.length < state.delivery.attempts
    · exact budget.open' due.1 (fun marked => notUsedUp ⟨marked, beyond⟩) beyond
    · exact le_trans (Nat.succ_le_succ (Nat.not_lt.mp beyond)) (Nat.le_add_right _ _)
  | applied place claim outcome answeredAt found answered pending same =>
    have applied := applyRow_applied (setClaim state place { claim with phase := .ended }) outcome
    generalize applyRow (setClaim state place { claim with phase := .ended }) outcome = after at applied ⊢
    cases applied with
    | delivered => exact ⟨budget.attempts, nofun⟩
    | final => exact ⟨budget.attempts, nofun⟩
    | retry failed left => exact ⟨budget.attempts, fun _ _ beyond => absurd beyond (Nat.not_lt.mpr left)⟩
  | redelivered =>
    refine ⟨budget.attempts.trans (Nat.le_succ _), fun _ _ _ => ?_⟩
    exact Nat.lt_succ_of_le budget.attempts
  | _ => exact ⟨budget.attempts, budget.open'⟩

/-- The delivery fails by a step of its own, not because the subscription is inactive. -/
def Exhausts (moment : Moment DispatchState DispatchEvent) : Prop :=
  moment.before.delivery.status = .pending ∧ moment.after.delivery.status = .failed ∧
    (moment.call = .claim → moment.before.subscription.active = true)

def ofOthers : DispatchEvent → Bool
  | .others _ => true
  | _ => false

/-- An exhausted delivery counts one final failure, and nothing else of the delivery counts one. -/
structure Counts (moment : Moment DispatchState DispatchEvent) : Prop where
  exhausted : Exhausts moment →
    moment.after.subscription.consecutiveFailures = moment.before.subscription.consecutiveFailures + 1
  otherwise : ¬ Exhausts moment →
    moment.after.subscription.consecutiveFailures ≤ moment.before.subscription.consecutiveFailures

theorem Counts.one (exhausts : Exhausts moment)
    (counted : moment.after.subscription.consecutiveFailures = moment.before.subscription.consecutiveFailures + 1) :
    Counts moment :=
  ⟨fun _ => counted, fun notExhausts => absurd exhausts notExhausts⟩

theorem Counts.none (notExhausts : ¬ Exhausts moment)
    (fewer : moment.after.subscription.consecutiveFailures ≤ moment.before.subscription.consecutiveFailures) :
    Counts moment :=
  ⟨fun exhausts => absurd exhausts notExhausts, fun _ => fewer⟩

theorem Counts.kept (same : next.delivery.status = state.delivery.status)
    (sameFailures : next.subscription = state.subscription) : Counts ⟨state, event, next⟩ := by
  apply Counts.none
  · rintro ⟨pending, failed, -⟩
    have both := pending.symm.trans (same.symm.trans failed)
    cases both
  · exact (congrArg Subscription.consecutiveFailures sameFailures).le

theorem counts_step (served : Served state event next) (own : ofOthers event = false) : Counts ⟨state, event, next⟩ := by
  cases served with
  | inactive due inactive =>
    apply Counts.none
    · rintro ⟨-, -, active⟩
      exact absurd (active rfl) (by simp [inactive])
    · exact Nat.le_refl _
  | gaveUp due active usedUp => exact Counts.one ⟨due.1, rfl, fun _ => active⟩ rfl
  | applied place claim outcome answeredAt found answered pending same =>
    have applied := applyRow_applied (setClaim state place { claim with phase := .ended }) outcome
    generalize applyRow (setClaim state place { claim with phase := .ended }) outcome = after at applied ⊢
    cases applied with
    | delivered =>
      apply Counts.none
      · rintro ⟨-, failed, -⟩
        cases failed
      · exact Nat.zero_le _
    | final => exact Counts.one ⟨pending, rfl, nofun⟩ rfl
    | retry => exact Counts.kept rfl rfl
  | redelivered place redelivery =>
    apply Counts.none
    · rintro ⟨pending, failed, -⟩
      have isPending : (redeliver state place redelivery).delivery.status = .pending := by
        unfold redeliver
        dsimp only
        split
        · exact pending
        · rfl
      have both := isPending.symm.trans failed
      cases both
    · exact Nat.le_refl _
  | others => cases own
  | _ => exact Counts.kept rfl rfl

/-- Attempts are numbered in the order of the claims, and a claim that has ended stays as it is. -/
structure Numbered (state : DispatchState) : Prop where
  ascending : (state.claims.map (·.attempt)).Pairwise (· < ·)
  issued : ∀ claim ∈ state.claims, claim.attempt ≤ state.delivery.attempts

theorem Numbered.phase (numbered : Numbered state) (found : state.claims[place]? = some claim)
    (phase : CallPhase) : Numbered (setClaim state place { claim with phase }) := by
  refine ⟨?_, ?_⟩
  · have same : ((setClaim state place { claim with phase }).claims).map (·.attempt) = state.claims.map (·.attempt) :=
      map_set_same found rfl
    rw [same]
    exact numbered.ascending
  · intro other present
    rcases mem_or_eq_of_mem_set present with unchanged | rfl
    · exact numbered.issued other unchanged
    · exact numbered.issued claim (mem_of_getElem? found)

theorem numbered_step (numbered : Numbered state) (served : Served state event next) : Numbered next := by
  cases served with
  | attempt =>
    refine ⟨?_, ?_⟩
    · rw [startAttempt, map_append, pairwise_append]
      refine ⟨numbered.ascending, pairwise_singleton _ _, ?_⟩
      intro earlier present attempt isNew
      obtain ⟨claim, isClaim, rfl⟩ := mem_map.mp present
      rw [mem_singleton.mp isNew]
      exact Nat.lt_succ_of_le (numbered.issued claim isClaim)
    · intro claim present
      rcases mem_append.mp present with old | isNew
      · exact (numbered.issued claim old).trans (Nat.le_succ _)
      · rw [mem_singleton.mp isNew]
        exact Nat.le_refl _
  | answer place claim outcome found => exact numbered.phase found _
  | skipped place claim found => exact numbered.phase found _
  | lost place claim found => exact numbered.phase found _
  | applied place claim outcome answeredAt found =>
    have ended := numbered.phase found .ended
    obtain ⟨sameAttempts, sameClaims, -, -⟩ :=
      (applyRow_applied (setClaim state place { claim with phase := .ended }) outcome).frame
    refine ⟨?_, ?_⟩
    · rw [sameClaims]
      exact ended.ascending
    · rw [sameClaims, sameAttempts]
      exact ended.issued
  | _ => exact ⟨numbered.ascending, numbered.issued⟩

theorem Numbered.same_place {place other : ℕ} {claim claimToo : ClaimedDelivery} (numbered : Numbered state)
    (found : state.claims[place]? = some claim) (foundToo : state.claims[other]? = some claimToo) (same : claim.attempt = claimToo.attempt) : other = place := by
  have nodup : (state.claims.map (·.attempt)).Nodup := numbered.ascending.imp Nat.ne_of_lt
  have inside : other < (state.claims.map (·.attempt)).length := by
    rw [length_map]
    exact found_lt foundToo
  apply (List.getElem?_inj inside nodup).mp
  rw [List.getElem?_map, List.getElem?_map, found, foundToo, Option.map_some, Option.map_some, same]

def Latest (state : DispatchState) (claim : ClaimedDelivery) : Prop := claim.attempt = state.delivery.attempts

instance (state : DispatchState) : DecidablePred (Latest state) := fun _ => inferInstanceAs (Decidable (_ = _))

def CallPhase.delivered : CallPhase → Bool
  | .answered outcome _ => outcome.ok
  | _ => false

/-- A positive answer of the latest attempt is written before the row is due again, and no redelivery is committed while
the latest attempt is out. -/
def Undisturbed (state : DispatchState) : DispatchEvent → Prop
  | .claim => Due state → ∀ claim ∈ state.claims, Latest state claim → claim.phase.delivered = false
  | .redeliver _ => ∀ claim ∈ state.claims, Latest state claim → claim.phase = .ended
  | _ => True

instance (state : DispatchState) : DecidablePred (Undisturbed state) := by
  intro event
  cases event <;> unfold Undisturbed <;> infer_instance

/-- The latest attempt is out, and nothing else happened to the row within its lease. -/
structure Leased (state : DispatchState) : Prop where
  sending : ∀ claim ∈ state.claims, Latest state claim → claim.phase = .sending →
    (state.delivery.status = .pending ∧ state.delivery.nextAttemptAt = some claim.leaseUntil) ∨
      claim.leaseUntil ≤ state.now
  answered : ∀ claim ∈ state.claims, Latest state claim → ∀ outcome answeredAt,
    claim.phase = .answered outcome answeredAt → outcome.ok = true → answeredAt < claim.leaseUntil →
    state.delivery.status = .pending

theorem Leased.end (leased : Leased state) (place : ℕ) (claim : ClaimedDelivery) :
    Leased (setClaim state place { claim with phase := .ended }) := by
  refine ⟨?_, ?_⟩
  · intro other present latest sending
    rcases mem_or_eq_of_mem_set present with unchanged | rfl
    · exact leased.sending other unchanged latest sending
    · cases sending
  · intro other present latest outcome answeredAt answered
    rcases mem_or_eq_of_mem_set present with unchanged | rfl
    · exact leased.answered other unchanged latest outcome answeredAt answered
    · cases answered

theorem Leased.due (leased : Leased state) (due : Due state) (delivery : Delivery) (subscription : Subscription)
    (sameAttempts : delivery.attempts = state.delivery.attempts)
    (unanswered : ∀ claim ∈ state.claims, Latest state claim → claim.phase.delivered = false) :
    Leased { state with delivery, subscription } := by
  refine ⟨?_, ?_⟩
  · intro claim present latest sending
    obtain ⟨-, moment, isNext, past⟩ := due
    rcases leased.sending claim present (latest.trans sameAttempts) sending with ⟨-, lease⟩ | past
    · rw [isNext, Option.some.injEq] at lease
      exact Or.inr (lease ▸ past)
    · exact Or.inr past
  · intro claim present latest outcome answeredAt answered ok
    have notDelivered := unanswered claim present (latest.trans sameAttempts)
    rw [answered] at notDelivered
    exact absurd ok (by simpa [CallPhase.delivered] using notDelivered)

theorem Leased.of_ended (ended : ∀ claim ∈ state.claims, Latest state claim → claim.phase = .ended) : Leased state := by
  refine ⟨?_, ?_⟩
  · intro claim present latest sending
    have both := (ended claim present latest).symm.trans sending
    cases both
  · intro claim present latest outcome answeredAt answered
    have both := (ended claim present latest).symm.trans answered
    cases both

theorem leased_step (state : DispatchState) (event : DispatchEvent) (next : DispatchState)
    (inv : Numbered state ∧ Leased state) (admitted : Undisturbed state event)
    (accepted : dispatchStep state event = .ok next) : Numbered next ∧ Leased next := by
  obtain ⟨numbered, leased⟩ := inv
  have served := dispatchStep_served accepted
  refine ⟨numbered_step numbered served, ?_⟩
  cases served with
  | wait seconds =>
    refine ⟨?_, leased.answered⟩
    intro claim present latest sending
    rcases leased.sending claim present latest sending with lease | past
    · exact Or.inl lease
    · exact Or.inr (past.trans (Nat.le_add_right _ _))
  | inactive due => exact leased.due due _ state.subscription rfl (admitted due)
  | gaveUp due => exact leased.due due _ _ rfl (admitted due)
  | attempt due notUsedUp =>
    -- the attempts before are no longer the latest
    have isNew : ∀ claim ∈ (startAttempt state).claims, Latest (startAttempt state) claim →
        claim = { attempt := state.delivery.attempts + 1,
                  leaseUntil := state.now + retryDelay (state.delivery.attempts + 1) } := by
      intro claim present latest
      rcases mem_append.mp present with old | isNew
      · have issued := numbered.issued claim old
        have isLatest : claim.attempt = state.delivery.attempts + 1 := latest
        omega
      · exact mem_singleton.mp isNew
    refine ⟨?_, ?_⟩
    · intro claim present latest _
      rw [isNew claim present latest]
      exact Or.inl ⟨due.1, rfl⟩
    · intro claim present latest outcome answeredAt answered
      rw [isNew claim present latest] at answered
      cases answered
  | answer place claim outcome found sending =>
    refine ⟨?_, ?_⟩
    · intro other present latest isSending
      rcases mem_or_eq_of_mem_set present with unchanged | rfl
      · exact leased.sending other unchanged latest isSending
      · cases isSending
    · intro other present latest given answeredAt answered ok inTime
      rcases mem_or_eq_of_mem_set present with unchanged | rfl
      · exact leased.answered other unchanged latest given answeredAt answered ok inTime
      · obtain ⟨rfl, rfl⟩ := CallPhase.answered.inj answered
        rcases leased.sending claim (mem_of_getElem? found) latest sending with ⟨pending, -⟩ | past
        · exact pending
        · exact absurd inTime (Nat.not_lt.mpr past)
  | skipped place claim => exact leased.end place claim
  | lost place claim => exact leased.end place claim
  | applied place claim outcome answeredAt found answered pending same =>
    obtain ⟨sameAttempts, sameClaims, -, -⟩ :=
      (applyRow_applied (setClaim state place { claim with phase := .ended }) outcome).frame
    apply Leased.of_ended
    rw [sameClaims]
    intro other present latest
    -- the latest attempt is the one that has ended
    obtain ⟨index, isOther⟩ := mem_iff_getElem?.mp present
    have isLatest : other.attempt = state.delivery.attempts := latest.trans sameAttempts
    rcases (found_set found).mp isOther with ⟨-, rfl⟩ | ⟨elsewhere, before⟩
    · rfl
    · exact absurd (numbered.same_place found before (same.symm.trans isLatest.symm)) elsewhere
  | loaded | others => exact ⟨leased.sending, leased.answered⟩
  | redelivered place redelivery => exact Leased.of_ended admitted

theorem succeeded_step (succeeded : state.delivery.status = .succeeded) (served : Served state event next)
    (notRedelivered : ∀ place, event ≠ .redeliver place) : next.delivery.status = .succeeded := by
  cases served with
  | inactive due | gaveUp due | attempt due =>
    have both := due.1.symm.trans succeeded
    cases both
  | applied place claim outcome answeredAt found answered pending =>
    have both := pending.symm.trans succeeded
    cases both
  | redelivered place => exact absurd rfl (notRedelivered place)
  | _ => exact succeeded

/-- The outcome of a call changes the row only while its attempt is the last one, and its claim ends. -/
def OwnOutcome (moment : Moment DispatchState DispatchEvent) : Prop :=
  ∀ place, moment.call = .applyOutcome place → moment.after.delivery ≠ moment.before.delivery →
    ∃ claim outcome answeredAt, moment.before.claims[place]? = some claim ∧
      claim.phase = .answered outcome answeredAt ∧ moment.before.delivery.status = .pending ∧
      moment.before.delivery.attempts = claim.attempt ∧
      moment.after.claims[place]? = some { claim with phase := .ended }

theorem ownOutcome_step (served : Served state event next) : OwnOutcome ⟨state, event, next⟩ := by
  rintro place rfl changed
  cases served with
  | skipped => exact absurd rfl changed
  | applied place claim outcome answeredAt found answered pending same =>
    obtain ⟨-, sameClaims, -, -⟩ :=
      (applyRow_applied (setClaim state place { claim with phase := .ended }) outcome).frame
    refine ⟨claim, outcome, answeredAt, found, answered, pending, same, ?_⟩
    have ended : (setClaim state place { claim with phase := .ended }).claims[place]? =
        some { claim with phase := .ended } := List.getElem?_set_self (found_lt found)
    exact (congrArg (·[place]?) sameClaims).trans ended

/-- A claim that has ended stays as it is, so its outcome is applied once at most. -/
def EndedStay (moment : Moment DispatchState DispatchEvent) : Prop :=
  ∀ (place : ℕ) claim, moment.before.claims[place]? = some claim → claim.phase = .ended →
    moment.after.claims[place]? = some claim

theorem endedStay_setClaim (found : state.claims[place]? = some claim)
    (notEnded : claim.phase ≠ .ended) (same : next.claims = state.claims.set place new) :
    EndedStay ⟨state, event, next⟩ := by
  intro index other isOther ended
  have different : index ≠ place := by
    rintro rfl
    obtain rfl : claim = other := Option.mem_unique found isOther
    exact notEnded ended
  exact (congrArg (·[index]?) same).trans ((found_set found).mpr (Or.inr ⟨different, isOther⟩))

theorem endedStay_step (served : Served state event next) : EndedStay ⟨state, event, next⟩ := by
  cases served with
  | answer place claim outcome found sending => exact endedStay_setClaim found (by simp [sending]) rfl
  | skipped place claim found notEnded | lost place claim found notEnded => exact endedStay_setClaim found notEnded rfl
  | applied place claim outcome answeredAt found answered =>
    obtain ⟨-, sameClaims, -, -⟩ :=
      (applyRow_applied (setClaim state place { claim with phase := .ended }) outcome).frame
    exact endedStay_setClaim found (by simp [answered]) sameClaims
  | attempt =>
    intro place claim found _
    exact (List.getElem?_append_left (found_lt found)).trans found
  | _ => exact fun place claim found _ => found

end Steps

/-- A new delivery, due at once. -/
def newDispatch (now : Instant) (autoDisableAfter : Option ℕ) (subscription : Subscription) (eventId : EventId) :
    DispatchState :=
  { now, autoDisableAfter, subscription, delivery := { eventId, createdAt := now, nextAttemptAt := some now } }

/-- Attempts only grow, and are bounded by the schedule and the redeliveries; each outcome is applied to its own attempt
and once; each exhaustion counts one failure; and a positive answer of the latest attempt that is written within its lease,
with no redelivery while it is out, makes the delivery succeed until it is redelivered. -/
theorem dispatch_runs (now : Instant) (autoDisableAfter : Option ℕ) (subscription : Subscription) (eventId : EventId)
    (events : List DispatchEvent) (final : DispatchState)
    (isFinal : run dispatchStep (newDispatch now autoDisableAfter subscription eventId) events = final) :
    (∀ moment ∈ trace dispatchStep (newDispatch now autoDisableAfter subscription eventId) events,
      moment.before.delivery.attempts ≤ moment.after.delivery.attempts ∧ OwnOutcome moment ∧ EndedStay moment ∧
        (ofOthers moment.call = false → Counts moment)) ∧
    final.delivery.attempts ≤ retrySchedule.length + 1 + final.redelivered ∧
    (final.claims.map (·.attempt)).Pairwise (· < ·) ∧
    (Guarded dispatchStep Undisturbed (newDispatch now autoDisableAfter subscription eventId) events →
      ∀ place claim outcome answeredAt, final.claims[place]? = some claim → Latest final claim →
        claim.phase = .answered outcome answeredAt → outcome.ok = true → answeredAt < claim.leaseUntil →
        final.delivery.status = .pending ∧
          ∀ next, dispatchStep final (.applyOutcome place) = .ok next → next.delivery.status = .succeeded) ∧
    ∀ event next, final.delivery.status = .succeeded → dispatchStep final event = .ok next →
      (∀ place, event ≠ .redeliver place) → next.delivery.status = .succeeded := by
  have numberedStart : Numbered (newDispatch now autoDisableAfter subscription eventId) :=
    ⟨List.Pairwise.nil, fun _ none => absurd none not_mem_nil⟩
  have leasedStart : Leased (newDispatch now autoDisableAfter subscription eventId) :=
    ⟨fun _ none => absurd none not_mem_nil, fun _ none => absurd none not_mem_nil⟩
  have budgetStart : Budget (newDispatch now autoDisableAfter subscription eventId) :=
    ⟨Nat.zero_le _, fun _ _ beyond => absurd beyond (Nat.not_lt_zero _)⟩
  refine ⟨?_, ?_, ?_, ?_, ?_⟩
  · intro moment present
    have all : ∀ (state : DispatchState) event next, True → dispatchStep state event = .ok next → True :=
      fun _ _ _ _ _ => trivial
    have served := dispatchStep_served (trace_invariant all events trivial moment present).2
    exact ⟨attempts_mono served, ownOutcome_step served, endedStay_step served, counts_step served⟩
  · have kept : ∀ state event next, Budget state → dispatchStep state event = .ok next → Budget next :=
      fun _ _ _ budget accepted => budget_step budget (dispatchStep_served accepted)
    exact isFinal ▸ (run_invariant kept events budgetStart).attempts
  · have kept : ∀ state event next, Numbered state → dispatchStep state event = .ok next → Numbered next :=
      fun _ _ _ numbered accepted => numbered_step numbered (dispatchStep_served accepted)
    exact isFinal ▸ (run_invariant kept events numberedStart).ascending
  · intro undisturbed place claim outcome answeredAt found latest answered ok inTime
    have both := Guarded.invariant leased_step events undisturbed ⟨numberedStart, leasedStart⟩
    rw [isFinal] at both
    have pending := both.2.answered claim (mem_of_getElem? found) latest outcome answeredAt answered ok inTime
    refine ⟨pending, ?_⟩
    intro next accepted
    cases dispatchStep_served accepted with
    | skipped _ other isOther _ changed =>
      obtain rfl : claim = other := Option.mem_unique found isOther
      rcases changed with notPending | otherAttempt
      · exact absurd pending notPending
      · exact absurd latest.symm otherAttempt
    | applied _ other given _ isOther isAnswered =>
      obtain rfl : claim = other := Option.mem_unique found isOther
      obtain ⟨rfl, -⟩ := CallPhase.answered.inj (answered.symm.trans isAnswered)
      rw [applyRow, if_pos ok]
      rfl
  · exact fun event next succeeded accepted => succeeded_step succeeded (dispatchStep_served accepted)

private def anyEvents : Subscription := { tenantId := 1, eventTypes := ["*"], createdAt := 0 }

private def accepted200 : DeliveryOutcome := { ok := true, statusCode := some 200 }

private def after (events : List DispatchEvent) : DispatchState :=
  run dispatchStep (newDispatch 1000 none anyEvents 7) events

theorem sample_dispatch_runs : (after [.claim, .wait 5, .answer 0 accepted200]).delivery.status = .pending := by
  have undisturbed : Guarded dispatchStep Undisturbed (newDispatch 1000 none anyEvents 7)
      [.claim, .wait 5, .answer 0 accepted200] := by decide +kernel
  have answers := (dispatch_runs 1000 none anyEvents 7 [.claim, .wait 5, .answer 0 accepted200] _ rfl).2.2.2.1 undisturbed
  exact (answers 0 { attempt := 1, leaseUntil := 1060, phase := .answered accepted200 1005 } accepted200 1005
    (by decide +kernel) (by decide +kernel) rfl rfl (by decide)).1

/-- Six lost attempts and a seventh one that is out. -/
private def seventhOut : List DispatchEvent :=
  (List.range 6).flatMap (fun place => [.claim, .lose place, .wait (retryDelay (place + 1))]) ++ [.claim]

/-- The latest attempt is answered with 2xx within its lease. -/
private def answeredInTime (state : DispatchState) : Prop :=
  ∃ claim ∈ state.claims, Latest state claim ∧ ∃ moment < claim.leaseUntil, claim.phase = .answered accepted200 moment

/-- The worker is lost before it writes the outcome. -/
private def lostAfterAnswer : List DispatchEvent := [.lose 6, .wait 86400, .claim]

/-- Redelivered by hand while its last attempt is out, the delivery fails, and the positive answer is skipped. -/
private def redeliveredMeanwhile : List DispatchEvent :=
  seventhOut ++ [.loadRedelivery, .redeliver 0, .claim, .wait 5, .answer 6 accepted200]

theorem positive_answer_fails :
    (answeredInTime (after (seventhOut ++ [.answer 6 accepted200])) ∧
      (after (seventhOut ++ [.answer 6 accepted200] ++ lostAfterAnswer)).delivery.status = .failed) ∧
    answeredInTime (after redeliveredMeanwhile) ∧
      (after (redeliveredMeanwhile ++ [.applyOutcome 6])).delivery.status = .failed := by
  refine ⟨⟨⟨⟨7, 204760, .answered accepted200 118360⟩, ?_, ?_, 118360, ?_⟩, ?_⟩,
    ⟨⟨7, 204760, .answered accepted200 118365⟩, ?_, ?_, 118365, ?_⟩, ?_⟩
  all_goals decide +kernel

end Mhvp.Webhooks
