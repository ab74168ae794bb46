import Mhvp.Core.Problem
import Mhvp.Lib.Sorting
import Mhvp.Lib.Transition
import Mhvp.Webhooks.Models

namespace Mhvp.Webhooks

open Core Lib.Batch Lib.Transition List

/-- Seconds before the watermark that a run reads again. -/
def enqueueOverlap : ℕ := 15 * 60

def enqueueBatchLimit : ℕ := 1000

def Matches (subscription : Subscription) (eventType : String) : Prop :=
  ∃ type ∈ subscription.eventTypes, type = "*" ∨ type = eventType ∨
    (".*".toList <:+ type.toList ∧ type.toList.dropLast <+: eventType.toList)

instance (subscription : Subscription) : DecidablePred (Matches subscription) := fun _ =>
  inferInstanceAs (Decidable (∃ _ ∈ _, _))

/-- `order_by(DomainEvent.occurred_at, DomainEvent.id)` -/
def Before (first second : DomainEvent) : Prop :=
  first.occurredAt < second.occurredAt ∨ first.occurredAt = second.occurredAt ∧ first.id ≤ second.id

instance : DecidableRel Before := fun _ _ => inferInstanceAs (Decidable (_ ∨ _ ∧ _))

instance : Std.Total Before where
  total first second := by
    rcases Nat.lt_trichotomy first.occurredAt second.occurredAt with earlier | same | later
    · exact Or.inl (Or.inl earlier)
    · rcases Nat.le_total first.id second.id with lower | higher
      · exact Or.inl (Or.inr ⟨same, lower⟩)
      · exact Or.inr (Or.inr ⟨same.symm, higher⟩)
    · exact Or.inr (Or.inl later)

instance : IsTrans DomainEvent Before where
  trans first second third := by
    rintro (earlier | ⟨same, lower⟩) (earlierToo | ⟨sameToo, lowerToo⟩)
    · exact Or.inl (earlier.trans earlierToo)
    · exact Or.inl (sameToo ▸ earlier)
    · exact Or.inl (same ▸ earlierToo)
    · exact Or.inr ⟨same.trans sameToo, lower.trans lowerToo⟩

theorem Before.occurredAt_le (before : Before first second) : first.occurredAt ≤ second.occurredAt := by
  rcases before with earlier | ⟨same, -⟩
  · exact earlier.le
  · exact same.le

/-- The start of the lookup. -/
def since (subscription : Subscription) : Instant :=
  match subscription.watermarkOccurredAt with
  | none => subscription.createdAt
  | some watermark => max subscription.createdAt (watermark - enqueueOverlap)

def Delivered (channel : Channel) (event : DomainEvent) : Prop :=
  ∃ delivery ∈ channel.deliveries, delivery.eventId = event.id

instance (channel : Channel) : DecidablePred (Delivered channel) := fun _ => inferInstanceAs (Decidable (∃ _ ∈ _, _))

/-- The event has a delivery, of those created from some time before `since` on. -/
def Known (channel : Channel) (event : DomainEvent) : Prop :=
  ∃ delivery ∈ channel.deliveries, since channel.subscription - enqueueOverlap ≤ delivery.createdAt ∧
    delivery.eventId = event.id

instance (channel : Channel) : DecidablePred (Known channel) := fun _ => inferInstanceAs (Decidable (∃ _ ∈ _, _))

def candidates (events : List DomainEvent) (now : Instant) (channel : Channel) : List DomainEvent :=
  events.filter fun event => event.committedAt ≤ now ∧ event.tenantId = channel.subscription.tenantId ∧
    since channel.subscription ≤ event.occurredAt ∧ ¬ Known channel event

def batch (events : List DomainEvent) (now : Instant) (channel : Channel) : List DomainEvent :=
  firstOf Before enqueueBatchLimit (candidates events now channel)

/-- `INSERT … ON CONFLICT DO NOTHING` -/
def insertDelivery (now : Instant) (deliveries : List Delivery) (event : DomainEvent) : List Delivery :=
  if ∃ delivery ∈ deliveries, delivery.eventId = event.id then deliveries
  else deliveries ++ [{ eventId := event.id, createdAt := now, nextAttemptAt := some now }]

def moveWatermark (watermark : Option Instant) (newest : Option DomainEvent) : Option Instant :=
  match newest with
  | none => watermark
  | some event => if watermark.all (· < event.occurredAt) then some event.occurredAt else watermark

def enqueueSubscription (events : List DomainEvent) (now : Instant) (channel : Channel) : Channel :=
  let read := batch events now channel
  let wanted := read.filter fun event => Matches channel.subscription event.type
  { subscription := { channel.subscription with
      watermarkOccurredAt := moveWatermark channel.subscription.watermarkOccurredAt read.getLast? }
    deliveries := wanted.foldl (insertDelivery now) channel.deliveries }

/-- `enqueue_deliveries` of one tenant. -/
def enqueueDeliveries (tenantId : TenantId) (events : List DomainEvent) (channels : List Channel) (now : Instant) :
    List Channel :=
  channels.map fun channel =>
    if channel.subscription.tenantId = tenantId ∧ channel.subscription.active then
      enqueueSubscription events now channel
    else channel

/-- One run as seen by one subscription. -/
def enqueueStep (events : List DomainEvent) (channel : Channel) (now : Instant) : Result Channel :=
  pure (enqueueSubscription events now channel)

theorem insertDelivery_delivered (now : Instant) (deliveries : List Delivery) (event other : DomainEvent) :
    (∃ delivery ∈ insertDelivery now deliveries event, delivery.eventId = other.id) ↔
      (∃ delivery ∈ deliveries, delivery.eventId = other.id) ∨ event.id = other.id := by
  unfold insertDelivery
  split
  · rename_i present
    constructor
    · exact Or.inl
    · rintro (before | same)
      · exact before
      · exact same ▸ present
  · simp [or_and_right, exists_or]

theorem insertDelivery_nodup (now : Instant) (event : DomainEvent)
    (unique : (deliveries.map (·.eventId)).Nodup) : ((insertDelivery now deliveries event).map (·.eventId)).Nodup := by
  unfold insertDelivery
  split
  · exact unique
  · rename_i absent
    rw [map_append, nodup_append]
    refine ⟨unique, nodup_singleton _, ?_⟩
    intro eventId present other isNew same
    obtain ⟨delivery, isDelivery, rfl⟩ := mem_map.mp present
    exact absent ⟨delivery, isDelivery, same.trans (mem_singleton.mp isNew)⟩

theorem insertAll_delivered (now : Instant) (wanted : List DomainEvent) (deliveries : List Delivery)
    (other : DomainEvent) : (∃ delivery ∈ wanted.foldl (insertDelivery now) deliveries, delivery.eventId = other.id) ↔
      (∃ delivery ∈ deliveries, delivery.eventId = other.id) ∨ ∃ event ∈ wanted, event.id = other.id := by
  induction wanted generalizing deliveries with
  | nil => simp
  | cons event rest ih =>
    rw [foldl_cons, ih, insertDelivery_delivered, or_assoc, exists_mem_cons_iff]

theorem insertAll_nodup (now : Instant) (wanted : List DomainEvent)
    (unique : (deliveries.map (·.eventId)).Nodup) :
    ((wanted.foldl (insertDelivery now) deliveries).map (·.eventId)).Nodup := by
  induction wanted generalizing deliveries with
  | nil => exact unique
  | cons event rest ih => exact ih (insertDelivery_nodup now event unique)

theorem delivered_enqueue (events : List DomainEvent) (now : Instant) (channel : Channel) (other : DomainEvent) :
    Delivered (enqueueSubscription events now channel) other ↔ Delivered channel other ∨
      ∃ event ∈ batch events now channel, Matches channel.subscription event.type ∧ event.id = other.id := by
  unfold Delivered enqueueSubscription
  dsimp only
  rw [insertAll_delivered]
  simp only [mem_filter, decide_eq_true_eq, and_assoc]

theorem mem_candidates : event ∈ candidates events now channel ↔
    event ∈ events ∧ event.committedAt ≤ now ∧ event.tenantId = channel.subscription.tenantId ∧
      since channel.subscription ≤ event.occurredAt ∧ ¬ Known channel event := by
  simp [candidates]

/-- An event of the tenant that the subscription asks for, since its creation. -/
def Wanted (subscription : Subscription) (event : DomainEvent) : Prop :=
  event.tenantId = subscription.tenantId ∧ subscription.createdAt ≤ event.occurredAt ∧
    Matches subscription event.type

instance (subscription : Subscription) : DecidablePred (Wanted subscription) := fun _ =>
  inferInstanceAs (Decidable (_ ∧ _ ∧ _))

/-- Transactions of events last no longer than the overlap. -/
def Timely (events : List DomainEvent) : Prop :=
  ∀ event ∈ events, event.occurredAt ≤ event.committedAt ∧ event.committedAt ≤ event.occurredAt + enqueueOverlap

instance : DecidablePred Timely := fun _ => inferInstanceAs (Decidable (∀ _ ∈ _, _))

/-- The event lies at or before the watermark. -/
def Passed (subscription : Subscription) (event : DomainEvent) : Bool :=
  subscription.watermarkOccurredAt.any (event.occurredAt ≤ ·)

theorem passed_iff : Passed subscription event = true ↔
    ∃ watermark ∈ subscription.watermarkOccurredAt, event.occurredAt ≤ watermark := by
  unfold Passed
  cases subscription.watermarkOccurredAt <;> simp

/-- The lookup starts no later than at any wanted event without delivery. -/
def Reaches (events : List DomainEvent) (channel : Channel) : Prop :=
  ∀ event ∈ events, Wanted channel.subscription event → ¬ Delivered channel event →
    ∀ watermark ∈ channel.subscription.watermarkOccurredAt, watermark ≤ event.occurredAt + enqueueOverlap

/-- Of the events that the run would read again at or before the watermark, fewer than a batch need no delivery. -/
def Uncrowded (events : List DomainEvent) (channel : Channel) (now : Instant) : Prop :=
  (candidates events now channel).countP (fun event => Passed channel.subscription event ∧
    (¬ Matches channel.subscription event.type ∨ Delivered channel event)) < enqueueBatchLimit

instance (events : List DomainEvent) (channel : Channel) (now : Instant) : Decidable (Uncrowded events channel now) :=
  inferInstanceAs (Decidable (_ < _))

section Run

variable {events : List DomainEvent} {channel : Channel} {event : DomainEvent}

theorem since_le (reaches : Reaches events channel) (present : event ∈ events)
    (wanted : Wanted channel.subscription event) (missing : ¬ Delivered channel event) :
    since channel.subscription ≤ event.occurredAt := by
  unfold since
  split
  · exact wanted.2.1
  · rename_i watermark isWatermark
    exact max_le wanted.2.1 (Nat.sub_le_iff_le_add.mpr (reaches event present wanted missing watermark isWatermark))

theorem delivered_mono (delivered : Delivered channel event) :
    Delivered (enqueueSubscription events now channel) event :=
  (delivered_enqueue events now channel event).mpr (Or.inl delivered)

theorem left_behind (reaches : Reaches events channel) (present : event ∈ events)
    (wanted : Wanted channel.subscription event) (visible : event.committedAt ≤ now)
    (missing : ¬ Delivered (enqueueSubscription events now channel) event) :
    (batch events now channel).length = enqueueBatchLimit ∧ ∀ chosen ∈ batch events now channel, Before chosen event := by
  have missingBefore : ¬ Delivered channel event := fun delivered => missing (delivered_mono delivered)
  have candidate : event ∈ candidates events now channel := by
    refine mem_candidates.mpr ⟨present, visible, wanted.1, since_le reaches present wanted missingBefore, ?_⟩
    rintro ⟨delivery, isDelivery, -, isEvent⟩
    exact missingBefore ⟨delivery, isDelivery, isEvent⟩
  apply left_out candidate
  intro chosen
  exact missing ((delivered_enqueue events now channel event).mpr (Or.inr ⟨event, chosen, wanted.2.2, rfl⟩))

theorem moveWatermark_cases (watermark : Option Instant) (newest : Option DomainEvent) :
    moveWatermark watermark newest = watermark ∨
      ∃ event, newest = some event ∧ moveWatermark watermark newest = some event.occurredAt ∧
        ∀ old ∈ watermark, old < event.occurredAt := by
  unfold moveWatermark
  split
  · exact Or.inl rfl
  · rename_i event
    split
    · rename_i newer
      refine Or.inr ⟨event, rfl, rfl, ?_⟩
      intro old isOld
      rw [Option.mem_def.mp isOld] at newer
      simpa using newer
    · exact Or.inl rfl

theorem reaches_step (timely : Timely events) (reaches : Reaches events channel) (now : Instant) :
    Reaches events (enqueueSubscription events now channel) := by
  intro event present wanted missing watermark isWatermark
  have wantedBefore : Wanted channel.subscription event := wanted
  have missingBefore : ¬ Delivered channel event := fun delivered => missing (delivered_mono delivered)
  have isMoved : moveWatermark channel.subscription.watermarkOccurredAt (batch events now channel).getLast? =
    some watermark := isWatermark
  rcases moveWatermark_cases channel.subscription.watermarkOccurredAt (batch events now channel).getLast? with
    kept | ⟨newest, isNewest, moved, -⟩
  · exact reaches event present wantedBefore missingBefore watermark (kept.symm.trans isMoved)
  · obtain rfl : newest.occurredAt = watermark := Option.mem_unique moved isMoved
    have inBatch : newest ∈ batch events now channel := mem_of_getLast? isNewest
    by_cases visible : event.committedAt ≤ now
    · have before := (left_behind reaches present wantedBefore visible missing).2 newest inBatch
      exact before.occurredAt_le.trans (Nat.le_add_right _ _)
    · -- what the run reads is committed by now, and the event is committed later
      obtain ⟨isEvent, committed, -⟩ := mem_candidates.mp (mem_of_mem_firstOf inBatch)
      calc newest.occurredAt ≤ newest.committedAt := (timely newest isEvent).1
        _ ≤ now := committed
        _ ≤ event.committedAt := (Nat.not_le.mp visible).le
        _ ≤ event.occurredAt + enqueueOverlap := (timely event present).2

/-- Events with a delivery, and events at or before the watermark. -/
def processed (events : List DomainEvent) (channel : Channel) : ℕ :=
  events.countP (Delivered channel ·) + events.countP (Passed channel.subscription)

theorem processed_le (events : List DomainEvent) (channel : Channel) : processed events channel ≤ 2 * events.length := by
  have delivered := countP_le_length (p := (Delivered channel ·)) (l := events)
  have passed := countP_le_length (p := Passed channel.subscription) (l := events)
  unfold processed
  omega

theorem countP_lt {α : Type} {rows : List α} {first second : α → Bool} {row : α} (present : row ∈ rows)
    (grows : ∀ other ∈ rows, first other = true → second other = true) (isNew : second row = true)
    (notOld : first row = false) : rows.countP first < rows.countP second := by
  induction rows with
  | nil => cases present
  | cons head rest ih =>
    have growsLater : ∀ other ∈ rest, first other = true → second other = true :=
      fun other member => grows other (mem_cons_of_mem head member)
    have growsNow := grows head mem_cons_self
    rw [countP_cons, countP_cons]
    rcases mem_cons.mp present with rfl | later
    · rw [notOld, isNew]
      simpa using Nat.lt_succ_of_le (countP_mono_left growsLater)
    · have strictly := ih later growsLater
      cases isFirst : first head with
      | false => exact Nat.lt_of_lt_of_le strictly (Nat.le_add_right _ _)
      | true => simpa [growsNow isFirst] using strictly

theorem passed_mono (now : Instant) (passed : Passed channel.subscription event = true) :
    Passed (enqueueSubscription events now channel).subscription event = true := by
  obtain ⟨watermark, isWatermark, notAfter⟩ := passed_iff.mp passed
  have isMoved : (enqueueSubscription events now channel).subscription.watermarkOccurredAt =
    moveWatermark channel.subscription.watermarkOccurredAt (batch events now channel).getLast? := rfl
  apply passed_iff.mpr
  rw [isMoved]
  rcases moveWatermark_cases channel.subscription.watermarkOccurredAt (batch events now channel).getLast? with
    kept | ⟨newest, -, moved, newer⟩
  · rw [kept]
    exact ⟨watermark, isWatermark, notAfter⟩
  · rw [moved]
    exact ⟨newest.occurredAt, rfl, notAfter.trans (newer watermark isWatermark).le⟩

theorem passed_of_mem_batch (inBatch : event ∈ batch events now channel) :
    Passed (enqueueSubscription events now channel).subscription event = true := by
  cases isNewest : (batch events now channel).getLast? with
  | none =>
    rw [List.getLast?_eq_none_iff.mp isNewest] at inBatch
    exact absurd inBatch not_mem_nil
  | some newest =>
    have before := (before_last isNewest event inBatch).occurredAt_le
    have isMoved : (enqueueSubscription events now channel).subscription.watermarkOccurredAt =
        moveWatermark channel.subscription.watermarkOccurredAt (some newest) := by
      rw [← isNewest]
      rfl
    apply passed_iff.mpr
    rw [isMoved, moveWatermark]
    split
    · exact ⟨newest.occurredAt, rfl, before⟩
    · rename_i notNewer
      -- the watermark was at or after the newest event already
      cases isWatermark : channel.subscription.watermarkOccurredAt with
      | none => simp [isWatermark] at notNewer
      | some watermark =>
        simp only [isWatermark, Option.all_some, decide_eq_true_eq, not_lt] at notNewer
        exact ⟨watermark, rfl, before.trans notNewer⟩

theorem processed_mono (now : Instant) :
    processed events channel ≤ processed events (enqueueSubscription events now channel) := by
  apply Nat.add_le_add
  · apply countP_mono_left
    intro event _ delivered
    exact decide_eq_true (delivered_mono (of_decide_eq_true delivered))
  · exact countP_mono_left fun event _ passed => passed_mono now passed

/-- A run that leaves a visible wanted event without delivery processes more events than before. -/
theorem progress (reaches : Reaches events channel) (uncrowded : Uncrowded events channel now) (present : event ∈ events)
    (wanted : Wanted channel.subscription event) (visible : event.committedAt ≤ now)
    (missing : ¬ Delivered (enqueueSubscription events now channel) event) :
    processed events channel < processed events (enqueueSubscription events now channel) := by
  obtain ⟨full, -⟩ := left_behind reaches present wanted visible missing
  have deliveredGrow : ∀ other ∈ events, decide (Delivered channel other) = true →
      decide (Delivered (enqueueSubscription events now channel) other) = true :=
    fun _ _ delivered => decide_eq_true (delivered_mono (of_decide_eq_true delivered))
  have passedGrow : ∀ other ∈ events, Passed channel.subscription other = true →
      Passed (enqueueSubscription events now channel).subscription other = true :=
    fun _ _ passed => passed_mono now passed
  have isEvent : ∀ chosen ∈ batch events now channel, chosen ∈ events :=
    fun chosen inBatch => (mem_candidates.mp (mem_of_mem_firstOf inBatch)).1
  by_cases new : ∃ chosen ∈ batch events now channel, Matches channel.subscription chosen.type ∧ ¬ Delivered channel chosen
  · obtain ⟨chosen, inBatch, isMatch, undelivered⟩ := new
    have delivered := (delivered_enqueue events now channel chosen).mpr (Or.inr ⟨chosen, inBatch, isMatch, rfl⟩)
    apply Nat.add_lt_add_of_lt_of_le
    · exact countP_lt (isEvent chosen inBatch) deliveredGrow (decide_eq_true delivered) (decide_eq_false undelivered)
    · exact countP_mono_left passedGrow
  · -- nothing new in a full batch: it reaches beyond the watermark
    have idle : ∀ chosen ∈ batch events now channel,
        ¬ Matches channel.subscription chosen.type ∨ Delivered channel chosen := by
      intro chosen inBatch
      by_contra neither
      obtain ⟨isMatch, undelivered⟩ := not_or.mp neither
      exact new ⟨chosen, inBatch, not_not.mp isMatch, undelivered⟩
    have beyond : ∃ chosen ∈ batch events now channel, Passed channel.subscription chosen = false := by
      by_contra allPassed
      have crowd : (batch events now channel).countP (fun event => Passed channel.subscription event ∧
          (¬ Matches channel.subscription event.type ∨ Delivered channel event)) = enqueueBatchLimit := by
        rw [← full, countP_eq_length]
        intro chosen inBatch
        have passed : Passed channel.subscription chosen = true := by
          by_contra notPassed
          exact allPassed ⟨chosen, inBatch, Bool.eq_false_of_not_eq_true notPassed⟩
        exact decide_eq_true ⟨passed, idle chosen inBatch⟩
      exact absurd (crowd ▸ countP_firstOf_le _) (Nat.not_le.mpr uncrowded)
    obtain ⟨chosen, inBatch, notPassed⟩ := beyond
    apply Nat.add_lt_add_of_le_of_lt
    · exact countP_mono_left deliveredGrow
    · exact countP_lt (isEvent chosen inBatch) passedGrow (passed_of_mem_batch inBatch) notPassed

theorem reaches_run (timely : Timely events) (reaches : Reaches events channel) (times : List Instant) :
    Reaches events (run (enqueueStep events) channel times) := by
  apply run_invariant _ times reaches
  intro before now after reachesBefore accepted
  rw [enqueueStep, pure_ok] at accepted
  exact accepted ▸ reaches_step timely reachesBefore now

theorem nodup_run (unique : (channel.deliveries.map (·.eventId)).Nodup) (times : List Instant) :
    ((run (enqueueStep events) channel times).deliveries.map (·.eventId)).Nodup := by
  have kept : ∀ (before : Channel) (now : Instant) (after : Channel), (before.deliveries.map (·.eventId)).Nodup →
      enqueueStep events before now = .ok after → (after.deliveries.map (·.eventId)).Nodup := by
    intro before now after uniqueBefore accepted
    rw [enqueueStep, pure_ok] at accepted
    exact accepted ▸ insertAll_nodup now _ uniqueBefore
  exact run_invariant kept times unique

theorem delivered_run (delivered : Delivered channel event) (times : List Instant) :
    Delivered (run (enqueueStep events) channel times) event := by
  have kept : ∀ (before : Channel) (now : Instant) (after : Channel), Delivered before event →
      enqueueStep events before now = .ok after → Delivered after event := by
    intro before now after deliveredBefore accepted
    rw [enqueueStep, pure_ok] at accepted
    exact accepted ▸ delivered_mono deliveredBefore
  exact run_invariant kept times delivered

theorem wanted_run (times : List Instant) (wanted : Wanted channel.subscription event) :
    Wanted (run (enqueueStep events) channel times).subscription event := by
  have kept : ∀ (before : Channel) (now : Instant) (after : Channel), Wanted before.subscription event →
      enqueueStep events before now = .ok after → Wanted after.subscription event := by
    intro before now after wantedBefore accepted
    rw [enqueueStep, pure_ok] at accepted
    exact accepted ▸ wantedBefore
  exact run_invariant kept times wanted

def AllVisible (events : List DomainEvent) (now : Instant) : Prop := ∀ event ∈ events, event.committedAt ≤ now

instance (events : List DomainEvent) : DecidablePred (AllVisible events) := fun _ =>
  inferInstanceAs (Decidable (∀ _ ∈ _, _))

theorem processed_run (timely : Timely events) (reaches : Reaches events channel) (times : List Instant)
    (uncrowded : Guarded (enqueueStep events) (Uncrowded events) channel times) (present : event ∈ events)
    (wanted : Wanted channel.subscription event)
    (missing : ¬ Delivered (run (enqueueStep events) channel times) event) :
    processed events channel + times.countP (AllVisible events ·) ≤
      processed events (run (enqueueStep events) channel times) := by
  induction times generalizing channel with
  | nil => exact Nat.le_refl _
  | cons now rest ih =>
    obtain ⟨uncrowdedNow, uncrowdedLater⟩ := uncrowded
    have later := ih (reaches_step timely reaches now) uncrowdedLater wanted missing
    have missingNow : ¬ Delivered (enqueueSubscription events now channel) event :=
      fun delivered => missing (delivered_run delivered rest)
    rw [countP_cons]
    by_cases visible : AllVisible events now
    · have grows := progress reaches uncrowdedNow present wanted (visible event present) missingNow
      rw [if_pos (decide_eq_true visible)]
      exact le_trans (by omega) later
    · rw [if_neg (by simpa using visible)]
      exact le_trans (Nat.add_le_add_right (processed_mono now) _) later

end Run

theorem runs_channel (tenantId : TenantId) (events : List DomainEvent) (times : List Instant)
    {channels : List Channel} {channel : Channel} {place : ℕ} (found : channels[place]? = some channel) (ofTenant : channel.subscription.tenantId = tenantId)
    (active : channel.subscription.active = true) :
    (times.foldl (enqueueDeliveries tenantId events) channels)[place]? =
      some (run (enqueueStep events) channel times) := by
  induction times generalizing channels channel with
  | nil => exact found
  | cons now rest ih =>
    have next : (enqueueDeliveries tenantId events channels now)[place]? =
        some (enqueueSubscription events now channel) := by
      rw [enqueueDeliveries, List.getElem?_map, found, Option.map_some, if_pos ⟨ofTenant, active⟩]
    rw [foldl_cons, run_cons]
    exact ih next ofTenant active

theorem run_fixed {next} (first : enqueueSubscription events now channel = next)
    (fixed : enqueueSubscription events now next = next) (runs : ℕ) :
    run (enqueueStep events) channel (List.replicate (runs + 1) now) = next := by
  have again : ∀ count, run (enqueueStep events) next (List.replicate count now) = next := by
    intro count
    induction count with
    | zero => rfl
    | succ count ih =>
      have same : commit (enqueueStep events) next now = next := fixed
      rw [replicate_succ, run_cons, same]
      exact ih
  have once : commit (enqueueStep events) channel now = next := first
  rw [replicate_succ, run_cons, once]
  exact again runs

/-- No event is doubled, each run that leaves a visible wanted event out processes more events, and after enough runs with
all events visible every wanted event has exactly one delivery. -/
theorem enqueue_runs {events : List DomainEvent} (timely : Timely events) {channels : List Channel}
    {subscription : Subscription} {place : ℕ} (found : channels[place]? = some { subscription })
    (isNew : subscription.watermarkOccurredAt = none) (active : subscription.active = true) (times : List Instant)
    (uncrowded : Guarded (enqueueStep events) (Uncrowded events) { subscription } times) :
    ∃ channel, (times.foldl (enqueueDeliveries subscription.tenantId events) channels)[place]? = some channel ∧
      (∀ event, (channel.deliveries.map (·.eventId)).count event ≤ 1) ∧
      (2 * events.length < times.countP (AllVisible events ·) → ∀ event ∈ events, Wanted subscription event →
        (channel.deliveries.map (·.eventId)).count event.id = 1) ∧
      ∀ earlier now later, times = earlier ++ now :: later → ∀ event ∈ events, Wanted subscription event →
        event.committedAt ≤ now →
        ¬ Delivered (run (enqueueStep events) { subscription } (earlier ++ [now])) event →
        processed events (run (enqueueStep events) { subscription } earlier) <
          processed events (run (enqueueStep events) { subscription } (earlier ++ [now])) := by
  have start : Reaches events { subscription } := by
    intro event _ _ _ watermark isWatermark
    rw [isNew] at isWatermark
    cases isWatermark
  have empty : (({ subscription } : Channel).deliveries.map (·.eventId)).Nodup := nodup_nil
  have unique : ((run (enqueueStep events) { subscription } times).deliveries.map (·.eventId)).Nodup :=
    nodup_run empty times
  refine ⟨_, runs_channel _ events times found rfl active, nodup_iff_count_le_one.mp unique, ?_, ?_⟩
  · intro enough event present wanted
    apply count_eq_one_of_mem unique
    apply mem_map.mpr
    by_contra missing
    have bound := processed_run timely start times uncrowded present wanted missing
    have most := processed_le events (run (enqueueStep events) { subscription } times)
    omega
  · rintro earlier now later rfl event present wanted visible missing
    obtain ⟨-, uncrowdedNow, -⟩ := (guarded_append earlier (now :: later)).mp uncrowded
    rw [run_append] at missing ⊢
    have wantedNow : Wanted (run (enqueueStep events) { subscription } earlier).subscription event :=
      wanted_run earlier wanted
    exact progress (reaches_run timely start earlier) uncrowdedNow present wantedNow visible missing

private def contactsOnly : Subscription := { tenantId := 1, eventTypes := ["contact.created"], createdAt := 100 }

private def twoEvents : List DomainEvent :=
  [{ id := 0, tenantId := 1, type := "ticket.created", occurredAt := 200, committedAt := 210 },
   { id := 1, tenantId := 1, type := "contact.created", occurredAt := 190, committedAt := 220 }]

private def fiveRuns : List Instant := [215, 260, 320, 380, 440, 500]

theorem sample_enqueue_runs : ∃ channel,
    (fiveRuns.foldl (enqueueDeliveries 1 twoEvents) [{ subscription := contactsOnly }])[0]? = some channel ∧
      (channel.deliveries.map (·.eventId)).count 1 = 1 := by
  have uncrowded : Guarded (enqueueStep twoEvents) (Uncrowded twoEvents) { subscription := contactsOnly } fiveRuns := by
    decide +kernel
  have found : ([{ subscription := contactsOnly }] : List Channel)[0]? = some { subscription := contactsOnly } := rfl
  obtain ⟨channel, found, -, exactlyOne, -⟩ := enqueue_runs (by decide) found rfl rfl fiveRuns uncrowded
  exact ⟨channel, found, exactlyOne (by decide +kernel) _ (mem_cons_of_mem _ mem_cons_self) (by decide +kernel)⟩

/-- A full batch of other events at the time of the one that is asked for. -/
private def crowd : List DomainEvent := (List.range 1001).map fun id =>
  { id, tenantId := 1, type := if id = 1000 then "contact.created" else "ticket.created", occurredAt := 200,
    committedAt := 200 }

private def asked : DomainEvent :=
  { id := 1000, tenantId := 1, type := "contact.created", occurredAt := 200, committedAt := 200 }

private def newChannel : Channel := { subscription := contactsOnly }

private def stuckChannel : Channel :=
  { subscription := { contactsOnly with watermarkOccurredAt := some 200 } }

theorem enqueue_nothing
    (nothing : (batch events now channel).filter (fun event => Matches channel.subscription event.type) = [])
    (isNewest : (batch events now channel).getLast? = some newest) : enqueueSubscription events now channel =
      { channel with subscription := { channel.subscription with
          watermarkOccurredAt := moveWatermark channel.subscription.watermarkOccurredAt (some newest) } } := by
  unfold enqueueSubscription
  dsimp only
  rw [nothing, isNewest]
  rfl

private def lastRead : DomainEvent :=
  { id := 999, tenantId := 1, type := "ticket.created", occurredAt := 200, committedAt := 200 }

private theorem crowd_first : enqueueSubscription crowd 300 newChannel = stuckChannel := by
  have nothing : (batch crowd 300 newChannel).filter
      (fun event => Matches newChannel.subscription event.type) = [] := by decide +kernel
  have isNewest : (batch crowd 300 newChannel).getLast? = some lastRead := by decide +kernel
  rw [enqueue_nothing nothing isNewest]
  decide +kernel

private theorem crowd_fixed : enqueueSubscription crowd 300 stuckChannel = stuckChannel := by
  have nothing : (batch crowd 300 stuckChannel).filter
      (fun event => Matches stuckChannel.subscription event.type) = [] := by decide +kernel
  have isNewest : (batch crowd 300 stuckChannel).getLast? = some lastRead := by decide +kernel
  exact enqueue_nothing nothing isNewest

/-- However often the lookup runs, it reads the same events and never the one that is asked for. -/
theorem never_enqueued : asked ∈ crowd ∧ Wanted contactsOnly asked ∧ Timely crowd ∧ ∀ runs,
    ¬ Delivered (run (enqueueStep crowd) newChannel (List.replicate runs 300)) asked := by
  refine ⟨by decide +kernel, by decide +kernel, by decide +kernel, ?_⟩
  intro runs
  have final : (run (enqueueStep crowd) newChannel (List.replicate runs 300)).deliveries = [] := by
    cases runs with
    | zero => rfl
    | succ later =>
      rw [run_fixed crowd_first crowd_fixed later]
      rfl
  rintro ⟨delivery, isDelivery, -⟩
  rw [final] at isDelivery
  cases isDelivery

end Mhvp.Webhooks
