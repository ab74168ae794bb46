import Mathlib.Data.List.Perm.Subperm
import Mathlib.Data.List.ProdSigma
import Mhvp.Automation.ExactlyOnce

namespace Mhvp.Automation

open Core Lib.Batch Lib.Locking Lib.Sessions Lib.Transition
open List hiding after

def Marked (events : List NewEvent) : Prop := ∀ event ∈ events, IsAutomationEvent event.payload

def Action.isLetter : Action → Bool
  | letterDraft _ _ => true
  | _ => false

def Action.isWebhook : Action → Bool
  | webhook _ => true
  | _ => false

/-- The actions that wrote a record, from a position on. -/
def writtenActions (outcomes : ℕ → Outcome) : ℕ → List Action → List (Action × Made)
  | _, [] => []
  | index, action :: rest =>
    match outcomes index with
    | .written made => (action, made) :: writtenActions outcomes (index + 1) rest
    | _ => writtenActions outcomes (index + 1) rest

/-- What a rule did when its conditions matched; a dry run writes nothing. -/
def Execution.written (execution : Execution) : List (Action × Made) :=
  if execution.candidate.rule.testMode then [] else writtenActions execution.outcomes 0 execution.candidate.rule.actions

/-- No letter was stored, and no webhook for a changed contact was queued without data sharing consent. -/
structure Execution.Quiet (execution : Execution) : Prop where
  letters : ∀ found ∈ execution.written, found.1.isLetter = false
  shared : (∃ found ∈ execution.written, found.1.isWebhook = true) →
    execution.candidate.source.type = "contact.updated" → execution.candidate.source.entityId.isSome →
      execution.dataSharing = true

theorem marked_append : Marked (first ++ second) ↔ Marked first ∧ Marked second := by
  simp only [Marked, mem_append]
  constructor
  · intro all
    exact ⟨fun event member => all event (Or.inl member), fun event member => all event (Or.inr member)⟩
  · intro both event member
    rcases member with inFirst | inSecond
    · exact both.1 event inFirst
    · exact both.2 event inSecond

theorem marked_nil : Marked [] := fun _ none => absurd none not_mem_nil

section

variable (ruleId : RuleId) (event : EventKey)
include ruleId event

theorem fieldUpdated_marked :
    Marked [fieldUpdated (automationMarker ruleId event) entityType field made] := by
  intro added member
  rw [mem_singleton.mp member]
  exact isAutomationEvent_marked _ ruleId event

theorem setRecordField_marked :
    Marked (setRecordFieldEvents (automationMarker ruleId event) target field made) := by
  unfold setRecordFieldEvents
  split
  · split
    · intro added member
      rcases mem_cons.mp member with rfl | completed
      · exact isAutomationEvent_marked _ ruleId event
      · unfold emitCompletedIfDone at completed
        split at completed
        · rw [mem_singleton.mp completed]
          exact isAutomationEvent_marked _ ruleId event
        · cases completed
    · split
      · exact fieldUpdated_marked ruleId event
      · exact fieldUpdated_marked ruleId event
  · exact fieldUpdated_marked ruleId event

theorem Action.events_marked (made : Made) (action : Action) :
    Marked (action.events ruleId event made) ↔ action.isLetter = false := by
  cases action with
  | letterDraft templateId contactId =>
    refine iff_of_false ?_ (by simp [isLetter])
    intro marked
    have stored := marked (storeDocument made.entityId made.size "generated" []) (by simp [events, letterDraftEvents])
    simp [IsAutomationEvent, storeDocument, automationMarkerKey] at stored
  | createTicket _ | createTask _ | setTicketField _ =>
    refine iff_of_true ?_ rfl
    intro added member
    rw [mem_singleton.mp member]
    exact isAutomationEvent_marked _ ruleId event
  | setField target field => exact iff_of_true (fieldUpdated_marked ruleId event) rfl
  | assignRecord target dimension value =>
    refine iff_of_true ?_ rfl
    intro added member
    rcases mem_cons.mp member with rfl | inChain
    · exact isAutomationEvent_marked _ ruleId event
    · obtain ⟨chosen, -, rfl⟩ := mem_map.mp inChain
      exact isAutomationEvent_marked _ ruleId event
  | setRecordField target field => exact iff_of_true (setRecordField_marked ruleId event) rfl
  | notify _ _ | webhook _ | mailDraft _ | aiTask _ | notifyProvider _ => exact iff_of_true marked_nil rfl

end

theorem executeOne_written {next} (done : executeOne false key index action outcome point = .ok (next, result)) :
    (∃ made, outcome = .written made ∧ next.events = point.events ++ action.events key.1 key.2 made ∧
      next.pending = point.pending ++ action.pending index made) ∨
    ((∀ made, outcome ≠ .written made) ∧ next = point) := by
  cases outcome with
  | refused text => cases done
  | violated => cases done
  | unchanged ok =>
    cases done
    exact Or.inr ⟨by simp, rfl⟩
  | written made =>
    cases done
    exact Or.inl ⟨made, rfl, rfl, rfl⟩

theorem Action.pending_nil (index : ℕ) (made : Made) (action : Action) :
    action.pending index made = [] ↔ action.isWebhook = false := by
  cases action <;> simp [pending, isWebhook]

theorem executeActions_written {next} (done : executeActions false key outcomes index actions point = .ok (next, results)) :
    (Marked next.events ↔ Marked point.events ∧
      ∀ found ∈ writtenActions outcomes index actions, found.1.isLetter = false) ∧
    (next.pending = [] ↔ point.pending = [] ∧
      ∀ found ∈ writtenActions outcomes index actions, found.1.isWebhook = false) := by
  induction actions generalizing index point results with
  | nil =>
    cases done
    simp [writtenActions]
  | cons action rest ih =>
    obtain ⟨middle, result, later, first, others, rfl⟩ := executeActions_cons done
    obtain ⟨events, pending⟩ := ih others
    rw [events, pending]
    rcases executeOne_written first with ⟨made, isWritten, added, queued⟩ | ⟨unwritten, rfl⟩
    · simp only [writtenActions, isWritten, forall_mem_cons, added, queued, marked_append, append_eq_nil_iff,
        Action.events_marked, Action.pending_nil, and_assoc]
      exact ⟨trivial, trivial⟩
    · have same : writtenActions outcomes index (action :: rest) = writtenActions outcomes (index + 1) rest := by
        rw [writtenActions]
        split
        · rename_i made isWritten
          exact absurd isWritten (unwritten made)
        · rfl
      rw [same]
      exact ⟨Iff.rfl, Iff.rfl⟩

theorem store_marked (firstId : EventId) (now : Instant) (events : List NewEvent) :
    (∀ event ∈ Worker.store firstId now events, IsAutomationEvent event.payload) ↔ Marked events := by
  unfold Worker.store Marked
  constructor
  · intro all event member
    obtain ⟨place, found⟩ := mem_iff_getElem?.mp member
    refine all ⟨firstId + place, event.type, event.entityType, event.entityId, event.payload, now⟩ ?_
    apply mem_iff_getElem?.mpr
    exact ⟨place, by rw [List.getElem?_mapIdx, found]; rfl⟩
  · intro all event member
    obtain ⟨place, found⟩ := mem_iff_getElem?.mp member
    rw [List.getElem?_mapIdx, Option.map_eq_some_iff] at found
    obtain ⟨old, isOld, rfl⟩ := found
    exact all old (mem_of_getElem? isOld)

theorem transfers_marked {key : RuleId × EventKey} {pending : List (ℕ × String × Made)} :
    Marked (pending.mapIdx fun index entry => webhookTransfer key type (first + index) withheld entry.2.2) := by
  intro added member
  obtain ⟨place, found⟩ := mem_iff_getElem?.mp member
  rw [List.getElem?_mapIdx, Option.map_eq_some_iff] at found
  obtain ⟨entry, -, rfl⟩ := found
  exact isAutomationEvent_marked _ key.1 key.2

theorem dataWithheld_unmarked : ¬ IsAutomationEvent (dataWithheld ruleId entityId reason).payload := by
  simp [IsAutomationEvent, dataWithheld, automationMarkerKey]

theorem newEvents_marked {execution : Execution}
    (done : executeActions execution.candidate.rule.testMode execution.candidate.key execution.outcomes 0
      execution.candidate.rule.actions {} = .ok (point, results)) (firstDelivery : ℕ) :
    Marked (Worker.newEvents execution.candidate point execution.dataSharing execution.sharingReason firstDelivery) ↔
      execution.Quiet := by
  obtain ⟨letters, pending⟩ : (Marked point.events ↔ ∀ found ∈ execution.written, found.1.isLetter = false) ∧
      (point.pending = [] ↔ ∀ found ∈ execution.written, found.1.isWebhook = false) := by
    unfold Execution.written
    cases isTest : execution.candidate.rule.testMode with
    | true =>
      rw [isTest] at done
      rw [executeActions_dryRun done]
      simp [marked_nil]
    | false =>
      rw [isTest] at done
      obtain ⟨events, queued⟩ := executeActions_written done
      constructor
      · rw [events]
        exact and_iff_right marked_nil
      · rw [queued]
        exact and_iff_right rfl
  have withheld : withholds execution.candidate.source.type execution.candidate.source.entityId execution.dataSharing
      point.pending = false ↔ ((∃ found ∈ execution.written, found.1.isWebhook = true) →
        execution.candidate.source.type = "contact.updated" → execution.candidate.source.entityId.isSome →
          execution.dataSharing = true) := by
    have queued : point.pending.isEmpty = false ↔ ∃ found ∈ execution.written, found.1.isWebhook = true := by
      rw [← Bool.not_eq_true, List.isEmpty_iff, pending]
      simp
    rw [← queued]
    unfold withholds
    cases point.pending.isEmpty <;> cases execution.dataSharing <;> simp [imp_iff_not_or]
  unfold Worker.newEvents
  simp only [marked_append, transfers_marked, and_true, letters]
  cases isWithheld : withholds execution.candidate.source.type execution.candidate.source.entityId
      execution.dataSharing point.pending with
  | true =>
    refine iff_of_false ?_ ?_
    · intro both
      exact dataWithheld_unmarked (both.2 _ (mem_singleton_self _))
    · intro quiet
      rw [withheld.mpr quiet.shared] at isWithheld
      cases isWithheld
  | false =>
    constructor
    · intro both
      exact ⟨both.1, withheld.mp isWithheld⟩
    · intro quiet
      exact ⟨quiet.letters, marked_nil⟩

def Session.events : Session → List DomainEvent
  | .worker pass => pass.events
  | .writer other => other.events

/-- The events that rules caused. -/
def caused (log : List Session) : List DomainEvent :=
  log.flatMap fun session => (session.pass?.map Worker.events).getD []

/-- The events that other transactions wrote. -/
def external (log : List Session) : List DomainEvent :=
  log.flatMap fun session => match session with
    | .worker _ => []
    | .writer other => other.events

/-- The rule is there, and a stored event is there without the guard. -/
structure Triggered (state : AutomationState) (key : RuleId × EventKey) : Prop where
  rule : key.1 < state.rules.length
  event : ∀ id, key.2 = .stored id → ∃ event ∈ state.events, event.id = id ∧ ¬ IsAutomationEvent event.payload

structure Traced (now : AutomationState × List Session) : Prop where
  ids : (now.1.events.map DomainEvent.id).Nodup
  distinct : (now.1.runs.map AutomationRun.key).Nodup
  events : now.1.events = now.2.flatMap Session.events
  triggered : ∀ run ∈ now.1.runs, Triggered now.1 run.key

/-- What a pass relies on. -/
structure Worker.Faithful (now : AutomationState × List Session) (worker : Worker) : Prop where
  isNew : ∀ run ∈ worker.runs, run.key ∉ now.1.runs.map AutomationRun.key
  distinct : (worker.runs.map AutomationRun.key).Nodup
  asks : ∀ candidate, candidate ∈ worker.todo ∨ worker.matched = some candidate → Triggered now.1 candidate.key
  triggered : ∀ run ∈ worker.runs, Triggered now.1 run.key
  rules : ∀ entry ∈ worker.rules, entry.1 < now.1.rules.length
  marked : (∀ event ∈ worker.events, IsAutomationEvent event.payload) ↔ ∀ execution ∈ worker.executions, execution.Quiet

def Session.Faithful (now : AutomationState × List Session) : Session → Prop
  | .worker pass => pass.Faithful now
  | .writer _ => True

theorem Triggered.mono (triggered : Triggered state key)
    (rules : state.rules.length ≤ later.rules.length) (events : state.events ⊆ later.events) : Triggered later key where
  rule := lt_of_lt_of_le triggered.rule rules
  event := by
    intro id isStored
    obtain ⟨event, member, facts⟩ := triggered.event id isStored
    exact ⟨event, events member, facts⟩

namespace Worker

variable {now : AutomationState × List Session} {worker next : Worker}

theorem Faithful.narrowed (faithful : worker.Faithful now)
    (waits : ∀ candidate, candidate ∈ next.todo ∨ next.matched = some candidate →
      candidate ∈ worker.todo ∨ worker.matched = some candidate) (runs : next.runs = worker.runs)
    (rules : next.rules = worker.rules) (events : next.events = worker.events)
    (executions : next.executions = worker.executions) : next.Faithful now where
  isNew := runs ▸ faithful.isNew
  distinct := runs ▸ faithful.distinct
  asks := fun candidate waiting => faithful.asks candidate (waits candidate waiting)
  triggered := runs ▸ faithful.triggered
  rules := rules ▸ faithful.rules
  marked := by
    rw [events, executions]
    exact faithful.marked

theorem Faithful.recorded (faithful : worker.Faithful now) {candidate : Candidate} {run : AutomationRun}
    (asked : candidate ∈ worker.todo ∨ worker.matched = some candidate) (isRun : run.key = candidate.key)
    (isNew : ¬ worker.Recorded now.1 candidate.key)
    (waits : ∀ other, other ∈ next.todo ∨ next.matched = some other → other ∈ worker.todo ∨ worker.matched = some other)
    (runs : next.runs = worker.runs ++ [run]) (rules : next.rules = worker.rules)
    (marked : (∀ event ∈ next.events, IsAutomationEvent event.payload) ↔ ∀ execution ∈ next.executions, execution.Quiet) :
    next.Faithful now where
  isNew := runs ▸ (runs_append faithful.isNew faithful.distinct (isRun ▸ isNew)).1
  distinct := runs ▸ (runs_append faithful.isNew faithful.distinct (isRun ▸ isNew)).2
  asks := fun other waiting => faithful.asks other (waits other waiting)
  triggered := by
    rw [runs]
    intro other member
    rcases mem_append.mp member with old | last
    · exact faithful.triggered other old
    · rw [mem_singleton.mp last, isRun]
      exact faithful.asks candidate asked
  rules := rules ▸ faithful.rules
  marked := marked

theorem eventRules_known (rules : List AutomationRule) : ∀ entry ∈ eventRules rules, entry.1 < rules.length := by
  intro entry member
  obtain ⟨swapped, -⟩ := mem_filter.mp member
  obtain ⟨⟨rule, ruleId⟩, listed, rfl⟩ := mem_map.mp swapped
  exact (mem_zipIdx' listed).1

theorem candidates_triggered {rules : List (RuleId × AutomationRule)} {state : AutomationState}
    (known : ∀ entry ∈ rules, entry.1 < state.rules.length) (stored : event ∈ state.events)
    (isCandidate : candidate ∈ candidates rules event) : Triggered state candidate.key := by
  unfold candidates at isCandidate
  split at isCandidate
  · cases isCandidate
  · rename_i unmarked
    obtain ⟨entry, member, rfl⟩ := mem_map.mp isCandidate
    refine ⟨known entry (mem_filter.mp member).1, ?_⟩
    intro id isStored
    exact ⟨event, stored, EventKey.stored.inj isStored, unmarked⟩

theorem mem_query {events : List DomainEvent} (member : event ∈ query events watermark cutoff) : event ∈ events :=
  (mem_filter.mp (mem_of_mem_firstOf member)).1

theorem Faithful.step (faithful : worker.Faithful now) (stepped : Stepped now.1 worker next) : next.Faithful now := by
  cases stepped with
  | scheduled | created | positioned | finished => exact faithful.narrowed (fun _ waiting => waiting) rfl rfl rfl rfl
  | window ruleId due rule found phase idle scheduled =>
    refine ⟨faithful.isNew, faithful.distinct, ?_, faithful.triggered, faithful.rules, faithful.marked⟩
    intro candidate waiting
    rcases waiting with member | isMatch
    · rw [mem_singleton.mp member]
      refine ⟨(List.getElem?_eq_some_iff.mp found).1, ?_⟩
      intro id isStored
      cases isStored
    · exact faithful.asks candidate (Or.inr isMatch)
  | ruled phase =>
    exact ⟨faithful.isNew, faithful.distinct, faithful.asks, faithful.triggered, eventRules_known now.1.rules,
      faithful.marked⟩
  | read phase watermark found batch isBatch =>
    refine ⟨faithful.isNew, faithful.distinct, ?_, faithful.triggered, faithful.rules, faithful.marked⟩
    intro candidate waiting
    rcases waiting with member | isMatch
    · obtain ⟨event, inBatch, isCandidate⟩ := mem_flatMap.mp member
      exact candidates_triggered faithful.rules (mem_query (isBatch ▸ inBatch)) isCandidate
    · exact faithful.asks candidate (Or.inr isMatch)
  | skipped candidate rest isNext known =>
    exact faithful.narrowed (waits_todo isNext) rfl rfl rfl rfl
  | raised candidate rest isNext isNew error =>
    exact faithful.recorded (Or.inl (isNext ▸ mem_cons_self)) rfl isNew (waits_todo isNext) rfl rfl
      faithful.marked
  | unmatched candidate rest isNext =>
    exact faithful.narrowed (waits_todo isNext) rfl rfl rfl rfl
  | matched candidate rest isNext none =>
    exact faithful.narrowed (waits_taken isNext) rfl rfl rfl rfl
  | violated candidate isMatch => exact faithful.narrowed (waits_matched worker) rfl rfl rfl rfl
  | aborted candidate isMatch known => exact faithful.narrowed (waits_matched worker) rfl rfl rfl rfl
  | failed candidate isMatch isNew error =>
    exact faithful.recorded (Or.inr isMatch) rfl isNew (waits_matched worker) rfl rfl faithful.marked
  | lost candidate isMatch known => exact faithful.narrowed (waits_matched worker) rfl rfl rfl rfl
  | executed execution isMatch isNew point results done firstId =>
    refine faithful.recorded (Or.inr isMatch) rfl isNew (waits_matched worker) rfl rfl ?_
    simp only [recordExecuted, forall_mem_append, forall_mem_singleton, faithful.marked, store_marked,
      newEvents_marked done]

theorem Faithful.frame (faithful : worker.Faithful now)
    (runs : after.1.runs = now.1.runs ++ added)
    (apart : ∀ run ∈ worker.runs, run.key ∉ added.map AutomationRun.key)
    (rules : now.1.rules.length ≤ after.1.rules.length) (events : now.1.events ⊆ after.1.events) :
    worker.Faithful after where
  isNew := by
    intro run member
    rw [runs, map_append, mem_append]
    rintro (old | isAdded)
    · exact faithful.isNew run member old
    · exact apart run member isAdded
  distinct := faithful.distinct
  asks := fun candidate waiting => (faithful.asks candidate waiting).mono rules events
  triggered := fun run member => (faithful.triggered run member).mono rules events
  rules := fun entry member => lt_of_lt_of_le (faithful.rules entry member) rules
  marked := faithful.marked

end Worker

/-- The rules a pass executed were quiet. -/
def Session.Quiet (_ : AutomationState × List Session) : Session → Prop
  | .worker pass => ∀ execution ∈ pass.executions, execution.Quiet
  | .writer _ => True

/-- The runs on stored events. -/
def eventRuns (state : AutomationState) : List AutomationRun :=
  state.runs.filter fun run => match run.event with
    | .stored _ => true
    | .window _ _ => false

/-- Rules do not trigger rules. -/
structure Silent (now : AutomationState × List Session) : Prop where
  /-- Every event a rule caused carries the guard. -/
  marked : ∀ event ∈ caused now.2, IsAutomationEvent event.payload
  /-- No rule ran on one. -/
  apart : ∀ run ∈ now.1.runs, ∀ event ∈ caused now.2, run.event ≠ .stored event.id
  bounded : (eventRuns now.1).length ≤ now.1.rules.length * (external now.2).length

section Sessions

variable {now next : AutomationState × List Session} {session other : Session}

theorem mem_events :
    event ∈ log.flatMap Session.events ↔ event ∈ caused log ∨ event ∈ external log := by
  simp only [caused, external, mem_flatMap]
  constructor
  · rintro ⟨session, member, isEvent⟩
    cases session with
    | worker pass => exact Or.inl ⟨.worker pass, member, isEvent⟩
    | writer other => exact Or.inr ⟨.writer other, member, isEvent⟩
  · rintro (⟨session, member, isEvent⟩ | ⟨session, member, isEvent⟩)
    · cases session with
      | worker pass => exact ⟨.worker pass, member, isEvent⟩
      | writer other => cases isEvent
    · cases session with
      | worker pass => cases isEvent
      | writer other => exact ⟨.writer other, member, isEvent⟩

section

variable (traced : Traced now) (marked : ∀ event ∈ caused now.2, IsAutomationEvent event.payload)
include traced marked

/-- The event of a run, if it is stored, came from outside as long as all events of rules carry the guard. -/
theorem Traced.external {run : AutomationRun} (member : run ∈ now.1.runs) {storedId : EventId} (isStored : run.event = .stored storedId) :
    ∃ event ∈ external now.2, event.id = storedId := by
  obtain ⟨event, isEvent, isId, unmarked⟩ := (traced.triggered run member).event storedId isStored
  rw [traced.events, mem_events] at isEvent
  rcases isEvent with byRule | outside
  · exact absurd (marked event byRule) unmarked
  · exact ⟨event, outside, isId⟩

theorem Traced.bounded :
    (eventRuns now.1).length ≤ now.1.rules.length * (Automation.external now.2).length := by
  have distinct : ((eventRuns now.1).map AutomationRun.key).Nodup :=
    traced.distinct.sublist (filter_sublist.map AutomationRun.key)
  have known : (eventRuns now.1).map AutomationRun.key ⊆ List.range now.1.rules.length ×ˢ
      (Automation.external now.2).map fun event => EventKey.stored event.id := by
    intro key member
    obtain ⟨run, kept, rfl⟩ := mem_map.mp member
    obtain ⟨inRuns, onEvent⟩ := mem_filter.mp kept
    apply mem_product.mpr
    refine ⟨mem_range.mpr (traced.triggered run inRuns).rule, ?_⟩
    cases key : run.event with
    | stored storedId =>
      obtain ⟨event, outside, isId⟩ := traced.external marked inRuns key
      exact mem_map.mpr ⟨event, outside, congrArg EventKey.stored isId⟩
    | window ruleId due => simp [key] at onEvent
  have bound := (distinct.subperm known).length_le
  rwa [length_product, length_range, length_map, length_map] at bound

end

theorem silent_iff (traced : Traced now) :
    Silent now ↔ ∀ event ∈ caused now.2, IsAutomationEvent event.payload := by
  constructor
  · exact Silent.marked
  · intro marked
    refine ⟨marked, ?_, traced.bounded marked⟩
    intro run member event byRule isStored
    obtain ⟨stored, isEvent, isId, unmarked⟩ := (traced.triggered run member).event event.id isStored
    have inEvents : event ∈ now.1.events := by
      rw [traced.events]
      exact mem_events.mpr (Or.inl byRule)
    obtain rfl := inj_on_of_nodup_map traced.ids isEvent inEvents isId
    exact unmarked (marked stored byRule)

theorem opened_faithful (now : AutomationState × List Session) (task : Task) :
    Session.Faithful now (engine.opened task) := by
  cases task with
  | process clock =>
    constructor
    · exact fun _ none => absurd none not_mem_nil
    · exact nodup_nil
    · rintro candidate (none | none)
      · exact absurd none not_mem_nil
      · cases none
    · exact fun _ none => absurd none not_mem_nil
    · exact fun _ none => absurd none not_mem_nil
    · exact iff_of_true (fun _ none => absurd none not_mem_nil) fun _ none => absurd none not_mem_nil
  | write => trivial

theorem work_faithful (faithful : session.Faithful now) (accepted : work now.1 session op = .ok other) :
    other.Faithful now := by
  cases session with
  | worker pass =>
    cases op with
    | worker op =>
      simp only [work, bind_ok, pure_ok] at accepted
      obtain ⟨served, serves, rfl⟩ := accepted
      exact Worker.Faithful.step faithful (Worker.serve_ok serves)
    | emit event => exact absurd accepted throw_ok
    | saveRule ruleId rule => exact absurd accepted throw_ok
  | writer writer =>
    cases op with
    | worker op => exact absurd accepted throw_ok
    | emit | saveRule =>
      cases pure_ok.mp accepted
      trivial

theorem Traced.commit (traced : Traced now) (faithful : session.Faithful now)
    (accepted : engine.logged.commit now session = .ok next) : Traced next := by
  obtain ⟨committed, log⟩ := Engine.logged_commit accepted
  have more : next.2.flatMap Session.events = now.1.events ++ session.events := by
    rw [log, flatMap_append, flatMap_singleton, traced.events]
  cases session with
  | worker pass =>
    obtain ⟨-, fresh, events, runs, -, rules, -, -⟩ := Worker.commit_ok committed
    have kept : now.1.events ⊆ next.1.events := events ▸ subset_append_left _ _
    constructor
    · rw [events]
      exact fresh.nodup traced.ids
    · rw [runs, map_append, nodup_append]
      refine ⟨traced.distinct, faithful.distinct, ?_⟩
      intro key old other isNew same
      obtain ⟨run, member, rfl⟩ := mem_map.mp isNew
      exact faithful.isNew run member (same ▸ old)
    · rw [more, events]
      rfl
    · intro run member
      rw [runs] at member
      rcases mem_append.mp member with old | isNew
      · exact (traced.triggered run old).mono rules.ge kept
      · exact (faithful.triggered run isNew).mono rules.ge kept
  | writer other =>
    obtain ⟨fresh, events, runs, -, rules, -⟩ := Writer.commit_ok committed
    constructor
    · rw [events]
      exact fresh.nodup traced.ids
    · exact runs ▸ traced.distinct
    · rw [more, events]
      rfl
    · rw [runs]
      exact fun run member => (traced.triggered run member).mono rules (events ▸ subset_append_left _ _)

theorem marked_commit (faithful : session.Faithful now) (accepted : engine.logged.commit now session = .ok next)
    (marked : ∀ event ∈ caused now.2, IsAutomationEvent event.payload) :
    (∀ event ∈ caused next.2, IsAutomationEvent event.payload) ↔ session.Quiet now := by
  have log := (Engine.logged_commit accepted).2
  rw [log, caused, flatMap_append, flatMap_singleton]
  cases session with
  | worker pass =>
    rw [forall_mem_append]
    exact (and_iff_right marked).trans faithful.marked
  | writer other =>
    rw [forall_mem_append]
    exact iff_of_true ⟨marked, fun _ none => absurd none not_mem_nil⟩ trivial

/-- What a pass asks beside a commit stays as it was: rules are not deleted, and both hold the rows of their runs. -/
theorem faithful_frame (faithful : other.Faithful now) (free : engine.Free session other)
    (accepted : engine.logged.commit now session = .ok next) : other.Faithful next := by
  obtain ⟨committed, -⟩ := Engine.logged_commit accepted
  cases other with
  | writer writer => trivial
  | worker pass =>
    cases session with
    | writer writer =>
      obtain ⟨-, events, runs, -, rules, -⟩ := Writer.commit_ok committed
      have none : next.1.runs = now.1.runs ++ [] := by rw [runs, append_nil]
      exact Worker.Faithful.frame faithful none (fun _ _ isAdded => absurd isAdded not_mem_nil) rules
        (events ▸ subset_append_left _ _)
    | worker committing =>
      obtain ⟨-, -, events, runs, -, rules, -, -⟩ := Worker.commit_ok committed
      exact Worker.Faithful.frame faithful runs (apart_of_free free) rules.ge (events ▸ subset_append_left _ _)

end Sessions

theorem traced_initial (rules : List AutomationRule) : Traced ({ rules }, []) :=
  ⟨nodup_nil, nodup_nil, rfl, fun _ none => absurd none not_mem_nil⟩

theorem traced_run (rules : List AutomationRule) (moves : List (Move Task Op)) :
    ∀ moment ∈ trace engine.logged.step ⟨({ rules }, []), []⟩ moves, Traced moment.after.state := by
  have admitted : ∀ moment ∈ trace engine.logged.step ⟨({ rules }, []), []⟩ moves,
      Engine.Admitted (fun _ _ => True) moment.before moment.call := by
    intro moment _
    cases moment.call <;> simp [Engine.Admitted]
  have holds : Protocol.Holds Traced Session.Faithful engine.logged.Free ⟨({ rules }, []), []⟩ :=
    Protocol.holds_initial (traced_initial rules)
  refine (Engine.interleaving_exact ?_ ?_ ?_ ?_ ?_ moves holds).mpr admitted
  · intro task
    cases task <;> rfl
  · exact opened_faithful
  · exact fun now session op next _ faithful accepted => work_faithful faithful accepted
  · exact fun now session next traced faithful accepted => iff_of_true (traced.commit faithful accepted) trivial
  · exact fun now session other next _ _ faithful free accepted => faithful_frame faithful free accepted

/-- For all rules and all interleavings: the events rules cause carry the guard, no rule runs on one and the runs on
events stay within rules times external events, exactly if every committed pass was quiet. -/
theorem rule_events_marked_iff (rules : List AutomationRule) (moves : List (Move Task Op)) :
    (∀ moment ∈ trace engine.logged.step ⟨({ rules }, []), []⟩ moves, Silent moment.after.state) ↔
      ∀ moment ∈ trace engine.logged.step ⟨({ rules }, []), []⟩ moves,
        Engine.Admitted Session.Quiet moment.before moment.call := by
  have traced := traced_run rules moves
  have both : (∀ moment ∈ trace engine.logged.step ⟨({ rules }, []), []⟩ moves, Silent moment.after.state) ↔
      ∀ moment ∈ trace engine.logged.step ⟨({ rules }, []), []⟩ moves, Traced moment.after.state ∧
        ∀ event ∈ caused moment.after.state.2, IsAutomationEvent event.payload := by
    refine forall₂_congr fun moment member => ?_
    rw [silent_iff (traced moment member)]
    exact (and_iff_right (traced moment member)).symm
  rw [both]
  have holds : Protocol.Holds (fun now => Traced now ∧ ∀ event ∈ caused now.2, IsAutomationEvent event.payload)
      Session.Faithful engine.logged.Free ⟨({ rules }, []), []⟩ :=
    Protocol.holds_initial ⟨traced_initial rules, fun _ none => absurd none not_mem_nil⟩
  refine Engine.interleaving_exact ?_ ?_ ?_ ?_ ?_ moves holds
  · intro task
    cases task <;> rfl
  · exact opened_faithful
  · exact fun now session op next _ faithful accepted => work_faithful faithful accepted
  · intro now session next holds faithful accepted
    exact (and_iff_right (holds.1.commit faithful accepted)).trans (marked_commit faithful accepted holds.2)
  · exact fun now session other next _ _ faithful free accepted => faithful_frame faithful free accepted

/-- A rule that answers every new document with a letter draft to a fixed contact. -/
def sampleLetterRule : AutomationRule :=
  { active := true, triggerEventType := some "document.created", actions := [.letterDraft 1 (some 5)] }

/-- One pass over an event, from its watermark to its commit; the letter gets the next number. -/
def samplePass (now : Instant) (nextId : EventId) : List (Move Task Op) :=
  [.start (.process now), .work 0 (.worker .readWatermark), .work 0 (.worker .readRules), .work 0 (.worker .readEvents),
   .work 0 (.worker (.look fun _ _ _ => .ok true)),
   .work 0 (.worker (.execute (fun _ => .written { entityId := nextId }) true "" nextId)),
   .work 0 (.worker .finish), .commit 0]

/-- One document arrives from outside, and three passes follow. -/
def sampleLetters : List (Move Task Op) :=
  [.start (.process 10), .work 0 (.worker .readWatermark), .commit 0,
   .start .write, .work 0 (.emit ⟨1, "document.created", "document", some 7, [], 8⟩), .commit 0] ++
  samplePass 20 2 ++ samplePass 30 4

/-- One external event and one rule, and already two runs: the letter of the first triggered the second. -/
theorem letters_trigger_letters :
    ¬ ∀ moment ∈ trace engine.logged.step ⟨({ rules := [sampleLetterRule] }, []), []⟩ sampleLetters,
      Silent moment.after.state := by
  have reached : ∃ moment ∈ (trace engine.logged.step ⟨({ rules := [sampleLetterRule] }, []), []⟩ sampleLetters).getLast?,
      (eventRuns moment.after.state.1).length = 2 ∧ moment.after.state.1.rules.length = 1 ∧
        (external moment.after.state.2).length = 1 := by
    decide +kernel
  obtain ⟨moment, isLast, twoRuns, oneRule, oneEvent⟩ := reached
  intro silent
  have bounded := (silent moment (mem_of_getLast? isLast)).bounded
  rw [twoRuns, oneRule, oneEvent] at bounded
  omega

end Mhvp.Automation
