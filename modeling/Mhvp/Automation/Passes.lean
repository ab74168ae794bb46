import Mathlib.Data.Prod.Lex
import Mhvp.Automation.Services

namespace Mhvp.Automation

open Core

theorem before_iff : Before first second ↔
    toLex (first.occurredAt, first.id) ≤ toLex (second.occurredAt, second.id) := by
  rw [Prod.Lex.toLex_le_toLex]
  exact Iff.rfl

instance : Std.Total Before where
  total first second := by
    rw [before_iff, before_iff]
    exact le_total _ _

instance : IsTrans DomainEvent Before where
  trans first second third := by
    rw [before_iff, before_iff, before_iff]
    exact le_trans

theorem Before.occurredAt_le (before : Before first second) : first.occurredAt ≤ second.occurredAt := by
  rcases before with earlier | ⟨same, -⟩
  · exact earlier.le
  · exact same.le

theorem Before.id_eq (before : Before first second) (after : Before second first) : first.id = second.id := by
  rw [before_iff] at before after
  have same : (first.occurredAt, first.id) = (second.occurredAt, second.id) := toLex.injective (le_antisymm before after)
  exact congrArg Prod.snd same

theorem before_of_not_precedes (notBehind : ¬ last.position.Precedes event) : Before event last := by
  simp only [AutomationWatermark.Precedes, DomainEvent.position, Option.mem_def, Option.some.injEq, exists_eq_left',
    not_or, not_lt, not_and] at notBehind
  obtain ⟨notLater, notHigher⟩ := notBehind
  rcases lt_or_eq_of_le notLater with earlier | same
  · exact Or.inl earlier
  · exact Or.inr ⟨same, notHigher same.symm⟩

theorem not_precedes_position (event : DomainEvent) : ¬ event.position.Precedes event := by
  simp [AutomationWatermark.Precedes, DomainEvent.position]

theorem AutomationWatermark.Precedes.trans {watermark : AutomationWatermark} (behind : watermark.Precedes first)
    (before : Before first second) : watermark.Precedes second := by
  rcases behind with earlier | ⟨lastId, isLast, same, lower⟩
  · exact Or.inl (lt_of_lt_of_le earlier before.occurredAt_le)
  · rcases before with earlier | ⟨sameMoment, notHigher⟩
    · exact Or.inl (same ▸ earlier)
    · exact Or.inr ⟨lastId, isLast, same.trans sameMoment, lt_of_lt_of_le lower notHigher⟩

/-- The run of a failed rule. -/
def Candidate.failedRun (candidate : Candidate) (error : String) : AutomationRun :=
  { ruleId := candidate.ruleId, event := candidate.source.key, eventType := candidate.source.type
    status := .failed, error := some error }

/-- The run of an executed rule, or of a dry run. -/
def Candidate.run (candidate : Candidate) (results : List ActionResult) : AutomationRun :=
  { ruleId := candidate.ruleId, event := candidate.source.key, eventType := candidate.source.type
    status := if candidate.rule.testMode then .dryRun else .executed, actions := results }

theorem executeActions_cons
    (done : executeActions dryRun key outcomes index (action :: rest) point = .ok (next, results)) :
    ∃ middle result later, executeOne dryRun key index action (outcomes index) point = .ok (middle, result) ∧
      executeActions dryRun key outcomes (index + 1) rest middle = .ok (next, later) ∧ results = result :: later := by
  simp only [executeActions] at done
  cases first : executeOne dryRun key index action (outcomes index) point with
  | error failure => simp [first, bind, Except.bind] at done
  | ok one =>
    cases others : executeActions dryRun key outcomes (index + 1) rest one.1 with
    | error failure => simp [first, others, bind, Except.bind] at done
    | ok all =>
      simp only [first, others, bind, Except.bind] at done
      cases done
      exact ⟨one.1, one.2, all.2, rfl, others, rfl⟩

namespace Worker

/-- One step of a pass. -/
inductive Stepped (state : AutomationState) (worker : Worker) : Worker → Prop
  | scheduled (scheduled : List (RuleId × Instant)) : Stepped state worker { worker with scheduled }
  | window (ruleId : RuleId) (due : Instant) (rule : AutomationRule) (found : state.rules[ruleId]? = some rule)
      (phase : worker.phase = .schedules) (idle : worker.Idle) (scheduled : List (RuleId × Instant)) :
      Stepped state worker { worker with
        scheduled, asked := worker.asked ++ [⟨.window ruleId due, ruleId, rule⟩], todo := [⟨.window ruleId due, ruleId, rule⟩] }
  | created (phase : worker.phase = .schedules) (idle : worker.Idle) (watermark : AutomationWatermark) :
      Stepped state worker { worker with phase := .finished, target := some watermark }
  | positioned (phase : worker.phase = .schedules) (idle : worker.Idle) (watermark : AutomationWatermark)
      (found : state.watermark = some watermark) :
      Stepped state worker { worker with phase := .positioned, position := some watermark }
  | ruled (phase : worker.phase = .positioned) :
      Stepped state worker { worker with phase := .ruled, rules := eventRules state.rules }
  | read (phase : worker.phase = .ruled) (watermark : AutomationWatermark) (found : worker.position = some watermark)
      (batch : List DomainEvent) (isBatch : batch = query state.events watermark (worker.now - processLag)) :
      Stepped state worker { worker with
        phase := .events, visible := state.events, batch
        asked := worker.asked ++ batch.flatMap (candidates worker.rules), todo := batch.flatMap (candidates worker.rules) }
  | skipped (candidate : Candidate) (rest : List Candidate) (isNext : worker.todo = candidate :: rest)
      (known : worker.Recorded state candidate.key) : Stepped state worker { worker with todo := rest }
  | raised (candidate : Candidate) (rest : List Candidate) (isNext : worker.todo = candidate :: rest)
      (isNew : ¬ worker.Recorded state candidate.key) (error : String) :
      Stepped state worker { worker with todo := rest, runs := worker.runs ++ [candidate.failedRun error] }
  | unmatched (candidate : Candidate) (rest : List Candidate) (isNext : worker.todo = candidate :: rest) :
      Stepped state worker { worker with todo := rest, unmatched := worker.unmatched ++ [candidate.key] }
  | matched (candidate : Candidate) (rest : List Candidate) (isNext : worker.todo = candidate :: rest)
      (none : worker.matched = none) : Stepped state worker { worker with todo := rest, matched := some candidate }
  | violated (candidate : Candidate) (isMatch : worker.matched = some candidate) :
      Stepped state worker { worker with matched := none, violations := worker.violations ++ [candidate.key] }
  | aborted (candidate : Candidate) (isMatch : worker.matched = some candidate)
      (known : worker.Recorded state candidate.key) : Stepped state worker { worker with matched := none, phase := .aborted }
  | failed (candidate : Candidate) (isMatch : worker.matched = some candidate)
      (isNew : ¬ worker.Recorded state candidate.key) (error : String) :
      Stepped state worker { worker with matched := none, runs := worker.runs ++ [candidate.failedRun error] }
  | lost (candidate : Candidate) (isMatch : worker.matched = some candidate)
      (known : worker.Recorded state candidate.key) : Stepped state worker { worker with matched := none }
  | executed (execution : Execution) (isMatch : worker.matched = some execution.candidate)
      (isNew : ¬ worker.Recorded state execution.candidate.key) (point : Savepoint) (results : List ActionResult)
      (done : executeActions execution.candidate.rule.testMode execution.candidate.key execution.outcomes 0
        execution.candidate.rule.actions {} = .ok (point, results)) (firstId : EventId) :
      Stepped state worker (recordExecuted state { worker with matched := none } execution firstId point results)
  | finished (phase : worker.phase = .events) (idle : worker.Idle) :
      Stepped state worker { worker with
        phase := .finished, target := (worker.batch.getLast?.map DomainEvent.position).or worker.position }

variable {state : AutomationState} {worker next : Worker}

theorem schedule_ok (accepted : worker.schedule state ruleId due = .ok next) : Stepped state worker next := by
  simp only [schedule, bind_ok, exists_unit, require_ok, orRefuse_ok] at accepted
  obtain ⟨⟨phase, idle, -⟩, rule, found, -, accepted⟩ := accepted
  split at accepted
  · cases pure_ok.mp accepted
    exact .scheduled _
  · split at accepted
    · cases pure_ok.mp accepted
      exact .scheduled worker.scheduled
    · cases pure_ok.mp accepted
      exact .window ruleId due rule found phase idle _

theorem readWatermark_ok (accepted : worker.readWatermark state = .ok next) : Stepped state worker next := by
  simp only [readWatermark, bind_ok, exists_unit, require_ok] at accepted
  obtain ⟨⟨phase, idle⟩, accepted⟩ := accepted
  split at accepted
  · cases pure_ok.mp accepted
    exact .created phase idle _
  · rename_i watermark found
    cases pure_ok.mp accepted
    exact .positioned phase idle watermark found

theorem readRules_ok (accepted : worker.readRules state = .ok next) : Stepped state worker next := by
  simp only [readRules, bind_ok, exists_unit, require_ok, pure_ok] at accepted
  obtain ⟨phase, rfl⟩ := accepted
  exact .ruled phase

theorem readEvents_ok (accepted : worker.readEvents state = .ok next) : Stepped state worker next := by
  simp only [readEvents, bind_ok, exists_unit, require_ok, orRefuse_ok, pure_ok] at accepted
  obtain ⟨phase, watermark, found, rfl⟩ := accepted
  exact .read phase watermark found _ rfl

theorem look_ok (accepted : worker.look state comparisons = .ok next) : Stepped state worker next := by
  simp only [look, bind_ok, exists_unit, require_ok] at accepted
  obtain ⟨⟨none, -⟩, accepted⟩ := accepted
  split at accepted
  · exact absurd accepted throw_ok
  · rename_i candidate rest isNext
    split at accepted
    · rename_i known
      cases pure_ok.mp accepted
      exact .skipped candidate rest isNext known
    · rename_i isNew
      split at accepted
      · rename_i error _
        rw [recordFailed, if_neg isNew] at accepted
        cases pure_ok.mp accepted
        exact .raised candidate rest isNext isNew error
      · cases pure_ok.mp accepted
        exact .unmatched candidate rest isNext
      · cases pure_ok.mp accepted
        exact .matched candidate rest isNext (Option.isNone_iff_eq_none.mp none)

theorem execute_ok (accepted : worker.execute state outcomes dataSharing sharingReason firstId = .ok next) :
    Stepped state worker next := by
  simp only [execute, bind_ok, exists_unit, require_ok, orRefuse_ok] at accepted
  obtain ⟨-, candidate, isMatch, accepted⟩ := accepted
  split at accepted
  · cases pure_ok.mp accepted
    exact .violated candidate isMatch
  · rw [recordFailed] at accepted
    split at accepted
    · rename_i known
      cases pure_ok.mp accepted
      exact .aborted candidate isMatch known
    · rename_i isNew
      cases pure_ok.mp accepted
      exact .failed candidate isMatch isNew _
  · rename_i point results done
    split at accepted
    · rename_i known
      cases pure_ok.mp accepted
      exact .lost candidate isMatch known
    · rename_i isNew
      cases pure_ok.mp accepted
      exact .executed ⟨candidate, outcomes, dataSharing, sharingReason⟩ isMatch isNew point results done firstId

theorem finish_ok (accepted : worker.finish = .ok next) : Stepped state worker next := by
  simp only [finish, bind_ok, exists_unit, require_ok, pure_ok] at accepted
  obtain ⟨⟨phase, idle⟩, rfl⟩ := accepted
  exact .finished phase idle

theorem serve_ok (accepted : worker.serve state op = .ok next) : Stepped state worker next := by
  cases op with
  | schedule ruleId due => exact schedule_ok accepted
  | readWatermark => exact readWatermark_ok accepted
  | readRules => exact readRules_ok accepted
  | readEvents => exact readEvents_ok accepted
  | look comparisons => exact look_ok accepted
  | execute outcomes dataSharing sharingReason firstId => exact execute_ok accepted
  | finish => exact finish_ok accepted

end Worker

theorem Worker.commit_ok {worker : Worker} (accepted : worker.commit state = .ok next) :
    worker.phase = .finished ∧ Fresh state worker.events ∧ next.events = state.events ++ worker.events ∧
      next.runs = state.runs ++ worker.runs ∧ next.effects = state.effects ++ worker.effects ∧
      next.rules.length = state.rules.length ∧ (worker.position.isSome ∨ state.watermark.isNone) ∧
      next.watermark = worker.written state.watermark := by
  simp only [commit, bind_ok, exists_unit, require_ok, pure_ok] at accepted
  obtain ⟨phase, single, fresh, rfl⟩ := accepted
  exact ⟨phase, fresh, rfl, rfl, rfl, List.length_mapIdx, single, rfl⟩

theorem saveRule_length (rules : List AutomationRule) (saved : Option RuleId × AutomationRule) :
    rules.length ≤ (saveRule rules saved).length := by
  unfold saveRule
  split
  · simp
  · rw [List.length_modify]

theorem saveRules_length (saved : List (Option RuleId × AutomationRule)) (rules : List AutomationRule) :
    rules.length ≤ (saved.foldl saveRule rules).length := by
  induction saved generalizing rules with
  | nil => exact le_refl _
  | cons first rest ih => exact le_trans (saveRule_length rules first) (ih _)

theorem Writer.commit_ok {writer : Writer} (accepted : writer.commit state = .ok next) :
    Fresh state writer.events ∧ next.events = state.events ++ writer.events ∧ next.runs = state.runs ∧
      next.effects = state.effects ∧ state.rules.length ≤ next.rules.length ∧ next.watermark = state.watermark := by
  simp only [commit, bind_ok, exists_unit, require_ok, pure_ok] at accepted
  obtain ⟨fresh, rfl⟩ := accepted
  exact ⟨fresh, rfl, rfl, rfl, saveRules_length _ _, rfl⟩

theorem Fresh.nodup (fresh : Fresh state events) (ids : (state.events.map DomainEvent.id).Nodup) :
    ((state.events ++ events).map DomainEvent.id).Nodup := by
  rw [List.map_append, List.nodup_append]
  refine ⟨ids, fresh.1, ?_⟩
  intro id old other isNew same
  obtain ⟨event, member, rfl⟩ := List.mem_map.mp isNew
  exact fresh.2 event member (same ▸ old)

end Mhvp.Automation
