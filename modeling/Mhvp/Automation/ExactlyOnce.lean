import Mhvp.Automation.Passes

namespace Mhvp.Automation

open Core Lib.Batch Lib.Locking Lib.Sessions Lib.Transition
open List hiding after

/-- The rows a list of results stands for, from a position on. -/
def resultEffects (key : RuleId × EventKey) (index : ℕ) : List ActionResult → List Effect
  | [] => []
  | result :: rest =>
    (if result.entityId.isSome then [{ key, actionIndex := index, result }] else []) ++ resultEffects key (index + 1) rest

/-- The rows of a run: those of all its actions, or none. -/
def AutomationRun.effects (run : AutomationRun) : List Effect :=
  if run.status = .executed then resultEffects run.key 0 run.actions else []

/-- The pass went over the position of the event: from the watermark it read to the one it wrote. -/
def Worker.Passed (worker : Worker) (event : DomainEvent) : Prop :=
  (∀ watermark ∈ worker.position, watermark.Precedes event) ∧ ∃ watermark ∈ worker.target, ¬ watermark.Precedes event

/-- Some committed pass went over every event at or before the watermark. -/
def Covered (log : List Session) (watermark : AutomationWatermark) : Prop :=
  ∀ event, ¬ watermark.Precedes event → ∃ worker, Session.worker worker ∈ log ∧ worker.Passed event

theorem Covered.mono (covered : Covered log watermark) (more : log ⊆ later) :
    Covered later watermark := by
  intro event before
  obtain ⟨pass, member, passed⟩ := covered event before
  exact ⟨pass, more member, passed⟩

/-- Every event the pass went over and could see is in its batch, and every rule of its type was asked; the first pass
of all reads no events. -/
def Worker.Complete (worker : Worker) : Prop :=
  worker.position.isSome → (∀ event ∈ worker.visible, worker.Passed event → event ∈ worker.batch) ∧
    ∀ event ∈ worker.batch, ∀ candidate ∈ candidates worker.rules event, candidate ∈ worker.asked

/-- The pass that creates the watermark. -/
def Session.starts : Session → Bool
  | .worker pass => pass.position.isNone
  | .writer _ => false

/-- The pass of a session, if it is one. -/
def Session.pass? : Session → Option Worker
  | .worker pass => some pass
  | .writer _ => none

/-- The state with the sessions committed so far. -/
structure ExactlyOnce (now : AutomationState × List Session) : Prop where
  ids : (now.1.events.map DomainEvent.id).Nodup
  /-- At most one run per rule and event. -/
  distinct : (now.1.runs.map AutomationRun.key).Nodup
  /-- A run for every rule that was asked and whose conditions did not fail to match. -/
  once : ∀ worker, Session.worker worker ∈ now.2 → ∀ candidate ∈ worker.asked,
    candidate.key ∈ worker.unmatched ∨ candidate.key ∈ now.1.runs.map AutomationRun.key
  /-- The rows of the actions are those of the executed runs, in full. -/
  effects : now.1.effects = now.1.runs.flatMap AutomationRun.effects
  /-- One pass at most starts at the cut-off, and only before there is a watermark. -/
  first : now.2.countP Session.starts ≤ if now.1.watermark.isSome then 1 else 0
  reached : ∀ worker, Session.worker worker ∈ now.2 → ∀ watermark ∈ worker.target, Covered now.2 watermark
  /-- The watermark is behind no event that a committed pass did not go over. -/
  covered : ∀ watermark ∈ now.1.watermark, Covered now.2 watermark
  complete : ∀ worker, Session.worker worker ∈ now.2 → worker.Complete

/-- Every candidate whose actions violated a constraint has a run nevertheless. -/
def Worker.Answered (now : AutomationState × List Session) (worker : Worker) : Prop :=
  ∀ key ∈ worker.violations, key ∈ worker.unmatched ∨ worker.Recorded now.1 key

/-- Where the last event has the moment of the watermark that was read, its number at the moment the row has by now is
not beyond every position a pass reached. -/
def Worker.Aligned (now : AutomationState × List Session) (worker : Worker) : Prop :=
  ∀ read ∈ worker.position, ∀ last ∈ worker.batch.getLast?, ∀ current ∈ now.1.watermark,
    last.occurredAt = read.lastOccurredAt →
    ∃ pass, Session.worker pass ∈ now.2 ++ [.worker worker] ∧
      ∃ reached ∈ pass.target, ¬ reached.Precedes { last with occurredAt := current.lastOccurredAt }

def Sound (now : AutomationState × List Session) : Session → Prop
  | .worker worker => worker.Answered now ∧ worker.Aligned now
  | .writer _ => True

theorem executeOne_effects {next} (done : executeOne dryRun key index action outcome point = .ok (next, result)) :
    next.effects = point.effects ++ resultEffects key index [result] := by
  cases outcome with
  | refused text => cases done
  | violated => cases done
  | unchanged ok =>
    cases done
    simp [resultEffects]
  | written made =>
    cases dryRun with
    | true | false =>
      cases done
      simp [resultEffects]

theorem executeActions_effects {next} (done : executeActions dryRun key outcomes index actions point = .ok (next, results)) :
    next.effects = point.effects ++ resultEffects key index results := by
  induction actions generalizing index point results with
  | nil =>
    cases done
    simp [resultEffects]
  | cons action rest ih =>
    obtain ⟨middle, result, later, first, others, rfl⟩ := executeActions_cons done
    rw [ih others, executeOne_effects first]
    simp [resultEffects]

theorem executeOne_dryRun {next} (done : executeOne true key index action outcome point = .ok (next, result)) :
    next = point := by
  cases outcome with
  | refused text => cases done
  | violated => cases done
  | unchanged ok =>
    cases done
    rfl
  | written made =>
    cases done
    rfl

theorem executeActions_dryRun {next}
    (done : executeActions true key outcomes index actions point = .ok (next, results)) : next = point := by
  induction actions generalizing index point results with
  | nil =>
    cases done
    rfl
  | cons action rest ih =>
    obtain ⟨middle, result, later, first, others, rfl⟩ := executeActions_cons done
    rw [ih others, executeOne_dryRun first]

theorem run_effects {candidate : Candidate}
    (done : executeActions candidate.rule.testMode candidate.key outcomes 0 candidate.rule.actions {} =
      .ok (point, results)) : (candidate.run results).effects = point.effects := by
  cases isTest : candidate.rule.testMode with
  | true =>
    rw [isTest] at done
    simp [Candidate.run, AutomationRun.effects, isTest, executeActions_dryRun done]
  | false =>
    rw [executeActions_effects done]
    simp [Candidate.run, AutomationRun.effects, isTest, AutomationRun.key, Candidate.key]

/-- The batch behind the watermark the pass read. -/
def Worker.Read (worker : Worker) : Prop :=
  ∃ watermark, worker.position = some watermark ∧ (worker.visible.map DomainEvent.id).Nodup ∧
    worker.batch = query worker.visible watermark (worker.now - processLag) ∧
    ∀ event ∈ worker.batch, ∀ candidate ∈ candidates worker.rules event, candidate ∈ worker.asked

/-- How far a pass is. -/
def Worker.Progress (worker : Worker) : Prop :=
  match worker.phase with
  | .schedules => worker.position = none
  | .positioned | .ruled => worker.Idle
  | .events => worker.Read
  | .finished => worker.Idle ∧ (worker.position = none ∧ worker.target.isSome ∨ worker.Read ∧
      worker.target = (worker.batch.getLast?.map DomainEvent.position).or worker.position)
  | .aborted => True

structure Worker.Ready (now : AutomationState × List Session) (worker : Worker) : Prop where
  isNew : ∀ run ∈ worker.runs, run.key ∉ now.1.runs.map AutomationRun.key
  distinct : (worker.runs.map AutomationRun.key).Nodup
  effects : worker.effects = worker.runs.flatMap AutomationRun.effects
  settled : ∀ candidate ∈ worker.asked, candidate ∈ worker.todo ∨ worker.matched = some candidate ∨
    candidate.key ∈ worker.unmatched ∨ candidate.key ∈ worker.violations ∨ worker.Recorded now.1 candidate.key
  asked : ∀ candidate, candidate ∈ worker.todo ∨ worker.matched = some candidate → candidate ∈ worker.asked
  violated : ∀ key ∈ worker.violations, ∃ candidate ∈ worker.asked, candidate.key = key
  covered : ∀ watermark ∈ worker.position, Covered now.2 watermark
  progress : worker.Progress

def Session.Ready (now : AutomationState × List Session) : Session → Prop
  | .worker pass => pass.Ready now
  | .writer _ => True

namespace Worker

variable {now : AutomationState × List Session} {worker next : Worker}

theorem Progress.busy (progress : worker.Progress) (busy : ¬ worker.Idle) (phase : next.phase = worker.phase)
    (position : next.position = worker.position) (visible : next.visible = worker.visible)
    (batch : next.batch = worker.batch) (rules : next.rules = worker.rules) (asked : next.asked = worker.asked)
    (clock : next.now = worker.now) : next.Progress := by
  unfold Progress at progress ⊢
  rw [phase]
  cases current : worker.phase with
  | schedules => simpa [current, position] using progress
  | positioned | ruled => exact absurd (by simpa [current] using progress) busy
  | events =>
    simp only [current] at progress
    obtain ⟨watermark, isPosition, distinct, isBatch, all⟩ := progress
    refine ⟨watermark, position.trans isPosition, visible ▸ distinct, ?_, ?_⟩
    · rw [batch, visible, clock]
      exact isBatch
    · rw [batch, rules, asked]
      exact all
  | finished =>
    simp only [current] at progress
    exact absurd progress.1 busy
  | aborted => trivial

theorem not_idle_of_todo (isNext : worker.todo = candidate :: rest) : ¬ worker.Idle := by
  rintro ⟨empty, -⟩
  rw [isNext] at empty
  cases empty

theorem not_idle_of_matched (isMatch : worker.matched = some candidate) : ¬ worker.Idle := by
  rintro ⟨-, none⟩
  rw [isMatch] at none
  cases none

theorem runs_append {state : AutomationState} {run : AutomationRun}
    (isNew : ∀ other ∈ worker.runs, other.key ∉ state.runs.map AutomationRun.key)
    (distinct : (worker.runs.map AutomationRun.key).Nodup) (fresh : ¬ worker.Recorded state run.key) :
    (∀ other ∈ worker.runs ++ [run], other.key ∉ state.runs.map AutomationRun.key) ∧
      ((worker.runs ++ [run]).map AutomationRun.key).Nodup := by
  obtain ⟨uncommitted, unwritten⟩ := not_or.mp fresh
  constructor
  · intro other member
    rcases mem_append.mp member with old | last
    · exact isNew other old
    · rw [mem_singleton.mp last]
      exact uncommitted
  · rw [map_append, nodup_append]
    refine ⟨distinct, nodup_singleton _, ?_⟩
    intro key old other isLast same
    rw [map_singleton, mem_singleton] at isLast
    rw [same, isLast] at old
    exact unwritten old

theorem Ready.recorded (ready : worker.Ready now) (run : AutomationRun) {candidate : Candidate} (next : Worker)
    (isRun : run.key = candidate.key) (isNew : ¬ worker.Recorded now.1 candidate.key)
    (runs : next.runs = worker.runs ++ [run]) : (∀ other ∈ next.runs, other.key ∉ now.1.runs.map AutomationRun.key) ∧
      (next.runs.map AutomationRun.key).Nodup ∧
      ∀ key, next.Recorded now.1 key ↔ worker.Recorded now.1 key ∨ key = candidate.key := by
  obtain ⟨uncommitted, distinct⟩ := runs_append ready.isNew ready.distinct (isRun ▸ isNew)
  rw [runs]
  refine ⟨uncommitted, distinct, ?_⟩
  intro key
  simp only [Recorded, runs, map_append, map_singleton, mem_append, mem_singleton, isRun]
  tauto

/-- What became of a candidate that was asked. -/
def Settled (now : AutomationState × List Session) (worker : Worker) (candidate : Candidate) : Prop :=
  candidate ∈ worker.todo ∨ worker.matched = some candidate ∨ candidate.key ∈ worker.unmatched ∨
    candidate.key ∈ worker.violations ∨ worker.Recorded now.1 candidate.key

theorem Ready.handled (ready : worker.Ready now) (candidate : Candidate) (next : Worker) (asked : next.asked = worker.asked)
    (waits : (∀ other, other ∈ worker.todo ∨ worker.matched = some other →
      other = candidate ∨ other ∈ next.todo ∨ next.matched = some other) ∧
      ∀ other, other ∈ next.todo ∨ next.matched = some other → other ∈ worker.todo ∨ worker.matched = some other)
    (unmatched : worker.unmatched ⊆ next.unmatched) (violations : worker.violations ⊆ next.violations)
    (recorded : ∀ key, worker.Recorded now.1 key → next.Recorded now.1 key) (settled : next.Settled now candidate) :
    (∀ other ∈ next.asked, next.Settled now other) ∧
      ∀ other, other ∈ next.todo ∨ next.matched = some other → other ∈ next.asked := by
  rw [asked]
  constructor
  · intro other member
    have waiting : other ∈ worker.todo ∨ worker.matched = some other → next.Settled now other := by
      intro waited
      rcases waits.1 other waited with rfl | inTodo | isMatch
      · exact settled
      · exact Or.inl inTodo
      · exact Or.inr (Or.inl isMatch)
    rcases ready.settled other member with inTodo | isMatch | unmatches | violates | known
    · exact waiting (Or.inl inTodo)
    · exact waiting (Or.inr isMatch)
    · exact Or.inr (Or.inr (Or.inl (unmatched unmatches)))
    · exact Or.inr (Or.inr (Or.inr (Or.inl (violations violates))))
    · exact Or.inr (Or.inr (Or.inr (Or.inr (recorded _ known))))
  · exact fun other waited => ready.asked other (waits.2 other waited)

theorem waits_todo (isNext : worker.todo = candidate :: rest) :
    ∀ other, other ∈ rest ∨ worker.matched = some other → other ∈ worker.todo ∨ worker.matched = some other := by
  rw [isNext]
  rintro other (later | isMatch)
  · exact Or.inl (mem_cons_of_mem _ later)
  · exact Or.inr isMatch

theorem waits_matched (worker : Worker) :
    ∀ other, other ∈ worker.todo ∨ none = some other → other ∈ worker.todo ∨ worker.matched = some other := by
  rintro other (member | isNone)
  · exact Or.inl member
  · cases isNone

theorem waits_taken (isNext : worker.todo = candidate :: rest) :
    ∀ other, other ∈ rest ∨ some candidate = some other → other ∈ worker.todo ∨ worker.matched = some other := by
  rw [isNext]
  rintro other (later | same)
  · exact Or.inl (mem_cons_of_mem _ later)
  · exact Or.inl (Option.some.inj same ▸ mem_cons_self)

theorem keeps_todo (isNext : worker.todo = candidate :: rest) (todo : next.todo = rest)
    (matched : next.matched = worker.matched) : (∀ other, other ∈ worker.todo ∨ worker.matched = some other →
      other = candidate ∨ other ∈ next.todo ∨ next.matched = some other) ∧
    ∀ other, other ∈ next.todo ∨ next.matched = some other → other ∈ worker.todo ∨ worker.matched = some other := by
  rw [todo, matched]
  refine ⟨?_, waits_todo isNext⟩
  rintro other (member | isMatch)
  · rw [isNext] at member
    rcases mem_cons.mp member with isFirst | later
    · exact Or.inl isFirst
    · exact Or.inr (Or.inl later)
  · exact Or.inr (Or.inr isMatch)

theorem keeps_matched (isMatch : worker.matched = some candidate) (todo : next.todo = worker.todo)
    (matched : next.matched = none) : (∀ other, other ∈ worker.todo ∨ worker.matched = some other →
      other = candidate ∨ other ∈ next.todo ∨ next.matched = some other) ∧
    ∀ other, other ∈ next.todo ∨ next.matched = some other → other ∈ worker.todo ∨ worker.matched = some other := by
  rw [todo, matched]
  refine ⟨?_, waits_matched worker⟩
  rw [isMatch]
  rintro other (member | same)
  · exact Or.inr (Or.inl member)
  · exact Or.inl (Option.some.inj same).symm

theorem Ready.more (ready : worker.Ready now) (idle : worker.Idle) (more : List Candidate) (next : Worker)
    (asked : next.asked = worker.asked ++ more) (todo : next.todo = more) (matched : next.matched = worker.matched)
    (unmatched : next.unmatched = worker.unmatched) (violations : next.violations = worker.violations)
    (runs : next.runs = worker.runs) : (∀ other ∈ next.asked, next.Settled now other) ∧
      (∀ other, other ∈ next.todo ∨ next.matched = some other → other ∈ next.asked) ∧
      ∀ key ∈ next.violations, ∃ candidate ∈ next.asked, candidate.key = key := by
  have noMatch := Option.isNone_iff_eq_none.mp idle.2
  rw [asked, todo, matched, violations, noMatch]
  refine ⟨?_, ?_, ?_⟩
  · intro other member
    rcases mem_append.mp member with old | isNew
    · rcases ready.settled other old with inTodo | isMatch | settled
      · rw [idle.1] at inTodo
        cases inTodo
      · rw [noMatch] at isMatch
        cases isMatch
      · unfold Settled Recorded
        rw [unmatched, violations, runs]
        exact Or.inr (Or.inr settled)
    · exact Or.inl (todo ▸ isNew)
  · rintro other (member | none)
    · exact mem_append_right _ member
    · cases none
  · intro key violates
    obtain ⟨candidate, member, same⟩ := ready.violated key violates
    exact ⟨candidate, mem_append_left _ member, same⟩

theorem Ready.step (exact : ExactlyOnce now) (ready : worker.Ready now) (stepped : Stepped now.1 worker next) :
    next.Ready now := by
  cases stepped with
  | scheduled scheduled =>
    exact ⟨ready.isNew, ready.distinct, ready.effects, ready.settled, ready.asked, ready.violated, ready.covered,
      ready.progress⟩
  | window ruleId due rule found phase idle scheduled =>
    obtain ⟨settled, asked, violated⟩ := ready.more idle [⟨.window ruleId due, ruleId, rule⟩]
      { worker with scheduled, asked := worker.asked ++ [_], todo := [_] } rfl rfl rfl rfl rfl rfl
    have progress := ready.progress
    simp only [Progress, phase] at progress
    refine ⟨ready.isNew, ready.distinct, ready.effects, settled, asked, violated, ready.covered, ?_⟩
    simpa only [Progress, phase] using progress
  | created phase idle watermark =>
    have progress := ready.progress
    simp only [Progress, phase] at progress
    exact ⟨ready.isNew, ready.distinct, ready.effects, ready.settled, ready.asked, ready.violated, ready.covered,
      ⟨idle, Or.inl ⟨progress, rfl⟩⟩⟩
  | positioned phase idle watermark found =>
    refine ⟨ready.isNew, ready.distinct, ready.effects, ready.settled, ready.asked, ready.violated, ?_, idle⟩
    rintro _ ⟨⟩
    exact exact.covered watermark found
  | ruled phase =>
    have progress := ready.progress
    simp only [Progress, phase] at progress
    exact ⟨ready.isNew, ready.distinct, ready.effects, ready.settled, ready.asked, ready.violated, ready.covered,
      progress⟩
  | read phase watermark found batch isBatch =>
    have idle := ready.progress
    simp only [Progress, phase] at idle
    obtain ⟨settled, asked, violated⟩ := ready.more idle (batch.flatMap (candidates worker.rules))
      { worker with asked := worker.asked ++ _, todo := _ } rfl rfl rfl rfl rfl rfl
    refine ⟨ready.isNew, ready.distinct, ready.effects, settled, asked, violated, ready.covered, ?_⟩
    refine ⟨watermark, found, exact.ids, isBatch, ?_⟩
    intro event member candidate isCandidate
    exact mem_append_right _ (mem_flatMap.mpr ⟨event, member, isCandidate⟩)
  | skipped candidate rest isNext known =>
    have rows := ready.handled candidate { worker with todo := rest } rfl (keeps_todo isNext rfl rfl)
      (List.Subset.refl _) (List.Subset.refl _) (fun _ recorded => recorded) (Or.inr (Or.inr (Or.inr (Or.inr known))))
    exact ⟨ready.isNew, ready.distinct, ready.effects, rows.1, rows.2, ready.violated, ready.covered,
      ready.progress.busy (not_idle_of_todo isNext) rfl rfl rfl rfl rfl rfl rfl⟩
  | raised candidate rest isNext isNew error =>
    obtain ⟨apart, distinct, recorded⟩ := ready.recorded (candidate.failedRun error)
      { worker with todo := rest, runs := worker.runs ++ [candidate.failedRun error] } rfl isNew rfl
    have rows := ready.handled candidate { worker with todo := rest, runs := worker.runs ++ [candidate.failedRun error] }
      rfl (keeps_todo isNext rfl rfl) (List.Subset.refl _) (List.Subset.refl _)
      (fun key known => (recorded key).mpr (Or.inl known))
      (Or.inr (Or.inr (Or.inr (Or.inr ((recorded _).mpr (Or.inr rfl))))))
    refine ⟨apart, distinct, ?_, rows.1, rows.2, ready.violated, ready.covered,
      ready.progress.busy (not_idle_of_todo isNext) rfl rfl rfl rfl rfl rfl rfl⟩
    simp [ready.effects, Candidate.failedRun, AutomationRun.effects]
  | unmatched candidate rest isNext =>
    have rows := ready.handled candidate
      { worker with todo := rest, unmatched := worker.unmatched ++ [candidate.key] } rfl (keeps_todo isNext rfl rfl)
      (subset_append_left _ _) (List.Subset.refl _) (fun _ recorded => recorded)
      (Or.inr (Or.inr (Or.inl (mem_append_right _ (mem_singleton_self _)))))
    exact ⟨ready.isNew, ready.distinct, ready.effects, rows.1, rows.2, ready.violated, ready.covered,
      ready.progress.busy (not_idle_of_todo isNext) rfl rfl rfl rfl rfl rfl rfl⟩
  | matched candidate rest isNext none =>
    have rows := ready.handled candidate { worker with todo := rest, matched := some candidate } rfl
      ⟨?_, waits_taken isNext⟩ (List.Subset.refl _) (List.Subset.refl _) (fun _ recorded => recorded)
      (Or.inr (Or.inl rfl))
    · exact ⟨ready.isNew, ready.distinct, ready.effects, rows.1, rows.2, ready.violated, ready.covered,
        ready.progress.busy (not_idle_of_todo isNext) rfl rfl rfl rfl rfl rfl rfl⟩
    · rintro other (member | isMatch)
      · rw [isNext] at member
        rcases mem_cons.mp member with isFirst | later
        · exact Or.inl isFirst
        · exact Or.inr (Or.inl later)
      · rw [none] at isMatch
        cases isMatch
  | violated candidate isMatch =>
    have rows := ready.handled candidate
      { worker with matched := none, violations := worker.violations ++ [candidate.key] } rfl
      (keeps_matched isMatch rfl rfl) (List.Subset.refl _) (subset_append_left _ _) (fun _ recorded => recorded)
      (Or.inr (Or.inr (Or.inr (Or.inl (mem_append_right _ (mem_singleton_self _))))))
    refine ⟨ready.isNew, ready.distinct, ready.effects, rows.1, rows.2, ?_, ready.covered,
      ready.progress.busy (not_idle_of_matched isMatch) rfl rfl rfl rfl rfl rfl rfl⟩
    intro key member
    rcases mem_append.mp member with old | last
    · exact ready.violated key old
    · exact ⟨candidate, ready.asked candidate (Or.inr isMatch), (mem_singleton.mp last).symm⟩
  | aborted candidate isMatch known =>
    have rows := ready.handled candidate { worker with matched := none, phase := .aborted } rfl
      (keeps_matched isMatch rfl rfl) (List.Subset.refl _) (List.Subset.refl _) (fun _ recorded => recorded)
      (Or.inr (Or.inr (Or.inr (Or.inr known))))
    exact ⟨ready.isNew, ready.distinct, ready.effects, rows.1, rows.2, ready.violated, ready.covered, trivial⟩
  | failed candidate isMatch isNew error =>
    obtain ⟨apart, distinct, recorded⟩ := ready.recorded (candidate.failedRun error)
      { worker with matched := none, runs := worker.runs ++ [candidate.failedRun error] } rfl isNew rfl
    have rows := ready.handled candidate
      { worker with matched := none, runs := worker.runs ++ [candidate.failedRun error] } rfl
      (keeps_matched isMatch rfl rfl) (List.Subset.refl _) (List.Subset.refl _)
      (fun key known => (recorded key).mpr (Or.inl known))
      (Or.inr (Or.inr (Or.inr (Or.inr ((recorded _).mpr (Or.inr rfl))))))
    refine ⟨apart, distinct, ?_, rows.1, rows.2, ready.violated, ready.covered,
      ready.progress.busy (not_idle_of_matched isMatch) rfl rfl rfl rfl rfl rfl rfl⟩
    simp [ready.effects, Candidate.failedRun, AutomationRun.effects]
  | lost candidate isMatch known =>
    have rows := ready.handled candidate { worker with matched := none } rfl (keeps_matched isMatch rfl rfl)
      (List.Subset.refl _) (List.Subset.refl _) (fun _ recorded => recorded) (Or.inr (Or.inr (Or.inr (Or.inr known))))
    exact ⟨ready.isNew, ready.distinct, ready.effects, rows.1, rows.2, ready.violated, ready.covered,
      ready.progress.busy (not_idle_of_matched isMatch) rfl rfl rfl rfl rfl rfl rfl⟩
  | executed execution isMatch isNew point results done firstId =>
    obtain ⟨apart, distinct, recorded⟩ := ready.recorded (execution.candidate.run results)
      (recordExecuted now.1 { worker with matched := none } execution firstId point results) rfl isNew rfl
    have rows := ready.handled execution.candidate
      (recordExecuted now.1 { worker with matched := none } execution firstId point results) rfl
      (keeps_matched isMatch rfl rfl) (List.Subset.refl _) (List.Subset.refl _)
      (fun key known => (recorded key).mpr (Or.inl known))
      (Or.inr (Or.inr (Or.inr (Or.inr ((recorded _).mpr (Or.inr rfl))))))
    refine ⟨apart, distinct, ?_, rows.1, rows.2, ready.violated, ready.covered,
      ready.progress.busy (not_idle_of_matched isMatch) rfl rfl rfl rfl rfl rfl rfl⟩
    have own := run_effects done
    have effects : (recordExecuted now.1 { worker with matched := none } execution firstId point results).effects =
        worker.effects ++ point.effects := rfl
    have runs : (recordExecuted now.1 { worker with matched := none } execution firstId point results).runs =
        worker.runs ++ [execution.candidate.run results] := rfl
    rw [effects, runs, flatMap_append, flatMap_singleton, own, ready.effects]
  | finished phase idle =>
    have progress := ready.progress
    simp only [Progress, phase] at progress
    exact ⟨ready.isNew, ready.distinct, ready.effects, ready.settled, ready.asked, ready.violated, ready.covered,
      ⟨idle, Or.inr ⟨progress, rfl⟩⟩⟩

theorem Ready.frame (ready : worker.Ready now)
    (runs : after.1.runs = now.1.runs ++ added) (apart : ∀ run ∈ worker.runs, run.key ∉ added.map AutomationRun.key)
    (log : now.2 ⊆ after.2) : worker.Ready after := by
  refine ⟨?_, ready.distinct, ready.effects, ?_, ready.asked, ready.violated, ?_, ready.progress⟩
  · intro run member
    rw [runs, map_append, mem_append]
    rintro (old | isAdded)
    · exact ready.isNew run member old
    · exact apart run member isAdded
  · intro candidate member
    rcases ready.settled candidate member with inTodo | isMatch | unmatches | violates | known
    · exact Or.inl inTodo
    · exact Or.inr (Or.inl isMatch)
    · exact Or.inr (Or.inr (Or.inl unmatches))
    · exact Or.inr (Or.inr (Or.inr (Or.inl violates)))
    · refine Or.inr (Or.inr (Or.inr (Or.inr ?_)))
      rw [Recorded, runs, map_append]
      exact known.imp (mem_append_left _) id
  · intro watermark isPosition event before
    obtain ⟨pass, member, passed⟩ := ready.covered watermark isPosition event before
    exact ⟨pass, log member, passed⟩

/-- A pass that read the batch behind its watermark leaves out nothing it went over and could see. -/
theorem Read.passed (read : worker.Read)
    (target : worker.target = (worker.batch.getLast?.map DomainEvent.position).or worker.position)
    (visible : event ∈ worker.visible) (passed : worker.Passed event) : event ∈ worker.batch := by
  obtain ⟨watermark, isPosition, distinct, isBatch, -⟩ := read
  obtain ⟨behind, reached, isTarget, notBehind⟩ := passed
  have after := behind watermark isPosition
  rw [target] at isTarget
  cases isLast : worker.batch.getLast? with
  | none =>
    rw [isLast, isPosition] at isTarget
    cases isTarget
    exact absurd after notBehind
  | some last =>
    rw [isLast] at isTarget
    cases isTarget
    have inBatch := mem_of_getLast? isLast
    have notLater := before_of_not_precedes notBehind
    by_contra out
    rw [isBatch] at inBatch out
    obtain ⟨inVisible, due, -⟩ : last ∈ worker.visible ∧ last.occurredAt ≤ worker.now - processLag ∧
        watermark.Precedes last := by
      simpa using mem_of_mem_firstOf inBatch
    have present : event ∈ worker.visible.filter fun event =>
        event.occurredAt ≤ worker.now - processLag ∧ watermark.Precedes event := by
      refine mem_filter.mpr ⟨visible, decide_eq_true ⟨?_, after⟩⟩
      exact le_trans notLater.occurredAt_le due
    have notEarlier := (left_out present out).2 last inBatch
    have same := inj_on_of_nodup_map distinct visible inVisible (notLater.id_eq notEarlier)
    exact out (same ▸ inBatch)

section

variable (ready : worker.Ready now)
include ready

theorem Ready.target_covered :
    ∀ watermark ∈ worker.target, Covered (now.2 ++ [.worker worker]) watermark := by
  intro watermark isTarget event before
  by_cases passes : ∀ position ∈ worker.position, position.Precedes event
  · exact ⟨worker, by simp, passes, watermark, isTarget, before⟩
  · -- what the pass did not go over lies before the watermark it read
    push Not at passes
    obtain ⟨position, isPosition, notBehind⟩ := passes
    obtain ⟨pass, member, passed⟩ := ready.covered position isPosition event notBehind
    exact ⟨pass, mem_append_left _ member, passed⟩

theorem Ready.complete (phase : worker.phase = .finished) : worker.Complete := by
  intro positioned
  have progress := ready.progress
  simp only [Progress, phase] at progress
  obtain ⟨-, ⟨unread, -⟩ | ⟨read, target⟩⟩ := progress
  · rw [unread] at positioned
    cases positioned
  · refine ⟨fun event visible passed => read.passed target visible passed, ?_⟩
    obtain ⟨watermark, -, -, -, all⟩ := read
    exact all

theorem Ready.target_eq (phase : worker.phase = .finished) {read : AutomationWatermark}
    (isPosition : worker.position = some read) (isLast : worker.batch.getLast? = some last) :
    worker.target = some last.position := by
  have progress := ready.progress
  simp only [Progress, phase] at progress
  obtain ⟨-, ⟨unread, -⟩ | ⟨-, target⟩⟩ := progress
  · rw [isPosition] at unread
    cases unread
  · rw [target, isLast]
    rfl

theorem Ready.target_isSome (phase : worker.phase = .finished)
    (unread : worker.position = none) : worker.target.isSome := by
  have progress := ready.progress
  simp only [Progress, phase] at progress
  obtain ⟨-, ⟨-, isSome⟩ | ⟨⟨watermark, isPosition, -⟩, -⟩⟩ := progress
  · exact isSome
  · rw [unread] at isPosition
    cases isPosition

end

section

variable (exact : ExactlyOnce now) (ready : worker.Ready now)
include exact ready

theorem written_covered (phase : worker.phase = .finished) :
    (∀ watermark ∈ worker.written now.1.watermark, Covered (now.2 ++ [.worker worker]) watermark) ↔
      worker.Aligned now := by
  have old : ∀ watermark ∈ now.1.watermark, Covered (now.2 ++ [.worker worker]) watermark :=
    fun watermark isRow => (exact.covered watermark isRow).mono (subset_append_left _ _)
  cases isPosition : worker.position with
  | none =>
    simp only [written, isPosition, Aligned]
    exact iff_of_true (ready.target_covered) (by simp)
  | some read =>
    cases isLast : worker.batch.getLast? with
    | none =>
      simp only [written, isPosition, isLast, Aligned]
      exact iff_of_true old (by simp)
    | some last =>
      have target := ready.target_eq phase isPosition isLast
      have own := ready.target_covered last.position target
      simp only [written, isPosition, isLast, Aligned, Option.mem_def, Option.some.injEq, forall_eq',
        Option.map_eq_some_iff, forall_exists_index, and_imp, forall_apply_eq_imp_iff₂]
      refine forall_congr' fun current => forall_congr' fun isRow => ?_
      by_cases same : last.occurredAt = read.lastOccurredAt
      · have row : current.moved read last = { last with occurredAt := current.lastOccurredAt }.position := by
          simp [AutomationWatermark.moved, same, DomainEvent.position]
        rw [row]
        constructor
        · intro covered _
          obtain ⟨pass, member, -, reached, isTarget, notBehind⟩ := covered _ (not_precedes_position _)
          exact ⟨pass, member, reached, isTarget, notBehind⟩
        · intro aligned event notBehind
          obtain ⟨pass, member, reached, isTarget, notBeyond⟩ := aligned same
          have before := before_of_not_precedes notBehind
          have upTo : ¬ reached.Precedes event := fun behind => notBeyond (behind.trans before)
          rcases mem_append.mp member with committed | isOwn
          · exact ((exact.reached pass committed reached isTarget).mono (subset_append_left _ _)) event upTo
          · cases mem_singleton.mp isOwn
            exact ready.target_covered reached isTarget event upTo
      · have row : current.moved read last = last.position := by
          simp [AutomationWatermark.moved, same, DomainEvent.position]
        rw [row]
        exact iff_of_true own fun isSame => absurd isSame same

theorem written_first (phase : worker.phase = .finished)
    (single : worker.position.isSome ∨ now.1.watermark.isNone) :
    (now.2 ++ [Session.worker worker]).countP Session.starts ≤
      if (worker.written now.1.watermark).isSome then 1 else 0 := by
  have first := exact.first
  rw [countP_append]
  cases isPosition : worker.position with
  | none =>
    have noRow : now.1.watermark = none := by simpa [isPosition] using single
    have reached := ready.target_isSome phase isPosition
    simp only [noRow, Option.isSome_none, Bool.false_eq_true, if_false] at first
    simp only [written, isPosition, reached, if_true]
    have one : [Session.worker worker].countP Session.starts ≤ 1 := countP_le_length
    omega
  | some read =>
    have notFirst : [Session.worker worker].countP Session.starts = 0 := by
      simp [Session.starts, isPosition]
    have row : (worker.written now.1.watermark).isSome = now.1.watermark.isSome := by
      cases isLast : worker.batch.getLast? <;> simp [written, isPosition, isLast]
    rw [notFirst, row]
    exact first

theorem commit_exact (accepted : worker.commit now.1 = .ok state) :
    ExactlyOnce (state, now.2 ++ [.worker worker]) ↔ Sound now (.worker worker) := by
  obtain ⟨phase, fresh, events, runs, effects, -, single, watermark⟩ := commit_ok accepted
  constructor
  · intro exactNext
    constructor
    · intro key violates
      obtain ⟨candidate, asked, rfl⟩ := ready.violated key violates
      have once := exactNext.once worker (by simp) candidate asked
      rw [runs, map_append, mem_append] at once
      exact once
    · have covered := exactNext.covered
      rw [watermark] at covered
      exact (written_covered exact ready phase).mp covered
  · rintro ⟨answered, aligned⟩
    constructor
    · rw [events]
      exact fresh.nodup exact.ids
    · rw [runs, map_append, nodup_append]
      refine ⟨exact.distinct, ready.distinct, ?_⟩
      intro key old other isNew same
      obtain ⟨run, member, rfl⟩ := mem_map.mp isNew
      exact ready.isNew run member (same ▸ old)
    · intro other member candidate asked
      rw [runs, map_append, mem_append]
      rcases mem_append.mp member with old | last
      · exact (exact.once other old candidate asked).imp id Or.inl
      · cases mem_singleton.mp last
        have progress := ready.progress
        simp only [Progress, phase] at progress
        obtain ⟨⟨noTodo, noMatch⟩, -⟩ := progress
        rcases ready.settled candidate asked with inTodo | isMatch | unmatches | violates | known
        · rw [noTodo] at inTodo
          cases inTodo
        · rw [isMatch] at noMatch
          cases noMatch
        · exact Or.inl unmatches
        · exact answered _ violates
        · exact Or.inr known
    · rw [effects, runs, flatMap_append, exact.effects, ready.effects]
    · rw [watermark]
      exact written_first exact ready phase single
    · intro other member position isTarget
      rcases mem_append.mp member with old | last
      · exact (exact.reached other old position isTarget).mono (subset_append_left _ _)
      · cases mem_singleton.mp last
        exact ready.target_covered position isTarget
    · rw [watermark]
      exact (written_covered exact ready phase).mpr aligned
    · intro other member
      rcases mem_append.mp member with old | last
      · exact exact.complete other old
      · cases mem_singleton.mp last
        exact ready.complete phase

end

end Worker

theorem Writer.commit_exact (exact : ExactlyOnce now)
    (accepted : writer.commit now.1 = .ok state) :
    ExactlyOnce (state, now.2 ++ [.writer writer]) := by
  obtain ⟨fresh, events, runs, effects, -, watermark⟩ := commit_ok accepted
  have same : ∀ worker, Session.worker worker ∈ now.2 ++ [.writer writer] → Session.worker worker ∈ now.2 := by
    intro worker member
    simpa using member
  have more : now.2 ⊆ now.2 ++ [.writer writer] := subset_append_left _ _
  constructor
  · rw [events]
    exact fresh.nodup exact.ids
  · exact runs ▸ exact.distinct
  · rw [runs]
    exact fun worker member => exact.once worker (same worker member)
  · rw [effects, runs]
    exact exact.effects
  · have notFirst : [Session.writer writer].countP Session.starts = 0 := rfl
    rw [watermark, countP_append, notFirst]
    exact exact.first
  · exact fun worker member position isTarget => (exact.reached worker (same worker member) position isTarget).mono more
  · rw [watermark]
    exact fun position isRow => (exact.covered position isRow).mono more
  · exact fun worker member => exact.complete worker (same worker member)

theorem opened_ready (now : AutomationState × List Session) (task : Task) : Session.Ready now (engine.opened task) := by
  cases task with
  | process clock =>
    constructor
    · exact fun _ none => absurd none not_mem_nil
    · exact nodup_nil
    · rfl
    · exact fun _ none => absurd none not_mem_nil
    · rintro candidate (none | none)
      · exact absurd none not_mem_nil
      · cases none
    · exact fun _ none => absurd none not_mem_nil
    · exact fun _ none => absurd none (Option.not_mem_none _)
    · rfl
  | write => trivial

theorem work_ready {next} (exact : ExactlyOnce now)
    (ready : session.Ready now) (accepted : work now.1 session op = .ok next) : next.Ready now := by
  cases session with
  | worker pass =>
    cases op with
    | worker op =>
      simp only [work, bind_ok, pure_ok] at accepted
      obtain ⟨served, serves, rfl⟩ := accepted
      exact Worker.Ready.step exact ready (Worker.serve_ok serves)
    | emit event => exact absurd accepted throw_ok
    | saveRule ruleId rule => exact absurd accepted throw_ok
  | writer writer =>
    cases op with
    | worker op => exact absurd accepted throw_ok
    | emit | saveRule =>
      cases pure_ok.mp accepted
      trivial

theorem logged_commit_exact {next} (exact : ExactlyOnce now)
    (ready : session.Ready now) (accepted : engine.logged.commit now session = .ok next) :
    ExactlyOnce next ↔ Sound now session := by
  obtain ⟨committed, log⟩ := Engine.logged_commit accepted
  obtain ⟨state, sessions⟩ := next
  cases log
  cases session with
  | worker pass => exact Worker.commit_exact exact ready committed
  | writer writer => exact iff_of_true (Writer.commit_exact exact committed) trivial

theorem apart_of_free {committing pass : Worker} (free : engine.Free (.worker committing) (.worker pass)) :
    ∀ run ∈ pass.runs, run.key ∉ committing.runs.map AutomationRun.key := by
  intro run member same
  obtain ⟨added, isAdded, sameKey⟩ := mem_map.mp same
  apply free (.run run.key)
  · exact mem_append_left _ (mem_map.mpr ⟨added, isAdded, congrArg LockRow.run sameKey⟩)
  · exact mem_append_left _ (mem_map.mpr ⟨run, member, rfl⟩)

theorem logged_commit_frame {next} (ready : other.Ready now) (free : engine.Free session other)
    (accepted : engine.logged.commit now session = .ok next) : other.Ready next := by
  obtain ⟨committed, log⟩ := Engine.logged_commit accepted
  have more : now.2 ⊆ next.2 := log ▸ subset_append_left _ _
  cases other with
  | writer writer => trivial
  | worker pass =>
    cases session with
    | writer writer =>
      obtain ⟨-, -, runs, -, -, -⟩ := Writer.commit_ok committed
      have none : next.1.runs = now.1.runs ++ [] := by rw [runs, append_nil]
      exact Worker.Ready.frame ready none (fun _ _ isAdded => absurd isAdded not_mem_nil) more
    | worker committing =>
      obtain ⟨-, -, -, runs, -, -, -, -⟩ := Worker.commit_ok committed
      exact Worker.Ready.frame ready runs (apart_of_free free) more

theorem exactlyOnce_initial (rules : List AutomationRule) : ExactlyOnce ({ rules }, []) := by
  constructor
  · exact nodup_nil
  · exact nodup_nil
  · exact fun _ none => absurd none not_mem_nil
  · rfl
  · exact le_refl _
  · exact fun _ none => absurd none not_mem_nil
  · exact fun _ none => absurd none (Option.not_mem_none _)
  · exact fun _ none => absurd none not_mem_nil

/-- For all rules and all interleavings: every commit leaves each asked rule its one run, full effects and a watermark
that passed nothing, exactly if every commit is sound. -/
theorem exactly_once_iff (rules : List AutomationRule) (moves : List (Move Task Op)) :
    (∀ moment ∈ trace engine.logged.step ⟨({ rules }, []), []⟩ moves, ExactlyOnce moment.after.state) ↔
      ∀ moment ∈ trace engine.logged.step ⟨({ rules }, []), []⟩ moves,
        Engine.Admitted Sound moment.before moment.call := by
  apply Engine.interleaving_exact
  · intro task
    cases task <;> rfl
  · exact opened_ready
  · exact fun now session op next exact ready accepted => work_ready exact ready accepted
  · exact fun now session next exact ready accepted => logged_commit_exact exact ready accepted
  · exact fun now session other next _ _ ready free accepted => logged_commit_frame ready free accepted
  · exact Protocol.holds_initial (exactlyOnce_initial rules)

/-- A rule that opens a ticket for every new contract. -/
def sampleTicketRule : AutomationRule :=
  { active := true, triggerEventType := some "contract.created", actions := [.createTicket 1] }

/-- The ticket violates a constraint, say of a property that no longer exists. -/
def sampleViolated : List (Move Task Op) :=
  [.start (.process 10), .work 0 (.worker .readWatermark), .commit 0,
   .start .write, .work 0 (.emit ⟨1, "contract.created", "contract", some 7, [], 8⟩), .commit 0,
   .start (.process 20), .work 0 (.worker .readWatermark), .work 0 (.worker .readRules),
   .work 0 (.worker .readEvents), .work 0 (.worker (.look fun _ _ _ => .ok true)),
   .work 0 (.worker (.execute (fun _ => .violated) true "" 2)), .work 0 (.worker .finish), .commit 0]

/-- The watermark has passed the event, and the rule has no run of it, not even a failed one. -/
theorem violated_leaves_no_run :
    ¬ ∀ moment ∈ trace engine.logged.step ⟨({ rules := [sampleTicketRule] }, []), []⟩ sampleViolated,
      ExactlyOnce moment.after.state := by
  have reached : ∃ moment ∈ (trace engine.logged.step ⟨({ rules := [sampleTicketRule] }, []), []⟩ sampleViolated).getLast?,
      moment.after.state.1.runs.map AutomationRun.key = [] ∧
        ∃ session ∈ moment.after.state.2.getLast?, ∃ pass ∈ session.pass?,
          ∃ candidate ∈ pass.asked, candidate.key ∉ pass.unmatched := by
    decide +kernel
  obtain ⟨moment, isLast, noRuns, session, isSession, pass, isPass, candidate, asked, isMatched⟩ := reached
  intro exact
  cases session with
  | writer writer => cases isPass
  | worker _ =>
    cases isPass
    have once := (exact moment (mem_of_getLast? isLast)).once pass (mem_of_getLast? isSession) candidate asked
    rw [noRuns] at once
    rcases once with unmatched | recorded
    · exact isMatched unmatched
    · exact absurd recorded not_mem_nil

end Mhvp.Automation
