import Mhvp.Lib.Table
import Mhvp.Lib.Transition
import Mhvp.Banking.Runner

namespace Mhvp.Banking.Runner

open Core Accounting Lib.Calendar Lib.Table Lib.Transition List

/-- Automatic postings made on a local day. -/
def madeOn (zone : TimeZone) (db : Db) (day : Date) : ℕ :=
  db.autoPosted.countP fun posted => zone.localDate posted.decidedAt = day

def madeOnBy (zone : TimeZone) (db : Db) (day : Date) (rule : RuleId) : ℕ :=
  db.autoPosted.countP fun posted => zone.localDate posted.decidedAt = day ∧ posted.ruleId = rule

def madeIn (db : Db) (run : ℕ) : ℕ := db.autoPosted.countP fun posted => posted.run = run

structure WithinCaseLimits (zone : TimeZone) (db : Db) : Prop where
  tenant : ∀ day, madeOn zone db day ≤ tenantDayLimit
  rule : ∀ day rule, madeOnBy zone db day rule ≤ ruleDayLimit
  run : ∀ run, madeIn db run ≤ runLimit

/-- The counters a run starts with are those of the moment it gets the lock, and they miss no posting of
its day: none was decided before the day began in UTC, and every movement still carries its rule. -/
structure CountsAll (zone : TimeZone) (db : Db) (ctx : RunContext) : Prop where
  fresh : ctx.postedToday = postedToday db ctx.today ∧ ctx.ruleHitsToday = postedByRule db ctx.today
  sinceMidnight : ∀ posted ∈ db.autoPosted, ctx.today ≤ zone.localDate posted.decidedAt →
    Instant.startOfUtcDay ctx.today ≤ posted.decidedAt
  rules : ∀ posted ∈ db.autoPosted, ctx.today ≤ zone.localDate posted.decidedAt →
    matchedRule db posted.bankTransactionId = some posted.ruleId

def Admitted (zone : TimeZone) (state : State) : Call → Prop
  | .execute place => ∀ waiting ∈ state.waiting[place]?, CountsAll zone state.db waiting.1
  | _ => True

/-- Every automatic decision in the log has its event. -/
def Logged (db : Db) : Prop :=
  (autoDecisions db).Perm (db.autoPosted.map fun posted => (posted.bankTransactionId, posted.decidedAt))

structure StateSound (zone : TimeZone) (state : State) : Prop where
  logged : Logged state.db
  limits : WithinCaseLimits zone state.db
  runs : ∀ posted ∈ state.db.autoPosted, posted.run < state.runs
  waiting : ∀ waiting ∈ state.waiting, waiting.1.today = zone.localDate waiting.2.started ∧
    waiting.1.postedThisRun = 0

/-- The counters of a run cover what was posted on its day and later. -/
structure Covers (zone : TimeZone) (runNo : ℕ) (ctx : RunContext) (db : Db) : Prop where
  logged : Logged db
  limits : WithinCaseLimits zone db
  numbers : ∀ posted ∈ db.autoPosted, posted.run ≤ runNo
  byDay : ∀ day, ctx.today ≤ day → madeOn zone db day ≤ ctx.postedToday
  byRule : ∀ day rule, ctx.today ≤ day → madeOnBy zone db day rule ≤ ctx.ruleHitsToday rule
  inRun : madeIn db runNo ≤ ctx.postedThisRun

section Limits

variable {zone : TimeZone} {db : Db} {ctx : RunContext} {state next : State} {rule : RuleId} {moment : Instant}

/-- The decisions that count as automatic postings. -/
def automatic (decision : PostingDecision) : Option (BankTransactionId × Instant) :=
  if decision.status = .autoPosted then decision.decidedAt.map fun moment => (decision.bankTransactionId, moment)
  else none

theorem closeRound_automatic (decisions : List PostingDecision) (closed : PostingDecision) (sameFeatures : Bool) :
    ((closeRound decisions closed sameFeatures).filterMap automatic).Perm
      ((automatic closed).toList ++ decisions.filterMap automatic) := by
  have appended : ∀ rows : List PostingDecision, rows.filterMap automatic = decisions.filterMap automatic →
      ((rows ++ [closed]).filterMap automatic).Perm ((automatic closed).toList ++ decisions.filterMap automatic) := by
    intro rows same
    rw [filterMap_append, same]
    cases counts : automatic closed with
    | none => simp [counts]
    | some found =>
      simp only [filterMap_cons, counts, filterMap_nil, Option.toList_some]
      exact perm_append_comm
  unfold closeRound
  cases pending : decisions.findIdx? fun decision =>
      decision.bankTransactionId = closed.bankTransactionId ∧ decision.status = .pending with
  | none => exact appended decisions rfl
  | some place =>
    obtain ⟨inside, isPending, _⟩ := List.findIdx?_eq_some_iff_getElem.mp pending
    have found : decisions[place]? = some decisions[place] := List.getElem?_eq_getElem inside
    have open' : automatic decisions[place] = none := by
      simp only [decide_eq_true_eq] at isPending
      simp [automatic, isPending.2]
    dsimp only
    split
    · cases counts : automatic closed with
      | none => rw [filterMap_set_same found (counts.trans open'.symm)]; rfl
      | some value => exact filterMap_set_perm found open' counts
    · apply appended
      rw [modify_eq_set_getElem? _ place decisions, found]
      apply filterMap_set_same found
      rw [open']
      rfl

theorem autoDecisions_eq (db : Db) : autoDecisions db = db.postingDecisions.filterMap automatic := rfl

theorem closeRound_manual (manual : closed.status ≠ .autoPosted) (sameFeatures : Bool) :
    ((closeRound decisions closed sameFeatures).filterMap automatic).Perm (decisions.filterMap automatic) := by
  have counts := closeRound_automatic decisions closed sameFeatures
  rwa [automatic, if_neg manual, Option.toList_none, nil_append] at counts

theorem countP_concat (selects : AutoPosted → Bool) (posted : AutoPosted) :
    (db.autoPosted ++ [posted]).countP selects = db.autoPosted.countP selects + if selects posted then 1 else 0 := by
  rw [countP_append, countP_singleton]

theorem Covers.record (covers : Covers zone runNo ctx db) (today : ctx.today ≤ zone.localDate moment)
    (ruleRoom : ctx.ruleHitsToday rule < ruleDayLimit) (runRoom : ctx.postedThisRun < runLimit)
    (dayRoom : ctx.postedToday < tenantDayLimit) (txId : BankTransactionId) (entryId : EntryId) (sameFeatures : Bool) :
    Covers zone runNo (ctx.count rule) (recordAuto db runNo txId rule entryId moment sameFeatures) where
  logged := by
    unfold Logged
    rw [autoDecisions_eq]
    refine (closeRound_automatic _ _ _).trans ?_
    have recorded : automatic { bankTransactionId := txId, status := .autoPosted, decidedAt := some moment, journalEntryId := some entryId } =
        some (txId, moment) := rfl
    rw [recorded, Option.toList_some]
    exact (covers.logged.cons _).trans (by
      simp only [recordAuto, map_append, map_cons, map_nil]
      exact (perm_append_comm : ([(txId, moment)] ++ _).Perm _))
  limits := by
    refine ⟨?_, ?_, ?_⟩
    · intro day
      have before := covers.limits.tenant day
      have counted := covers.byDay day
      simp only [madeOn, recordAuto, countP_concat, decide_eq_true_eq] at before counted ⊢
      split
      · rename_i same
        exact Nat.lt_of_le_of_lt (counted (same ▸ today)) dayRoom
      · exact before
    · intro day other
      have before := covers.limits.rule day other
      have counted := covers.byRule day other
      simp only [madeOnBy, recordAuto, countP_concat, decide_eq_true_eq] at before counted ⊢
      split
      · rename_i same
        obtain ⟨sameDay, rfl⟩ := same
        exact Nat.lt_of_le_of_lt (counted (sameDay ▸ today)) ruleRoom
      · exact before
    · intro other
      have before := covers.limits.run other
      have counted := covers.inRun
      simp only [madeIn, recordAuto, countP_concat, decide_eq_true_eq] at before counted ⊢
      split
      · rename_i same
        subst same
        exact Nat.lt_of_le_of_lt counted runRoom
      · exact before
  numbers := by
    intro posted member
    rcases mem_append.mp member with old | isNew
    · exact covers.numbers posted old
    · rw [mem_singleton.mp isNew]
  byDay day after := by
    have counted := covers.byDay day after
    simp only [madeOn, recordAuto, RunContext.count, countP_concat] at counted ⊢
    split
    · exact Nat.succ_le_succ counted
    · exact Nat.le_succ_of_le counted
  byRule day other after := by
    have counted := covers.byRule day other after
    simp only [madeOnBy, recordAuto, RunContext.count, countP_concat, decide_eq_true_eq] at counted ⊢
    by_cases same : other = rule
    · subst same
      rw [Function.update_self]
      split
      · exact Nat.succ_le_succ counted
      · exact Nat.le_succ_of_le counted
    · rw [Function.update_of_ne same, if_neg fun selected => same selected.2.symm]
      exact counted
  inRun := by
    have counted := covers.inRun
    simp only [madeIn, recordAuto, RunContext.count, countP_concat, decide_true, if_true] at counted ⊢
    exact Nat.succ_le_succ counted

theorem chooseRule_room (chosen : chooseRule hits rules last = .chosen rule .ok) (notLast : last ≠ .chosen rule .ok) :
    hits rule < ruleDayLimit := by
  induction rules generalizing last with
  | nil => exact absurd chosen notLast
  | cons found rest ih =>
    obtain ⟨candidate, verdict⟩ := found
    unfold chooseRule at chosen
    split at chosen
    · cases chosen
    · rename_i room
      cases verdict with
      | refused => exact ih chosen (by simp)
      | ok =>
        cases chosen
        exact Nat.lt_of_not_le room
      | skipped => cases chosen
      | clarification => cases chosen

theorem Covers.autoPost (covers : Covers zone runNo ctx db) (today : ctx.today ≤ zone.localDate moment)
    (txId : BankTransactionId) (found : Assessment) :
    Covers zone runNo (autoPostTransaction db ctx runNo txId found moment).2.1
        (autoPostTransaction db ctx runNo txId found moment).2.2 ∧
      (autoPostTransaction db ctx runNo txId found moment).2.1.today = ctx.today := by
  have stopped : ∀ reason, Covers zone runNo (ctx.stop reason) db := fun _ =>
    ⟨covers.logged, covers.limits, covers.numbers, covers.byDay, covers.byRule, covers.inRun⟩
  unfold autoPostTransaction
  split
  · exact ⟨covers, rfl⟩
  · split
    · exact ⟨covers, rfl⟩
    · split
      · exact ⟨covers, rfl⟩
      · split
        · exact ⟨covers, rfl⟩
        · exact ⟨stopped _, rfl⟩
        · exact ⟨covers, rfl⟩
        · exact ⟨covers, rfl⟩
        · exact ⟨covers, rfl⟩
        · rename_i rule chosen
          split
          · exact ⟨stopped _, rfl⟩
          · rename_i runRoom
            split
            · exact ⟨stopped _, rfl⟩
            · rename_i dayRoom
              split
              · exact ⟨covers, rfl⟩
              · split
                · exact ⟨covers, rfl⟩
                · refine ⟨covers.record today (chooseRule_room chosen (by simp)) ?_ ?_ _ _ _, rfl⟩
                  · exact Nat.lt_of_not_le runRoom
                  · exact Nat.lt_of_not_le dayRoom

theorem Covers.postOpen (covers : Covers zone runNo ctx db)
    (today : ctx.today = zone.localDate request.started) (txIds : List BankTransactionId) (turn : ℕ) :
    ∃ later, Covers zone runNo later (postOpen request runNo txIds turn (ctx, db)).2 := by
  induction txIds generalizing ctx db turn with
  | nil => exact ⟨ctx, covers⟩
  | cons txId rest ih =>
    unfold Runner.postOpen
    split
    · exact ⟨ctx, covers⟩
    · have onDay : ctx.today ≤ zone.localDate (request.clock turn) := today ▸ zone.mono (request.later turn)
      obtain ⟨after, sameDay⟩ := covers.autoPost onDay txId (request.assess db txId)
      dsimp only
      refine ih ?_ ?_ (turn + 1)
      · exact ⟨after.logged, after.limits, after.numbers, after.byDay, after.byRule, after.inRun⟩
      · exact sameDay.trans today

theorem countP_autoDecisions (logged : Logged db) (selects : BankTransactionId × Instant → Bool) :
    (autoDecisions db).countP selects =
      db.autoPosted.countP fun posted => selects (posted.bankTransactionId, posted.decidedAt) := by
  rw [logged.countP_eq, countP_map]
  rfl

theorem CountsAll.covers (counts : CountsAll zone db ctx) (logged : Logged db) (limits : WithinCaseLimits zone db)
    (before : ∀ posted ∈ db.autoPosted, posted.run < runNo) (fresh : ctx.postedThisRun = 0) :
    Covers zone runNo ctx db where
  logged := logged
  limits := limits
  numbers posted member := Nat.le_of_lt (before posted member)
  byDay day after := by
    rw [counts.fresh.1, postedToday, countP_autoDecisions logged]
    apply countP_mono_left
    intro posted member made
    have onDay : zone.localDate posted.decidedAt = day := of_decide_eq_true made
    exact decide_eq_true (counts.sinceMidnight posted member (onDay ▸ after))
  byRule day rule after := by
    rw [counts.fresh.2, postedByRule, countP_autoDecisions logged]
    apply countP_mono_left
    intro posted member made
    obtain ⟨onDay, byRule⟩ := of_decide_eq_true made
    have carried := counts.rules posted member (onDay ▸ after)
    exact decide_eq_true ⟨counts.sinceMidnight posted member (onDay ▸ after), carried.trans (congrArg some byRule)⟩
  inRun := by
    rw [fresh, madeIn, countP_eq_zero.mpr]
    intro posted member same
    exact absurd (of_decide_eq_true same) (Nat.ne_of_lt (before posted member))

theorem StateSound.step (sound : StateSound zone state) (admitted : Admitted zone state call)
    (accepted : step zone state call = .ok next) : StateSound zone next := by
  cases call with
  | begin request =>
    simp only [Runner.step] at accepted
    split at accepted
    · obtain rfl := pure_ok.mp accepted
      exact sound
    · rename_i ctx isContext
      obtain rfl := pure_ok.mp accepted
      refine ⟨sound.logged, sound.limits, sound.runs, ?_⟩
      intro waiting member
      rcases mem_append.mp member with old | isNew
      · exact sound.waiting waiting old
      · obtain rfl := mem_singleton.mp isNew
        unfold contextForTenant at isContext
        split at isContext
        · cases isContext
          exact ⟨rfl, rfl⟩
        · cases isContext
  | execute place =>
    simp only [Runner.step, bind_ok, orRefuse_ok, pure_ok] at accepted
    obtain ⟨⟨ctx, request⟩, found, rfl⟩ := accepted
    obtain ⟨today, fresh⟩ := sound.waiting _ (mem_of_getElem? found)
    have counts : CountsAll zone state.db ctx := admitted _ found
    have covers := counts.covers sound.logged sound.limits sound.runs fresh
    obtain ⟨later, after⟩ := covers.postOpen today (openTransactions state.db) 0
    refine ⟨after.logged, after.limits, ?_, ?_⟩
    · exact fun posted member => Nat.lt_succ_of_le (after.numbers posted member)
    · exact fun waiting member => sound.waiting waiting (mem_of_mem_eraseIdx member)
  | giveUp place =>
    obtain rfl := pure_ok.mp accepted
    exact ⟨sound.logged, sound.limits, sound.runs,
      fun waiting member => sound.waiting waiting (mem_of_mem_eraseIdx member)⟩
  | correct txId entryId learning moment =>
    simp only [Runner.step, correct, bind_ok, exists_unit, require_ok, orRefuse_ok, pure_ok] at accepted
    obtain ⟨_, ⟨tx, _, _, entry, _, rfl⟩, rfl⟩ := accepted
    refine ⟨?_, ⟨sound.limits.tenant, sound.limits.rule, sound.limits.run⟩, sound.runs, sound.waiting⟩
    unfold Logged
    rw [autoDecisions_eq]
    dsimp only
    split
    · exact (closeRound_manual (by simp) true).trans sound.logged
    · exact sound.logged
  | elsewhere tables =>
    simp only [Runner.step, besideRunner, bind_ok, exists_unit, require_ok, pure_ok] at accepted
    obtain ⟨_, ⟨same, rfl⟩, rfl⟩ := accepted
    refine ⟨?_, ⟨sound.limits.tenant, sound.limits.rule, sound.limits.run⟩, sound.runs, sound.waiting⟩
    have kept : autoDecisions { tables with autoPosted := state.db.autoPosted } = autoDecisions state.db := by
      have onlyAutomatic : ∀ rows : List PostingDecision, rows.filterMap automatic =
          (rows.filter fun decision => decision.status = .autoPosted).filterMap automatic := by
        intro rows
        rw [filterMap_filter]
        congr 1
        funext decision
        unfold automatic
        split <;> simp_all
      rw [autoDecisions_eq, autoDecisions_eq, onlyAutomatic, onlyAutomatic state.db.postingDecisions]
      exact congrArg _ same
    unfold Logged
    rw [kept]
    exact sound.logged

theorem admitted_at_once (noneWaiting : state.waiting = [])
    (complete : ∀ posted ∈ state.db.autoPosted, zone.localDate request.started ≤ zone.localDate posted.decidedAt →
      Instant.startOfUtcDay (zone.localDate request.started) ≤ posted.decidedAt ∧
        matchedRule state.db posted.bankTransactionId = some posted.ruleId) :
    Admitted zone (commit (step zone) state (.begin request)) (.execute 0) := by
  intro waiting found
  rcases commit_cases (step zone) state (.begin request) with same | accepted
  · rw [same, noneWaiting] at found
    cases found
  · generalize commit (step zone) state (.begin request) = next at accepted found ⊢
    simp only [Runner.step, contextForTenant] at accepted
    split at accepted
    · obtain rfl := pure_ok.mp accepted
      rw [noneWaiting] at found
      cases found
    · rename_i ctx isContext
      obtain rfl := pure_ok.mp accepted
      rw [noneWaiting] at found
      cases found
      split at isContext
      · cases isContext
        exact ⟨⟨rfl, rfl⟩, fun posted member after => (complete posted member after).1,
          fun posted member after => (complete posted member after).2⟩
      · cases isContext

end Limits

/-- In every history whose runs count all postings of their day, the case limits hold. -/
theorem case_limits_hold (zone : TimeZone) {db : Db} (noDecisions : autoDecisions db = []) (noEvents : db.autoPosted = [])
    (calls : List Call) (admitted : Guarded (step zone) (Admitted zone) { db } calls) :
    WithinCaseLimits zone (run (step zone) { db } calls).db := by
  have started : StateSound zone { db } := by
    refine ⟨?_, ?_, ?_, ?_⟩
    · rw [Logged, noDecisions, noEvents]
      exact List.Perm.refl _
    · constructor <;> simp [madeOn, madeOnBy, madeIn, noEvents]
    · simp [noEvents]
    · intro waiting member
      cases member
  exact (admitted.invariant (fun _ _ _ sound isAdmitted accepted => sound.step isAdmitted accepted) calls started).limits

def sampleMovements (count : ℕ) : Db where
  books := {}
  bankTransactions := List.replicate count
    { propertyBankAccountId := 0, legalEntityId := 0, bookingDate := .ofYmd 2026 3 9, amount := 500,
      hash := { iban := "", bookingDate := .ofYmd 2026 3 9, amount := 500, purpose := "", endToEndId := "",
                counterpartIban := "" } }

def sampleHour (hour : ℕ) : Instant := Instant.startOfUtcDay (.ofYmd 2026 3 10) + hour * 3600

/-- All movements may be posted under rule 0. -/
def sampleRequest (hour : ℕ) : RunRequest where
  enabled := true
  started := sampleHour hour
  clock _ := sampleHour hour
  later _ := le_rfl
  assess _ _ := { rules := [(0, .ok)], entryId := some 0 }

/-- A person corrects one of fifty postings, and the next run posts the fifty-first under the rule. -/
theorem corrected_posting_not_counted :
    madeOnBy (.ahead 3600) (run (step (.ahead 3600)) { db := sampleMovements 51 }
      [.begin (sampleRequest 9), .execute 0, .correct 0 (some 1) true (sampleHour 10), .begin (sampleRequest 11),
        .execute 0]).db (.ofYmd 2026 3 10) 0 = 51 := by
  decide +kernel

/-- Two runs of one day. -/
def sampleCalls : List Call :=
  [.begin (sampleRequest 9), .execute 0, .begin (sampleRequest 11), .execute 0]

theorem sample_case_limits :
    WithinCaseLimits (.ahead 3600) (run (step (.ahead 3600)) { db := sampleMovements 1 } sampleCalls).db := by
  have admitted : Guarded (step (.ahead 3600)) (Admitted (.ahead 3600)) { db := sampleMovements 1 } sampleCalls := by
    refine ⟨trivial, admitted_at_once rfl ?_, trivial, admitted_at_once rfl ?_, trivial⟩
    · intro posted member
      cases member
    · decide +kernel
  exact case_limits_hold _ rfl rfl _ admitted

end Mhvp.Banking.Runner
