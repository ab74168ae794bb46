import Mathlib.Data.List.Sort
import Mhvp.Database

namespace Mhvp.Banking.Runner

open Core Accounting Lib.Calendar

def ruleDayLimit : ℕ := 50
def runLimit : ℕ := 200
def tenantDayLimit : ℕ := 500

/-- The counters of a run, one for each answer on a movement. -/
inductive Counter
  | posted
  | refused
  | skipped
  | periodLocked
  | clarification
  | blocked
  | gateClosed
  | limitStopped

/-- Answer of the verifier on a movement under a rule. -/
inductive Verdict
  | ok
  | skipped
  | clarification
  | refused

/-- What the checks beside the case limits find of an open movement. -/
structure Assessment where
  /-- Answered before a rule is looked at: level of its class, review overdue, gate closed. -/
  early : Option Counter := none
  /-- Active rules that match, in the order of their priority. -/
  rules : List (RuleId × Verdict) := []
  counterAccountFound : Bool := true
  /-- Entry of the booking; none if it was refused. -/
  entryId : Option EntryId := none
  /-- The pending decision has the features of the movement. -/
  sameFeatures : Bool := false

structure RunContext where
  today : Date
  postedToday : ℕ
  postedThisRun : ℕ := 0
  ruleHitsToday : RuleId → ℕ
  stopped : Option String := none
  /-- Answers so far; `counts` are their numbers. -/
  answers : List Counter := []

/-- Automatic postings in the decision log, with their time. -/
def autoDecisions (db : Db) : List (BankTransactionId × Instant) :=
  db.postingDecisions.filterMap fun decision =>
    if decision.status = .autoPosted then decision.decidedAt.map fun moment => (decision.bankTransactionId, moment)
    else none

def matchedRule (db : Db) (txId : BankTransactionId) : Option RuleId :=
  (db.bankTransactions[txId]?).bind BankTransaction.matchedRuleId

/-- Automatic postings since the start of the day, counted in UTC. -/
def postedToday (db : Db) (today : Date) : ℕ :=
  (autoDecisions db).countP fun found => Instant.startOfUtcDay today ≤ found.2

/-- Those of them whose movement carries the rule. -/
def postedByRule (db : Db) (today : Date) (rule : RuleId) : ℕ :=
  (autoDecisions db).countP fun found =>
    Instant.startOfUtcDay today ≤ found.2 ∧ matchedRule db found.1 = some rule

/-- The run context, or none when the runner is off for the tenant. -/
def contextForTenant (db : Db) (enabled : Bool) (today : Date) : Option RunContext :=
  if enabled then some { today, postedToday := postedToday db today, ruleHitsToday := postedByRule db today }
  else none

/-- The rule a movement is posted under, or the limit of a rule. -/
inductive Choice
  | limit
  | chosen (rule : RuleId) (verdict : Verdict)
  | nothing

/-- The first rule the verifier does not refuse; the last one if it refuses all. -/
def chooseRule (hits : RuleId → ℕ) : List (RuleId × Verdict) → Choice → Choice
  | [], last => last
  | (rule, verdict) :: rest, _ =>
    if ruleDayLimit ≤ hits rule then .limit
    else match verdict with
      | .refused => chooseRule hits rest (.chosen rule .refused)
      | verdict => .chosen rule verdict

/-- The pending round is closed, or expires when its features changed. -/
def closeRound (decisions : List PostingDecision) (closed : PostingDecision) (sameFeatures : Bool) :
    List PostingDecision :=
  match decisions.findIdx? fun decision =>
      decision.bankTransactionId = closed.bankTransactionId ∧ decision.status = .pending with
  | none => decisions ++ [closed]
  | some place =>
    if sameFeatures then decisions.set place closed
    else decisions.modify place (fun decision =>
      { decision with status := .expired, decidedAt := closed.decidedAt }) ++ [closed]

/-- The movement booked under the rule, its decision and its event. -/
def recordAuto (db : Db) (run : ℕ) (txId : BankTransactionId) (rule : RuleId) (entryId : EntryId) (moment : Instant)
    (sameFeatures : Bool) : Db :=
  { db with
    bankTransactions := db.bankTransactions.modify txId fun tx =>
      { tx with status := .booked, journalEntryId := some entryId, matchedRuleId := some rule }
    postingDecisions := closeRound db.postingDecisions
      { bankTransactionId := txId, status := .autoPosted, decidedAt := some moment, journalEntryId := some entryId }
      sameFeatures
    autoPosted := db.autoPosted ++ [{ bankTransactionId := txId, ruleId := rule, decidedAt := moment, run }] }

def RunContext.stop (ctx : RunContext) (reason : String) : RunContext := { ctx with stopped := some reason }

def RunContext.count (ctx : RunContext) (rule : RuleId) : RunContext :=
  { ctx with
    postedThisRun := ctx.postedThisRun + 1
    postedToday := ctx.postedToday + 1
    ruleHitsToday := Function.update ctx.ruleHitsToday rule (ctx.ruleHitsToday rule + 1) }

/-- One movement; a refusal leaves tables and counters as they were. -/
def autoPostTransaction (db : Db) (ctx : RunContext) (run : ℕ) (txId : BankTransactionId) (found : Assessment)
    (moment : Instant) : Counter × RunContext × Db :=
  match db.bankTransactions[txId]? with
  | none => (.refused, ctx, db)
  | some tx =>
    if tx.status ≠ .new then (.skipped, ctx, db)
    else match found.early with
      | some counter => (counter, ctx, db)
      | none => match chooseRule ctx.ruleHitsToday found.rules .nothing with
          | .nothing => (.skipped, ctx, db)
          | .limit => (.limitStopped, ctx.stop (s!"Fallgrenze je Regel und Tag ({ruleDayLimit}) erreicht"), db)
          | .chosen _ .skipped => (.periodLocked, ctx, db)
          | .chosen _ .clarification => (.clarification, ctx, db)
          | .chosen _ .refused => (.refused, ctx, db)
          | .chosen rule .ok =>
            if runLimit ≤ ctx.postedThisRun then
              (.limitStopped, ctx.stop (s!"Fallgrenze je Lauf ({runLimit}) erreicht"), db)
            else if tenantDayLimit ≤ ctx.postedToday then
              (.limitStopped, ctx.stop (s!"Fallgrenze je Tag ({tenantDayLimit}) erreicht"), db)
            else if found.counterAccountFound = false then (.refused, ctx, db)
            else match found.entryId with
              | none => (.refused, ctx, db)
              | some entryId =>
                (.posted, ctx.count rule, recordAuto db run txId rule entryId moment found.sameFeatures)

/-- Open movements by booking day. -/
def openTransactions (db : Db) : List BankTransactionId :=
  ((db.bankTransactions.zipIdx.filter fun found => found.1.status = .new).insertionSort
    fun first second => first.1.bookingDate ≤ second.1.bookingDate).map Prod.snd

/-- A run: whether the runner is on, its times, and what is found of the movements on the way. -/
structure RunRequest where
  enabled : Bool
  started : Instant
  /-- Time of the decision on each movement in turn. -/
  clock : ℕ → Instant
  later : ∀ turn, started ≤ clock turn
  assess : Db → BankTransactionId → Assessment

/-- The open movements in turn, until a limit is reached. -/
def postOpen (request : RunRequest) (run : ℕ) : List BankTransactionId → ℕ → RunContext × Db → RunContext × Db
  | [], _, now => now
  | txId :: rest, turn, (ctx, db) =>
    if ctx.stopped.isSome then (ctx, db)
    else
      let (counter, later, next) := autoPostTransaction db ctx run txId (request.assess db txId) (request.clock turn)
      postOpen request run rest (turn + 1) ({ later with answers := later.answers ++ [counter] }, next)

structure State where
  db : Db
  /-- Runs that have read their context and not yet tried the lock. -/
  waiting : List (RunContext × RunRequest) := []
  /-- Number of runs that got the lock. -/
  runs : ℕ := 0

inductive Call
  /-- A run reads its context. -/
  | begin (request : RunRequest)
  /-- It gets the lock, posts and commits. -/
  | execute (place : ℕ)
  /-- Another run holds the lock. -/
  | giveUp (place : ℕ)
  /-- A person reverses the posting of a movement and books it again. -/
  | correct (txId : BankTransactionId) (entryId : Option EntryId) (learning : Bool) (moment : Instant)
  /-- A request of another part of the program. -/
  | elsewhere (tables : Db)

/-- The movement under its new posting; the rule no longer applies to it. -/
def correct (db : Db) (txId : BankTransactionId) (entryId : Option EntryId) (learning : Bool) (moment : Instant) :
    Result Db := do
  let tx ← orRefuse db.bankTransactions[txId]? .resourceNotFound
  require (tx.journalEntryId ≠ none) .conflict
    (some "Der Umsatz trägt keine gebuchte, nicht stornierte Buchung.")
  let entryId ← orRefuse entryId .validation
  pure { db with
    bankTransactions := db.bankTransactions.set txId
      { tx with status := .booked, matchedRuleId := none, journalEntryId := some entryId }
    postingDecisions :=
      if learning then closeRound db.postingDecisions
        { bankTransactionId := txId, status := .modified, decidedAt := some moment, journalEntryId := some entryId }
        true
      else db.postingDecisions }

/-- Closed decisions are immutable, and only the runner writes automatic ones. -/
def besideRunner (db tables : Db) : Result Db := do
  require (tables.postingDecisions.filter (fun decision => decision.status = .autoPosted) =
    db.postingDecisions.filter fun decision => decision.status = .autoPosted) .databaseRefused
  pure { tables with autoPosted := db.autoPosted }

def step (zone : TimeZone) (state : State) : Call → Result State
  | .begin request =>
    match contextForTenant state.db request.enabled (zone.localDate request.started) with
    | none => pure state
    | some ctx => pure { state with waiting := state.waiting ++ [(ctx, request)] }
  | .execute place => do
      let (ctx, request) ← orRefuse state.waiting[place]? .resourceNotFound
      let (_, db) := postOpen request state.runs (openTransactions state.db) 0 (ctx, state.db)
      pure { db, waiting := state.waiting.eraseIdx place, runs := state.runs + 1 }
  | .giveUp place => pure { state with waiting := state.waiting.eraseIdx place }
  | .correct txId entryId learning moment => do
      let db ← correct state.db txId entryId learning moment
      pure { state with db }
  | .elsewhere tables => do
      let db ← besideRunner state.db tables
      pure { state with db }

end Mhvp.Banking.Runner
