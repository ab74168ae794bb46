import Mhvp.Requests.IdempotencyRuns

namespace Mhvp.Requests

open Core Auth Lib.Transition

variable {State Env : Type} {application : Application State Env} {requests : RequestId → Request}

/-- The API key has a wrong secret. -/
def forged (application : Application State Env) (request : Request) : Bool :=
  match request.bearer, request.apiKey with
  | none, some (some key) => application.secretOf key.tenantId key.keyPrefix ≠ some key.secret
  | _, _ => false

/-- Forged requests go to endpoints with authentication, and share no record with other requests. -/
structure Apart (application : Application State Env) (requests : RequestId → Request) : Prop where
  closed : ∀ id, forged application (requests id) = true → application.isOpen (requests id) = false
  keys : ∀ id other key, forged application (requests id) = true → admission (requests id) = .recorded key →
    admission (requests other) = .recorded key → forged application (requests other) = true

def Event.ofForged (application : Application State Env) (requests : RequestId → Request) : Event Env → Bool
  | .advance id _ | .lose id => forged application (requests id)
  | .expire _ => false

theorem serve_forged (isForged : forged application request = true)
    (closed : application.isOpen request = false) (state : State) (env : Env) :
    serve application state env request = (state, some (application.rejection request)) := by
  unfold serve
  rw [if_neg (by simp [closed])]
  unfold forged at isForged
  split at isForged
  · rename_i key noBearer isKey
    have different := of_decide_eq_true isForged
    rw [noBearer, isKey]
    exact if_neg fun both => different both.1
  · cases isForged

/-- The answer of a rejection of some forged request. -/
def Rejected (application : Application State Env) (requests : RequestId → Request) (answer : Answer) : Prop :=
  ∃ id, forged application (requests id) = true ∧ answer = application.rejection (requests id)

/-- The answer in a record. -/
def Record.carried : Record → Option Answer
  | .inProgress _ => none
  | .done _ answer => some answer

theorem carried_reply (outcome : Option Answer) : (Phase.answered (replyOf outcome)).carried = outcome := by
  cases outcome <;> rfl

/-- The view holds rejections only. -/
def View.Rejecting (application : Application State Env) (requests : RequestId → Request) (view : View State) : Prop :=
  (∀ answer ∈ view.phase.carried, Rejected application requests answer) ∧
    ∀ record ∈ view.record, ∀ answer ∈ record.carried, Rejected application requests answer

theorem forged_progressed {id : RequestId} (isForged : forged application (requests id) = true)
    (closed : application.isOpen (requests id) = false) {view after : View State}
    (rejecting : view.Rejecting application requests)
    (progressed : Progressed application (requests id) view after) :
    after.app = view.app ∧ after.Rejecting application requests := by
  obtain ⟨phaseRejects, recordRejects⟩ := rejecting
  cases progressed with
  | waits phase before idle empty =>
    refine ⟨rfl, ?_, recordRejects⟩
    rw [empty]
    nofun
  | replays answer before found =>
    refine ⟨rfl, ?_, recordRejects⟩
    rintro _ ⟨⟩
    exact recordRejects _ found answer rfl
  | takes before free =>
    refine ⟨rfl, nofun, ?_⟩
    rintro _ ⟨⟩
    nofun
  | serves before env =>
    rw [serve_forged isForged closed]
    refine ⟨rfl, ?_, recordRejects⟩
    rintro _ ⟨⟩
    exact ⟨id, isForged, rfl⟩
  | stores outcome before record written =>
    have outcomeRejects : ∀ answer ∈ outcome, Rejected application requests answer := by
      rw [before] at phaseRejects
      exact phaseRejects
    refine ⟨rfl, ?_, ?_⟩
    · intro answer carried
      rw [carried_reply] at carried
      exact outcomeRejects answer carried
    · rcases written with rfl | rfl | ⟨answer, isOutcome, -, rfl⟩
      · exact recordRejects
      · nofun
      · rintro _ ⟨⟩ _ ⟨⟩
        exact outcomeRejects answer isOutcome
  | ended => exact ⟨rfl, phaseRejects, recordRejects⟩

theorem forged_plain {id : RequestId} (isForged : forged application (requests id) = true)
    (closed : application.isOpen (requests id) = false) {view : View State}
    (rejecting : ∀ answer ∈ view.phase.carried, Rejected application requests answer) (input : Input Env) :
    (progressPlain application (requests id) input view).app = view.app ∧
      ∀ answer ∈ (progressPlain application (requests id) input view).phase.carried,
        Rejected application requests answer := by
  unfold progressPlain
  split
  · exact ⟨rfl, nofun⟩
  · dsimp only
    rw [serve_forged isForged closed]
    refine ⟨rfl, ?_⟩
    rintro _ ⟨⟩
    exact ⟨id, isForged, rfl⟩
  · exact ⟨rfl, rejecting⟩

theorem refuseKey_carried (view : View State)
    (rejecting : ∀ answer ∈ view.phase.carried, Rejected application requests answer) :
    ∀ answer ∈ (refuseKey view).phase.carried, Rejected application requests answer := by
  unfold refuseKey
  split
  · nofun
  · exact rejecting

theorem losePhase_carried (phase : Phase) (rejecting : ∀ answer ∈ phase.carried, Rejected application requests answer) :
    ∀ answer ∈ (losePhase phase).carried, Rejected application requests answer := by
  unfold losePhase
  split
  · nofun
  · exact rejecting
  · nofun

/-- Forged requests and their records hold rejections only. -/
structure Contained (application : Application State Env) (requests : RequestId → Request) (server : Server State) :
    Prop where
  phase : ∀ id, forged application (requests id) = true → ∀ answer ∈ (server.phase id).carried,
    Rejected application requests answer
  records : ∀ id key, forged application (requests id) = true → admission (requests id) = .recorded key →
    ∀ record ∈ server.records key, ∀ answer ∈ record.carried, Rejected application requests answer

theorem Contained.view {id : RequestId} (contained : Contained application requests server)
    (isForged : forged application (requests id) = true) (isKey : admission (requests id) = .recorded key) :
    (server.view id (server.records key)).Rejecting application requests :=
  ⟨contained.phase id isForged, contained.records id key isForged isKey⟩

theorem Contained.setPhase (contained : Contained application requests server) (id : RequestId) (phase : Phase)
    (app : State) (rejects : forged application (requests id) = true → ∀ answer ∈ phase.carried,
      Rejected application requests answer) :
    Contained application requests { server with app, phase := Function.update server.phase id phase } := by
  refine ⟨?_, contained.records⟩
  intro other isForged answer carried
  by_cases same : other = id
  · subst same
    simp only [Function.update_self] at carried
    exact rejects isForged answer carried
  · simp only [Function.update_of_ne same] at carried
    exact contained.phase other isForged answer carried

theorem Contained.setRecord (contained : Contained application requests server) (key : RecordKey) (record : Option Record)
    (rejects : ∀ id, forged application (requests id) = true → admission (requests id) = .recorded key →
      ∀ written ∈ record, ∀ answer ∈ written.carried, Rejected application requests answer) :
    Contained application requests { server with records := Function.update server.records key record } := by
  refine ⟨contained.phase, ?_⟩
  intro id other isForged isKey written isRecord
  by_cases same : other = key
  · subst same
    simp only [Function.update_self] at isRecord
    exact rejects id isForged isKey written isRecord
  · simp only [Function.update_of_ne same] at isRecord
    exact contained.records id other isForged isKey written isRecord

theorem contained_step (apart : Apart application requests) (server : Server State) (event : Event Env)
    (next : Server State) (contained : Contained application requests server)
    (accepted : serverStep application requests server event = .ok next) : Contained application requests next := by
  cases event with
  | lose id =>
    simp only [serverStep, pure_ok] at accepted
    subst accepted
    apply contained.setPhase id _ server.app
    exact fun isForged => losePhase_carried _ (contained.phase id isForged)
  | expire key =>
    simp only [serverStep, pure_ok] at accepted
    subst accepted
    apply contained.setRecord key
    exact fun _ _ _ _ isRecord => by cases isRecord
  | advance id input =>
    simp only [serverStep, pure_ok] at accepted
    subst accepted
    unfold advance
    split
    · apply contained.setPhase id
      intro isForged
      exact (forged_plain isForged (apart.closed id isForged) (contained.phase id isForged) input).2
    · apply contained.setPhase id _ server.app
      exact fun isForged => refuseKey_carried _ (contained.phase id isForged)
    · rename_i key isKey
      have progressed := progressRecorded_cases application (requests id) input (server.view id (server.records key))
      have recorded := contained.setRecord key
        (progressRecorded application (requests id) input (server.view id (server.records key))).record (by
          intro other isForged isKeyToo
          have forgedToo := apart.keys other id key isForged isKeyToo isKey
          exact (forged_progressed forgedToo (apart.closed id forgedToo) (contained.view forgedToo isKey)
            progressed).2.2)
      apply recorded.setPhase id
      intro isForged
      exact (forged_progressed isForged (apart.closed id isForged) (contained.view isForged isKey) progressed).2.1

/-- Alike in all that other requests than forged ones use. -/
structure Agree (application : Application State Env) (requests : RequestId → Request) (first second : Server State) :
    Prop where
  app : first.app = second.app
  phase : ∀ id, forged application (requests id) = false → first.phase id = second.phase id
  records : ∀ key, (∀ id, admission (requests id) = .recorded key → forged application (requests id) = false) →
    first.records key = second.records key

theorem forged_frame (apart : Apart application requests) (contained : Contained application requests first)
    (agree : Agree application requests first second) (isForged : event.ofForged application requests = true)
    (accepted : serverStep application requests first event = .ok next) : Agree application requests next second := by
  have others : ∀ {id other : RequestId} {phase : Phase}, forged application (requests id) = true →
      forged application (requests other) = false →
      Function.update first.phase id phase other = second.phase other := by
    intro id other phase idForged honest
    rw [Function.update_of_ne]
    · exact agree.phase other honest
    · rintro rfl
      rw [idForged] at honest
      cases honest
  cases event with
  | expire key => cases isForged
  | lose id =>
    simp only [serverStep, pure_ok] at accepted
    subst accepted
    exact { agree with phase := fun other honest => others isForged honest }
  | advance id input =>
    have closed := apart.closed id isForged
    simp only [serverStep, pure_ok] at accepted
    subst accepted
    unfold advance
    split
    · have sameApp : (progressPlain application (requests id) input (first.view id none)).app = first.app :=
        (forged_plain isForged closed (contained.phase id isForged) input).1
      exact ⟨sameApp.trans agree.app, fun other honest => others isForged honest, agree.records⟩
    · exact { agree with phase := fun other honest => others isForged honest }
    · rename_i key isKey
      have progressed := progressRecorded_cases application (requests id) input (first.view id (first.records key))
      have sameApp := (forged_progressed isForged closed (contained.view isForged isKey) progressed).1
      refine ⟨sameApp.trans agree.app, fun other honest => others isForged honest, ?_⟩
      intro other unused
      have different : other ≠ key := by
        rintro rfl
        have honest := unused id isKey
        rw [show forged application (requests id) = true from isForged] at honest
        cases honest
      exact (Function.update_of_ne different ..).trans (agree.records other unused)

theorem honest_step (apart : Apart application requests) (agree : Agree application requests first second)
    (honest : event.ofForged application requests = false)
    (accepted : serverStep application requests first event = .ok next)
    (acceptedToo : serverStep application requests second event = .ok nextSecond) :
    Agree application requests next nextSecond := by
  have updated : ∀ {id : RequestId} {phase : Phase} (other : RequestId), forged application (requests other) = false →
      Function.update first.phase id phase other = Function.update second.phase id phase other := by
    intro id phase other isHonest
    by_cases same : other = id
    · subst same
      rw [Function.update_self, Function.update_self]
    · rw [Function.update_of_ne same, Function.update_of_ne same]
      exact agree.phase other isHonest
  cases event with
  | expire key =>
    simp only [serverStep, pure_ok] at accepted acceptedToo
    subst accepted acceptedToo
    refine { agree with records := ?_ }
    intro other unused
    by_cases same : other = key
    · subst same
      simp
    · simp only [Function.update_of_ne same]
      exact agree.records other unused
  | lose id =>
    simp only [serverStep, pure_ok] at accepted acceptedToo
    subst accepted acceptedToo
    rw [agree.phase id honest]
    exact { agree with phase := updated }
  | advance id input =>
    have sameView : ∀ record, first.view id record = second.view id record := by
      intro record
      unfold Server.view
      rw [agree.app, agree.phase id honest]
    simp only [serverStep, pure_ok] at accepted acceptedToo
    subst accepted acceptedToo
    unfold advance
    split
    · rw [sameView]
      exact ⟨rfl, updated, agree.records⟩
    · rw [sameView]
      exact { agree with phase := updated }
    · rename_i key isKey
      have sameRecord : first.records key = second.records key := by
        apply agree.records key
        intro other isKeyToo
        cases isForged : forged application (requests other) with
        | false => rfl
        | true =>
          have forgedToo := apart.keys other id key isForged isKeyToo isKey
          rw [show forged application (requests id) = false from honest] at forgedToo
          cases forgedToo
      rw [sameView, sameRecord]
      refine ⟨rfl, updated, ?_⟩
      intro other unused
      by_cases same : other = key
      · subst same
        simp
      · simp only [Function.update_of_ne same]
        exact agree.records other unused

theorem serverStep_ok (server : Server State) (event : Event Env) :
    serverStep application requests server event = .ok (commit (serverStep application requests) server event) := by
  rcases commit_cases (serverStep application requests) server event with same | accepted
  · cases event <;> rfl
  · exact accepted

def honest (application : Application State Env) (requests : RequestId → Request) (event : Event Env) : Bool :=
  !event.ofForged application requests

theorem agree_run (apart : Apart application requests) (events : List (Event Env))
    (contained : Contained application requests first) (agree : Agree application requests first second) :
    Agree application requests (run (serverStep application requests) first events)
      (run (serverStep application requests) second (events.filter (honest application requests))) := by
  induction events generalizing first second with
  | nil => exact agree
  | cons event rest ih =>
    have accepted : serverStep application requests first event =
        .ok (commit (serverStep application requests) first event) := serverStep_ok first event
    have containedLater := contained_step apart first event _ contained accepted
    cases isForged : event.ofForged application requests with
    | true =>
      rw [List.filter_cons_of_neg (by simp [honest, isForged]), run_cons]
      exact ih containedLater (forged_frame apart contained agree isForged accepted)
    | false =>
      rw [List.filter_cons_of_pos (by simp [honest, isForged]), run_cons, run_cons]
      exact ih containedLater (honest_step apart agree isForged accepted (serverStep_ok second event))

/-- Runs that differ in forged requests only answer all others alike, and a forged request gets rejections only. -/
theorem forged_key_runs (apart : Apart application requests) (app : State) (events otherEvents : List (Event Env))
    (alike : events.filter (honest application requests) = otherEvents.filter (honest application requests)) :
    (∀ id, forged application (requests id) = false →
      (run (serverStep application requests) { app } events).phase id =
        (run (serverStep application requests) { app } otherEvents).phase id) ∧
    ∀ id, forged application (requests id) = true →
      ∀ answer ∈ ((run (serverStep application requests) { app } events).phase id).carried,
        Rejected application requests answer := by
  have contained : Contained application requests { app } := ⟨fun _ _ => nofun, fun _ _ _ _ => nofun⟩
  have agree : Agree application requests { app } { app } := ⟨rfl, fun _ _ => rfl, fun _ _ => rfl⟩
  constructor
  · intro id isHonest
    have left := (agree_run apart events contained agree).phase id isHonest
    have right := (agree_run apart otherEvents contained agree).phase id isHonest
    rw [left, right, alike]
  · exact (run_invariant (contained_step apart) events contained).phase

private def withKeys : Application ℕ Unit where
  secretOf tenantId keyPrefix := if tenantId = 1 ∧ keyPrefix = "p" then some 10 else none
  usable _ _ _ := true
  touch state _ _ := state
  isOpen _ := false
  endpoint state _ _ := (state + 1, some { status := 201, body := [state.toUInt8] })
  rejection _ := { status := 401 }

private def withSecret (secret : Secret) (key : String) : Request :=
  { method := .post, path := encode "/rows", idempotencyKey := some key,
    apiKey := some (some { tenantId := 1, keyPrefix := "p", secret }) }

/-- Request 1 has a wrong secret. -/
private def twoClients (forgedKey key : String) (id : RequestId) : Request :=
  if id = 1 then withSecret 11 forgedKey else withSecret 10 key

private def inOrder (ids : List RequestId) : List (Event Unit) :=
  ids.flatMap fun id => List.replicate 4 (.advance id { env := () })

private def served (forgedKey : String) (ids : List RequestId) : Server ℕ :=
  run (serverStep withKeys (twoClients forgedKey "k")) { app := 0 } (inOrder ids)

theorem sample_forged_key_runs : (served "own" [1, 0]).phase 0 = (served "own" [0]).phase 0 := by
  have apart : Apart withKeys (twoClients "own" "k") := by
    refine ⟨fun _ _ => rfl, ?_⟩
    intro id other key isForged isKey isKeyToo
    by_cases one : other = 1
    · rw [one]
      decide +kernel
    · have isOne : id = 1 := by
        by_contra different
        rw [twoClients, if_neg different] at isForged
        exact absurd isForged (by decide +kernel)
      rw [isOne] at isKey
      rw [twoClients, if_neg one] at isKeyToo
      exact absurd (isKey.trans isKeyToo.symm) (by decide +kernel)
  exact (forged_key_runs apart 0 (inOrder [1, 0]) (inOrder [0]) rfl).1 0 (by decide +kernel)

/-- The forged request gets the answer of the other client, or its rejection is replayed to that client. -/
theorem forged_gets_answer :
    (served "k" [0, 1]).phase 1 = .answered (.replayed { status := 201, body := [0] }) ∧
    (served "k" [1, 0]).phase 0 = .answered (.replayed { status := 401 }) ∧
    (served "k" [0]).phase 0 = .answered (.own { status := 201, body := [0] }) := by
  decide +kernel

end Mhvp.Requests
