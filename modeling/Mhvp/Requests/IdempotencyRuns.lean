import Mhvp.Requests.Idempotency

namespace Mhvp.Requests

open Core Lib.Transition

variable {State Env : Type} {application : Application State Env} {requests : RequestId → Request}

theorem append_cons_inj (free : separator ∉ first) (freeToo : separator ∉ second)
    (same : first ++ separator :: restFirst = second ++ separator :: restSecond) :
    first = second ∧ restFirst = restSecond := by
  induction first generalizing second with
  | nil =>
    cases second with
    | nil => exact ⟨rfl, (List.cons.inj same).2⟩
    | cons head rest => exact absurd (List.mem_cons.mpr (Or.inl (List.cons.inj same).1)) freeToo
  | cons head rest ih =>
    cases second with
    | nil => exact absurd (List.mem_cons.mpr (Or.inl (List.cons.inj same).1.symm)) free
    | cons other rest' =>
      obtain ⟨rfl, tails⟩ := List.cons.inj same
      obtain ⟨rfl, rfl⟩ := ih (fun member => free (List.mem_cons_of_mem _ member))
        (fun member => freeToo (List.mem_cons_of_mem _ member)) tails
      exact ⟨rfl, rfl⟩

theorem lineBreak_notMem_method (method : Method) : lineBreak ∉ method.bytes := by
  cases method <;> decide

theorem method_bytes_inj : ∀ {first second : Method}, first.bytes = second.bytes → first = second := by
  intro first second
  cases first <;> cases second <;> decide

/-- Requests with one fingerprint differ in the query string at most, unless a path has a line break. -/
theorem fingerprint_inj (free : lineBreak ∉ first.path) (freeToo : lineBreak ∉ second.path)
    (same : fingerprint first = fingerprint second) :
    first.method = second.method ∧ first.path = second.path ∧ first.body = second.body := by
  obtain ⟨sameMethod, rest⟩ :=
    append_cons_inj (lineBreak_notMem_method first.method) (lineBreak_notMem_method second.method) same
  obtain ⟨samePath, sameBody⟩ := append_cons_inj free freeToo rest
  exact ⟨method_bytes_inj sameMethod, samePath, sameBody⟩

/-- The application runs, or has ended and its record is not written yet. -/
def Phase.holds : Phase → Bool
  | .executing | .storing _ => true
  | _ => false

def Phase.waits : Phase → Bool
  | .absent | .claiming | .looking | .retrying | .lookingAgain => true
  | _ => false

/-- The answer of the application that a request carries. -/
def Phase.carried : Phase → Option Answer
  | .storing outcome => outcome
  | .answered (.own answer) | .answered (.replayed answer) => some answer
  | _ => none

inductive Progressed (application : Application State Env) (request : Request) (view : View State) : View State → Prop
  | waits (phase : Phase) (before : view.phase.waits = true) (idle : phase.holds = false)
      (empty : phase.carried = none) :
      Progressed application request view { view with phase }
  | replays (answer : Answer) (before : view.phase.waits = true)
      (found : view.record = some (.done (fingerprint request) answer)) :
      Progressed application request view { view with phase := .answered (.replayed answer) }
  | takes (before : view.phase.waits = true) (free : view.record = none) :
      Progressed application request view
        { view with record := some (.inProgress (fingerprint request)), phase := .executing }
  | serves (before : view.phase = .executing) (env : Env) : Progressed application request view
      { view with app := (serve application view.app env request).1,
                  phase := .storing (serve application view.app env request).2 }
  | stores (outcome : Option Answer) (before : view.phase = .storing outcome) (record : Option Record)
      (written : record = view.record ∨ record = none ∨
        ∃ answer, outcome = some answer ∧ storable answer = true ∧ record = some (.done (fingerprint request) answer)) :
      Progressed application request view { view with record, phase := .answered (replyOf outcome) }
  | ended (reply : Reply) (before : view.phase = .answered reply) : Progressed application request view view

theorem replayOrConflict_cases (existing : Option Record) (print : Bytes) :
    (∃ error, replayOrConflict existing print = .problem error) ∨
      ∃ answer, existing = some (.done print answer) ∧ replayOrConflict existing print = .replayed answer := by
  cases existing with
  | none => exact Or.inl ⟨_, rfl⟩
  | some record =>
    unfold replayOrConflict
    by_cases different : record.print ≠ print
    · exact Or.inl ⟨_, if_pos different⟩
    cases record with
    | inProgress _ => exact Or.inl ⟨_, if_neg different⟩
    | done _ answer =>
      obtain rfl := not_not.mp different
      exact Or.inr ⟨answer, rfl, if_neg different⟩

section

variable (request : Request) (view : View State) (before : view.phase.waits = true)
include request view before

theorem reply_progressed :
    Progressed application request view
      { view with phase := .answered (replayOrConflict view.record (fingerprint request)) } := by
  rcases replayOrConflict_cases view.record (fingerprint request) with ⟨error, isProblem⟩ | ⟨answer, found, isAnswer⟩
  · rw [isProblem]
    exact .waits _ before rfl rfl
  · rw [isAnswer]
    exact .replays answer before found

theorem take_progressed (refused : Phase)
    (waits : refused.waits = true) : Progressed application request view (take request view refused) := by
  unfold take
  split
  · rename_i free
    exact .takes before free
  · apply Progressed.waits refused before
    · cases refused with
      | executing | storing => exact nomatch waits
      | _ => rfl
    · cases refused with
      | storing | answered => exact nomatch waits
      | _ => rfl

end

theorem progressRecorded_cases (application : Application State Env) (request : Request) (input : Input Env)
    (view : View State) : Progressed application request view (progressRecorded application request input view) := by
  unfold progressRecorded
  cases phase : view.phase with
  | absent => exact .waits _ (by rw [phase]; rfl) rfl rfl
  | claiming => exact take_progressed request view (by rw [phase]; rfl) .looking rfl
  | looking =>
    dsimp only
    split
    · exact .waits _ (by rw [phase]; rfl) rfl rfl
    · exact reply_progressed request view (by rw [phase]; rfl)
  | retrying => exact take_progressed request view (by rw [phase]; rfl) .lookingAgain rfl
  | lookingAgain => exact reply_progressed request view (by rw [phase]; rfl)
  | executing => exact .serves phase input.env
  | storing outcome =>
    apply Progressed.stores outcome phase
    cases input.redisFails with
    | true => exact Or.inl rfl
    | false =>
      apply Or.inr
      cases outcome with
      | none => exact Or.inl rfl
      | some answer =>
        by_cases kept : storable answer = true
        · exact Or.inr ⟨answer, rfl, kept, by simp [kept]⟩
        · exact Or.inl (by simp [kept])
  | answered reply => exact .ended reply phase

/-- Some request with this key and fingerprint was executed, and its answer may be stored. -/
def Produced (requests : RequestId → Request) (phase : RequestId → Phase) (key : RecordKey) (print : Bytes)
    (answer : Answer) : Prop :=
  ∃ id, admission (requests id) = .recorded key ∧ fingerprint (requests id) = print ∧
    phase id = .answered (.own answer) ∧ storable answer = true

structure Exclusive (requests : RequestId → Request) (records : RecordKey → Option Record)
    (phase : RequestId → Phase) : Prop where
  held : ∀ id key, admission (requests id) = .recorded key → (phase id).holds = true →
    records key = some (.inProgress (fingerprint (requests id)))
  alone : ∀ id other key, admission (requests id) = .recorded key → admission (requests other) = .recorded key →
    (phase id).holds = true → (phase other).holds = true → id = other
  done : ∀ key print answer, records key = some (.done print answer) → Produced requests phase key print answer
  replayed : ∀ id key answer, admission (requests id) = .recorded key → phase id = .answered (.replayed answer) →
    Produced requests phase key (fingerprint (requests id)) answer

section Steps

variable {records : RecordKey → Option Record} {phase : RequestId → Phase} {id : RequestId} {key : RecordKey}

theorem Produced.update (produced : Produced requests phase key print answer)
    (open' : ∀ reply, phase id ≠ .answered reply) (new : Phase) :
    Produced requests (Function.update phase id new) key print answer := by
  obtain ⟨other, admitted, prints, answered, fits⟩ := produced
  refine ⟨other, admitted, prints, ?_, fits⟩
  rw [Function.update_of_ne (fun same => open' _ (same ▸ answered))]
  exact answered

theorem Phase.open_of_waits (waits : (phase id).waits = true) : ∀ reply, phase id ≠ .answered reply := by
  intro reply answered
  rw [answered] at waits
  cases waits

section

variable (exclusive : Exclusive requests records phase)
include exclusive

theorem Exclusive.setPhase (open' : ∀ reply, phase id ≠ .answered reply)
    (new : Phase)
    (heldBefore : ∀ key, admission (requests id) = .recorded key → new.holds = true → (phase id).holds = true)
    (source : ∀ key answer, admission (requests id) = .recorded key → new = .answered (.replayed answer) →
      Produced requests phase key (fingerprint (requests id)) answer) :
    Exclusive requests records (Function.update phase id new) := by
  have before : ∀ other key, admission (requests other) = .recorded key →
      (Function.update phase id new other).holds = true → (phase other).holds = true := by
    intro other key admitted holds
    by_cases same : other = id
    · subst same
      rw [Function.update_self] at holds
      exact heldBefore key admitted holds
    · rwa [Function.update_of_ne same] at holds
  refine ⟨?_, ?_, ?_, ?_⟩
  · intro other key admitted holds
    exact exclusive.held other key admitted (before other key admitted holds)
  · intro one other key admitted admittedToo holds holdsToo
    exact exclusive.alone one other key admitted admittedToo (before one key admitted holds)
      (before other key admittedToo holdsToo)
  · intro key print answer found
    exact (exclusive.done key print answer found).update open' new
  · intro other key answer admitted replayed
    by_cases same : other = id
    · subst same
      rw [Function.update_self] at replayed
      exact (source key answer admitted replayed).update open' new
    · rw [Function.update_of_ne same] at replayed
      exact (exclusive.replayed other key answer admitted replayed).update open' new

theorem Exclusive.takes (admitted : admission (requests id) = .recorded key)
    (waits : (phase id).waits = true) (free : records key = none) :
    Exclusive requests (Function.update records key (some (.inProgress (fingerprint (requests id)))))
      (Function.update phase id .executing) := by
  have open' := Phase.open_of_waits waits
  -- nobody else holds the key: the record would be there
  have nobody : ∀ other, admission (requests other) = .recorded key → (phase other).holds = false := by
    intro other admittedToo
    cases holds : (phase other).holds with
    | false => rfl
    | true =>
      have found := exclusive.held other key admittedToo holds
      rw [free] at found
      cases found
  have onlyId : ∀ other, admission (requests other) = .recorded key →
      (Function.update phase id .executing other).holds = true → other = id := by
    intro other admittedToo holds
    by_contra different
    rw [Function.update_of_ne different, nobody other admittedToo] at holds
    cases holds
  refine ⟨?_, ?_, ?_, ?_⟩
  · intro other key' admittedToo holds
    by_cases sameKey : key' = key
    · subst sameKey
      rw [onlyId other admittedToo holds, Function.update_self]
    · have different : other ≠ id := by
        rintro rfl
        rw [admitted, Admission.recorded.injEq] at admittedToo
        exact sameKey admittedToo.symm
      rw [Function.update_of_ne sameKey]
      rw [Function.update_of_ne different] at holds
      exact exclusive.held other key' admittedToo holds
  · intro one other key' admittedOne admittedOther holds holdsToo
    by_cases sameKey : key' = key
    · subst sameKey
      exact (onlyId one admittedOne holds).trans (onlyId other admittedOther holdsToo).symm
    · have different : ∀ other, admission (requests other) = .recorded key' → other ≠ id := by
        rintro other admittedToo rfl
        rw [admitted, Admission.recorded.injEq] at admittedToo
        exact sameKey admittedToo.symm
      rw [Function.update_of_ne (different one admittedOne)] at holds
      rw [Function.update_of_ne (different other admittedOther)] at holdsToo
      exact exclusive.alone one other key' admittedOne admittedOther holds holdsToo
  · intro key' print answer found
    by_cases sameKey : key' = key
    · subst sameKey
      rw [Function.update_self] at found
      cases found
    · rw [Function.update_of_ne sameKey] at found
      exact (exclusive.done key' print answer found).update open' _
  · intro other key' answer admittedToo replayed
    by_cases same : other = id
    · subst same
      rw [Function.update_self] at replayed
      cases replayed
    · rw [Function.update_of_ne same] at replayed
      exact (exclusive.replayed other key' answer admittedToo replayed).update open' _

theorem Exclusive.stores (admitted : admission (requests id) = .recorded key) (storing : phase id = .storing outcome) (record : Option Record)
    (written : record = records key ∨ record = none ∨ ∃ answer, outcome = some answer ∧ storable answer = true ∧
      record = some (.done (fingerprint (requests id)) answer)) :
    Exclusive requests (Function.update records key record)
      (Function.update phase id (.answered (replyOf outcome))) := by
  have holdsNow : (phase id).holds = true := by rw [storing]; rfl
  have open' : ∀ reply, phase id ≠ .answered reply := by
    intro reply answered
    rw [storing] at answered
    cases answered
  have notReplayed : ∀ answer, replyOf outcome ≠ .replayed answer := by
    intro answer
    cases outcome <;> simp [replyOf]
  have released : Exclusive requests records (Function.update phase id (.answered (replyOf outcome))) := by
    apply exclusive.setPhase open'
    · exact fun _ _ holds => nomatch holds
    · intro key answer _ replayed
      exact absurd (Phase.answered.inj replayed) (notReplayed answer)
  -- nobody holds the key any more
  have others : ∀ other key', admission (requests other) = .recorded key' →
      (Function.update phase id (.answered (replyOf outcome)) other).holds = true → key' ≠ key := by
    rintro other key' admittedToo holds rfl
    by_cases same : other = id
    · rw [same, Function.update_self] at holds
      cases holds
    · rw [Function.update_of_ne same] at holds
      exact same (exclusive.alone other id key' admittedToo admitted holds holdsNow)
  refine { released with held := ?_, done := ?_ }
  · intro other key' admittedToo holds
    rw [Function.update_of_ne (others other key' admittedToo holds)]
    exact released.held other key' admittedToo holds
  · intro key' print answer found
    by_cases sameKey : key' = key
    · subst sameKey
      rw [Function.update_self] at found
      rcases written with kept | gone | ⟨stored, isOutcome, fits, isRecord⟩
      · exact released.done key' print answer (kept ▸ found)
      · rw [gone] at found
        cases found
      · rw [isRecord, Option.some.injEq, Record.done.injEq] at found
        obtain ⟨rfl, rfl⟩ := found
        exact ⟨id, admitted, rfl, by rw [Function.update_self, isOutcome]; rfl, fits⟩
    · rw [Function.update_of_ne sameKey] at found
      exact released.done key' print answer found

theorem Exclusive.advance (admitted : admission (requests id) = .recorded key)
    (progressed : Progressed application (requests id) { app, record := records key, phase := phase id } after) :
    Exclusive requests (Function.update records key after.record) (Function.update phase id after.phase) := by
  cases progressed with
  | waits new before idle empty =>
    rw [Function.update_eq_self]
    apply exclusive.setPhase (Phase.open_of_waits before)
    · intro _ _ holds
      rw [idle] at holds
      cases holds
    · intro _ answer _ replayed
      have isReplay : new = .answered (.replayed answer) := replayed
      rw [isReplay] at empty
      cases empty
  | replays answer before found =>
    rw [Function.update_eq_self]
    apply exclusive.setPhase (Phase.open_of_waits before)
    · exact fun _ _ holds => nomatch holds
    · intro key' other admittedToo replayed
      rw [admitted, Admission.recorded.injEq] at admittedToo
      rw [Phase.answered.injEq, Reply.replayed.injEq] at replayed
      subst admittedToo replayed
      exact exclusive.done key _ answer found
  | takes before free => exact exclusive.takes admitted before free
  | serves before env =>
    rw [Function.update_eq_self]
    apply exclusive.setPhase
    · intro reply answered
      have both := before.symm.trans answered
      cases both
    · intro _ _ _
      have executing : phase id = .executing := before
      rw [executing]
      rfl
    · exact fun _ _ _ replayed => nomatch replayed
  | stores outcome before record written => exact exclusive.stores admitted before record written
  | ended reply before =>
    rw [Function.update_eq_self, Function.update_eq_self]
    exact exclusive

theorem Exclusive.expires (unused : ∀ id, admission (requests id) = .recorded key → (phase id).holds = false) :
    Exclusive requests (Function.update records key none) phase := by
  refine { exclusive with held := ?_, done := ?_ }
  · intro id key' isKey holds
    have different : key' ≠ key := by
      rintro rfl
      rw [unused id isKey] at holds
      cases holds
    rw [Function.update_of_ne different]
    exact exclusive.held id key' isKey holds
  · intro key' print answer found
    by_cases same : key' = key
    · rw [same, Function.update_self] at found
      cases found
    · rw [Function.update_of_ne same] at found
      exact exclusive.done key' print answer found

theorem Exclusive.aside (new : Phase)
    (moved : new = phase id ∨ ∀ reply, phase id ≠ .answered reply)
    (idle : ∀ key, admission (requests id) = .recorded key → new.holds = false ∧
      (new = phase id ∨ ∀ answer, new ≠ .answered (.replayed answer))) :
    Exclusive requests records (Function.update phase id new) := by
  rcases moved with rfl | open'
  · rw [Function.update_eq_self]
    exact exclusive
  · apply exclusive.setPhase open'
    · intro key admitted holds
      rw [(idle key admitted).1] at holds
      cases holds
    · intro key answer admitted replayed
      rcases (idle key admitted).2 with rfl | noReplay
      · exact absurd replayed (open' _)
      · exact absurd replayed (noReplay answer)

end

end Steps

theorem progressPlain_moved (application : Application State Env) (request : Request) (input : Input Env)
    (view : View State) : (progressPlain application request input view).phase = view.phase ∨
      ∀ reply, view.phase ≠ .answered reply := by
  cases phase : view.phase with
  | answered reply => exact Or.inl (by simp [progressPlain, phase])
  | _ => exact Or.inr (by simp)

theorem refuseKey_moved (view : View State) : (refuseKey view).phase = view.phase ∨
    ∀ reply, view.phase ≠ .answered reply := by
  cases phase : view.phase with
  | answered reply => exact Or.inl (by simp [refuseKey, phase])
  | _ => exact Or.inr (by simp)

theorem losePhase_moved (phase : Phase) : (losePhase phase = phase ∨ ∀ reply, phase ≠ .answered reply) ∧
    (losePhase phase).holds = false ∧
      (losePhase phase = phase ∨ ∀ answer, losePhase phase ≠ .answered (.replayed answer)) := by
  cases phase <;> simp [losePhase, Phase.holds]

/-- No record expires during its execution. -/
def Unexpired (requests : RequestId → Request) (server : Server State) : Event Env → Prop
  | .expire key => ∀ id, admission (requests id) = .recorded key → (server.phase id).holds = false
  | _ => True

theorem exclusive_step (server : Server State) (event : Event Env) (next : Server State)
    (exclusive : Exclusive requests server.records server.phase) (admitted : Unexpired requests server event)
    (accepted : serverStep application requests server event = .ok next) :
    Exclusive requests next.records next.phase := by
  cases event with
  | lose id =>
    simp only [serverStep, pure_ok] at accepted
    subst accepted
    obtain ⟨moved, idle⟩ := losePhase_moved (server.phase id)
    exact exclusive.aside _ moved fun _ _ => idle
  | expire key =>
    simp only [serverStep, pure_ok] at accepted
    subst accepted
    exact exclusive.expires admitted
  | advance id input =>
    simp only [serverStep, pure_ok] at accepted
    subst accepted
    unfold Requests.advance
    split
    · rename_i plain
      apply exclusive.aside _ (progressPlain_moved application (requests id) input (server.view id none))
      intro key isKey
      rw [plain] at isKey
      cases isKey
    · rename_i invalid
      apply exclusive.aside _ (refuseKey_moved (server.view id none))
      intro key isKey
      rw [invalid] at isKey
      cases isKey
    · rename_i key isKey
      exact exclusive.advance isKey (progressRecorded_cases ..)

theorem done_step (exclusive : Exclusive requests server.records server.phase)
    (done : server.records key = some (.done print answer))
    (accepted : serverStep application requests server event = .ok next)
    (lives : ∀ expired, event = .expire expired → expired ≠ key) :
    next.records key = some (.done print answer) := by
  cases event with
  | lose id =>
    simp only [serverStep, pure_ok] at accepted
    subst accepted
    exact done
  | expire expired =>
    simp only [serverStep, pure_ok] at accepted
    subst accepted
    exact (Function.update_of_ne (Ne.symm (lives expired rfl)) ..).trans done
  | advance id input =>
    simp only [serverStep, pure_ok] at accepted
    subst accepted
    unfold Requests.advance
    split
    · exact done
    · exact done
    · rename_i key' isKey
      by_cases same : key = key'
      · subst same
        have progressed := progressRecorded_cases application (requests id) input (server.view id (server.records key))
        refine (Function.update_self ..).trans ?_
        revert progressed
        generalize progressRecorded application (requests id) input (server.view id (server.records key)) = after
        intro progressed
        cases progressed with
        | waits | replays | serves | ended => exact done
        | takes before free =>
          have both := free.symm.trans done
          cases both
        | stores outcome before =>
          -- its record would still be in progress
          have holds : (server.phase id).holds = true := by
            have storing : server.phase id = .storing outcome := before
            rw [storing]
            rfl
          have both := (exclusive.held id key isKey holds).symm.trans done
          cases both
      · exact (Function.update_of_ne same ..).trans done

theorem done_run (later : List (Event Env)) (exclusive : Exclusive requests server.records server.phase)
    (done : server.records key = some (.done print answer))
    (unexpired : Guarded (serverStep application requests) (Unexpired requests) server later)
    (lives : ∀ expired, .expire expired ∈ later → expired ≠ key) :
    (run (serverStep application requests) server later).records key = some (.done print answer) ∧
      ∀ id, admission (requests id) = .recorded key →
        ((run (serverStep application requests) server later).phase id).holds = false := by
  induction later generalizing server with
  | nil =>
    refine ⟨done, ?_⟩
    intro id isKey
    cases holds : (server.phase id).holds with
    | false => exact holds
    | true =>
      have both := (exclusive.held id key isKey holds).symm.trans done
      cases both
  | cons event rest ih =>
    obtain ⟨admitted, restUnexpired⟩ := unexpired
    have livesLater : ∀ expired, .expire expired ∈ rest → expired ≠ key :=
      fun expired member => lives expired (List.mem_cons_of_mem event member)
    rw [run_cons]
    rcases commit_cases (serverStep application requests) server event with same | accepted
    · rw [same] at restUnexpired ⊢
      exact ih exclusive done restUnexpired livesLater
    · have stays := done_step exclusive done accepted
        fun expired isEvent => lives expired (isEvent ▸ List.mem_cons_self)
      exact ih (exclusive_step server event _ exclusive admitted accepted) stays restUnexpired livesLater

theorem exclusive_start (requests : RequestId → Request) : Exclusive requests (fun _ => none) (fun _ => .absent) where
  held _ _ _ holds := nomatch holds
  alone _ _ _ _ _ holds := nomatch holds
  done _ _ _ found := nomatch found
  replayed _ _ _ _ answered := nomatch answered

/-- As long as no record expires during its execution: one execution of a key at a time, none after a stored answer while
the record lives, and only requests with the fingerprint of an executed one get its answer. -/
theorem idempotency_runs (application : Application State Env) (requests : RequestId → Request) (app : State)
    (events later : List (Event Env))
    (unexpired : Guarded (serverStep application requests) (Unexpired requests) { app } (events ++ later)) :
    (∀ id other key, admission (requests id) = .recorded key → admission (requests other) = .recorded key →
      ((run (serverStep application requests) { app } events).phase id).holds = true →
      ((run (serverStep application requests) { app } events).phase other).holds = true → id = other) ∧
    (∀ key print answer, (run (serverStep application requests) { app } events).records key = some (.done print answer) →
      (∀ expired, .expire expired ∈ later → expired ≠ key) →
      (run (serverStep application requests) { app } (events ++ later)).records key = some (.done print answer) ∧
        ∀ id, admission (requests id) = .recorded key →
          ((run (serverStep application requests) { app } (events ++ later)).phase id).holds = false) ∧
    ∀ id key answer, admission (requests id) = .recorded key →
      (run (serverStep application requests) { app } events).phase id = .answered (.replayed answer) →
      ∃ other, admission (requests other) = .recorded key ∧
        (run (serverStep application requests) { app } events).phase other = .answered (.own answer) ∧
        answer.status < 500 ∧
        (lineBreak ∉ (requests id).path → lineBreak ∉ (requests other).path →
          (requests other).method = (requests id).method ∧ (requests other).path = (requests id).path ∧
            (requests other).body = (requests id).body) := by
  obtain ⟨unexpiredFirst, unexpiredLater⟩ := (guarded_append events later).mp unexpired
  have exclusive := Guarded.invariant exclusive_step events unexpiredFirst (exclusive_start requests)
  refine ⟨exclusive.alone, ?_, ?_⟩
  · intro key print answer done lives
    rw [run_append]
    exact done_run later exclusive done unexpiredLater lives
  · intro id key answer isKey replayed
    obtain ⟨other, sameKey, print, answered, fits⟩ := exclusive.replayed id key answer isKey replayed
    refine ⟨other, sameKey, answered, (of_decide_eq_true fits).1, ?_⟩
    intro free freeToo
    exact fingerprint_inj freeToo free print

/-- Every call creates one row and answers with its number. -/
private def rowCounter : Application ℕ Unit where
  secretOf _ _ := none
  usable _ _ _ := true
  touch state _ _ := state
  isOpen _ := false
  endpoint state _ _ := (state + 1, some { status := 201, body := [state.toUInt8] })
  rejection _ := { status := 401 }

/-- Requests with one key that differ in the query string. -/
private def sameKey (id : RequestId) : Request :=
  { method := .post, path := encode "/rows", query := encode (if id = 0 then "page=1" else "page=2"),
    idempotencyKey := some "k", bearer := some (some { userId := 7, tenantId := some 1 }) }

private def recordOfSameKey : RecordKey := { identity := { tenant := some 1, actor := .user 7 }, key := "k" }

private def steps (count : ℕ) (id : RequestId) : List (Event Unit) := List.replicate count (.advance id { env := () })

private def sampleServer (events : List (Event Unit)) : Server ℕ :=
  run (serverStep rowCounter sameKey) { app := 0 } events

theorem sample_idempotency_runs : ∃ other, admission (sameKey other) = .recorded recordOfSameKey ∧
    (sampleServer (steps 4 0 ++ steps 3 1)).phase other = .answered (.own { status := 201, body := [0] }) := by
  have unexpired : Guarded (serverStep rowCounter sameKey) (Unexpired sameKey) { app := 0 }
      ((steps 4 0 ++ steps 3 1) ++ []) := by
    simp [steps, List.replicate, Guarded, Unexpired]
  obtain ⟨other, isKey, answered, -⟩ :=
    (idempotency_runs rowCounter sameKey 0 (steps 4 0 ++ steps 3 1) [] unexpired).2.2 1 recordOfSameKey
      { status := 201, body := [0] } (by decide +kernel) (by decide +kernel)
  exact ⟨other, isKey, answered⟩

/-- A replay to a request with another query string, and two executions at once after the record expired. -/
theorem query_ignored :
    ((sampleServer (steps 4 0 ++ steps 3 1)).phase 1 = .answered (.replayed { status := 201, body := [0] }) ∧
      (sameKey 0).query ≠ (sameKey 1).query) ∧
    (sampleServer (steps 2 0 ++ [.expire recordOfSameKey] ++ steps 2 1)).phase 0 = .executing ∧
    (sampleServer (steps 2 0 ++ [.expire recordOfSameKey] ++ steps 2 1)).phase 1 = .executing := by
  decide +kernel

end Mhvp.Requests
