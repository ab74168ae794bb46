import Mhvp.Lib.Transition

/-! Requests as database transactions. -/

namespace Mhvp.Lib.Locking

open Lib.Transition

universe u v w x y

/-- How requests read and write. The work of a request is what it decided to write when it read. -/
structure Protocol (State : Type u) (Request : Type v) (Work : Type w) (Row : Type x) (Refusal : Type y) where
  read : State → Request → Except Refusal Work
  locks : Work → List Row
  write : State → Work → Except Refusal State

/-- The committed state and the requests that have read and not yet written. -/
structure Config (State : Type u) (Work : Type w) where
  state : State
  pending : List Work

inductive Move (Request : Type v)
  | start (request : Request)
  | commit (place : ℕ)
  | rollback (place : ℕ)

inductive Halt (Refusal : Type y)
  /-- A row is locked by another request. -/
  | waits
  /-- No request in this place. -/
  | absent
  | refused (reason : Refusal)

variable {State : Type u} {Request : Type v} {Work : Type w} {Row : Type x} {Refusal : Type y}

namespace Protocol

variable [DecidableEq Row] (protocol : Protocol State Request Work Row Refusal)

/-- No row in common. -/
def Free (work other : Work) : Prop := ∀ row ∈ protocol.locks work, row ∉ protocol.locks other

instance : DecidableRel protocol.Free := fun _ _ => by unfold Free; infer_instance

def step (config : Config State Work) : Move Request → Except (Halt Refusal) (Config State Work)
  | .start request =>
    match protocol.read config.state request with
    | .error reason => .error (.refused reason)
    | .ok work =>
      if ∀ other ∈ config.pending, protocol.Free work other then
        .ok { config with pending := config.pending ++ [work] }
      else .error .waits
  | .commit place =>
    match config.pending[place]? with
    | none => .error .absent
    | some work =>
      match protocol.write config.state work with
      | .error reason => .error (.refused reason)
      | .ok next => .ok { state := next, pending := config.pending.eraseIdx place }
  | .rollback place => .ok { config with pending := config.pending.eraseIdx place }

/-- What a move that was not halted did. -/
inductive Moved (config : Config State Work) : Move Request → Config State Work → Prop
  | start (request : Request) (work : Work) (reads : protocol.read config.state request = .ok work)
      (free : ∀ other ∈ config.pending, protocol.Free work other) :
      Moved config (.start request) { config with pending := config.pending ++ [work] }
  | commit (place : ℕ) (work : Work) (next : State) (found : config.pending[place]? = some work)
      (writes : protocol.write config.state work = .ok next) :
      Moved config (.commit place) { state := next, pending := config.pending.eraseIdx place }
  | rollback (place : ℕ) :
      Moved config (.rollback place) { config with pending := config.pending.eraseIdx place }

variable {protocol}

theorem step_ok (moved : protocol.step config move = .ok next) : protocol.Moved config move next := by
  cases move with
  | start request =>
    simp only [step] at moved
    cases reads : protocol.read config.state request with
    | error reason => simp [reads] at moved
    | ok work =>
      simp only [reads] at moved
      split at moved
      · rename_i free
        cases moved
        exact .start request work reads free
      · cases moved
  | commit place =>
    simp only [step] at moved
    cases found : config.pending[place]? with
    | none => simp [found] at moved
    | some work =>
      simp only [found] at moved
      cases writes : protocol.write config.state work with
      | error reason => simp [writes] at moved
      | ok next =>
        simp only [writes] at moved
        cases moved
        exact .commit place work next found writes
  | rollback place =>
    cases moved
    exact .rollback place

variable (protocol) in
/-- A request that reads and writes with no other request in between. -/
def serve (state : State) (request : Request) : Except Refusal State :=
  match protocol.read state request with
  | .error reason => .error reason
  | .ok work => protocol.write state work

omit [DecidableEq Row] in
theorem serve_ok :
    protocol.serve state request = .ok next ↔
      ∃ work, protocol.read state request = .ok work ∧ protocol.write state work = .ok next := by
  unfold serve
  cases protocol.read state request with
  | error reason => simp
  | ok work => simp

section Rules

variable {Inv : State → Prop} {Ready : State → Work → Prop} {Apart : Work → Work → Prop}
  {guard : Config State Work → Move Request → Prop}

/-- The invariant of the state, and for every pending request that its work is still ready to be written. -/
structure Holds (Inv : State → Prop) (Ready : State → Work → Prop) (Apart : Work → Work → Prop)
    (config : Config State Work) : Prop where
  state : Inv config.state
  ready : ∀ work ∈ config.pending, Ready config.state work
  apart : config.pending.Pairwise Apart

theorem holds_initial (holds : Inv state) : Holds Inv Ready Apart ⟨state, []⟩ :=
  ⟨holds, by simp, List.Pairwise.nil⟩

private theorem pairwise_others {works : List Work} {place : ℕ} (apart : works.Pairwise Apart)
    (symm : ∀ first second, Apart first second → Apart second first) (found : works[place]? = some work) :
    ∀ other ∈ works.eraseIdx place, Apart work other := by
  induction works generalizing place with
  | nil => simp at found
  | cons first rest ih =>
    rw [List.pairwise_cons] at apart
    cases place with
    | zero =>
      obtain rfl : first = work := by simpa using found
      exact apart.1
    | succ place =>
      have inRest : rest[place]? = some work := by simpa using found
      intro other member
      rw [List.eraseIdx_cons_succ, List.mem_cons] at member
      rcases member with rfl | later
      · exact symm _ _ (apart.1 work (List.mem_of_getElem? inRest))
      · exact ih apart.2 inRest other later

theorem Holds.started (holds : Holds Inv Ready Apart config)
    (ready : Ready config.state work) (apart : ∀ other ∈ config.pending, Apart other work) :
    Holds Inv Ready Apart { config with pending := config.pending ++ [work] } := by
  refine ⟨holds.state, ?_, ?_⟩
  · intro other member
    rcases List.mem_append.mp member with old | isNew
    · exact holds.ready other old
    · rw [List.mem_singleton.mp isNew]
      exact ready
  · rw [List.pairwise_append]
    refine ⟨holds.apart, List.pairwise_singleton _ _, ?_⟩
    intro other member new isNew
    rw [List.mem_singleton.mp isNew]
    exact apart other member

theorem Holds.beside {config : Config State Work} {place : ℕ} (holds : Holds Inv Ready Apart config)
    (symm : ∀ first second, Apart first second → Apart second first)
    (found : config.pending[place]? = some work) :
    ∀ other ∈ config.pending.eraseIdx place, Ready config.state other ∧ Apart work other :=
  fun other member => ⟨holds.ready other (List.mem_of_mem_eraseIdx member),
    pairwise_others holds.apart symm found other member⟩

theorem Holds.committed (holds : Holds Inv Ready Apart config) (place : ℕ)
    (inv : Inv next) (ready : ∀ other ∈ config.pending.eraseIdx place, Ready next other) :
    Holds Inv Ready Apart { state := next, pending := config.pending.eraseIdx place } :=
  ⟨inv, ready, holds.apart.sublist (List.eraseIdx_sublist _ _)⟩

theorem Holds.rolledBack (holds : Holds Inv Ready Apart config) (place : ℕ) :
    Holds Inv Ready Apart { config with pending := config.pending.eraseIdx place } :=
  ⟨holds.state, fun work member => holds.ready work (List.mem_of_mem_eraseIdx member),
    holds.apart.sublist (List.eraseIdx_sublist _ _)⟩

omit [DecidableEq Row] in
/-- One move keeps the invariant: a request reads work that is ready, writing ready work keeps the
invariant, and leaves the work of the requests apart from it ready. -/
theorem Moved.holds (moved : protocol.Moved config move next) (holds : Holds Inv Ready Apart config)
    (symm : ∀ first second, Apart first second → Apart second first)
    (starts : ∀ request work, move = .start request → Inv config.state →
      protocol.read config.state request = .ok work → (∀ other ∈ config.pending, protocol.Free work other) →
      Ready config.state work ∧ ∀ other ∈ config.pending, Apart other work)
    (commits : ∀ work next, Inv config.state → Ready config.state work →
      protocol.write config.state work = .ok next → Inv next)
    (others : ∀ work other next, Inv config.state → Ready config.state work → Ready config.state other →
      Apart work other → protocol.write config.state work = .ok next → Ready next other) :
    Holds Inv Ready Apart next := by
  cases moved with
  | start request work reads free =>
    obtain ⟨ready, apart⟩ := starts request work rfl holds.state reads free
    exact holds.started ready apart
  | commit place work next found writes =>
    have ready := holds.ready work (List.mem_of_getElem? found)
    apply holds.committed place (commits work next holds.state ready writes)
    intro other member
    obtain ⟨readyOther, apart⟩ := holds.beside symm found other member
    exact others work other next holds.state ready readyOther apart writes
  | rollback place => exact holds.rolledBack place

section

variable {config : Config State Work} (holds : Holds Inv Ready protocol.Free config)
  (starts : ∀ state request work, Inv state → protocol.read state request = .ok work → Ready state work)
  (commits : ∀ state work next, Inv state → Ready state work → protocol.write state work = .ok next → Inv next)
  (others : ∀ state work other next, Inv state → Ready state work → Ready state other →
    protocol.Free work other → protocol.write state work = .ok next → Ready next other)
include starts commits others

/-- One move of an interleaving: requests with no row in common do not disturb each other. -/
theorem interleaving_step (config : Config State Work) (move : Move Request) (next : Config State Work)
    (holds : Holds Inv Ready protocol.Free config) (moved : protocol.step config move = .ok next) :
    Holds Inv Ready protocol.Free next := by
  have symm : ∀ first second, protocol.Free first second → protocol.Free second first :=
    fun first second free row inSecond inFirst => free row inFirst inSecond
  refine (step_ok moved).holds holds symm ?_ ?_ ?_
  · intro request work _ inv reads free
    exact ⟨starts _ request work inv reads, fun other member => symm _ _ (free other member)⟩
  · exact fun work next => commits _ work next
  · exact fun work other next => others _ work other next

include holds

theorem interleaving_invariant (moves : List (Move Request)) :
    Holds Inv Ready protocol.Free (run protocol.step config moves) :=
  run_invariant (interleaving_step starts commits others) moves holds

end

omit [DecidableEq Row] in
theorem Moved.relates {Post : State → State → Prop} {config next : Config State Work} {move : Move Request}
    (moved : protocol.Moved config move next) (holds : Holds Inv Ready Apart config)
    (refl : ∀ state, Post state state)
    (commits : ∀ state work next, Inv state → Ready state work → protocol.write state work = .ok next →
      Post state next) : Post config.state next.state := by
  cases moved with
  | start request work reads free => exact refl _
  | commit place work next found writes =>
    exact commits _ work next holds.state (holds.ready work (List.mem_of_getElem? found)) writes
  | rollback place => exact refl _

theorem interleaving_relates {Post : State → State → Prop} (holds : Holds Inv Ready Apart config)
    (preserved : ∀ config move next, Holds Inv Ready Apart config → protocol.step config move = .ok next →
      Holds Inv Ready Apart next)
    (refl : ∀ state, Post state state)
    (trans : ∀ first second third, Post first second → Post second third → Post first third)
    (commits : ∀ state work next, Inv state → Ready state work → protocol.write state work = .ok next →
      Post state next) (moves : List (Move Request)) :
    Post config.state (run protocol.step config moves).state := by
  have steps : ∀ current move next, Holds Inv Ready Apart current → protocol.step current move = .ok next →
      Post current.state next.state :=
    fun current move next now moved => (step_ok moved).relates now refl commits
  refine (run_relates_invariant ?_ ?_ preserved steps holds moves).2
  · exact fun current => refl current.state
  · exact fun first second third => trans first.state second.state third.state

/-- The invariant rule of an interleaving whose requests start only apart from the pending ones. -/
theorem guarded_interleaving_invariant (holds : Holds Inv Ready Apart config)
    (symm : ∀ first second, Apart first second → Apart second first)
    (admits : ∀ config request work, guard config (.start request) → protocol.read config.state request = .ok work →
      (∀ other ∈ config.pending, protocol.Free work other) → ∀ other ∈ config.pending, Apart other work)
    (starts : ∀ state request work, Inv state → protocol.read state request = .ok work → Ready state work)
    (commits : ∀ state work next, Inv state → Ready state work → protocol.write state work = .ok next → Inv next)
    (others : ∀ state work other next, Inv state → Ready state work → Ready state other →
      Apart work other → protocol.write state work = .ok next → Ready next other)
    (moves : List (Move Request)) (guarded : Guarded protocol.step guard config moves) :
    Holds Inv Ready Apart (run protocol.step config moves) := by
  refine guarded.invariant ?_ moves holds
  intro config move next holds admitted moved
  refine (step_ok moved).holds holds symm ?_ ?_ ?_
  · intro request work isStart inv reads free
    subst isStart
    exact ⟨starts _ request work inv reads, admits config request work admitted reads free⟩
  · exact fun work next => commits _ work next
  · exact fun work other next => others _ work other next

end Rules

end Protocol

/-- A protocol with the rows a request reaches for when it writes. -/
structure LateProtocol (State : Type u) (Request : Type v) (Work : Type w) (Row : Type x) (Refusal : Type y)
    extends Protocol State Request Work Row Refusal where
  reaches : State → Work → List Row

namespace LateProtocol

variable [DecidableEq Row] (late : LateProtocol State Request Work Row Refusal)

/-- The other request holds none of the rows that writing reaches for. -/
def Passes (state : State) (work other : Work) : Prop := ∀ row ∈ late.reaches state work, row ∉ late.locks other

instance : Decidable (late.Passes state work other) := by unfold Passes; infer_instance

def step (config : Config State Work) : Move Request → Except (Halt Refusal) (Config State Work)
  | .commit place =>
    match config.pending[place]? with
    | none => .error .absent
    | some work =>
      if ∀ other ∈ config.pending.eraseIdx place, late.Passes config.state work other then
        late.toProtocol.step config (.commit place)
      else .error .waits
  | .start request => late.toProtocol.step config (.start request)
  | .rollback place => late.toProtocol.step config (.rollback place)

variable {late} {config next : Config State Work} {move : Move Request}

/-- A move of the requests is a move of their protocol, and a request that writes passed all others. -/
theorem step_ok (moved : late.step config move = .ok next) :
    late.toProtocol.Moved config move next ∧
      ∀ place work, move = .commit place → config.pending[place]? = some work →
        ∀ other ∈ config.pending.eraseIdx place, late.Passes config.state work other := by
  cases move with
  | start request | rollback place => exact ⟨Protocol.step_ok moved, fun place work isCommit => by cases isCommit⟩
  | commit place =>
    unfold step at moved
    cases found : config.pending[place]? with
    | none => simp [found] at moved
    | some work =>
      simp only [found] at moved
      split at moved
      · rename_i passes
        refine ⟨Protocol.step_ok moved, ?_⟩
        rintro other held ⟨⟩ foundHeld
        obtain rfl : work = held := Option.mem_unique found foundHeld
        exact passes
      · cases moved

section Rules

variable {Inv : State → Prop} {Ready : State → Work → Prop}
  (holds : Protocol.Holds Inv Ready late.toProtocol.Free config)
  (starts : ∀ state request work, Inv state → late.read state request = .ok work → Ready state work)
  (commits : ∀ state work next, Inv state → Ready state work → late.write state work = .ok next → Inv next)
  (others : ∀ state work other next, Inv state → Ready state work → Ready state other →
    late.toProtocol.Free work other → late.Passes state work other → late.write state work = .ok next →
    Ready next other)
include starts commits others

/-- One move of an interleaving: a request disturbs those with no row in common that it passes. -/
theorem interleaving_step (config : Config State Work) (move : Move Request) (next : Config State Work)
    (holds : Protocol.Holds Inv Ready late.toProtocol.Free config) (moved : late.step config move = .ok next) :
    Protocol.Holds Inv Ready late.toProtocol.Free next := by
  have symm : ∀ first second, late.toProtocol.Free first second → late.toProtocol.Free second first :=
    fun first second free row inSecond inFirst => free row inFirst inSecond
  obtain ⟨moves, passes⟩ := step_ok moved
  cases moves with
  | start request work reads free =>
    exact holds.started (starts _ request work holds.state reads) fun other member => symm _ _ (free other member)
  | commit place work after found writes =>
    have ready := holds.ready work (List.mem_of_getElem? found)
    apply holds.committed place (commits _ work after holds.state ready writes)
    intro other member
    obtain ⟨readyOther, free⟩ := holds.beside symm found other member
    exact others _ work other after holds.state ready readyOther free (passes place work rfl found other member)
      writes
  | rollback place => exact holds.rolledBack place

include holds

theorem interleaving_invariant (moves : List (Move Request)) :
    Protocol.Holds Inv Ready late.toProtocol.Free (run late.step config moves) :=
  run_invariant (interleaving_step starts commits others) moves holds

end Rules

end LateProtocol

end Mhvp.Lib.Locking
