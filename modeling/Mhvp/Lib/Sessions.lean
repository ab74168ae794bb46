import Mhvp.Lib.Locking

/-! Transactions that work in several steps, each of which reads what is committed by then. -/

namespace Mhvp.Lib.Sessions

open Lib.Transition Lib.Locking

universe u v w x y z

/-- How sessions are opened, work, and write. -/
structure Engine (State : Type u) (Task : Type v) (Session : Type w) (Op : Type x) (Row : Type y) (Refusal : Type z) where
  opened : Task → Session
  work : State → Session → Op → Except Refusal Session
  locks : Session → List Row
  commit : State → Session → Except Refusal State

inductive Move (Task : Type u) (Op : Type v)
  | start (task : Task)
  | work (place : ℕ) (op : Op)
  | commit (place : ℕ)
  | rollback (place : ℕ)

variable {State : Type u} {Task : Type v} {Session : Type w} {Op : Type x} {Row : Type y} {Refusal : Type z}

namespace Engine

variable [DecidableEq Row] (engine : Engine State Task Session Op Row Refusal)

/-- No row in common. -/
def Free (session other : Session) : Prop := ∀ row ∈ engine.locks session, row ∉ engine.locks other

instance : DecidableRel engine.Free := fun _ _ => by unfold Free; infer_instance

omit [DecidableEq Row] in
theorem Free.symm (free : engine.Free session other) : engine.Free other session :=
  fun row inOther inSession => free row inSession inOther

def step (config : Config State Session) : Move Task Op → Except (Halt Refusal) (Config State Session)
  | .start task => .ok { config with pending := config.pending ++ [engine.opened task] }
  | .work place op =>
    match config.pending[place]? with
    | none => .error .absent
    | some session =>
      match engine.work config.state session op with
      | .error reason => .error (.refused reason)
      | .ok next =>
        if ∀ other ∈ config.pending.eraseIdx place, engine.Free next other then
          .ok { config with pending := config.pending.set place next }
        else .error .waits
  | .commit place =>
    match config.pending[place]? with
    | none => .error .absent
    | some session =>
      match engine.commit config.state session with
      | .error reason => .error (.refused reason)
      | .ok next => .ok { state := next, pending := config.pending.eraseIdx place }
  | .rollback place => .ok { config with pending := config.pending.eraseIdx place }

/-- What a move that was not halted did. -/
inductive Moved (config : Config State Session) : Move Task Op → Config State Session → Prop
  | start (task : Task) : Moved config (.start task) { config with pending := config.pending ++ [engine.opened task] }
  | work (place : ℕ) (op : Op) (session next : Session) (found : config.pending[place]? = some session)
      (works : engine.work config.state session op = .ok next)
      (free : ∀ other ∈ config.pending.eraseIdx place, engine.Free next other) :
      Moved config (.work place op) { config with pending := config.pending.set place next }
  | commit (place : ℕ) (session : Session) (next : State) (found : config.pending[place]? = some session)
      (writes : engine.commit config.state session = .ok next) :
      Moved config (.commit place) { state := next, pending := config.pending.eraseIdx place }
  | rollback (place : ℕ) :
      Moved config (.rollback place) { config with pending := config.pending.eraseIdx place }

/-- The sessions whose commit the condition admits. -/
def Admitted (admits : State → Session → Prop) (config : Config State Session) : Move Task Op → Prop
  | .commit place => ∀ session ∈ config.pending[place]?, admits config.state session
  | _ => True

variable {engine}

theorem step_ok (moved : engine.step config move = .ok next) : engine.Moved config move next := by
  cases move with
  | start task =>
    cases moved
    exact .start task
  | work place op =>
    simp only [step] at moved
    cases found : config.pending[place]? with
    | none => simp [found] at moved
    | some session =>
      simp only [found] at moved
      cases works : engine.work config.state session op with
      | error reason => simp [works] at moved
      | ok next =>
        simp only [works] at moved
        split at moved
        · rename_i free
          cases moved
          exact .work place op session next found works free
        · cases moved
  | commit place =>
    simp only [step] at moved
    cases found : config.pending[place]? with
    | none => simp [found] at moved
    | some session =>
      simp only [found] at moved
      cases writes : engine.commit config.state session with
      | error reason => simp [writes] at moved
      | ok next =>
        simp only [writes] at moved
        cases moved
        exact .commit place session next found writes
  | rollback place =>
    cases moved
    exact .rollback place

/-- The engine with a log of the sessions that committed. -/
def logged (engine : Engine State Task Session Op Row Refusal) :
    Engine (State × List Session) Task Session Op Row Refusal where
  opened := engine.opened
  work now session op := engine.work now.1 session op
  locks := engine.locks
  commit now session := (engine.commit now.1 session).map fun next => (next, now.2 ++ [session])

omit [DecidableEq Row] in
theorem logged_commit (accepted : engine.logged.commit now session = .ok next) :
    engine.commit now.1 session = .ok next.1 ∧ next.2 = now.2 ++ [session] := by
  simp only [logged] at accepted
  cases committed : engine.commit now.1 session with
  | error reason => simp [committed, Except.map] at accepted
  | ok state =>
    simp only [committed, Except.map, Except.ok.injEq] at accepted
    subst accepted
    exact ⟨rfl, rfl⟩

section Rules

variable {Inv : State → Prop} {Ready : State → Session → Prop} {admits : State → Session → Prop}
  {config : Config State Session}

private theorem pairwise_set {related : Session → Session → Prop} {sessions : List Session} {place : ℕ} {session : Session}
    (apart : sessions.Pairwise related)
    (symm : ∀ first second, related first second → related second first)
    (others : ∀ other ∈ sessions.eraseIdx place, related session other) :
    (sessions.set place session).Pairwise related := by
  induction sessions generalizing place with
  | nil => exact apart
  | cons first rest ih =>
    rw [List.pairwise_cons] at apart
    cases place with
    | zero => exact List.pairwise_cons.mpr ⟨others, apart.2⟩
    | succ place =>
      rw [List.eraseIdx_cons_succ, List.forall_mem_cons] at others
      rw [List.set_cons_succ, List.pairwise_cons]
      refine ⟨?_, ih apart.2 others.2⟩
      intro other member
      rcases List.mem_or_eq_of_mem_set member with old | isNew
      · exact apart.1 other old
      · exact isNew ▸ symm _ _ others.1

omit [DecidableEq Row] in
theorem worked {place : ℕ} {next : Session} (holds : Protocol.Holds Inv Ready engine.Free config)
    (ready : Ready config.state next) (free : ∀ other ∈ config.pending.eraseIdx place, engine.Free next other) :
    Protocol.Holds Inv Ready engine.Free { config with pending := config.pending.set place next } := by
  refine ⟨holds.state, ?_, pairwise_set holds.apart (fun _ _ => Free.symm engine) free⟩
  intro other member
  rcases List.mem_or_eq_of_mem_set member with old | isNew
  · exact holds.ready other old
  · exact isNew ▸ ready

section

variable (blank : ∀ task, engine.locks (engine.opened task) = [])
  (opens : ∀ state task, Ready state (engine.opened task))
  (works : ∀ state session op next, Inv state → Ready state session → engine.work state session op = .ok next → Ready state next)
include blank opens works

theorem admitted_step (commits : ∀ state session next, Inv state → Ready state session → admits state session →
      engine.commit state session = .ok next → Inv next)
    (others : ∀ state session other next, Inv state → Ready state session → Ready state other →
      engine.Free session other → engine.commit state session = .ok next → Ready next other)
    (config : Config State Session) (move : Move Task Op) (next : Config State Session)
    (holds : Protocol.Holds Inv Ready engine.Free config) (admitted : Admitted admits config move)
    (moved : engine.step config move = .ok next) : Protocol.Holds Inv Ready engine.Free next := by
  cases step_ok moved with
  | start task =>
    refine holds.started (opens _ task) ?_
    intro other member row inOther inNew
    rw [blank task] at inNew
    cases inNew
  | work place op session next found worksTo free =>
    have ready := holds.ready session (List.mem_of_getElem? found)
    exact worked holds (works _ session op next holds.state ready worksTo) free
  | commit place session next found writes =>
    have ready := holds.ready session (List.mem_of_getElem? found)
    apply holds.committed place (commits _ session next holds.state ready (admitted session found) writes)
    intro other member
    obtain ⟨readyOther, free⟩ := holds.beside (fun _ _ => Free.symm engine) found other member
    exact others _ session other next holds.state ready readyOther free writes
  | rollback place => exact holds.rolledBack place

/-- Where a commit keeps the invariant exactly if it is admitted, the invariant holds throughout an interleaving exactly
if every commit is admitted. -/
theorem interleaving_exact (commits : ∀ state session next, Inv state → Ready state session → engine.commit state session = .ok next →
      (Inv next ↔ admits state session))
    (others : ∀ state session other next, Inv state → Ready state session → Ready state other →
      engine.Free session other → engine.commit state session = .ok next → Ready next other)
    (moves : List (Move Task Op)) (holds : Protocol.Holds Inv Ready engine.Free config) :
    (∀ moment ∈ trace engine.step config moves, Inv moment.after.state) ↔
      ∀ moment ∈ trace engine.step config moves, Admitted admits moment.before moment.call := by
  have exactly : ∀ config move next, Protocol.Holds Inv Ready engine.Free config → engine.step config move = .ok next →
      (Inv next.state ↔ Admitted admits config move) := by
    intro config move next holds moved
    cases step_ok moved with
    | commit place session next found writes =>
      have ready := holds.ready session (List.mem_of_getElem? found)
      rw [commits _ session next holds.state ready writes, Admitted, found]
      simp
    | start task => exact iff_of_true holds.state trivial
    | work place op session next found worksTo free => exact iff_of_true holds.state trivial
    | rollback place => exact iff_of_true holds.state trivial
  have kept : ∀ state session next, Inv state → Ready state session → admits state session →
      engine.commit state session = .ok next → Inv next :=
    fun state session next inv ready admitted writes => (commits state session next inv ready writes).mpr admitted
  exact trace_exact exactly (admitted_step blank opens works kept others) moves holds

end

end Rules

end Engine

end Mhvp.Lib.Sessions
