import Mathlib.Data.List.Basic

/-! Machines whose steps may be refused. -/

namespace Mhvp.Lib.Transition

universe u v w

variable {State : Type u} {Call : Type v} {Refusal : Type w}

/-- One call as one transaction: committed as a whole, or rolled back. -/
def commit (step : State → Call → Except Refusal State) (state : State) (call : Call) : State :=
  match step state call with
  | .ok next => next
  | .error _ => state

/-- Serve a list of calls in order. -/
def run (step : State → Call → Except Refusal State) (state : State) (calls : List Call) : State :=
  calls.foldl (commit step) state

/-- One accepted call, with the states around it. -/
structure Moment (State : Type u) (Call : Type v) where
  before : State
  call : Call
  after : State

/-- The accepted calls of a run, in order. -/
def trace (step : State → Call → Except Refusal State) : State → List Call → List (Moment State Call)
  | _, [] => []
  | state, call :: rest =>
    match step state call with
    | .ok next => ⟨state, call, next⟩ :: trace step next rest
    | .error _ => trace step state rest

/-- Every call of the run is issued in a state in which `guard` admits it. -/
def Guarded (step : State → Call → Except Refusal State) (guard : State → Call → Prop) :
    State → List Call → Prop
  | _, [] => True
  | state, call :: rest => guard state call ∧ Guarded step guard (commit step state call) rest

instance Guarded.decidable {step : State → Call → Except Refusal State} {guard : State → Call → Prop}
    [∀ state call, Decidable (guard state call)] :
    (state : State) → (calls : List Call) → Decidable (Guarded step guard state calls)
  | _, [] => isTrue trivial
  | state, call :: rest =>
    have := @Guarded.decidable step guard _ (commit step state call) rest
    inferInstanceAs (Decidable (guard state call ∧ Guarded step guard (commit step state call) rest))

section Rules

variable {step : State → Call → Except Refusal State}
  {guard : State → Call → Prop} {Inv : State → Prop} {Post : State → State → Prop}

@[simp] theorem run_nil (state : State) : run step state [] = state := rfl

@[simp] theorem run_cons (state : State) (call : Call) (rest : List Call) :
    run step state (call :: rest) = run step (commit step state call) rest := rfl

theorem run_append (state : State) (first second : List Call) :
    run step state (first ++ second) = run step (run step state first) second := by
  simp [run, List.foldl_append]

theorem commit_refused (refused : step state call = .error reason) :
    commit step state call = state := by
  simp [commit, refused]

theorem commit_accepted (accepted : step state call = .ok next) :
    commit step state call = next := by
  simp [commit, accepted]

theorem commit_cases (step : State → Call → Except Refusal State) (state : State) (call : Call) :
    commit step state call = state ∨ step state call = .ok (commit step state call) := by
  unfold commit
  cases outcome : step state call with
  | error reason => exact Or.inl rfl
  | ok next => exact Or.inr rfl

section

variable (preserved : ∀ state call next, Inv state → step state call = .ok next → Inv next)
include preserved

theorem commit_invariant (holds : Inv state) : Inv (commit step state call) := by
  rcases commit_cases step state call with same | accepted
  · rw [same]; exact holds
  · exact preserved state call _ holds accepted

theorem run_invariant (calls : List Call) (holds : Inv state) : Inv (run step state calls) := by
  induction calls generalizing state with
  | nil => exact holds
  | cons call rest ih => exact ih (commit_invariant preserved holds)

end

theorem trace_guarded
    (preserved : ∀ state call next, Inv state → guard state call → step state call = .ok next → Inv next)
    (calls : List Call) (holds : Inv state) (admitted : ∀ moment ∈ trace step state calls, guard moment.before moment.call) :
    ∀ moment ∈ trace step state calls, Inv moment.before ∧ step moment.before moment.call = .ok moment.after := by
  induction calls generalizing state with
  | nil => simp [trace]
  | cons call rest ih =>
    unfold trace at admitted ⊢
    cases outcome : step state call with
    | error reason =>
      rw [outcome] at admitted
      exact ih holds admitted
    | ok next =>
      rw [outcome] at admitted
      rw [List.forall_mem_cons] at admitted ⊢
      exact ⟨⟨holds, outcome⟩, ih (preserved state call next holds admitted.1 outcome) admitted.2⟩

/-- Where an invariant holds at the start, it holds around every accepted call of the run. -/
theorem trace_invariant (preserved : ∀ state call next, Inv state → step state call = .ok next → Inv next)
    (calls : List Call) (holds : Inv state) :
    ∀ moment ∈ trace step state calls, Inv moment.before ∧ step moment.before moment.call = .ok moment.after :=
  trace_guarded (fun state call next holds (_ : True) => preserved state call next holds) calls holds fun _ _ => trivial

theorem accepted_mem_trace (calls : List Call) (accepted : step (run step state calls) call = .ok next) :
    ⟨run step state calls, call, next⟩ ∈ trace step state (calls ++ [call]) := by
  induction calls generalizing state with
  | nil =>
    rw [run_nil] at accepted
    simp [trace, accepted]
  | cons first rest ih =>
    have later := ih accepted
    rw [run_cons, List.cons_append, trace]
    cases outcome : step state first with
    | error reason =>
      rw [commit_refused outcome] at later ⊢
      exact later
    | ok middle =>
      rw [commit_accepted outcome] at later ⊢
      exact List.mem_cons_of_mem _ later

theorem Guarded.invariant (preserved : ∀ state call next, Inv state → guard state call → step state call = .ok next →
      Inv next)
    (calls : List Call) (guarded : Guarded step guard state calls) (holds : Inv state) :
    Inv (run step state calls) := by
  induction calls generalizing state with
  | nil => exact holds
  | cons call rest ih =>
    obtain ⟨admitted, later⟩ := guarded
    refine ih later ?_
    rcases commit_cases step state call with same | accepted
    · rw [same]; exact holds
    · exact preserved state call _ holds admitted accepted

/-- Where a call keeps a property exactly if a condition admits it, a run keeps it throughout exactly if the condition
admits every accepted call. -/
theorem trace_exact {Good : State → Prop}
    (exactly : ∀ state call next, Inv state → step state call = .ok next → (Good next ↔ guard state call))
    (preserved : ∀ state call next, Inv state → guard state call → step state call = .ok next → Inv next)
    (calls : List Call) (holds : Inv state) : (∀ moment ∈ trace step state calls, Good moment.after) ↔
      ∀ moment ∈ trace step state calls, guard moment.before moment.call := by
  induction calls generalizing state with
  | nil => simp [trace]
  | cons call rest ih =>
    unfold trace
    cases outcome : step state call with
    | error reason => exact ih holds
    | ok next =>
      have here := exactly state call next holds outcome
      rw [List.forall_mem_cons, List.forall_mem_cons]
      constructor
      · rintro ⟨good, later⟩
        have admitted := here.mp good
        exact ⟨admitted, (ih (preserved state call next holds admitted outcome)).mp later⟩
      · rintro ⟨admitted, later⟩
        exact ⟨here.mpr admitted, (ih (preserved state call next holds admitted outcome)).mpr later⟩

theorem guarded_append (first second : List Call) : Guarded step guard state (first ++ second) ↔
    Guarded step guard state first ∧ Guarded step guard (Transition.run step state first) second := by
  induction first generalizing state with
  | nil => simp [Guarded]
  | cons call rest ih =>
    simp only [List.cons_append, Guarded, run_cons, ih]
    exact and_assoc.symm

section

variable (refl : ∀ state, Post state state)
  (trans : ∀ first second third, Post first second → Post second third → Post first third)
include refl trans

/-- A reflexive and transitive relation that every accepted step respects relates both ends of a run. -/
theorem run_relates (steps : ∀ state call next, step state call = .ok next → Post state next)
    (state : State) (calls : List Call) : Post state (run step state calls) := by
  induction calls generalizing state with
  | nil => exact refl state
  | cons call rest ih =>
    refine trans _ _ _ ?_ (ih (commit step state call))
    rcases commit_cases step state call with same | accepted
    · rw [same]; exact refl state
    · exact steps state call _ accepted

theorem run_relates_invariant (preserved : ∀ state call next, Inv state → step state call = .ok next → Inv next)
    (steps : ∀ state call next, Inv state → step state call = .ok next → Post state next)
    (holds : Inv start) (calls : List Call) :
    Inv (run step start calls) ∧ Post start (run step start calls) := by
  have moved : ∀ state call next, Inv state ∧ Post start state → step state call = .ok next →
      Inv next ∧ Post start next := by
    intro state call next now accepted
    exact ⟨preserved state call next now.1 accepted, trans _ _ _ now.2 (steps state call next now.1 accepted)⟩
  exact run_invariant moved calls ⟨holds, refl start⟩

end

end Rules

end Mhvp.Lib.Transition

namespace Mhvp.Lib.History

open Lib.Transition

universe u v w

variable {State : Type u} {Call : Type v} {Refusal : Type w} {Notes : Type*}

/-- One accepted step with the notes taken of it. -/
def noted (step : State → Call → Except Refusal State) (note : State → Call → State → Notes → Notes)
    (now : State × Notes) (call : Call) : Except Refusal (State × Notes) :=
  match step now.1 call with
  | .ok next => .ok (next, note now.1 call next now.2)
  | .error reason => .error reason

section Rules

variable {step : State → Call → Except Refusal State} {note : State → Call → State → Notes → Notes}
  {now next : State × Notes} {call : Call}

theorem noted_ok : noted step note now call = .ok next ↔
    step now.1 call = .ok next.1 ∧ next.2 = note now.1 call next.1 now.2 := by
  unfold noted
  constructor
  · intro accepted
    cases outcome : step now.1 call with
    | error reason => simp [outcome] at accepted
    | ok after =>
      simp only [outcome, Except.ok.injEq] at accepted
      subst accepted
      exact ⟨rfl, rfl⟩
  · rintro ⟨accepted, taken⟩
    rw [accepted]
    simp [← taken]

theorem commit_noted (now : State × Notes) (call : Call) :
    (commit (noted step note) now call).1 = commit step now.1 call := by
  cases outcome : step now.1 call with
  | error reason =>
    have refused : noted step note now call = .error reason := by simp [noted, outcome]
    rw [commit_refused refused, commit_refused outcome]
  | ok after =>
    have accepted : noted step note now call = .ok (after, note now.1 call after now.2) :=
      noted_ok.mpr ⟨outcome, rfl⟩
    rw [commit_accepted outcome, commit_accepted accepted]

theorem run_noted (now : State × Notes) (calls : List Call) :
    (run (noted step note) now calls).1 = run step now.1 calls := by
  induction calls generalizing now with
  | nil => rfl
  | cons call rest ih => rw [run_cons, run_cons, ih, commit_noted]

end Rules

end Mhvp.Lib.History
