import Mhvp.Core.Problem
import Mathlib.Algebra.GroupWithZero.Nat
import Mathlib.Data.List.Infix

namespace Mhvp.Core.BodyLimit

open List

universe u

inductive Incoming
  | request (body : List UInt8)
  | disconnect
  deriving DecidableEq

inductive Outgoing
  | start (status : ℕ) (headers : List (String × String))
  | body (content : List UInt8)
  /-- The body of a problem answer and its instance. -/
  | problem (error : ProblemError) (path : String)
  deriving DecidableEq

/-- What the application takes from the server and what it gives out, in its order. -/
inductive Event
  | taken (message : Incoming)
  | given (message : Outgoing)

/-- `cancelled` stands for an exception that is no `Exception`. -/
inductive Outcome
  | returned
  | bodyTooLarge
  | failed
  | cancelled
  deriving DecidableEq

/-- The next step of an application; it receives nothing where `BodyTooLargeError` is raised. -/
inductive Action (State : Type u)
  | receive (next : Option Incoming → State)
  | send (message : Outgoing) (next : State)
  | finish (outcome : Outcome)

structure Exchange (State : Type u) where
  application : State
  incoming : List Incoming
  received : ℕ := 0
  exceeded : Bool := false
  started : Bool := false
  delivered : List Incoming := []
  sent : List Outgoing := []
  log : List Event := []

def Incoming.size : Incoming → ℕ
  | .request body => body.length
  | .disconnect => 0

def Outgoing.isStart : Outgoing → Bool
  | .start _ _ => true
  | _ => false

def bytes (messages : List Incoming) : ℕ := (messages.map Incoming.size).sum

def starts (messages : List Outgoing) : ℕ := messages.countP Outgoing.isStart

def takenOf (log : List Event) : List Incoming := log.filterMap fun
  | .taken message => some message
  | .given _ => none

def givenOf (log : List Event) : List Outgoing := log.filterMap fun
  | .taken _ => none
  | .given message => some message

variable {State : Type u}

/-- The server answers with a disconnect once the body is read, which adds nothing to the bytes. -/
def limitedReceive (limit : ℕ) (exchange : Exchange State) (next : Option Incoming → State) : Exchange State :=
  if exchange.exceeded then { exchange with application := next none } else
    let message := exchange.incoming.head?.getD .disconnect
    let received := exchange.received + message.size
    let taken := { exchange with
      incoming := exchange.incoming.tail, received, log := exchange.log ++ [Event.taken message] }
    if limit < received then { taken with exceeded := true, application := next none }
    else { taken with application := next (some message), delivered := exchange.delivered ++ [message] }

def trackingSend (exchange : Exchange State) (message : Outgoing) (next : State) : Exchange State :=
  let given := { exchange with application := next, log := exchange.log ++ [Event.given message] }
  if exchange.exceeded = true ∧ exchange.started = false then given
  else { given with started := exchange.started || message.isStart, sent := exchange.sent ++ [message] }

def step (act : State → Action State) (limit : ℕ) (exchange : Exchange State) : Exchange State :=
  match act exchange.application with
  | .receive next => limitedReceive limit exchange next
  | .send message next => trackingSend exchange message next
  | .finish _ => exchange

/-- `_reject` -/
def rejection (path : String) : List Outgoing :=
  [.start 413 [("Connection", "close")],
    .problem { error := .uploadTooLarge, detail := some "Anfragekörper zu groß." } path]

/-- The outcome of the application is raised again. -/
def raises (exchange : Exchange State) : Outcome → Bool
  | .returned => false
  | .bodyTooLarge => exchange.started
  | .failed => !exchange.exceeded || exchange.started
  | .cancelled => true

structure Request where
  limit : ℕ
  path : String
  /-- The header as a number; a missing header and one that is no number are left to the server. -/
  declared : Option ℤ
  incoming : List Incoming

def Request.TooLong (request : Request) : Prop := ∃ declared ∈ request.declared, (request.limit : ℤ) < declared

instance (request : Request) : Decidable request.TooLong := by unfold Request.TooLong; infer_instance

/-- The exchange after some steps of the application, and what is answered until then. -/
def handle (act : State → Action State) (start : State) (request : Request) (steps : ℕ) :
    Exchange State × List Outgoing :=
  let opened : Exchange State := { application := start, incoming := request.incoming }
  if request.TooLong then (opened, rejection request.path) else
    let exchange := (step act request.limit)^[steps] opened
    match act exchange.application with
    | .finish outcome =>
      if raises exchange outcome = false ∧ exchange.exceeded = true ∧ exchange.started = false then
        (exchange, exchange.sent ++ rejection request.path)
      else (exchange, exchange.sent)
    | _ => (exchange, exchange.sent)

/-- More than the limit is taken before the application starts a response. -/
def ExceededFirst (limit : ℕ) (log : List Event) : Prop :=
  ∃ before ∈ log.inits, limit < bytes (takenOf before) ∧ starts (givenOf before) = 0

instance : Decidable (ExceededFirst limit log) := by unfold ExceededFirst; infer_instance

structure Kept (limit : ℕ) (exchange : Exchange State) : Prop where
  received : exchange.received = bytes (takenOf exchange.log)
  exceeded : exchange.exceeded = true ↔ limit < exchange.received
  delivered : bytes exchange.delivered ≤ limit
  complete : exchange.received ≤ limit → exchange.delivered = takenOf exchange.log
  started : exchange.started = true ↔ 0 < starts exchange.sent
  sent : exchange.sent.Sublist (givenOf exchange.log)
  first : ExceededFirst limit exchange.log ↔ exchange.exceeded = true ∧ exchange.started = false
  passed : ¬ ExceededFirst limit exchange.log → exchange.sent = givenOf exchange.log

variable {act : State → Action State} {limit : ℕ} {exchange : Exchange State} {log : List Event}

theorem exceededFirst_append_one {event : Event} : ExceededFirst limit (log ++ [event]) ↔
    ExceededFirst limit log ∨
      limit < bytes (takenOf (log ++ [event])) ∧ starts (givenOf (log ++ [event])) = 0 := by
  unfold ExceededFirst
  simp only [mem_inits, prefix_concat_iff, or_and_right, exists_or, exists_eq_left]
  exact or_comm

theorem limitedReceive_kept (kept : Kept limit exchange) (next : Option Incoming → State) :
    Kept limit (limitedReceive limit exchange next) := by
  unfold limitedReceive
  split
  · exact { kept with }
  · rename_i within
    have notFirst : ¬ ExceededFirst limit exchange.log := fun first => within (kept.first.mp first).1
    have inside : exchange.received ≤ limit := not_lt.mp fun less => within (kept.exceeded.mpr less)
    generalize exchange.incoming.head?.getD .disconnect = message
    have isReceived : exchange.received + message.size = bytes (takenOf (exchange.log ++ [.taken message])) := by
      simp [kept.received, takenOf, bytes]
    have isGiven : givenOf (exchange.log ++ [.taken message]) = givenOf exchange.log := by simp [givenOf]
    have isFirst : ExceededFirst limit (exchange.log ++ [.taken message]) ↔
        limit < exchange.received + message.size ∧ exchange.started = false := by
      rw [exceededFirst_append_one, or_iff_right notFirst, ← isReceived, isGiven, ← kept.passed notFirst,
        ← Bool.not_eq_true, kept.started, Nat.pos_iff_ne_zero, not_not]
    dsimp only
    split
    · rename_i more
      refine ⟨isReceived, by simpa using more, kept.delivered, fun less => absurd more (not_lt.mpr less), kept.started,
        by rw [isGiven]; exact kept.sent, by simp [isFirst, more], fun _ => ?_⟩
      rw [isGiven]
      exact kept.passed notFirst
    · rename_i less
      have isTaken : exchange.delivered ++ [message] = takenOf (exchange.log ++ [.taken message]) := by
        simp [kept.complete inside, takenOf]
      refine ⟨isReceived, by simpa [less] using within, ?_, fun _ => isTaken, kept.started,
        by rw [isGiven]; exact kept.sent, by simp [isFirst, less, within], fun _ => ?_⟩
      · rw [isTaken, ← isReceived]
        exact not_lt.mp less
      · rw [isGiven]
        exact kept.passed notFirst

theorem trackingSend_kept (kept : Kept limit exchange) (message : Outgoing) (next : State) :
    Kept limit (trackingSend exchange message next) := by
  have isTaken : takenOf (exchange.log ++ [.given message]) = takenOf exchange.log := by simp [takenOf]
  have isGiven : givenOf (exchange.log ++ [.given message]) = givenOf exchange.log ++ [message] := by simp [givenOf]
  unfold trackingSend
  dsimp only
  split
  · rename_i silent
    have first : ExceededFirst limit (exchange.log ++ [.given message]) :=
      exceededFirst_append_one.mpr (Or.inl (kept.first.mpr silent))
    refine ⟨by rw [isTaken]; exact kept.received, kept.exceeded, kept.delivered, by rw [isTaken]; exact kept.complete,
      kept.started, ?_, iff_of_true first silent, fun none => absurd first none⟩
    rw [isGiven]
    exact kept.sent.trans (sublist_append_left _ _)
  · rename_i passes
    have notFirst : ¬ ExceededFirst limit exchange.log := fun first => passes (kept.first.mp first)
    have isSent : exchange.sent ++ [message] = givenOf (exchange.log ++ [.given message]) := by
      rw [isGiven, kept.passed notFirst]
    have isStarted : (exchange.started || message.isStart) = true ↔ 0 < starts (exchange.sent ++ [message]) := by
      rw [Bool.or_eq_true, kept.started]
      cases isStart : message.isStart <;> simp [starts, isStart]
    refine ⟨by rw [isTaken]; exact kept.received, kept.exceeded, kept.delivered, by rw [isTaken]; exact kept.complete,
      isStarted, isSent ▸ Sublist.refl _, ?_, fun _ => isSent⟩
    rw [exceededFirst_append_one, or_iff_right notFirst, isTaken, ← kept.received, ← isSent, kept.exceeded,
      ← Bool.not_eq_true, isStarted, Nat.pos_iff_ne_zero, not_not]

theorem step_kept (kept : Kept limit exchange) : Kept limit (step act limit exchange) := by
  unfold step
  split
  · exact limitedReceive_kept kept _
  · exact trackingSend_kept kept _ _
  · exact kept

theorem run_kept (kept : Kept limit exchange) (steps : ℕ) : Kept limit ((step act limit)^[steps] exchange) := by
  induction steps with
  | zero => exact kept
  | succ steps hypothesis =>
    rw [Function.iterate_succ_apply']
    exact step_kept hypothesis

theorem opened_kept (start : State) (incoming : List Incoming) :
    Kept limit { application := start, incoming : Exchange State } where
  received := rfl
  exceeded := by simp
  delivered := Nat.zero_le _
  complete _ := rfl
  started := by simp [starts]
  sent := Sublist.refl _
  first := by simp [ExceededFirst, takenOf, bytes]
  passed _ := rfl

/-- What is answered, from the first start of a response on. -/
def responses (answered : List Outgoing) : List Outgoing := answered.dropWhile fun message => !message.isStart

theorem starts_rejection (sent : List Outgoing) (path : String) :
    starts (sent ++ rejection path) = starts sent + 1 := by
  simp [starts, rejection, Outgoing.isStart, countP_cons]

theorem responses_rejection {sent : List Outgoing} (quiet : starts sent = 0) (path : String) :
    responses (sent ++ rejection path) = rejection path := by
  have noStart : ∀ message ∈ sent, (!message.isStart) = true := by simpa [starts, countP_eq_zero] using quiet
  rw [responses, dropWhile_append_of_pos noStart]
  rfl

theorem raises_eq_false (first : exchange.exceeded = true ∧ exchange.started = false) {outcome : Outcome}
    (ended : outcome ≠ .cancelled) : raises exchange outcome = false := by
  cases outcome with
  | cancelled => exact absurd rfl ended
  | _ => simp [raises, first]

/-- No more than the limit is delivered, an application that starts at most one response never leads to two, a body
that is too long before the response starts is answered with the problem only, and otherwise all that the application
sends is answered, and all that it takes delivered while the limit is not exceeded. -/
theorem body_limit_kept (act : State → Action State) (start : State) (request : Request) (steps : ℕ) :
    let exchange := (handle act start request steps).1
    let answered := (handle act start request steps).2
    bytes exchange.delivered ≤ request.limit ∧
    (starts (givenOf exchange.log) ≤ 1 → starts answered ≤ 1) ∧
    (request.TooLong → exchange.log = [] ∧ exchange.delivered = [] ∧ answered = rejection request.path) ∧
    (¬ request.TooLong → ExceededFirst request.limit exchange.log → ∀ outcome, outcome ≠ .cancelled →
      act exchange.application = .finish outcome → responses answered = rejection request.path) ∧
    (¬ request.TooLong → ¬ ExceededFirst request.limit exchange.log → answered = givenOf exchange.log ∧
      (bytes (takenOf exchange.log) ≤ request.limit → exchange.delivered = takenOf exchange.log)) := by
  unfold handle
  by_cases long : request.TooLong
  · simp only [long, if_true]
    exact ⟨Nat.zero_le _, fun _ => (starts_rejection [] request.path).le, by simp⟩
  have kept := @run_kept _ act _ _ (@opened_kept _ request.limit start request.incoming) steps
  simp only [long, if_false]
  generalize (step act request.limit)^[steps] _ = exchange at kept
  have few : starts (givenOf exchange.log) ≤ 1 → starts exchange.sent ≤ 1 := kept.sent.countP_le.trans
  have quiet (first : exchange.exceeded = true ∧ exchange.started = false) : starts exchange.sent = 0 := by
    rw [← Bool.not_eq_true, kept.started] at first
    exact Nat.eq_zero_of_not_pos first.2
  have whole (inside : bytes (takenOf exchange.log) ≤ request.limit) : exchange.delivered = takenOf exchange.log :=
    kept.complete (kept.received ▸ inside)
  cases action : act exchange.application with
  | finish outcome =>
    dsimp only
    split
    · rename_i rejects
      have first := kept.first.mpr rejects.2
      refine ⟨kept.delivered, fun _ => ?_, by simp, fun _ _ _ _ _ => responses_rejection (quiet rejects.2) _,
        fun _ none => absurd first none⟩
      rw [starts_rejection, quiet rejects.2]
    · rename_i passes
      refine ⟨kept.delivered, few, by simp, fun _ first other ended isEnd => ?_,
        fun _ none => ⟨kept.passed none, whole⟩⟩
      obtain rfl := Action.finish.inj (action.symm.trans isEnd)
      have silent := kept.first.mp first
      exact absurd ⟨raises_eq_false silent ended, silent⟩ passes
  | _ =>
    refine ⟨kept.delivered, few, by simp, fun _ _ other _ isEnd => ?_, fun _ none => ⟨kept.passed none, whole⟩⟩
    rw [action] at isEnd
    cases isEnd

/-- Reads once, after it has started a response if asked for, and ends so. -/
def sampleApplication (early : Bool) (outcome : Outcome) : ℕ → Action ℕ
  | 0 => if early then .send (.start 200 []) 1 else .receive fun _ => 2
  | 1 => .receive fun _ => 2
  | _ => .finish outcome

def sampleRequest : Request where
  limit := 1
  path := "/"
  declared := none
  incoming := [.request [1, 2]]

/-- A body that is too long after the response has started is not delivered, and a cancelled application leaves one
that was too long before without an answer. -/
theorem exceptions_of_the_limit :
    (¬ ∀ (act : ℕ → Action ℕ) (request : Request) (steps : ℕ), ¬ request.TooLong →
      ¬ ExceededFirst request.limit (handle act 0 request steps).1.log →
        (handle act 0 request steps).1.delivered = takenOf (handle act 0 request steps).1.log) ∧
    ¬ ∀ (act : ℕ → Action ℕ) (request : Request) (steps : ℕ),
      ExceededFirst request.limit (handle act 0 request steps).1.log →
        ∀ outcome, act (handle act 0 request steps).1.application = .finish outcome →
          responses (handle act 0 request steps).2 = rejection request.path := by
  constructor
  · intro unchanged
    exact absurd (unchanged (sampleApplication true .returned) sampleRequest 2 (by decide) (by decide)) (by decide)
  · intro refused
    exact absurd (refused (sampleApplication false .cancelled) sampleRequest 1 (by decide) .cancelled rfl) (by decide)

end Mhvp.Core.BodyLimit
