import Mhvp.Core.Problem
import Mhvp.Sqldump.Parser

namespace Mhvp.Core.RateLimit

open Sqldump (Text)
open Lib
open List hiding count

def windowSeconds : ℕ := 60

def localMaxKeys : ℕ := 10000

def exemptPrefixes : List Text := ["/api/v1/health".toList]

def tokenRoutePrefixes : List Text :=
  ["/api/v1/auth/", "/api/v1/portal/magic-link/", "/api/v1/portal/invitations/", "/api/v1/portal/terms/accept",
    "/api/v1/letting/self-disclosure/", "/api/v1/workspace/calendar-feed/"].map String.toList

/-- Routes whose path carries the token. -/
def tokenPathPrefixes : List Text :=
  ["/api/v1/letting/self-disclosure/", "/api/v1/workspace/calendar-feed/"].map String.toList

def tokenPathExcluded : List Text := ["/api/v1/workspace/calendar-feed/token".toList]

/-- `path.startswith(prefixes)` -/
def startsWith (path : Text) (prefixes : List Text) : Bool := prefixes.any (·.isPrefixOf path)

def TokenPath (path : Text) : Prop := startsWith path tokenPathPrefixes = true ∧ path ∉ tokenPathExcluded

local instance : LawfulBEq Text := inferInstance

instance : DecidablePred TokenPath := fun _ => by unfold TokenPath; infer_instance

structure Settings where
  enabled : Bool := true
  perMinuteUser : ℕ := 600
  perMinuteAnonymous : ℕ := 120
  perMinuteTokenPath : ℕ := 20
  tokenRoutesFailClosed : Bool := false

structure Identity where
  actor : Text
  scopeKey : Text
  deriving DecidableEq

structure Request where
  path : Text
  address : Text
  identity : Option Identity := none
  now : ℕ
  deriving DecidableEq

def Request.window (request : Request) : ℕ := request.now - request.now % windowSeconds

def Request.subject (request : Request) : Text :=
  match request.identity with
  | none => "ip:".toList ++ request.address
  | some identity =>
    if "apikey:".toList.isPrefixOf identity.actor then "ip:".toList ++ request.address ++ ":apikey".toList
    else identity.scopeKey

def limitOf (settings : Settings) (request : Request) : ℕ :=
  if request.identity.isNone then settings.perMinuteAnonymous else settings.perMinuteUser

structure CounterKey where
  text : Text
  deriving DecidableEq

def counterKey (subject : Text) (window : ℕ) : CounterKey :=
  ⟨"rl:".toList ++ subject ++ ":".toList ++ (toString window).toList⟩

/-- Counts of one window by key. -/
structure Counter where
  window : ℕ := 0
  counts : List (CounterKey × ℕ) := []

/-- `_local_incr`: a new window and a full counter start with no counts. -/
def Counter.incr (counter : Counter) (key : CounterKey) (window : ℕ) : Counter where
  window := window
  counts := Dictionary.alter key (fun count => count.getD 0 + 1)
    (if counter.window ≠ window ∨ localMaxKeys ≤ counter.counts.length then [] else counter.counts)

/-- The count of a key in a window. -/
def Counter.held (counter : Counter) (window : ℕ) (key : CounterKey) : ℕ :=
  if counter.window = window then (counter.counts.lookup key).getD 0 else 0

/-- The next count does not find the counter full. -/
def Counter.Room (counter : Counter) (window : ℕ) : Prop :=
  counter.window = window → counter.counts.length < localMaxKeys

theorem held_incr {counter : Counter} (room : counter.Room window) (key other : CounterKey) :
    (counter.incr key window).held window other = counter.held window other + if other = key then 1 else 0 := by
  unfold Counter.held Counter.incr
  rw [if_pos rfl, Dictionary.lookup_alter]
  by_cases same : counter.window = window
  · have kept : ¬ (counter.window ≠ window ∨ localMaxKeys ≤ counter.counts.length) := by
      have := room same
      omega
    rw [if_neg kept, if_pos same]
    split <;> simp_all
  · rw [if_pos (Or.inl same), if_neg same]
    split <;> simp

structure Headers where
  limit : ℕ
  remaining : ℕ
  reset : ℕ
  retryAfter : Option ℕ := none

inductive Answer
  | passed (headers : Option Headers)
  | refused (problem : ProblemError) (headers : Headers)

def Answer.isPassed : Answer → Bool
  | .passed _ => true
  | .refused _ _ => false

section Middleware

variable (settings : Settings) (digest : Text → Text)

/-- The key of the path, where the path carries a token and the request is anonymous. -/
def tokenKey (request : Request) : Option Text :=
  if request.identity.isNone ∧ TokenPath request.path then some ("tok:".toList ++ digest request.path) else none

/-- The counts of the subject and of the token path decide. -/
def decided (request : Request) (count tokenCount : ℕ) : Answer :=
  let limit := limitOf settings request
  let reset := request.window + windowSeconds - request.now
  let headers : Headers := { limit, remaining := limit - count, reset }
  let count := if (tokenKey digest request).isSome ∧ settings.perMinuteTokenPath < tokenCount
    then max count (limit + 1) else count
  if limit < count then
    .refused { error := .rateLimited, detail := some ("Zu viele Anfragen. Bitte in " ++ toString reset ++
      " Sekunden erneut versuchen.") } { headers with retryAfter := some reset }
  else .passed (some headers)

/-- The emergency counter after the subject is counted. -/
def countedSubject (counter : Counter) (request : Request) : Counter :=
  counter.incr (counterKey request.subject request.window) request.window

/-- The emergency counter after a request. -/
def counted (counter : Counter) (request : Request) : Counter :=
  let counter := countedSubject counter request
  match tokenKey digest request with
  | none => counter
  | some key => counter.incr (counterKey key request.window) request.window

/-- `redis` are the counts Redis answers with, none while it is unavailable. -/
def handle (redis : Option (ℕ × ℕ)) (counter : Counter) (request : Request) : Answer × Counter :=
  if settings.enabled = false ∨ startsWith request.path exemptPrefixes then (.passed none, counter)
  else match redis with
    | some (count, tokenCount) => (decided settings digest request count tokenCount, counter)
    | none =>
      if settings.tokenRoutesFailClosed ∧ request.identity.isNone ∧ startsWith request.path tokenRoutePrefixes then
        let count := (countedSubject counter request).held request.window (counterKey request.subject request.window)
        let next := counted digest counter request
        let tokenCount := ((tokenKey digest request).map fun key =>
          next.held request.window (counterKey key request.window)).getD 0
        (decided settings digest request count tokenCount, next)
      else (.passed none, counter)

/-- One request while Redis is unavailable; the application gets what passes. -/
def serve (now : Counter × List Request) (request : Request) : Counter × List Request :=
  let (answer, counter) := handle settings digest none now.1 request
  (counter, if answer.isPassed then now.2 ++ [request] else now.2)

/-- An anonymous request of the window to a token route. -/
structure Request.OnTokenRoute (window : ℕ) (request : Request) : Prop where
  anonymous : request.identity = none
  route : startsWith request.path tokenRoutePrefixes = true
  counts : startsWith request.path exemptPrefixes = false
  window : request.window = window

/-- No count of the run finds the counter full. -/
def HasRoom (counter : Counter) : List Request → Prop
  | [] => True
  | request :: rest =>
    counter.Room request.window ∧
      ((tokenKey digest request).isSome → (countedSubject counter request).Room request.window) ∧
      HasRoom (counted digest counter request) rest

instance HasRoom.decidable : (counter : Counter) → (requests : List Request) → Decidable (HasRoom digest counter requests)
  | _, [] => isTrue trivial
  | counter, request :: rest =>
    have := HasRoom.decidable (counted digest counter request) rest
    by unfold HasRoom Counter.Room; infer_instance

/-- What passed of the requests is within both limits. -/
structure WithinLimits (passed : List Request) : Prop where
  addresses : ∀ address, passed.countP (fun request => request.address = address) ≤ settings.perMinuteAnonymous
  paths : ∀ path, TokenPath path → passed.countP (fun request => request.path = path) ≤ settings.perMinuteTokenPath

/-- What passed so far was counted. -/
structure Covered (window : ℕ) (now : Counter × List Request) : Prop where
  within : WithinLimits settings now.2
  addresses : ∀ address, now.2.countP (fun request => request.address = address) ≤
    now.1.held window (counterKey ("ip:".toList ++ address) window)
  paths : ∀ path, TokenPath path → now.2.countP (fun request => request.path = path) ≤
    now.1.held window (counterKey ("tok:".toList ++ digest path) window)

end Middleware

section Rules

variable {settings : Settings} {digest : Text → Text} {counter : Counter} {request : Request} {window : ℕ}

theorem decided_passed : (decided settings digest request count tokenCount).isPassed = true ↔
    count ≤ limitOf settings request ∧
      ((tokenKey digest request).isSome → tokenCount ≤ settings.perMinuteTokenPath) := by
  unfold decided
  dsimp only
  by_cases above : (tokenKey digest request).isSome ∧ settings.perMinuteTokenPath < tokenCount
  · have notWithin : ¬ tokenCount ≤ settings.perMinuteTokenPath := by omega
    have refused : limitOf settings request < max count (limitOf settings request + 1) := by omega
    simp [above.1, above.2, refused, notWithin, Answer.isPassed]
  · rw [if_neg above]
    have within : (tokenKey digest request).isSome → tokenCount ≤ settings.perMinuteTokenPath := by
      intro present
      by_contra outside
      exact above ⟨present, by omega⟩
    by_cases refused : limitOf settings request < count
    · simp [refused, Answer.isPassed]
    · simpa [refused, Answer.isPassed, Nat.le_of_not_lt refused] using within

theorem held_counted (room : counter.Room request.window)
    (later : (tokenKey digest request).isSome → (countedSubject counter request).Room request.window) (key : CounterKey) :
    (counted digest counter request).held request.window key = counter.held request.window key +
      (if key = counterKey request.subject request.window then 1 else 0) +
      if some key = (tokenKey digest request).map (counterKey · request.window) then 1 else 0 := by
  unfold counted
  cases isKey : tokenKey digest request with
  | none => simp [countedSubject, held_incr room]
  | some token =>
    have roomy := later (by rw [isKey]; rfl)
    change ((countedSubject counter request).incr _ _).held request.window key = _
    rw [held_incr roomy, countedSubject, held_incr room]
    simp

theorem countP_append_one [DecidablePred holds] :
    (passed ++ [request]).countP holds = passed.countP holds + if holds request then 1 else 0 := by
  simp [countP_append, countP_cons]

section

variable (enabled : settings.enabled = true) (closed : settings.tokenRoutesFailClosed = true)
include enabled closed

/-- On a token route the counts of subject and token path decide, and both are counted. -/
theorem handle_onRoute (onRoute : request.OnTokenRoute window) : handle settings digest none counter request =
      (decided settings digest request
        ((countedSubject counter request).held request.window (counterKey request.subject request.window))
        (((tokenKey digest request).map fun key =>
          (counted digest counter request).held request.window (counterKey key request.window)).getD 0),
        counted digest counter request) := by
  obtain ⟨anonymous, route, counts, -⟩ := onRoute
  simp [handle, enabled, closed, anonymous, route, counts]

theorem serve_counter (onRoute : request.OnTokenRoute window) :
    (serve settings digest now request).1 = counted digest now.1 request := by
  rw [serve, handle_onRoute enabled closed onRoute]

/-- A request on a token route leaves what passed so far counted and within the limits. -/
theorem covered_serve (onRoute : request.OnTokenRoute window) (room : now.1.Room request.window)
    (later : (tokenKey digest request).isSome → (countedSubject now.1 request).Room request.window)
    (covered : Covered settings digest window now) : Covered settings digest window (serve settings digest now request) := by
  obtain ⟨anonymous, route, counts, rfl⟩ := onRoute
  have subject : request.subject = "ip:".toList ++ request.address := by rw [Request.subject, anonymous]
  have limit : limitOf settings request = settings.perMinuteAnonymous := by rw [limitOf, anonymous]; rfl
  have served : serve settings digest now request =
      (counted digest now.1 request,
        if (countedSubject now.1 request).held request.window (counterKey request.subject request.window) ≤
            settings.perMinuteAnonymous ∧
          ((tokenKey digest request).isSome → ((tokenKey digest request).map fun key =>
            (counted digest now.1 request).held request.window (counterKey key request.window)).getD 0 ≤
              settings.perMinuteTokenPath)
        then now.2 ++ [request] else now.2) := by
    rw [serve, handle_onRoute enabled closed ⟨anonymous, route, counts, rfl⟩]
    simp only [decided_passed, limit]
  have held := @held_counted digest _ _ room later
  rw [served]
  split
  · rename_i within
    obtain ⟨subjectWithin, tokenWithin⟩ := within
    rw [countedSubject, held_incr room, if_pos rfl] at subjectWithin
    have isToken (path : Text) (isPath : TokenPath path) (same : request.path = path) :
        tokenKey digest request = some ("tok:".toList ++ digest path) := by
      subst same
      rw [tokenKey, if_pos ⟨by rw [anonymous]; rfl, isPath⟩]
    refine ⟨⟨fun address => ?_, fun path isPath => ?_⟩, fun address => ?_, fun path isPath => ?_⟩
    · have counted := covered.addresses address
      have limited := covered.within.addresses address
      rw [countP_append_one]
      split
      · rename_i same
        subst same
        rw [subject] at subjectWithin
        omega
      · exact limited
    · have limited := covered.within.paths path isPath
      have counted := covered.paths path isPath
      rw [countP_append_one]
      split
      · rename_i same
        have key := isToken path isPath same
        rw [key] at tokenWithin
        have bound := tokenWithin rfl
        rw [Option.map_some, Option.getD_some, held, key, Option.map_some, if_pos rfl] at bound
        omega
      · exact limited
    · have counted := covered.addresses address
      rw [countP_append_one, held]
      split
      · rename_i same
        subst same
        rw [if_pos (by rw [subject])]
        omega
      · omega
    · have counted := covered.paths path isPath
      rw [countP_append_one, held]
      split
      · rename_i same
        rw [isToken path isPath same, Option.map_some, if_pos rfl]
        omega
      · omega
  · refine ⟨covered.within, fun address => ?_, fun path isToken => ?_⟩
    · rw [held]
      exact le_add_right (le_add_right (covered.addresses address))
    · rw [held]
      exact le_add_right (le_add_right (covered.paths path isToken))

theorem covered_run (requests : List Request) (onRoute : ∀ request ∈ requests, request.OnTokenRoute window)
    (room : HasRoom digest now.1 requests) (covered : Covered settings digest window now) :
    Covered settings digest window (requests.foldl (serve settings digest) now) := by
  induction requests generalizing now with
  | nil => exact covered
  | cons request rest ih =>
    obtain ⟨first, later, remaining⟩ := room
    have here := onRoute request mem_cons_self
    apply ih (fun other member => onRoute other (mem_cons_of_mem request member))
    · rw [serve_counter enabled closed here]
      exact remaining
    · exact covered_serve enabled closed here first later covered

end

end Rules

/-- While Redis is unavailable, what passes of the anonymous requests to token routes in a window is within the limits
of every address and every token path, as long as no count finds the emergency counter full. -/
theorem emergency_limits (settings : Settings) (digest : Text → Text) (enabled : settings.enabled = true)
    (closed : settings.tokenRoutesFailClosed = true) (window : ℕ) (counter : Counter) (requests : List Request)
    (onRoute : ∀ request ∈ requests, request.OnTokenRoute window) (room : HasRoom digest counter requests) :
    WithinLimits settings (requests.foldl (serve settings digest) (counter, [])).2 := by
  have nothing : Covered settings digest window (counter, []) :=
    ⟨⟨fun _ => Nat.zero_le _, fun _ _ => Nat.zero_le _⟩, fun _ => Nat.zero_le _, fun _ _ => Nat.zero_le _⟩
  exact (covered_run enabled closed requests onRoute room nothing).within

def strict : Settings := { perMinuteAnonymous := 1, tokenRoutesFailClosed := true }

def feedPrefix : Text := "/api/v1/workspace/calendar-feed/".toList

def feedRequest (length : ℕ) : Request where
  path := feedPrefix ++ List.replicate length 'a'
  address := "203.0.113.5".toList
  now := 0

theorem feedRequest_onRoute (length : ℕ) : (feedRequest length).OnTokenRoute 0 := by
  refine ⟨rfl, ?_, ?_, rfl⟩
  · apply any_eq_true.mpr
    exact ⟨feedPrefix, by decide +kernel, isPrefixOf_iff_prefix.mpr (prefix_append _ _)⟩
  · apply any_eq_false.mpr
    intro exempt member isPrefix
    obtain rfl := mem_singleton.mp member
    have short := prefix_of_prefix_length_le ( isPrefixOf_iff_prefix.mp isPrefix)
      (prefix_append feedPrefix _) (by decide +kernel)
    exact absurd short (by decide +kernel)

theorem two_requests_limited :
    WithinLimits strict (([0, 1].map feedRequest).foldl (serve strict id) ({}, [])).2 := by
  refine emergency_limits strict id rfl rfl 0 {} _ ?_ (by decide +kernel)
  intro request member
  obtain ⟨length, -, rfl⟩ := mem_map.mp member
  exact feedRequest_onRoute length

theorem feedRequest_token (length : ℕ) :
    tokenKey id (feedRequest length) = some ("tok:".toList ++ (feedRequest length).path) := by
  have isToken : TokenPath (feedRequest length).path := by
    constructor
    · apply any_eq_true.mpr
      exact ⟨feedPrefix, by decide +kernel, isPrefixOf_iff_prefix.mpr (prefix_append _ _)⟩
    · intro excluded
      have whole : feedPrefix ++ List.replicate length 'a' = feedPrefix ++ "token".toList :=
        (mem_singleton.mp excluded).trans (by decide +kernel)
      have letter : 't' ∈ List.replicate length 'a' := by
        rw [append_cancel_left whole]
        decide +kernel
      exact absurd (eq_of_mem_replicate letter) (by decide)
  rw [tokenKey, if_pos ⟨rfl, isToken⟩]
  rfl

def subjectKey : CounterKey := counterKey (feedRequest 0).subject 0

def pathKey (length : ℕ) : CounterKey := counterKey ("tok:".toList ++ (feedRequest length).path) 0

theorem pathKey_injective : Function.Injective pathKey := by
  intro one other same
  have texts := congrArg (fun key => key.text.length) same
  simp only [pathKey, counterKey, feedRequest, length_append, length_replicate] at texts
  omega

theorem incr_keys {counter : Counter} {key : CounterKey} (now : counter.window = 0)
    (room : counter.counts.length < localMaxKeys) : (counter.incr key 0).counts.map Prod.fst =
      if key ∈ counter.counts.map Prod.fst then counter.counts.map Prod.fst
      else counter.counts.map Prod.fst ++ [key] := by
  have kept : ¬ (counter.window ≠ 0 ∨ localMaxKeys ≤ counter.counts.length) := by omega
  rw [Counter.incr, if_neg kept, Dictionary.keys_alter]

def attack (requests : ℕ) : Counter × List Request :=
  ((List.range requests).map feedRequest).foldl (serve strict id) ({}, [])

theorem attack_succ (requests : ℕ) : attack (requests + 1) = serve strict id (attack requests) (feedRequest requests) := by
  rw [attack, range_succ, map_append, foldl_append]
  rfl

/-- Every request leaves one more key. -/
theorem attack_keys (requests : ℕ) (few : requests + 1 < localMaxKeys) : (attack (requests + 1)).1.window = 0 ∧
    (attack (requests + 1)).1.counts.map Prod.fst = subjectKey :: (List.range (requests + 1)).map pathKey ∧
    (attack (requests + 1)).2.head? = some (feedRequest 0) := by
  induction requests with
  | zero => decide +kernel
  | succ requests ih =>
    obtain ⟨window, keys, first⟩ := ih (by omega)
    have size := congrArg List.length keys
    simp only [length_map, length_cons, length_range] at size
    rw [attack_succ (requests + 1)]
    refine ⟨?_, ?_, ?_⟩
    · rw [serve_counter rfl rfl (feedRequest_onRoute _), counted, feedRequest_token]
      rfl
    · rw [serve_counter rfl rfl (feedRequest_onRoute _), counted, feedRequest_token]
      have known : subjectKey ∈ (attack (requests + 1)).1.counts.map Prod.fst := by
        rw [keys]
        exact mem_cons_self
      have same := @incr_keys _ subjectKey window (by omega)
      rw [if_pos known, keys] at same
      have sameSize := congrArg List.length same
      simp only [length_map, length_cons, length_range] at sameSize
      have new := @incr_keys ((attack (requests + 1)).1.incr subjectKey 0) (pathKey (requests + 1)) rfl
        (by omega)
      rw [if_neg ?_, same] at new
      · rw [range_succ, map_append]
        exact new
      · rw [same, mem_cons, mem_map]
        rintro (isSubject | ⟨length, member, isPath⟩)
        · have letters : some 't' = some 'i' := congrArg (fun key => key.text[3]?) isSubject
          exact absurd letters (by decide)
        · have := pathKey_injective isPath
          have := mem_range.mp member
          omega
    · unfold serve
      dsimp only
      split
      · rw [List.head?_append, first]
        rfl
      · exact first

theorem incr_full {counter : Counter} (full : localMaxKeys ≤ counter.counts.length) (key : CounterKey) :
    counter.incr key window = ⟨window, [(key, 1)]⟩ := by
  rw [Counter.incr, if_pos (Or.inr full)]
  rfl

/-- A full counter forgets its counts. -/
theorem full_passes {now : Counter × List Request} (full : localMaxKeys ≤ now.1.counts.length) {length : ℕ} :
    (serve strict id now (feedRequest length)).2 = now.2 ++ [feedRequest length] := by
  rw [serve, handle_onRoute rfl rfl (feedRequest_onRoute length)]
  dsimp only
  rw [if_pos]
  have fresh : countedSubject now.1 (feedRequest length) = ⟨0, [(subjectKey, 1)]⟩ := incr_full full _
  have held (key : CounterKey) : (⟨0, [(subjectKey, 1)]⟩ : Counter).held 0 key ≤ 1 := by
    unfold Counter.held
    rw [if_pos rfl, lookup_cons]
    split <;> simp
  rw [decided_passed, feedRequest_token, counted, feedRequest_token, fresh]
  refine ⟨held _, fun _ => ?_⟩
  change ((⟨0, [(subjectKey, 1)]⟩ : Counter).incr (pathKey length) 0).held 0 (pathKey length) ≤ 20
  rw [held_incr (fun _ => by decide)]
  have := held (pathKey length)
  split <;> omega

/-- With ten thousand keys one address asks for, its count starts anew. -/
theorem full_counter_lifts_limit : ¬ ∀ (settings : Settings) (digest : Text → Text), settings.enabled = true →
    settings.tokenRoutesFailClosed = true → ∀ (window : ℕ) (requests : List Request),
    (∀ request ∈ requests, request.OnTokenRoute window) →
      WithinLimits settings (requests.foldl (serve settings digest) ({}, [])).2 := by
  intro limited
  obtain ⟨window, keys, first⟩ := attack_keys 9998 (by decide)
  have within := limited strict id rfl rfl 0 ((List.range (9999 + 1)).map feedRequest) (by
    intro request member
    obtain ⟨length, -, rfl⟩ := mem_map.mp member
    exact feedRequest_onRoute length)
  have full := congrArg List.length keys
  rw [length_map, length_cons, length_map, length_range] at full
  change WithinLimits strict (attack (9999 + 1)).2 at within
  rw [attack_succ, full_passes full.ge] at within
  obtain ⟨more, isFirst⟩ := List.head?_eq_some_iff.mp first
  have twice := within.addresses (feedRequest 0).address
  rw [isFirst, countP_append_one, countP_cons, if_pos (decide_eq_true rfl),
    if_pos (show (feedRequest 9999).address = (feedRequest 0).address from rfl)] at twice
  have one : strict.perMinuteAnonymous = 1 := rfl
  omega

end Mhvp.Core.RateLimit
