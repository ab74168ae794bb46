import Mhvp.Banking.Levels
import Mhvp.Lib.Table

namespace Mhvp.Banking.Levels

open Core Accounting Lib.Calendar Lib.Transition Lib.Table

theorem effectiveLevels_cap (configured : Configured) (kind : CaseClass) :
    (effectiveLevels configured kind).index ≤ (capOf kind).index := by
  unfold effectiveLevels
  dsimp only
  split
  · exact Nat.le_refl _
  · omega

theorem currentLevels_cap (automation : Automation) (kind : CaseClass) :
    (currentLevels automation kind).index ≤ (capOf kind).index :=
  effectiveLevels_cap _ _

theorem ofValue_value (level : Level) : Level.ofValue level.value = some level := by
  cases level <;> decide

/-- A written level within the cap is the level in force; the other classes keep theirs. -/
theorem effectiveLevels_update (configured : Configured) (within : level.index ≤ (capOf kind).index)
    (other : CaseClass) :
    effectiveLevels (Function.update configured kind (some level.value)) other =
      if other = kind then level else effectiveLevels configured other := by
  by_cases same : other = kind
  · subst same
    have notAbove : ¬ (capOf other).index < level.index := by omega
    simp [effectiveLevels, ofValue_value, notAbove]
  · simp [effectiveLevels, same]

theorem setLevel_ok (written : setLevel automation kind level = .ok next) (within : level.index ≤ (capOf kind).index) :
    next.requests = automation.requests ∧
      ∀ other, currentLevels next other = if other = kind then level else currentLevels automation other := by
  simp only [setLevel, bind_ok, orRefuse_ok, pure_ok] at written
  obtain ⟨configured, present, rfl⟩ := written
  refine ⟨rfl, ?_⟩
  intro other
  simpa [currentLevels, present] using effectiveLevels_update configured within other

/-- The same requests, and no level above the one before. -/
structure Lowered (automation next : Automation) : Prop where
  requests : next.requests = automation.requests
  levels : ∀ kind, (currentLevels next kind).index ≤ (currentLevels automation kind).index

theorem Lowered.refl (automation : Automation) : Lowered automation automation := ⟨rfl, fun _ => Nat.le_refl _⟩

theorem Lowered.trans (first : Lowered automation middle) (second : Lowered middle next) : Lowered automation next :=
  ⟨second.requests.trans first.requests, fun kind => (second.levels kind).trans (first.levels kind)⟩

theorem setLevel_lowered (written : setLevel automation kind level = .ok next)
    (notAbove : level.index ≤ (currentLevels automation kind).index) : Lowered automation next := by
  obtain ⟨requests, levels⟩ := setLevel_ok written (notAbove.trans (currentLevels_cap automation kind))
  refine ⟨requests, ?_⟩
  intro other
  rw [levels]
  split
  · rename_i same
    subst same
    exact notAbove
  · exact Nat.le_refl _

theorem lowerLevel_lowered (accepted : lowerLevel automation caseKind level = .ok next) : Lowered automation next := by
  simp only [lowerLevel, bind_ok, exists_unit, require_ok, orRefuse_ok] at accepted
  obtain ⟨kind, -, target, -, below, written⟩ := accepted
  exact setLevel_lowered written (Nat.le_of_lt below)

theorem downgrade_lowered (accepted : downgrade automation kind = .ok next) : Lowered automation next := by
  unfold downgrade at accepted
  dsimp only at accepted
  split at accepted
  · obtain rfl := pure_ok.mp accepted
    exact Lowered.refl automation
  · exact setLevel_lowered accepted (Level.below_index _)

theorem refreshDowngrades_lowered (accepted : refreshDowngrades automation today decisions = .ok next) :
    Lowered automation next := by
  unfold refreshDowngrades at accepted
  dsimp only at accepted
  generalize classMetrics automation decisions (daysBefore today downgradeWindowDays) today = figures at accepted
  generalize currentLevels automation = levels at accepted
  induction figures generalizing automation with
  | nil =>
    obtain rfl := pure_ok.mp accepted
    exact Lowered.refl automation
  | cons metrics rest ih =>
    rw [List.foldlM_cons, bind_ok] at accepted
    obtain ⟨middle, first, later⟩ := accepted
    refine Lowered.trans ?_ (ih later)
    split at first
    · exact downgrade_lowered first
    · obtain rfl := pure_ok.mp first
      exact Lowered.refl automation

theorem missingFor_eq_nil (eligible : missingFor target metrics current = []) :
    target.index = current.index + 1 ∧ target.index ≤ (capOf metrics.caseKind).index := by
  unfold missingFor at eligible
  cases need : eligibility target with
  | none => simp [need] at eligible
  | some need' =>
    simp only [need] at eligible
    split at eligible
    · cases eligible
    · rename_i notAbove
      have oneStep : reasonIf (target.index ≠ current.index + 1)
          s!"Nur eine Stufe je Antrag (aktuell {current.value}, beantragt {target.value})" = [] := by
        simp only [List.append_eq_nil_iff] at eligible
        exact eligible.1.1.1.1.1
      refine ⟨?_, Nat.le_of_not_lt notAbove⟩
      by_contra apart
      simp [reasonIf, apart] at oneStep

theorem metricsForClass_caseKind : (metricsForClass automation decisions kind today days).caseKind = kind := by
  unfold metricsForClass
  dsimp only
  split
  · rename_i metrics found
    have isKind := List.find?_some found
    exact of_decide_eq_true isKind
  · rfl

/-- A new open request of a class that had none. -/
structure Requested (automation : Automation) (request : BookkeepingLevelRequest) : Prop where
  isOpen : request.status = .requested
  inForce : request.levelFrom = currentLevels automation request.caseKind
  step : request.levelTo.index = request.levelFrom.index + 1
  within : request.levelTo.index ≤ (capOf request.caseKind).index
  single : ∀ other ∈ automation.requests, other.caseKind = request.caseKind → other.status ≠ .requested

theorem requestLevel_ok (accepted : requestLevel automation actor caseKind levelTo reason today decisions = .ok next) :
    ∃ request, Requested automation request ∧
      next = { automation with requests := automation.requests ++ [request] } := by
  simp only [requestLevel, bind_ok, exists_unit, require_ok, orRefuse_ok, pure_ok] at accepted
  obtain ⟨kind, -, target, -, -, single, eligible, requestedBy, -, rfl⟩ := accepted
  obtain ⟨oneStep, within⟩ := missingFor_eq_nil eligible
  rw [metricsForClass_caseKind] at within
  exact ⟨_, ⟨rfl, rfl, oneStep, within, single⟩, rfl⟩

/-- An open request is decided by a person other than the one who made it. -/
structure Decided (automation : Automation) (requestId : ℕ) (user : UserId)
    (request decided : BookkeepingLevelRequest) : Prop where
  found : automation.requests[requestId]? = some request
  isOpen : request.status = .requested
  other : user ≠ request.requestedBy
  closed : decided.status ≠ .requested
  terms : decided.levelFrom = request.levelFrom ∧ decided.levelTo = request.levelTo ∧
    decided.caseKind = request.caseKind

theorem decideLevel_ok (accepted : decideLevel automation actor requestId approve comment today = .ok next) :
    ∃ user request decided, actor.userId = some user ∧ Decided automation requestId user request decided ∧
      if approve then setLevel { automation with requests := automation.requests.set requestId decided }
          request.caseKind request.levelTo = .ok next
      else next = { automation with requests := automation.requests.set requestId decided } := by
  simp only [decideLevel, bind_ok, exists_unit, require_ok, orRefuse_ok] at accepted
  obtain ⟨request, found, isOpen, ⟨present, other, -⟩, written⟩ := accepted
  obtain ⟨user, isUser⟩ := Option.ne_none_iff_exists'.mp present
  have apart : user ≠ request.requestedBy := by
    rintro rfl
    exact other isUser
  let decided : BookkeepingLevelRequest :=
    { request with
      status := if approve then .approved else .rejected
      decidedBy := actor.userId, decidedOn := some today, decisionComment := comment }
  refine ⟨user, request, decided, isUser, ⟨found, isOpen, apart, ?_, rfl, rfl, rfl⟩, ?_⟩
  · cases approve <;> simp [decided]
  · cases approve with
    | false => exact (pure_ok.mp written).symm
    | true => exact written

/-- Every request is one step within the cap, and an open one is the only one of its class, at or above the level in force. -/
structure Sound (automation : Automation) : Prop where
  step : ∀ request ∈ automation.requests, request.levelTo.index = request.levelFrom.index + 1
  within : ∀ request ∈ automation.requests, request.levelTo.index ≤ (capOf request.caseKind).index
  below : ∀ request ∈ automation.requests, request.status = .requested →
    (currentLevels automation request.caseKind).index ≤ request.levelFrom.index
  single : ∀ {first second : ℕ} {request other : BookkeepingLevelRequest},
    automation.requests[first]? = some request → automation.requests[second]? = some other →
    request.status = .requested → other.status = .requested → request.caseKind = other.caseKind → first = second

theorem Sound.fresh (fresh : automation.requests = []) : Sound automation := by
  constructor <;> simp [fresh]

theorem Sound.lowered (sound : Sound automation) (lowered : Lowered automation next) : Sound next := by
  constructor
  · rw [lowered.requests]
    exact sound.step
  · rw [lowered.requests]
    exact sound.within
  · rw [lowered.requests]
    intro request member isOpen
    exact (lowered.levels request.caseKind).trans (sound.below request member isOpen)
  · rw [lowered.requests]
    exact sound.single

theorem Sound.requested (sound : Sound automation) (requested : Requested automation request) :
    Sound { automation with requests := automation.requests ++ [request] } := by
  have noOther : ∀ {place : ℕ} {other : BookkeepingLevelRequest}, automation.requests[place]? = some other →
      other.status = .requested → other.caseKind ≠ request.caseKind :=
    fun found isOpen same => requested.single _ (List.mem_of_getElem? found) same isOpen
  constructor
  · intro other member
    rcases List.mem_append.mp member with old | isNew
    · exact sound.step other old
    · rw [List.mem_singleton.mp isNew]
      exact requested.step
  · intro other member
    rcases List.mem_append.mp member with old | isNew
    · exact sound.within other old
    · rw [List.mem_singleton.mp isNew]
      exact requested.within
  · intro other member isOpen
    rcases List.mem_append.mp member with old | isNew
    · exact sound.below other old isOpen
    · rw [List.mem_singleton.mp isNew, requested.inForce]
      exact Nat.le_refl _
  · intro first second one other foundOne foundOther openOne openOther same
    rcases found_append_one.mp foundOne with oldOne | ⟨rfl, rfl⟩ <;>
      rcases found_append_one.mp foundOther with oldOther | ⟨rfl, rfl⟩
    · exact sound.single oldOne oldOther openOne openOther same
    · exact absurd same (noOther oldOne openOne)
    · exact absurd same.symm (noOther oldOther openOther)
    · rfl

/-- After a decision the requests keep their terms, and the decided one is no longer open. -/
theorem Decided.sound (sound : Sound automation) (decision : Decided automation requestId user request decided)
    (requests : next.requests = automation.requests.set requestId decided)
    (levels : ∀ kind, kind ≠ request.caseKind → currentLevels next kind = currentLevels automation kind)
    (orSame : currentLevels next request.caseKind = currentLevels automation request.caseKind ∨
      ∀ other ∈ next.requests, other.status = .requested → other.caseKind ≠ request.caseKind) : Sound next := by
  obtain ⟨sameFrom, sameTo, sameKind⟩ := decision.terms
  have member := List.mem_of_getElem? decision.found
  have fromOld : ∀ other ∈ next.requests, other = decided ∨ other ∈ automation.requests := by
    intro other isOther
    rw [requests] at isOther
    exact (List.mem_or_eq_of_mem_set isOther).symm
  have openOld : ∀ {place : ℕ} {other : BookkeepingLevelRequest}, next.requests[place]? = some other →
      other.status = .requested → automation.requests[place]? = some other := by
    intro place other found isOpen
    rw [requests] at found
    rcases (found_set decision.found).mp found with ⟨-, rfl⟩ | ⟨-, old⟩
    · exact absurd isOpen decision.closed
    · exact old
  constructor
  · intro other isOther
    rcases fromOld other isOther with rfl | old
    · rw [sameFrom, sameTo]
      exact sound.step request member
    · exact sound.step other old
  · intro other isOther
    rcases fromOld other isOther with rfl | old
    · rw [sameTo, sameKind]
      exact sound.within request member
    · exact sound.within other old
  · intro other isOther isOpen
    obtain ⟨place, found⟩ := List.mem_iff_getElem?.mp isOther
    have before := sound.below other (List.mem_of_getElem? (openOld found isOpen)) isOpen
    by_cases same : other.caseKind = request.caseKind
    · rcases orSame with kept | none
      · rw [same, kept, ← same]
        exact before
      · exact absurd same (none other isOther isOpen)
    · rw [levels _ same]
      exact before
  · intro first second one other foundOne foundOther openOne openOther same
    exact sound.single (openOld foundOne openOne) (openOld foundOther openOther) openOne openOther same

theorem approved_level (sound : Sound automation) (decision : Decided automation requestId user request decided)
    (written : setLevel { automation with requests := automation.requests.set requestId decided }
      request.caseKind request.levelTo = .ok next) :
    next.requests = automation.requests.set requestId decided ∧
      ∀ kind, currentLevels next kind = if kind = request.caseKind then request.levelTo else currentLevels automation kind := by
  have within := sound.within request (List.mem_of_getElem? decision.found)
  exact setLevel_ok written within

theorem serve_sound (automation : Automation) (call : Call) (next : Automation) (sound : Sound automation)
    (accepted : serve automation call = .ok next) : Sound next := by
  cases call with
  | request actor caseKind levelTo reason today decisions =>
    obtain ⟨request, requested, rfl⟩ := requestLevel_ok accepted
    exact sound.requested requested
  | decide actor requestId approve comment today =>
    obtain ⟨user, request, decided, -, decision, written⟩ := decideLevel_ok accepted
    cases approve with
    | false =>
      obtain rfl : next = { automation with requests := automation.requests.set requestId decided } := by
        simpa using written
      exact decision.sound sound rfl (fun _ _ => rfl) (Or.inl rfl)
    | true =>
      obtain ⟨requests, levels⟩ := approved_level sound decision (by simpa using written)
      refine decision.sound sound requests ?_ (Or.inr ?_)
      · intro kind apart
        rw [levels, if_neg apart]
      · intro other isOther isOpen same
        -- another open request of the class would be the decided one
        obtain ⟨place, found⟩ := List.mem_iff_getElem?.mp isOther
        rw [requests] at found
        rcases (found_set decision.found).mp found with ⟨-, rfl⟩ | ⟨apart, old⟩
        · exact decision.closed isOpen
        · exact apart (sound.single old decision.found isOpen decision.isOpen same)
  | lower caseKind level => exact sound.lowered (lowerLevel_lowered accepted)
  | downgrade kind => exact sound.lowered (downgrade_lowered accepted)
  | refresh today decisions => exact sound.lowered (refreshDowngrades_lowered accepted)

def Raises (moment : Moment Automation Call) (kind : CaseClass) : Prop :=
  (currentLevels moment.before kind).index < (currentLevels moment.after kind).index

/-- The call is the approval of `request` by `user`. -/
inductive Approval (moment : Moment Automation Call) (request : BookkeepingLevelRequest) (user : UserId) : Prop
  | intro (actor : LevelActor) (requestId : ℕ) (comment : Option String) (today : Date)
      (isCall : moment.call = .decide actor requestId true comment today)
      (found : moment.before.requests[requestId]? = some request) (isUser : actor.userId = some user)

/-- A raise is released by another person, for one step above the level in force and within the cap. -/
def RaisedProperly (moment : Moment Automation Call) : Prop :=
  ∀ kind, Raises moment kind → ∃ request user, Approval moment request user ∧ request.caseKind = kind ∧
    user ≠ request.requestedBy ∧ (currentLevels moment.after kind).index ≤ (capOf kind).index ∧
    (currentLevels moment.after kind).index = (currentLevels moment.before kind).index + 1

/-- An approved request still starts from the level in force. -/
def StillInForce (moment : Moment Automation Call) : Prop :=
  ∀ request user, Approval moment request user → currentLevels moment.before request.caseKind = request.levelFrom

theorem approval_raises (sound : Sound moment.before)
    (accepted : serve moment.before moment.call = .ok moment.after) (approval : Approval moment request user) :
    user ≠ request.requestedBy ∧ Raises moment request.caseKind ∧
      request.levelTo.index = request.levelFrom.index + 1 ∧
      ∀ kind, currentLevels moment.after kind =
        if kind = request.caseKind then request.levelTo else currentLevels moment.before kind := by
  obtain ⟨actor, requestId, comment, today, isCall, found, isUser⟩ := approval
  rw [isCall] at accepted
  obtain ⟨person, row, decided, isPerson, decision, written⟩ := decideLevel_ok accepted
  obtain rfl : row = request := Option.mem_unique decision.found found
  obtain rfl : person = user := Option.mem_unique isPerson isUser
  have member := List.mem_of_getElem? found
  obtain ⟨-, levels⟩ := approved_level sound decision (by simpa using written)
  have oneStep := sound.step row member
  have below := sound.below row member decision.isOpen
  refine ⟨decision.other, ?_, oneStep, levels⟩
  unfold Raises
  rw [levels, if_pos rfl]
  omega

theorem raises_approval (sound : Sound moment.before)
    (accepted : serve moment.before moment.call = .ok moment.after) (raises : Raises moment kind) :
    ∃ request user, Approval moment request user ∧ request.caseKind = kind := by
  have notLowered : ¬ Lowered moment.before moment.after := by
    intro lowered
    exact absurd raises (Nat.not_lt.mpr (lowered.levels kind))
  cases isCall : moment.call with
  | request actor caseKind levelTo reason today decisions =>
    rw [isCall] at accepted
    obtain ⟨request, -, isAfter⟩ := requestLevel_ok accepted
    unfold Raises at raises
    rw [isAfter] at raises
    exact absurd raises (Nat.lt_irrefl _)
  | decide actor requestId approve comment today =>
    rw [isCall] at accepted
    obtain ⟨user, request, decided, isUser, decision, written⟩ := decideLevel_ok accepted
    cases approve with
    | false =>
      have isAfter : moment.after =
          { moment.before with requests := moment.before.requests.set requestId decided } := by
        simpa using written
      unfold Raises at raises
      rw [isAfter] at raises
      exact absurd raises (Nat.lt_irrefl _)
    | true =>
      have approval : Approval moment request user := ⟨actor, requestId, comment, today, isCall, decision.found, isUser⟩
      refine ⟨request, user, approval, ?_⟩
      by_contra apart
      obtain ⟨-, levels⟩ := approved_level sound decision (by simpa using written)
      unfold Raises at raises
      rw [levels, if_neg (Ne.symm apart)] at raises
      exact absurd raises (Nat.lt_irrefl _)
  | lower caseKind level =>
    rw [isCall] at accepted
    exact absurd (lowerLevel_lowered accepted) notLowered
  | downgrade kind' =>
    rw [isCall] at accepted
    exact absurd (downgrade_lowered accepted) notLowered
  | refresh today decisions =>
    rw [isCall] at accepted
    exact absurd (refreshDowngrades_lowered accepted) notLowered

theorem raisedProperly_iff (sound : Sound moment.before)
    (accepted : serve moment.before moment.call = .ok moment.after) : RaisedProperly moment ↔ StillInForce moment := by
  constructor
  · intro properly request user approval
    obtain ⟨-, raises, oneStep, levels⟩ := approval_raises sound accepted approval
    obtain ⟨-, -, -, -, -, -, above⟩ := properly request.caseKind raises
    rw [levels, if_pos rfl] at above
    exact Level.index_inj.mp (by omega)
  · intro inForce kind raises
    obtain ⟨request, user, approval, rfl⟩ := raises_approval sound accepted raises
    obtain ⟨other, -, oneStep, levels⟩ := approval_raises sound accepted approval
    refine ⟨request, user, approval, rfl, other, currentLevels_cap _ _, ?_⟩
    rw [levels, if_pos rfl, inForce request user approval]
    exact oneStep

/-- In a run every raise is released by another person, within the cap and one step above the level in force,
exactly where the level did not change between a request and its release. -/
theorem raises_one_step_iff (fresh : automation.requests = []) (calls : List Call) :
    (∀ moment ∈ trace serve automation calls, RaisedProperly moment) ↔
      ∀ moment ∈ trace serve automation calls, StillInForce moment := by
  have around := trace_invariant serve_sound calls (Sound.fresh fresh)
  constructor
  · intro properly moment member
    obtain ⟨sound, accepted⟩ := around moment member
    exact (raisedProperly_iff sound accepted).mp (properly moment member)
  · intro inForce moment member
    obtain ⟨sound, accepted⟩ := around moment member
    exact (raisedProperly_iff sound accepted).mpr (inForce moment member)

def sampleAutomation : Automation := { settings := some fun _ => none }

def sampleDecisions : List PostingDecision :=
  (List.range 50).map fun id =>
    { id, createdOn := ⟨1000⟩, status := .acceptedUnchanged, caseKind := "debtor_full" }

def sampleCalls : List Call :=
  [.request { userId := some 1 } "debtor_full" "L1" "Eignung erreicht" ⟨1001⟩ sampleDecisions,
   .decide { userId := some 2 } 0 true none ⟨1002⟩,
   .request { userId := some 1 } "debtor_full" "L2" "Eignung erreicht" ⟨1040⟩ sampleDecisions,
   .lower "debtor_full" "L0"]

def sampleRelease : Call := .decide { userId := some 2 } 1 true none ⟨1041⟩

theorem sample_raises_one_step_iff :
    (∀ moment ∈ trace serve sampleAutomation sampleCalls, RaisedProperly moment) ↔
      ∀ moment ∈ trace serve sampleAutomation sampleCalls, StillInForce moment :=
  raises_one_step_iff rfl sampleCalls

theorem sampleRelease_accepted :
    (answer? (serve (run serve sampleAutomation sampleCalls) sampleRelease)).isSome := by
  decide +kernel

/-- The release writes L2 over L0: two steps at once. -/
theorem lowered_request_raises_two_steps :
    ¬ ∀ moment ∈ trace serve sampleAutomation (sampleCalls ++ [sampleRelease]), RaisedProperly moment := by
  intro properly
  have accepted := accepted_of_isSome sampleRelease_accepted
  have before : (currentLevels (run serve sampleAutomation sampleCalls) .debtorFull).index = 0 := by decide +kernel
  have after : (currentLevels ((answer? _).get sampleRelease_accepted) .debtorFull).index = 2 := by decide +kernel
  have raised := properly _ (accepted_mem_trace sampleCalls accepted) .debtorFull
  unfold Raises at raised
  rw [before, after] at raised
  obtain ⟨-, -, -, -, -, -, above⟩ := raised Nat.zero_lt_two
  exact absurd above (by decide)

end Mhvp.Banking.Levels
