import Mhvp.Auth.Sessions
import Mhvp.Lib.Table

namespace Mhvp.Auth

open Core Lib.Transition Lib.Table

/-- A request that is going to add a token to the family. -/
def Issuing.Holds (familyId : FamilyId) (row : Issuing) : Bool := row.phase ≠ .ended ∧ row.familyId = some familyId

def LiveIn (familyId : FamilyId) (token : RefreshToken) : Bool := token.familyId = familyId ∧ token.Live

/-- The effect of a step on tokens and requests. -/
inductive SessionMove (state next : SessionState) : Prop
  | same (tokens : next.tokens = state.tokens) (issuing : next.issuing = state.issuing)
      (families : next.nextFamily = state.nextFamily)
  | started (row : Issuing) (fresh : row.familyId = none) (tokens : next.tokens = state.tokens)
      (issuing : next.issuing = state.issuing ++ [row]) (families : next.nextFamily = state.nextFamily)
  | advanced (place : ℕ) (old new : Issuing) (found : state.issuing[place]? = some old)
      (isNext : next = setIssuing state place new) (user : new.userId = old.userId)
      (family : new.familyId = old.familyId) (running : old.phase = .ended → new.phase = .ended)
  | taken (place : ℕ) (token : RefreshToken) (now : Instant) (row : Issuing) (found : state.tokens[place]? = some token)
      (live : token.Live) (user : row.userId = token.userId) (family : row.familyId = some token.familyId)
      (running : row.phase ≠ .ended) (tokens : next.tokens = state.tokens.set place { token with usedAt := some now })
      (issuing : next.issuing = state.issuing ++ [row]) (families : next.nextFamily = state.nextFamily)
  | revoked (selects : RefreshToken → Bool) (now : Instant) (isRevoked : next = revokeWhere state selects now)
  | stored (place : ℕ) (row new : Issuing) (token : RefreshToken) (found : state.issuing[place]? = some row)
      (tokens : next.tokens = state.tokens ++ [token]) (issuing : next.issuing = state.issuing.set place new)
      (families : next.nextFamily = if row.familyId.isSome then state.nextFamily else state.nextFamily + 1)
      (running : row.phase ≠ .ended) (ended : new.phase = .ended) (user : new.userId = row.userId)
      (sameFamily : new.familyId = row.familyId) (owner : token.userId = row.userId)
      (family : token.familyId = row.familyId.getD state.nextFamily) (live : token.Live)

theorem tokenAt_found (found : tokenAt state raw = some (place, token)) : state.tokens[place]? = some token := by
  simp only [tokenAt, Option.bind_eq_bind, Option.bind_eq_some_iff, Option.pure_def, Option.some.injEq] at found
  obtain ⟨index, -, row, present, same⟩ := found
  cases same
  exact present

theorem judge_taken (accepted : judge state raw now = .ok (.taken place token)) :
    state.tokens[place]? = some token ∧ token.Live := by
  simp only [judge, bind_ok, orRefuse_ok] at accepted
  obtain ⟨⟨index, row⟩, found, decided⟩ := accepted
  dsimp only at decided
  split at decided
  · rename_i live
    simp only [takeToken, bind_ok, exists_unit, require_ok, pure_ok] at decided
    obtain ⟨-, -, same⟩ := decided
    cases same
    exact ⟨tokenAt_found found, live⟩
  · simp only [pure_ok, reduceCtorEq] at decided

theorem judge_reused (found : judge state raw now = .ok (.reused familyId)) :
    ∃ token ∈ state.tokens, token.familyId = familyId := by
  simp only [judge, bind_ok, orRefuse_ok] at found
  obtain ⟨⟨index, row⟩, present, decided⟩ := found
  dsimp only at decided
  split at decided
  · simp only [takeToken, bind_ok, exists_unit, require_ok, pure_ok, reduceCtorEq, and_false] at decided
  · simp only [pure_ok, Presented.reused.injEq] at decided
    exact ⟨row, List.mem_of_getElem? (tokenAt_found present), decided⟩

theorem issuingIn_ok : issuingIn state place phase = .ok row ↔ state.issuing[place]? = some row ∧ row.phase = phase := by
  simp [issuingIn, Option.filter_eq_some_iff]

theorem sessionStep_move (accepted : sessionStep settings state event = .ok next) : SessionMove state next := by
  cases event with
  | login userId tenantId =>
    simp only [sessionStep, pure_ok] at accepted
    subst accepted
    exact .started _ rfl rfl rfl rfl
  | present raw now =>
    simp only [sessionStep, bind_ok, pure_ok] at accepted
    obtain ⟨presented, judged, rfl⟩ := accepted
    cases presented with
    | reused familyId => exact .revoked _ now rfl
    | taken place token =>
      obtain ⟨found, live⟩ := judge_taken judged
      exact .taken place token now _ found live rfl rfl (by simp) rfl rfl rfl
  | chooseTenant place =>
    simp only [sessionStep, chooseTenant, bind_ok, issuingIn_ok, pure_ok] at accepted
    obtain ⟨row, ⟨found, begun⟩, rfl⟩ := accepted
    exact .advanced place row _ found rfl rfl rfl fun ended => by rw [begun] at ended; cases ended
  | readRoles place =>
    simp only [sessionStep, readRoles, bind_ok, issuingIn_ok, pure_ok] at accepted
    obtain ⟨row, ⟨found, chosen⟩, rfl⟩ := accepted
    exact .advanced place row _ found rfl rfl rfl fun ended => by rw [chosen] at ended; cases ended
  | insertToken place refresh now =>
    simp only [sessionStep, insertToken, bind_ok, issuingIn_ok, pure_ok] at accepted
    obtain ⟨row, ⟨found, cleared⟩, rfl⟩ := accepted
    split
    · exact .advanced place row _ found rfl rfl rfl fun _ => rfl
    · exact .stored place row _ _ found rfl rfl rfl (by simp [cleared]) rfl rfl rfl rfl rfl ⟨rfl, rfl⟩
  | abandon place =>
    simp only [sessionStep, bind_ok, orRefuse_ok, pure_ok] at accepted
    obtain ⟨row, found, rfl⟩ := accepted
    exact .advanced place row _ found rfl rfl rfl fun _ => rfl
  | revokeFamily userId familyId now | revokeUser userId tenantId now =>
    simp only [sessionStep, pure_ok] at accepted
    exact .revoked _ now accepted.symm
  | setActive userId active =>
    simp only [sessionStep, pure_ok] at accepted
    subst accepted
    exact .same rfl rfl rfl
  | setMemberships memberships =>
    simp only [sessionStep, pure_ok] at accepted
    subst accepted
    exact .same rfl rfl rfl

/-- Families are numbered in the order of their start, and each belongs to one user. -/
structure Owned (owner : FamilyId → UserId) (state : SessionState) : Prop where
  token : ∀ token ∈ state.tokens, token.familyId < state.nextFamily ∧ token.userId = owner token.familyId
  issuing : ∀ row ∈ state.issuing, ∀ familyId ∈ row.familyId, familyId < state.nextFamily ∧ row.userId = owner familyId

theorem revokeWhere_mem (member : token ∈ (revokeWhere state selects now).tokens) :
    ∃ before ∈ state.tokens, before.userId = token.userId ∧ before.familyId = token.familyId ∧
      (token.Live → before.Live ∧ ¬ selects before) := by
  obtain ⟨before, present, rfl⟩ := List.mem_map.mp member
  refine ⟨before, present, ?_⟩
  split
  · refine ⟨rfl, rfl, fun live => absurd live.2 ?_⟩
    cases revoked : before.revokedAt <;> simp [RefreshToken.revoke, revoked]
  · rename_i other
    exact ⟨rfl, rfl, fun live => ⟨live, other⟩⟩

theorem countP_revokeWhere (state : SessionState) (selects : RefreshToken → Bool) (now : Instant) (familyId : FamilyId) :
    (revokeWhere state selects now).tokens.countP (LiveIn familyId) ≤ state.tokens.countP (LiveIn familyId) := by
  unfold revokeWhere
  rw [List.countP_map]
  apply List.countP_mono_left
  intro token _ live
  have member := decide_eq_true_eq.mp live
  dsimp only at member
  split at member
  · obtain ⟨-, -, unrevoked⟩ := member
    cases revoked : token.revokedAt <;> simp [RefreshToken.revoke, revoked] at unrevoked
  · exact decide_eq_true_eq.mpr member

theorem Owned.move (owned : Owned owner state) (move : SessionMove state next) : ∃ owner, Owned owner next := by
  cases move with
  | same tokens issuing families =>
    refine ⟨owner, ?_, ?_⟩
    · rw [tokens, families]
      exact owned.token
    · rw [issuing, families]
      exact owned.issuing
  | started row fresh tokens issuing families =>
    refine ⟨owner, ?_, ?_⟩
    · rw [tokens, families]
      exact owned.token
    · rw [issuing, families]
      intro other present familyId isFamily
      rcases List.mem_append.mp present with old | new
      · exact owned.issuing other old familyId isFamily
      · obtain rfl := List.mem_singleton.mp new
        rw [fresh] at isFamily
        cases isFamily
  | advanced place old new found isNext user family running =>
    subst isNext
    refine ⟨owner, owned.token, ?_⟩
    intro other present familyId isFamily
    rcases List.mem_or_eq_of_mem_set present with unchanged | rfl
    · exact owned.issuing other unchanged familyId isFamily
    · rw [user]
      exact owned.issuing old (List.mem_of_getElem? found) familyId (family ▸ isFamily)
  | taken place token now row found live user family running tokens issuing families =>
    have known := owned.token token (List.mem_of_getElem? found)
    refine ⟨owner, ?_, ?_⟩
    · rw [tokens, families]
      intro other present
      rcases List.mem_or_eq_of_mem_set present with unchanged | rfl
      · exact owned.token other unchanged
      · exact known
    · rw [issuing, families]
      intro other present familyId isFamily
      rcases List.mem_append.mp present with old | new
      · exact owned.issuing other old familyId isFamily
      · obtain rfl := List.mem_singleton.mp new
        obtain rfl : token.familyId = familyId := Option.mem_unique family isFamily
        exact ⟨known.1, user.trans known.2⟩
  | revoked selects now isRevoked =>
    subst isRevoked
    refine ⟨owner, ?_, owned.issuing⟩
    intro token present
    obtain ⟨before, old, sameUser, sameFamily, -⟩ := revokeWhere_mem present
    rw [← sameUser, ← sameFamily]
    exact owned.token before old
  | stored place row new token found tokens issuing families running ended user sameFamily tokenUser family live =>
    have rowOld := List.mem_of_getElem? found
    cases isOf : row.familyId with
    | some familyId =>
      rw [isOf] at families family
      have known := owned.issuing row rowOld familyId isOf
      refine ⟨owner, ?_, ?_⟩
      · rw [tokens, families]
        intro other present
        rcases List.mem_append.mp present with old | new
        · exact owned.token other old
        · obtain rfl := List.mem_singleton.mp new
          rw [family, tokenUser]
          exact known
      · rw [issuing, families]
        intro other present otherId isFamily
        rcases List.mem_or_eq_of_mem_set present with unchanged | rfl
        · exact owned.issuing other unchanged otherId isFamily
        · rw [user]
          exact owned.issuing row rowOld otherId (sameFamily ▸ isFamily)
    | none =>
      -- the new family gets the user of its first token
      rw [isOf] at families family sameFamily
      have apart : ∀ familyId, familyId < state.nextFamily →
          Function.update owner state.nextFamily row.userId familyId = owner familyId := by
        intro familyId earlier
        exact Function.update_of_ne (Nat.ne_of_lt earlier) ..
      refine ⟨Function.update owner state.nextFamily row.userId, ?_, ?_⟩
      · rw [tokens, families]
        intro other present
        rcases List.mem_append.mp present with old | new
        · obtain ⟨earlier, isOwner⟩ := owned.token other old
          rw [apart _ earlier]
          exact ⟨Nat.lt_succ_of_lt earlier, isOwner⟩
        · obtain rfl := List.mem_singleton.mp new
          rw [family, tokenUser, Option.getD_none, Function.update_self]
          exact ⟨Nat.lt_succ_self _, rfl⟩
      · rw [issuing, families]
        intro other present otherId isFamily
        rcases List.mem_or_eq_of_mem_set present with unchanged | rfl
        · obtain ⟨earlier, isOwner⟩ := owned.issuing other unchanged otherId isFamily
          rw [apart _ earlier]
          exact ⟨Nat.lt_succ_of_lt earlier, isOwner⟩
        · rw [sameFamily] at isFamily
          cases isFamily

/-- Tokens of a family that can still be used, and requests about to store one. -/
def liveOrPending (state : SessionState) (familyId : FamilyId) : ℕ :=
  state.tokens.countP (LiveIn familyId) + state.issuing.countP (Issuing.Holds familyId)

theorem liveOrPending_fresh (owned : Owned owner state) : liveOrPending state state.nextFamily = 0 := by
  have noToken : state.tokens.countP (LiveIn state.nextFamily) = 0 := by
    rw [List.countP_eq_zero]
    intro token present live
    have earlier := (owned.token token present).1
    rw [(decide_eq_true_eq.mp live).1] at earlier
    exact Nat.lt_irrefl _ earlier
  have noRequest : state.issuing.countP (Issuing.Holds state.nextFamily) = 0 := by
    rw [List.countP_eq_zero]
    intro row present holds
    exact Nat.lt_irrefl _ (owned.issuing row present _ (decide_eq_true_eq.mp holds).2).1
  unfold liveOrPending
  rw [noToken, noRequest]

theorem liveOrPending_move (owned : Owned owner state) (move : SessionMove state next) (familyId : FamilyId) :
    liveOrPending next familyId ≤ liveOrPending state familyId ∨ liveOrPending next familyId ≤ 1 := by
  unfold liveOrPending
  cases move with
  | same tokens issuing families =>
    rw [tokens, issuing]
    exact Or.inl le_rfl
  | started row fresh tokens issuing families =>
    rw [tokens, issuing, List.countP_append]
    have unbound : Issuing.Holds familyId row = false := by simp [Issuing.Holds, fresh]
    simp [unbound]
  | advanced place old new found isNext user family running =>
    subst isNext
    have counted : (state.issuing.set place new).countP (Issuing.Holds familyId) + _ = _ := countP_set _ found
    have fewer : Issuing.Holds familyId new = true → Issuing.Holds familyId old = true := by
      simp only [Issuing.Holds, decide_eq_true_eq, family]
      rintro ⟨open', isFamily⟩
      exact ⟨fun ended => open' (running ended), isFamily⟩
    left
    change state.tokens.countP _ + (state.issuing.set place new).countP _ ≤ _
    by_cases holds : Issuing.Holds familyId new = true
    · rw [if_pos holds, if_pos (fewer holds)] at counted
      omega
    · rw [if_neg holds] at counted
      omega
  | taken place token now row found live user family running tokens issuing families =>
    have counted : (state.tokens.set place { token with usedAt := some now }).countP (LiveIn familyId) + _ = _ :=
      countP_set _ found
    have used : LiveIn familyId { token with usedAt := some now } = false := by simp [LiveIn, RefreshToken.Live]
    left
    rw [tokens, issuing, List.countP_append, List.countP_singleton]
    rw [used] at counted
    by_cases same : token.familyId = familyId
    · have before : LiveIn familyId token = true := decide_eq_true ⟨same, live⟩
      have after : Issuing.Holds familyId row = true := by simp [Issuing.Holds, running, family, same]
      rw [if_pos before] at counted
      rw [if_pos after]
      simp only [Bool.false_eq_true, if_false] at counted
      omega
    · have before : LiveIn familyId token = false := by simp [LiveIn, same]
      have after : Issuing.Holds familyId row = false := by simp [Issuing.Holds, family, same]
      rw [before] at counted
      rw [after]
      simp only [Bool.false_eq_true, if_false] at counted ⊢
      omega
  | revoked selects now isRevoked =>
    subst isRevoked
    exact Or.inl (Nat.add_le_add_right (countP_revokeWhere state selects now familyId) _)
  | stored place row new token found tokens issuing families running ended user sameFamily tokenUser family live =>
    have counted : (state.issuing.set place new).countP (Issuing.Holds familyId) + _ = _ := countP_set _ found
    have gone : Issuing.Holds familyId new = false := by simp [Issuing.Holds, ended]
    rw [gone] at counted
    simp only [Bool.false_eq_true, if_false] at counted
    rw [tokens, issuing, List.countP_append, List.countP_singleton]
    by_cases same : token.familyId = familyId
    · have added : LiveIn familyId token = true := decide_eq_true ⟨same, live⟩
      rw [if_pos added]
      cases isOf : row.familyId with
      | some rowFamily =>
        rw [isOf] at family
        have before : Issuing.Holds familyId row = true := by
          simp only [Issuing.Holds, decide_eq_true_eq]
          exact ⟨running, by rw [isOf, ← same, family]; rfl⟩
        rw [if_pos before] at counted
        left
        omega
      | none =>
        rw [isOf] at family
        have fresh := liveOrPending_fresh owned
        unfold liveOrPending at fresh
        rw [← same, family]
        rw [← same, family] at counted
        right
        simp only [Option.getD_none] at *
        omega
    · have notAdded : LiveIn familyId token = false := by simp [LiveIn, same]
      rw [notAdded]
      simp only [Bool.false_eq_true, if_false]
      left
      omega

/-- No token of the family can be used and no request is going to add one. -/
structure Dead (familyId : FamilyId) (state : SessionState) : Prop where
  numbered : familyId < state.nextFamily
  token : ∀ token ∈ state.tokens, token.familyId = familyId → ¬ token.Live
  issuing : ∀ row ∈ state.issuing, row.phase ≠ .ended → row.familyId ≠ some familyId

theorem Dead.move (dead : Dead familyId state) (move : SessionMove state next) : Dead familyId next := by
  cases move with
  | same tokens issuing families => exact ⟨families ▸ dead.numbered, tokens ▸ dead.token, issuing ▸ dead.issuing⟩
  | started row fresh tokens issuing families =>
    refine ⟨families ▸ dead.numbered, tokens ▸ dead.token, ?_⟩
    rw [issuing]
    intro other present running
    rcases List.mem_append.mp present with old | new
    · exact dead.issuing other old running
    · obtain rfl := List.mem_singleton.mp new
      simp [fresh]
  | advanced place old new found isNext user family running =>
    subst isNext
    refine ⟨dead.numbered, dead.token, ?_⟩
    intro other present open'
    rcases List.mem_or_eq_of_mem_set present with unchanged | rfl
    · exact dead.issuing other unchanged open'
    · rw [family]
      exact dead.issuing old (List.mem_of_getElem? found) fun ended => open' (running ended)
  | taken place token now row found live user family running tokens issuing families =>
    have other : token.familyId ≠ familyId := fun same => dead.token token (List.mem_of_getElem? found) same live
    refine ⟨families ▸ dead.numbered, ?_, ?_⟩
    · rw [tokens]
      intro later present same
      rcases List.mem_or_eq_of_mem_set present with unchanged | rfl
      · exact dead.token later unchanged same
      · exact absurd same other
    · rw [issuing]
      intro later present open'
      rcases List.mem_append.mp present with old | new
      · exact dead.issuing later old open'
      · obtain rfl := List.mem_singleton.mp new
        rw [family]
        exact fun same => other (Option.some.inj same)
  | revoked selects now isRevoked =>
    subst isRevoked
    refine ⟨dead.numbered, ?_, dead.issuing⟩
    intro token present same live
    obtain ⟨before, old, -, sameFamily, liveBefore⟩ := revokeWhere_mem present
    exact dead.token before old (sameFamily.trans same) (liveBefore live).1
  | stored place row new token found tokens issuing families running ended user sameFamily tokenUser family live =>
    have otherRow := dead.issuing row (List.mem_of_getElem? found) running
    have other : token.familyId ≠ familyId := by
      rw [family]
      cases isOf : row.familyId with
      | some rowFamily => exact fun same => otherRow (isOf.trans (congrArg some same))
      | none => exact Nat.ne_of_gt dead.numbered
    refine ⟨?_, ?_, ?_⟩
    · rw [families]
      split
      · exact dead.numbered
      · exact Nat.lt_succ_of_lt dead.numbered
    · rw [tokens]
      intro later present same
      rcases List.mem_append.mp present with old | isNew
      · exact dead.token later old same
      · obtain rfl := List.mem_singleton.mp isNew
        exact absurd same other
    · rw [issuing]
      intro later present open'
      rcases List.mem_or_eq_of_mem_set present with unchanged | rfl
      · exact dead.issuing later unchanged open'
      · exact absurd ended open'

/-- The step ends the family: a reuse, a revocation of the family, or one of all sessions of its user. -/
def Ends (state : SessionState) (familyId : FamilyId) : SessionEvent → Prop
  | .present raw now => answer? (judge state raw now) = some (.reused familyId)
  | .revokeFamily userId revoked _ => revoked = familyId ∧ ∃ token ∈ state.tokens, OfFamily userId familyId token
  | .revokeUser userId none _ => ∃ token ∈ state.tokens, OfFamily userId familyId token
  | _ => False

instance : Decidable (Ends state familyId event) := by
  unfold Ends
  split <;> infer_instance

/-- No request is about to store a token of a family that the step ends. -/
def NoneBetween (state : SessionState) (event : SessionEvent) : Prop :=
  ∀ row ∈ state.issuing, row.phase ≠ .ended → ∀ familyId ∈ row.familyId, ¬ Ends state familyId event

instance : Decidable (NoneBetween state event) := by unfold NoneBetween; infer_instance

theorem Ends.dead (ends : Ends state familyId event) (owned : Owned owner state) (between : NoneBetween state event)
    (accepted : sessionStep settings state event = .ok next) : Dead familyId next := by
  have noneIssuing : ∀ row ∈ state.issuing, row.phase ≠ .ended → row.familyId ≠ some familyId := by
    intro row present running same
    exact between row present running familyId same ends
  -- every way to end a family revokes all its tokens
  have revoked : ∀ selects now, (∃ token ∈ state.tokens, token.familyId = familyId) →
      (∀ token ∈ state.tokens, token.familyId = familyId → selects token = true) →
      Dead familyId (revokeWhere state selects now) := by
    rintro selects now ⟨known, present, isOf⟩ selected
    refine ⟨isOf ▸ (owned.token known present).1, ?_, noneIssuing⟩
    intro token member same live
    obtain ⟨before, old, -, sameFamily, liveBefore⟩ := revokeWhere_mem member
    exact (liveBefore live).2 (selected before old (sameFamily.trans same))
  -- all tokens of a family belong to the user of one of them
  have user : ∀ {userId token other}, token ∈ state.tokens → OfFamily userId familyId token = true →
      other ∈ state.tokens → other.familyId = familyId → other.userId = userId := by
    intro userId token other present isOf otherPresent same
    obtain ⟨family, isUser⟩ := decide_eq_true_eq.mp isOf
    rw [(owned.token other otherPresent).2, same, ← isUser, (owned.token token present).2, family]
  cases event with
  | present raw now =>
    have judged := answer?_eq_some.mp ends
    simp only [sessionStep, judged, bind_ok, pure_ok, Except.ok.injEq, exists_eq_left'] at accepted
    subst accepted
    exact revoked _ now (judge_reused judged) fun token _ same => decide_eq_true same
  | revokeFamily userId revokedId now =>
    obtain ⟨rfl, token, present, isOf⟩ := ends
    simp only [sessionStep, pure_ok] at accepted
    subst accepted
    refine revoked _ now ⟨token, present, (decide_eq_true_eq.mp isOf).1⟩ ?_
    intro other otherPresent same
    exact decide_eq_true ⟨same, user present isOf otherPresent same⟩
  | revokeUser userId tenantId now =>
    cases tenantId with
    | some tenant => exact ends.elim
    | none =>
      obtain ⟨token, present, isOf⟩ := ends
      simp only [sessionStep, pure_ok] at accepted
      subst accepted
      refine revoked _ now ⟨token, present, (decide_eq_true_eq.mp isOf).1⟩ ?_
      intro other otherPresent same
      simp only [OfUser, decide_eq_true_eq]
      exact ⟨user present isOf otherPresent same, fun other => by cases other⟩
  | _ => exact ends.elim

/-- Users and memberships before the first session. -/
def sessionStart (active : List Bool) (memberships : List Membership) : SessionState := { active, memberships }

theorem owned_step (settings : Settings) (state : SessionState) (event : SessionEvent) (next : SessionState)
    (owned : ∃ owner, Owned owner state) (accepted : sessionStep settings state event = .ok next) :
    ∃ owner, Owned owner next := by
  obtain ⟨owner, known⟩ := owned
  exact known.move (sessionStep_move accepted)

theorem owned_start (active : List Bool) (memberships : List Membership) :
    ∃ owner, Owned owner (sessionStart active memberships) :=
  ⟨fun _ => 0, fun _ present => absurd present List.not_mem_nil, fun _ present => absurd present List.not_mem_nil⟩

theorem liveOrPending_step (settings : Settings) (state : SessionState) (event : SessionEvent) (next : SessionState)
    (holds : (∃ owner, Owned owner state) ∧ ∀ familyId, liveOrPending state familyId ≤ 1)
    (accepted : sessionStep settings state event = .ok next) :
    (∃ owner, Owned owner next) ∧ ∀ familyId, liveOrPending next familyId ≤ 1 := by
  obtain ⟨⟨owner, known⟩, single⟩ := holds
  have move := sessionStep_move accepted
  refine ⟨known.move move, fun familyId => ?_⟩
  rcases liveOrPending_move known move familyId with fewer | one
  · exact fewer.trans (single familyId)
  · exact one

theorem ended_run (settings : Settings) (later : List SessionEvent) (between : NoneBetween state event)
    (owned : ∃ owner, Owned owner state) (ends : Ends state familyId event) :
    Dead familyId (run (sessionStep settings) state (event :: later)) := by
  obtain ⟨owner, known⟩ := owned
  have accepted : ∃ next, sessionStep settings state event = .ok next := by
    cases event with
    | present raw now =>
      refine ⟨applyPresented state now (.reused familyId), ?_⟩
      simp only [sessionStep, answer?_eq_some.mp ends, bind_ok, pure_ok, Except.ok.injEq, exists_eq_left']
    | revokeFamily userId revokedId now => exact ⟨_, rfl⟩
    | revokeUser userId tenantId now => exact ⟨_, rfl⟩
    | _ => exact ends.elim
  obtain ⟨next, isNext⟩ := accepted
  have dead := ends.dead known between isNext
  rw [run_cons, commit_accepted isNext]
  exact run_invariant (fun state event next dead accepted => dead.move (sessionStep_move accepted)) later dead

/-- A family never has two live tokens. Once it was ended, none of its tokens is accepted again, provided that it was
not ended between the use of a token and the insertion of its successor. -/
theorem session_runs (settings : Settings) (active : List Bool) (memberships : List Membership)
    (events : List SessionEvent) :
    (∀ familyId, (run (sessionStep settings) (sessionStart active memberships) events).tokens.countP
      (LiveIn familyId) ≤ 1) ∧
    ∀ before event later familyId, events = before ++ event :: later →
      Ends (run (sessionStep settings) (sessionStart active memberships) before) familyId event →
      NoneBetween (run (sessionStep settings) (sessionStart active memberships) before) event →
      ∀ raw now place token,
        judge (run (sessionStep settings) (sessionStart active memberships) events) raw now =
          .ok (.taken place token) → token.familyId ≠ familyId := by
  constructor
  · intro familyId
    have single := run_invariant (liveOrPending_step settings) events
      ⟨owned_start active memberships, fun familyId => Nat.zero_le 1⟩
    exact (Nat.le_add_right _ _).trans (single.2 familyId)
  · rintro before event later familyId rfl ends between raw now place token taken same
    obtain ⟨found, live⟩ := judge_taken taken
    have owned := run_invariant (owned_step settings) before (owned_start active memberships)
    have dead := ended_run settings later between owned ends
    rw [run_append] at found
    exact dead.token token (List.mem_of_getElem? found) same live

private def oneMember : List Membership := [{ userId := 0, tenantId := 0 }]

private def firstLogin : List SessionEvent :=
  [.login 0 none, .chooseTenant 0, .readRoles 0, .insertToken 0 1 100]

private def refresh (raw successor place : ℕ) : List SessionEvent :=
  [.present raw 200, .chooseTenant place, .readRoles place, .insertToken place successor 200]

theorem sample_session_runs :
    let events := firstLogin ++ refresh 1 2 1 ++ [.present 1 300]
    judge (run (sessionStep {}) (sessionStart [true] oneMember) events) 2 400 = .ok (.reused 0) ∧
      ∀ raw now place token, judge (run (sessionStep {}) (sessionStart [true] oneMember) events) raw now =
        .ok (.taken place token) → token.familyId ≠ 0 := by
  refine ⟨by decide +kernel, (session_runs {} [true] oneMember _).2 (firstLogin ++ refresh 1 2 1) (.present 1 300) [] 0
    rfl (by decide +kernel) (by decide +kernel)⟩

/-- The session is revoked while a refresh has used the old token and not yet stored its successor. -/
theorem revoked_between :
    let events := firstLogin ++ [.present 1 200, .revokeFamily 0 0 250, .chooseTenant 1, .readRoles 1,
      .insertToken 1 2 260]
    Ends (run (sessionStep {}) (sessionStart [true] oneMember) (firstLogin ++ [.present 1 200])) 0
        (.revokeFamily 0 0 250) ∧
      ∃ place token, judge (run (sessionStep {}) (sessionStart [true] oneMember) events) 2 300 =
        .ok (.taken place token) ∧ token.familyId = 0 := by
  refine ⟨by decide +kernel, 1, ?_⟩
  refine ⟨{ userId := 0, familyId := 0, tokenHash := 2, tenantId := some 0, issuedAt := 260,
            expiresAt := 260 + 30 * secondsPerDay }, ?_, rfl⟩
  decide +kernel

end Mhvp.Auth
