import Mhvp.Auth.LoginChecks

namespace Mhvp.Auth.LoginChecks

open Core Lib.Transition

/-- A lockout or a complete login. -/
def Verdict.ends : Verdict → Bool
  | .lockedOut | .passwordLogin | .accepted _ _ true => true
  | _ => false

/-- The counter starts again, and the login is not complete. -/
def Verdict.clears : Verdict → Bool
  | .firstFactor | .accepted _ _ false => true
  | _ => false

/-- Failed checks since the last lockout or complete login. -/
def failedSince : List Verdict → ℕ
  | [] => 0
  | verdict :: older =>
    if verdict.ends then 0 else failedSince older + if verdict = .failed then 1 else 0

/-- Since then one factor alone cleared the counter after a failed check. -/
def clearedSince : List Verdict → Bool
  | [] => false
  | verdict :: older => !verdict.ends && (clearedSince older || (verdict.clears && 0 < failedSince older))

theorem countP_le_failedSince (going : ∀ verdict ∈ between, verdict.ends = false) :
    between.countP (· = .failed) ≤ failedSince (between ++ older) := by
  induction between with
  | nil => exact Nat.zero_le _
  | cons verdict rest ih =>
    have goes := going verdict List.mem_cons_self
    have later := ih fun other member => going other (List.mem_cons_of_mem verdict member)
    rw [List.countP_cons, List.cons_append, failedSince, goes]
    simp only [Bool.false_eq_true, if_false, decide_eq_true_eq]
    exact Nat.add_le_add_right later _

/-- A failed check is committed while the counter is not ahead of the one it loaded, and was not cleared by one factor
alone. -/
def Counted (otp : Otp) (state : LoginState) : LoginEvent → Prop
  | .commit place clock => ∀ pending ∈ pendingAt state place, Wrong otp pending.loaded clock pending.call →
      pending.loaded.locked pending.now = false →
      clearedSince state.verdicts = false ∧ state.row.failedLogins ≤ pending.loaded.failedLogins
  | _ => True

instance (otp : Otp) (state : LoginState) : DecidablePred (Counted otp state) := by
  intro event
  cases event <;> unfold Counted <;> infer_instance

structure Bounded (state : LoginState) : Prop where
  row : state.row.failedLogins < maxFailedLogins
  counted : clearedSince state.verdicts = false → failedSince state.verdicts ≤ state.row.failedLogins
  since : ∀ older, older <:+ state.verdicts → failedSince older < maxFailedLogins

theorem newUser_bounded (active : Bool) (passwordHash : Option Secret) : Bounded (newUser active passwordHash) where
  row := Nat.zero_lt_succ 9
  counted := fun _ => Nat.le_refl 0
  since older isSuffix := by
    rw [List.suffix_nil.mp isSuffix]
    decide

theorem Bounded.verdict (bounded : Bounded state) (row : UserRow) (verdict : Verdict) (nextSecret : Secret)
    (below : row.failedLogins < maxFailedLogins)
    (counted : clearedSince (verdict :: state.verdicts) = false →
      failedSince (verdict :: state.verdicts) ≤ row.failedLogins)
    (since : failedSince (verdict :: state.verdicts) < maxFailedLogins) :
    Bounded { state with row, verdicts := verdict :: state.verdicts, nextSecret } where
  row := below
  counted := counted
  since older isSuffix := by
    rcases List.suffix_cons_iff.mp isSuffix with rfl | before
    · exact since
    · exact bounded.since older before

theorem Bounded.kept (bounded : Bounded state) (row : UserRow) (verdict : Verdict) (nextSecret : Secret)
    (goes : verdict.ends = false) (notFailed : verdict ≠ .failed) (keeps : verdict.clears = false)
    (same : row.failedLogins = state.row.failedLogins) :
    Bounded { state with row, verdicts := verdict :: state.verdicts, nextSecret } := by
  have since : failedSince (verdict :: state.verdicts) = failedSince state.verdicts := by
    simp [failedSince, goes, notFailed]
  have cleared : clearedSince (verdict :: state.verdicts) = clearedSince state.verdicts := by
    simp [clearedSince, goes, keeps]
  apply bounded.verdict row verdict nextSecret
  · exact same ▸ bounded.row
  · rw [since, cleared, same]
    exact bounded.counted
  · rw [since]
    exact bounded.since _ List.suffix_rfl

theorem Bounded.reset (bounded : Bounded state) (row : UserRow) (verdict : Verdict) (nextSecret : Secret)
    (restarts : verdict.ends = true ∨ verdict.clears = true) (notFailed : verdict ≠ .failed)
    (below : row.failedLogins < maxFailedLogins) :
    Bounded { state with row, verdicts := verdict :: state.verdicts, nextSecret } := by
  apply bounded.verdict row verdict nextSecret below
  · intro notCleared
    cases ends : verdict.ends with
    | true => simp [failedSince, ends]
    | false =>
      have clears : verdict.clears = true := by simpa [ends] using restarts
      have noFailure : failedSince state.verdicts = 0 := by
        simp only [clearedSince, ends, clears] at notCleared
        simpa using (Bool.or_eq_false_iff.mp notCleared).2
      simp [failedSince, ends, notFailed, noFailure]
  · have since := bounded.since _ List.suffix_rfl
    unfold failedSince
    split
    · exact Nat.zero_lt_succ 9
    · simpa [notFailed] using since

theorem Bounded.commit {pending : Pending} (bounded : Bounded state)
    (admitted : Wrong otp pending.loaded clock pending.call → pending.loaded.locked pending.now = false →
      clearedSince state.verdicts = false ∧ state.row.failedLogins ≤ pending.loaded.failedLogins)
    (decided : Evaluated otp newSecret pending.loaded pending.now clock pending.call outcome) (nextSecret : Secret) :
    Bounded { state with row := pending.loaded.write outcome.1 state.row, verdicts := outcome.2 :: state.verdicts,
                         nextSecret } := by
  have cleared : column pending.loaded.failedLogins 0 state.row.failedLogins < maxFailedLogins := by
    rcases column_cases pending.loaded.failedLogins 0 state.row.failedLogins with kept | written
    · rw [kept]
      exact bounded.row
    · rw [written]
      exact Nat.zero_lt_succ 9
  cases decided with
  | failed wrong notLocked below =>
    obtain ⟨notCleared, notAhead⟩ := admitted wrong notLocked
    have since := bounded.counted notCleared
    have written : column pending.loaded.failedLogins (pending.loaded.failedLogins + 1) state.row.failedLogins =
        pending.loaded.failedLogins + 1 := if_neg (Nat.succ_ne_self _)
    have counts : failedSince (.failed :: state.verdicts) = failedSince state.verdicts + 1 := rfl
    apply bounded.verdict
    · exact Nat.lt_of_le_of_lt (Nat.le_of_eq written) below
    · intro _
      rw [counts]
      exact (Nat.add_le_add_right (since.trans notAhead) 1).trans (Nat.le_of_eq written.symm)
    · rw [counts]
      exact Nat.lt_of_le_of_lt (Nat.add_le_add_right (since.trans notAhead) 1) below
  | lockedOut => exact bounded.reset _ .lockedOut nextSecret (Or.inl rfl) (by decide) cleared
  | password verdict correct =>
    rcases correct with rfl | rfl
    · exact bounded.reset _ .passwordLogin nextSecret (Or.inl rfl) (by decide) cleared
    · exact bounded.reset _ .firstFactor nextSecret (Or.inr rfl) (by decide) cleared
  | accepted secret step signsIn =>
    cases signsIn with
    | true => exact bounded.reset _ (.accepted secret step true) nextSecret (Or.inl rfl) nofun cleared
    | false => exact bounded.reset _ (.accepted secret step false) nextSecret (Or.inr rfl) nofun cleared
  | started => exact bounded.kept _ .started nextSecret rfl (by decide) rfl (column_same ..)
  | disabled => exact bounded.kept _ .disabled nextSecret rfl (by decide) rfl (column_same ..)
  | refused => exact bounded.kept _ .refused nextSecret rfl (by decide) rfl (column_same ..)

theorem bounded_step (state : LoginState) (event : LoginEvent) (next : LoginState) (bounded : Bounded state)
    (admitted : Counted otp state event) (accepted : loginStep otp state event = .ok next) : Bounded next := by
  cases event with
  | load call now =>
    simp only [loginStep, pure_ok] at accepted
    subst accepted
    exact { bounded with }
  | abandon place =>
    simp only [loginStep, bind_ok, pure_ok] at accepted
    obtain ⟨pending, -, rfl⟩ := accepted
    exact { bounded with }
  | commit place clock =>
    simp only [loginStep, commitCall, bind_ok, orRefuse_ok, pure_ok] at accepted
    obtain ⟨pending, isPending, rfl⟩ := accepted
    have decided := evaluate_cases otp state.nextSecret pending.loaded pending.now clock pending.call
    exact { bounded.commit (admitted pending isPending) decided (state.nextSecret + 1) with }

/-- Between two lockouts or complete logins fewer than ten checks fail before the one that locks the account. -/
theorem failed_check_runs (otp : Otp) (active : Bool) (passwordHash : Option Secret) (events : List LoginEvent)
    (counted : Guarded (loginStep otp) (Counted otp) (newUser active passwordHash) events)
    (newer between older : List Verdict)
    (split : (run (loginStep otp) (newUser active passwordHash) events).verdicts = newer ++ (between ++ older))
    (going : ∀ verdict ∈ between, verdict.ends = false) : between.countP (· = .failed) < maxFailedLogins := by
  have bounded := Guarded.invariant bounded_step events counted (newUser_bounded active passwordHash)
  have isSuffix : between ++ older <:+ (run (loginStep otp) (newUser active passwordHash) events).verdicts :=
    ⟨newer, split.symm⟩
  exact Nat.lt_of_le_of_lt (countP_le_failedSince going) (bounded.since _ isSuffix)

/-- Calls one after the other, each at its own time step. -/
private def inTurn (calls : List Call) : List LoginEvent :=
  calls.zipIdx.flatMap fun (call, place) => [.load call (unixEpoch + 30 * place), .commit place (unixEpoch + 30 * place)]

/-- Codes of the test vectors for one secret. -/
private def sampleOtp : Otp := fun _ step =>
  match step with
  | 0 => "755224"
  | 1 => "287082"
  | 2 => "359152"
  | 3 => "969429"
  | _ => "338314"

private def askSecond : SignIn := { passkey := true }

theorem sample_failed_check_runs : (List.replicate 9 Verdict.failed).countP (· = .failed) < maxFailedLogins := by
  have counted : Guarded (loginStep sampleOtp) (Counted sampleOtp) (newUser true (some 1))
      (inTurn (List.replicate 10 (.checkPassword 0 askSecond))) := by decide +kernel
  exact failed_check_runs sampleOtp true (some 1) _ counted [.lockedOut] (List.replicate 9 .failed) []
    (by decide +kernel) (by decide)

/-- Eleven requests load the same row. -/
private def atOnce : List LoginEvent :=
  List.replicate 11 (.load (.checkPassword 0 askSecond) unixEpoch) ++
    (List.range 11).map fun place => .commit place unixEpoch

/-- Nine wrong codes on each side of a correct password. -/
private def firstFactorBetween : List LoginEvent :=
  inTurn ([.startTotpSetup, .enableTotp "287082" true] ++ List.replicate 9 (.verifyTotp "000000") ++
    [.checkPassword 1 {}] ++ List.replicate 9 (.verifyTotp "000000"))

private def noLimit (events : List LoginEvent) : Prop :=
  ∃ newer between older,
    (run (loginStep sampleOtp) (newUser true (some 1)) events).verdicts = newer ++ (between ++ older) ∧
      (∀ verdict ∈ between, verdict.ends = false) ∧ maxFailedLogins < between.countP (· = .failed)

theorem more_failed_checks : noLimit atOnce ∧ noLimit firstFactorBetween := by
  constructor
  · refine ⟨[], List.replicate 11 .failed, [], ?_, ?_, ?_⟩
    all_goals decide +kernel
  · refine ⟨[], List.replicate 9 .failed ++ [.firstFactor] ++ List.replicate 9 .failed, [.accepted 0 1 true, .started],
      ?_, ?_, ?_⟩
    all_goals decide +kernel

/-- The accepted time steps of a secret, newest first. -/
def stepsOf (secret : Secret) (verdicts : List Verdict) : List ℤ :=
  verdicts.filterMap fun
    | .accepted used step _ => if used = secret then some step else none
    | _ => none

/-- Calls that write the last time step. -/
def Call.writesStep : Call → Bool
  | .verifyTotp _ | .enableTotp _ _ | .disableTotp _ => true
  | _ => false

/-- A code is accepted, or TOTP is switched off, while secret and last time step are those that were loaded. -/
def Undisturbed (otp : Otp) (state : LoginState) : LoginEvent → Prop
  | .commit place clock => ∀ pending ∈ pendingAt state place, pending.call.writesStep = true →
      ¬ Wrong otp pending.loaded clock pending.call →
      state.row.totpSecret = pending.loaded.totpSecret ∧ state.row.totpLastStep = pending.loaded.totpLastStep
  | _ => True

instance (otp : Otp) (state : LoginState) : DecidablePred (Undisturbed otp state) := by
  intro event
  cases event <;> unfold Undisturbed <;> infer_instance

structure Ascending (row : UserRow) (verdicts : List Verdict) (nextSecret : Secret) : Prop where
  drawn : ∀ secret ∈ row.totpSecret, secret < nextSecret
  unused : ∀ secret, nextSecret ≤ secret → stepsOf secret verdicts = []
  newest : ∀ secret ∈ row.totpSecret, ∀ step ∈ stepsOf secret verdicts, ∃ last ∈ row.totpLastStep, step ≤ last
  ascending : ∀ secret, (stepsOf secret verdicts).Pairwise (· > ·)

section

variable (ascending : Ascending row verdicts nextSecret) (verdict : Verdict)
  (notAccepted : ∀ secret step signsIn, verdict ≠ .accepted secret step signsIn)
include ascending verdict notAccepted

theorem Ascending.moved (sources : ∀ secret ∈ next.totpSecret, secret = nextSecret ∨
      secret ∈ row.totpSecret ∧ next.totpLastStep = row.totpLastStep) :
    Ascending next (verdict :: verdicts) (nextSecret + 1) := by
  have same : ∀ secret, stepsOf secret (verdict :: verdicts) = stepsOf secret verdicts := by
    intro secret
    cases verdict with
    | accepted used step signsIn => exact absurd rfl (notAccepted used step signsIn)
    | _ => rfl
  refine ⟨?_, ?_, ?_, ?_⟩
  · intro secret isSecret
    rcases sources secret isSecret with rfl | ⟨before, -⟩
    · exact Nat.lt_succ_self secret
    · exact Nat.lt_succ_of_lt (ascending.drawn secret before)
  · intro secret above
    rw [same]
    exact ascending.unused secret (Nat.le_of_succ_le above)
  · intro secret isSecret step member
    rw [same] at member
    rcases sources secret isSecret with rfl | ⟨before, sameStep⟩
    · rw [ascending.unused _ (Nat.le_refl _)] at member
      exact absurd member List.not_mem_nil
    · rw [sameStep]
      exact ascending.newest secret before step member
  · intro secret
    rw [same]
    exact ascending.ascending secret

theorem Ascending.kept (sameSecret : next.totpSecret = row.totpSecret) (sameStep : next.totpLastStep = row.totpLastStep) :
    Ascending next (verdict :: verdicts) (nextSecret + 1) :=
  ascending.moved verdict notAccepted fun _ isSecret => Or.inr ⟨sameSecret ▸ isSecret, sameStep⟩

end

theorem Ascending.commit {pending : Pending} (ascending : Ascending row verdicts nextSecret)
    (admitted : pending.call.writesStep = true → ¬ Wrong otp pending.loaded clock pending.call →
      row.totpSecret = pending.loaded.totpSecret ∧ row.totpLastStep = pending.loaded.totpLastStep)
    (decided : Evaluated otp nextSecret pending.loaded pending.now clock pending.call outcome) :
    Ascending (pending.loaded.write outcome.1 row) (outcome.2 :: verdicts) (nextSecret + 1) := by
  cases decided with
  | failed => exact ascending.kept .failed nofun (column_same ..) (column_same ..)
  | lockedOut => exact ascending.kept .lockedOut nofun (column_same ..) (column_same ..)
  | password verdict correct =>
    apply ascending.kept verdict _ (column_same ..) (column_same ..)
    rcases correct with rfl | rfl
    · nofun
    · nofun
  | refused => exact ascending.kept .refused nofun (column_same ..) (column_same ..)
  | accepted secret step signsIn lastLoginAt notWrong asked found newer =>
    have writes : pending.call.writesStep = true := by
      rcases asked with ⟨code, isCall⟩ | ⟨code, isCall⟩
      · rw [isCall]; rfl
      · rw [isCall]; rfl
    obtain ⟨sameSecret, sameStep⟩ := admitted writes notWrong
    have inRow : row.totpSecret = some secret := sameSecret.trans found
    have newSecret : (pending.loaded.write { pending.loaded with
        totpLastStep := some step, totpEnabled := true, failedLogins := 0, lastLoginAt } row).totpSecret =
        some secret := (column_same ..).trans inRow
    have newStep : (pending.loaded.write { pending.loaded with
        totpLastStep := some step, totpEnabled := true, failedLogins := 0, lastLoginAt } row).totpLastStep =
        some step := by
      rw [UserRow.write, sameStep]
      exact column_current ..
    have below : ∀ old ∈ stepsOf secret verdicts, old < step := by
      intro old member
      obtain ⟨last, isLast, notAfter⟩ := ascending.newest secret inRow old member
      exact Int.lt_of_le_of_lt notAfter (newer last (sameStep ▸ isLast))
    have ofSecret : stepsOf secret (.accepted secret step signsIn :: verdicts) = step :: stepsOf secret verdicts := by
      simp [stepsOf]
    have ofOther : ∀ other, other ≠ secret →
        stepsOf other (.accepted secret step signsIn :: verdicts) = stepsOf other verdicts := by
      intro other different
      simp [stepsOf, Ne.symm different]
    refine ⟨?_, ?_, ?_, ?_⟩
    · intro other isOther
      rw [newSecret, Option.mem_some_iff] at isOther
      subst isOther
      exact Nat.lt_succ_of_lt (ascending.drawn secret inRow)
    · intro other above
      have drawn := ascending.drawn secret inRow
      rw [ofOther other (Nat.ne_of_gt (Nat.lt_of_lt_of_le drawn (Nat.le_of_succ_le above)))]
      exact ascending.unused other (Nat.le_of_succ_le above)
    · intro other isOther
      rw [newSecret, Option.mem_some_iff] at isOther
      subst isOther
      intro old member
      rw [ofSecret] at member
      refine ⟨step, newStep, ?_⟩
      rcases List.mem_cons.mp member with rfl | earlier
      · exact Int.le_refl old
      · exact Int.le_of_lt (below old earlier)
    · intro other
      by_cases same : other = secret
      · subst same
        rw [ofSecret]
        exact List.Pairwise.cons below (ascending.ascending other)
      · rw [ofOther other same]
        exact ascending.ascending other
  | started =>
    apply ascending.moved .started nofun
    intro secret isSecret
    rcases column_cases pending.loaded.totpSecret (some nextSecret) row.totpSecret with kept | written
    · exact Or.inr ⟨kept ▸ isSecret, column_same ..⟩
    · exact Or.inl (Option.mem_some_iff.mp (written ▸ isSecret)).symm
  | disabled password isCall =>
    have writes : pending.call.writesStep = true := by rw [isCall]; rfl
    have notWrong : ¬ Wrong otp pending.loaded clock pending.call := by rw [isCall]; exact id
    obtain ⟨sameSecret, -⟩ := admitted writes notWrong
    apply ascending.moved .disabled nofun
    intro secret isSecret
    rw [UserRow.write, sameSecret, column_current] at isSecret
    cases isSecret

theorem ascending_step (state : LoginState) (event : LoginEvent) (next : LoginState)
    (ascending : Ascending state.row state.verdicts state.nextSecret) (admitted : Undisturbed otp state event)
    (accepted : loginStep otp state event = .ok next) : Ascending next.row next.verdicts next.nextSecret := by
  cases event with
  | load call now =>
    simp only [loginStep, pure_ok] at accepted
    subst accepted
    exact ascending
  | abandon place =>
    simp only [loginStep, bind_ok, pure_ok] at accepted
    obtain ⟨pending, -, rfl⟩ := accepted
    exact ascending
  | commit place clock =>
    simp only [loginStep, commitCall, bind_ok, orRefuse_ok, pure_ok] at accepted
    obtain ⟨pending, isPending, rfl⟩ := accepted
    have decided := evaluate_cases otp state.nextSecret pending.loaded pending.now clock pending.call
    exact ascending.commit (admitted pending isPending) decided

/-- For any clock the accepted time steps of each secret strictly ascend (newest first here). -/
theorem accepted_step_runs (otp : Otp) (active : Bool) (passwordHash : Option Secret) (events : List LoginEvent)
    (undisturbed : Guarded (loginStep otp) (Undisturbed otp) (newUser active passwordHash) events) (secret : Secret) :
    (stepsOf secret (run (loginStep otp) (newUser active passwordHash) events).verdicts).Pairwise (· > ·) := by
  have start : Ascending (newUser active passwordHash).row [] 0 :=
    ⟨nofun, fun _ _ => rfl, nofun, fun _ => List.Pairwise.nil⟩
  have ascending := Guarded.invariant ascending_step events undisturbed start
  exact ascending.ascending secret

/-- Setup, a code twice, and the next code before its time. -/
private def replayed : List LoginEvent :=
  inTurn [.startTotpSetup, .enableTotp "287082" true, .verifyTotp "287082", .verifyTotp "338314", .verifyTotp "969429"]

theorem sample_accepted_step_runs : ([4, 1] : List ℤ).Pairwise (· > ·) := by
  have undisturbed : Guarded (loginStep sampleOtp) (Undisturbed sampleOtp) (newUser true none) replayed := by
    decide +kernel
  have steps : stepsOf 0 (run (loginStep sampleOtp) (newUser true none) replayed).verdicts = [4, 1] := by decide +kernel
  exact steps ▸ accepted_step_runs sampleOtp true none replayed undisturbed 0

/-- Two requests carry the same code at the same time. -/
private def sameCode : List LoginEvent :=
  inTurn [.startTotpSetup, .enableTotp "755224" true] ++
    List.replicate 2 (.load (.verifyTotp "359152") (unixEpoch + 60)) ++
    [.commit 2 (unixEpoch + 60), .commit 3 (unixEpoch + 60)]

theorem code_accepted_twice :
    ¬ (stepsOf 0 (run (loginStep sampleOtp) (newUser true none) sameCode).verdicts).Pairwise (· > ·) := by
  have steps : stepsOf 0 (run (loginStep sampleOtp) (newUser true none) sameCode).verdicts = [2, 2, 0] := by
    decide +kernel
  rw [steps]
  decide

end Mhvp.Auth.LoginChecks
