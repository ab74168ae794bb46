import Mhvp.Auth.Sessions
import Mhvp.Core.Decimal

namespace Mhvp.Auth.LoginChecks

open Core

/-- A TOTP code by secret and time step (`generate_otp`). -/
abbrev Otp := Secret → ℤ → String

/-- The columns of a user that the checks read and write. -/
structure UserRow where
  active : Bool := true
  passwordHash : Option Secret := none
  totpSecret : Option Secret := none
  totpEnabled : Bool := false
  /-- Last accepted TOTP time step: a code is accepted once. -/
  totpLastStep : Option ℤ := none
  failedLogins : ℕ := 0
  lockedUntil : Option Instant := none
  lastLoginAt : Option Instant := none

def UserRow.locked (row : UserRow) (now : Instant) : Bool := row.lockedUntil.any (now < ·)

def UserRow.verifyPassword (row : UserRow) (password : Secret) : Bool := row.passwordHash = some password

/-- A column of an object: written only where the request changed what it loaded. -/
def column {α : Type} [DecidableEq α] (loaded assigned current : α) : α :=
  if assigned = loaded then current else assigned

@[simp] theorem column_same [DecidableEq α] (loaded current : α) : column loaded loaded current = current := by
  simp [column]

theorem column_cases [DecidableEq α] (loaded assigned current : α) :
    column loaded assigned current = current ∨ column loaded assigned current = assigned :=
  ite_eq_or_eq _ _ _

theorem column_current [DecidableEq α] (loaded assigned : α) : column loaded assigned loaded = assigned := by
  unfold column
  split
  · exact ‹_ = _›.symm
  · rfl

def UserRow.write (loaded assigned current : UserRow) : UserRow where
  active := column loaded.active assigned.active current.active
  passwordHash := column loaded.passwordHash assigned.passwordHash current.passwordHash
  totpSecret := column loaded.totpSecret assigned.totpSecret current.totpSecret
  totpEnabled := column loaded.totpEnabled assigned.totpEnabled current.totpEnabled
  totpLastStep := column loaded.totpLastStep assigned.totpLastStep current.totpLastStep
  failedLogins := column loaded.failedLogins assigned.failedLogins current.failedLogins
  lockedUntil := column loaded.lockedUntil assigned.lockedUntil current.lockedUntil
  lastLoginAt := column loaded.lastLoginAt assigned.lastLoginAt current.lastLoginAt

def maxFailedLogins : ℕ := 10

def lockoutMinutes : ℕ := 15

/-- Seconds of a time step. -/
def interval : ℤ := 30

def unixEpoch : Instant := 719163 * secondsPerDay

/-- Time step of a valid code (window of one step around the current one), newer than `lastStep`. -/
def matchingStep (otp : Otp) (secret : Secret) (code : String) (lastStep : Option ℤ) (now : Instant) : Option ℤ :=
  let digits := (strip code).toList.filter (· ≠ ' ')
  let current := ((now : ℤ) - unixEpoch) / interval
  if digits.all Char.isDigit && digits.length = 6 then
    [current - 1, current, current + 1].find? fun step =>
      lastStep.all (· < step) && (otp secret step).toList = digits
  else none

/-- What the login handler finds beside the password: a passkey, a policy of the tenant, a trusted device. -/
structure SignIn where
  passkey : Bool := false
  required : Bool := false
  trusted : Bool := false

/-- A correct password is a complete login without a second factor, or on a trusted device. -/
def SignIn.complete (signIn : SignIn) (totpEnabled : Bool) : Bool :=
  if totpEnabled || signIn.passkey then signIn.trusted else !signIn.required

inductive Call
  | checkPassword (password : Secret) (signIn : SignIn)
  | verifyTotp (code : String)
  /-- `signsIn`: the setup within a login, which issues a session. -/
  | enableTotp (code : String) (signsIn : Bool)
  | startTotpSetup
  | disableTotp (password : Secret)

/-- How a call ended. -/
inductive Verdict
  /-- A failed check that was counted. -/
  | failed
  /-- A failed check that locked the account. -/
  | lockedOut
  /-- A correct password, where a second factor is still to come. -/
  | firstFactor
  | passwordLogin
  | accepted (secret : Secret) (step : ℤ) (signsIn : Bool)
  | started
  | disabled
  | refused
  deriving DecidableEq

/-- `_register_failure` -/
def registerFailure (row : UserRow) (now : Instant) : UserRow × Verdict :=
  if row.failedLogins + 1 ≥ maxFailedLogins then
    ({ row with lockedUntil := some (now + lockoutMinutes * 60), failedLogins := 0 }, .lockedOut)
  else ({ row with failedLogins := row.failedLogins + 1 }, .failed)

def checkPassword (row : UserRow) (password : Secret) (signIn : SignIn) (now : Instant) : UserRow × Verdict :=
  if row.locked now then (row, .refused)
  else if !row.active || !row.verifyPassword password then registerFailure row now
  else ({ row with failedLogins := 0 },
    if signIn.complete row.totpEnabled then .passwordLogin else .firstFactor)

/-- The step of a code for the secret of the user, at the time of the comparison. -/
def stepOf (otp : Otp) (row : UserRow) (code : String) (clock : Instant) : Option (Secret × ℤ) := do
  let secret ← row.totpSecret
  let step ← matchingStep otp secret code row.totpLastStep clock
  pure (secret, step)

def verifyTotp (otp : Otp) (row : UserRow) (code : String) (now clock : Instant) : UserRow × Verdict :=
  if !row.active then (row, .refused)
  else if row.locked now then (row, .refused)
  else match stepOf otp row code clock with
    | none => registerFailure row now
    | some (secret, step) =>
      ({ row with totpLastStep := some step, totpEnabled := true, failedLogins := 0, lastLoginAt := some now },
        .accepted secret step true)

def enableTotp (otp : Otp) (row : UserRow) (code : String) (signsIn : Bool) (now clock : Instant) :
    UserRow × Verdict :=
  if !row.active then (row, .refused)
  else if row.totpEnabled then (row, .refused)
  else if row.locked now then (row, .refused)
  else if row.totpSecret.isNone then (row, .refused)
  else match stepOf otp row code clock with
    | none => registerFailure row now
    | some (secret, step) =>
      ({ row with totpLastStep := some step, totpEnabled := true, failedLogins := 0 },
        .accepted secret step signsIn)

def startTotpSetup (row : UserRow) (newSecret : Secret) : UserRow × Verdict :=
  if !row.active then (row, .refused)
  else if row.totpEnabled then (row, .refused)
  else ({ row with totpSecret := some newSecret }, .started)

def disableTotp (row : UserRow) (password : Secret) : UserRow × Verdict :=
  if !row.active then (row, .refused)
  else if !row.verifyPassword password then (row, .refused)
  else ({ row with totpEnabled := false, totpSecret := none, totpLastStep := none }, .disabled)

def evaluate (otp : Otp) (newSecret : Secret) (row : UserRow) (now clock : Instant) : Call → UserRow × Verdict
  | .checkPassword password signIn => checkPassword row password signIn now
  | .verifyTotp code => verifyTotp otp row code now clock
  | .enableTotp code signsIn => enableTotp otp row code signsIn now clock
  | .startTotpSetup => startTotpSetup row newSecret
  | .disableTotp password => disableTotp row password

/-- A request that loaded the row. -/
structure Pending where
  call : Call
  loaded : UserRow
  now : Instant
  ended : Bool := false

/-- The row, the requests, and the verdicts in the order of the commits, newest first. -/
structure LoginState where
  row : UserRow
  pending : List Pending := []
  verdicts : List Verdict := []
  /-- Secrets are random; those from here on were never drawn. -/
  nextSecret : Secret := 0

inductive LoginEvent
  | load (call : Call) (now : Instant)
  | commit (place : ℕ) (clock : Instant)
  /-- The worker of the request is lost. -/
  | abandon (place : ℕ)

def pendingAt (state : LoginState) (place : ℕ) : Option Pending :=
  state.pending[place]?.filter fun pending => !pending.ended

def endPending (state : LoginState) (place : ℕ) (pending : Pending) : LoginState :=
  { state with pending := state.pending.set place { pending with ended := true } }

def commitCall (otp : Otp) (state : LoginState) (place : ℕ) (clock : Instant) : Result LoginState := do
  let pending ← orRefuse (pendingAt state place) .resourceNotFound
  let decided := evaluate otp state.nextSecret pending.loaded pending.now clock pending.call
  pure { endPending state place pending with
    row := pending.loaded.write decided.1 state.row
    verdicts := decided.2 :: state.verdicts
    nextSecret := state.nextSecret + 1 }

def loginStep (otp : Otp) (state : LoginState) : LoginEvent → Result LoginState
  | .load call now => pure { state with pending := state.pending ++ [{ call, loaded := state.row, now }] }
  | .commit place clock => commitCall otp state place clock
  | .abandon place => do
      let pending ← orRefuse (pendingAt state place) .resourceNotFound
      pure (endPending state place pending)

/-- A user as created, with or without a password. -/
def newUser (active : Bool) (passwordHash : Option Secret) : LoginState := { row := { active, passwordHash } }

/-- The given password or code is wrong for the row. -/
def Wrong (otp : Otp) (row : UserRow) (clock : Instant) : Call → Prop
  | .checkPassword password _ => row.active = false ∨ row.verifyPassword password = false
  | .verifyTotp code | .enableTotp code _ => stepOf otp row code clock = none
  | .startTotpSetup | .disableTotp _ => False

instance : Decidable (Wrong otp row clock call) := by
  cases call <;> unfold Wrong <;> infer_instance

inductive Evaluated (otp : Otp) (newSecret : Secret) (row : UserRow) (now clock : Instant) (call : Call) :
    UserRow × Verdict → Prop
  | failed (wrong : Wrong otp row clock call) (notLocked : row.locked now = false)
      (below : row.failedLogins + 1 < maxFailedLogins) :
      Evaluated otp newSecret row now clock call ({ row with failedLogins := row.failedLogins + 1 }, .failed)
  | lockedOut : Evaluated otp newSecret row now clock call
      ({ row with lockedUntil := some (now + lockoutMinutes * 60), failedLogins := 0 }, .lockedOut)
  | password (verdict : Verdict) (correct : verdict = .passwordLogin ∨ verdict = .firstFactor) :
      Evaluated otp newSecret row now clock call ({ row with failedLogins := 0 }, verdict)
  | accepted (secret : Secret) (step : ℤ) (signsIn : Bool) (lastLoginAt : Option Instant)
      (notWrong : ¬ Wrong otp row clock call) (asked : (∃ code, call = .verifyTotp code) ∨
        ∃ code, call = .enableTotp code signsIn)
      (found : row.totpSecret = some secret) (newer : ∀ last ∈ row.totpLastStep, last < step) :
      Evaluated otp newSecret row now clock call
        ({ row with totpLastStep := some step, totpEnabled := true, failedLogins := 0, lastLoginAt },
          .accepted secret step signsIn)
  | started : Evaluated otp newSecret row now clock call ({ row with totpSecret := some newSecret }, .started)
  | disabled (password : Secret) (isCall : call = .disableTotp password) : Evaluated otp newSecret row now clock call
      ({ row with totpEnabled := false, totpSecret := none, totpLastStep := none }, .disabled)
  | refused : Evaluated otp newSecret row now clock call (row, .refused)

section Evaluation

variable {otp : Otp} {newSecret : Secret} {row : UserRow} {now clock : Instant} {call : Call}

theorem registerFailure_evaluated (wrong : Wrong otp row clock call) (notLocked : row.locked now = false) :
    Evaluated otp newSecret row now clock call (registerFailure row now) := by
  unfold registerFailure
  split
  · exact .lockedOut
  · rename_i below
    exact .failed wrong notLocked (Nat.not_le.mp below)

theorem matchingStep_newer (found : matchingStep otp secret code lastStep clock = some step) :
    ∀ last ∈ lastStep, last < step := by
  intro last isLast
  unfold matchingStep at found
  dsimp only at found
  split at found
  · have matched := List.find?_some found
    rw [Option.mem_def.mp isLast] at matched
    simp only [Option.all_some, Bool.and_eq_true, decide_eq_true_eq] at matched
    exact matched.1
  · cases found

theorem stepOf_some (found : stepOf otp row code clock = some (secret, step)) :
    row.totpSecret = some secret ∧ ∀ last ∈ row.totpLastStep, last < step := by
  simp only [stepOf, Option.bind_eq_bind, Option.bind_eq_some_iff, Option.pure_def, Option.some.injEq,
    Prod.mk.injEq] at found
  obtain ⟨_, isSecret, _, matched, rfl, rfl⟩ := found
  exact ⟨isSecret, matchingStep_newer matched⟩

theorem evaluate_cases (otp : Otp) (newSecret : Secret) (row : UserRow) (now clock : Instant) (call : Call) :
    Evaluated otp newSecret row now clock call (evaluate otp newSecret row now clock call) := by
  cases call with
  | checkPassword password signIn =>
    rw [evaluate, checkPassword]
    by_cases locked : row.locked now = true
    · rw [if_pos locked]
      exact .refused
    rw [if_neg locked]
    split
    · rename_i wrong
      refine registerFailure_evaluated ?_ (Bool.eq_false_of_not_eq_true locked)
      simpa [Wrong] using wrong
    · apply Evaluated.password
      split
      · exact Or.inl rfl
      · exact Or.inr rfl
  | verifyTotp code =>
    rw [evaluate, verifyTotp]
    by_cases inactive : (!row.active) = true
    · rw [if_pos inactive]
      exact .refused
    rw [if_neg inactive]
    by_cases locked : row.locked now = true
    · rw [if_pos locked]
      exact .refused
    rw [if_neg locked]
    cases found : stepOf otp row code clock with
    | none => exact registerFailure_evaluated found (Bool.eq_false_of_not_eq_true locked)
    | some matched =>
      obtain ⟨isSecret, newer⟩ := stepOf_some found
      have notWrong : ¬ Wrong otp row clock (.verifyTotp code) := by simp [Wrong, found]
      exact .accepted _ _ _ _ notWrong (Or.inl ⟨code, rfl⟩) isSecret newer
  | enableTotp code signsIn =>
    rw [evaluate, enableTotp]
    by_cases inactive : (!row.active) = true
    · rw [if_pos inactive]
      exact .refused
    rw [if_neg inactive]
    by_cases enabled : row.totpEnabled = true
    · rw [if_pos enabled]
      exact .refused
    rw [if_neg enabled]
    by_cases locked : row.locked now = true
    · rw [if_pos locked]
      exact .refused
    rw [if_neg locked]
    by_cases missing : row.totpSecret.isNone = true
    · rw [if_pos missing]
      exact .refused
    rw [if_neg missing]
    cases found : stepOf otp row code clock with
    | none => exact registerFailure_evaluated found (Bool.eq_false_of_not_eq_true locked)
    | some matched =>
      obtain ⟨isSecret, newer⟩ := stepOf_some found
      have notWrong : ¬ Wrong otp row clock (.enableTotp code signsIn) := by simp [Wrong, found]
      exact .accepted _ _ _ _ notWrong (Or.inr ⟨code, rfl⟩) isSecret newer
  | startTotpSetup =>
    rw [evaluate, startTotpSetup]
    split
    · exact .refused
    split
    · exact .refused
    · exact .started
  | disableTotp password =>
    rw [evaluate, disableTotp]
    split
    · exact .refused
    split
    · exact .refused
    · exact .disabled password rfl

end Evaluation

end Mhvp.Auth.LoginChecks
