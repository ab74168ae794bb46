import Mathlib.Data.List.Basic

/-! Problem details: every refusal is a registered code with a German text. -/

namespace Mhvp.Core

/-- The registered codes the modelled services answer with. -/
inductive ErrorCode
  /-- An exception that no handler turns into a problem. -/
  | internal
  | validation
  | resourceNotFound
  | conflict
  | gateFourEyes
  | forbidden
  | versionConflict
  | accUnbalanced
  | accWrongEntity
  | accPeriodLocked
  | accPeriodLockedObject
  | accPeriodLockReleaseDisabled
  | accPostedImmutable
  | accVatNotReleased
  | accApprovalLimit
  | writeOffAmountChanged
  | writeOffNeedsPerson
  | writeOffPostingLocked
  | releaseGateClosed
  | bankLevelNotEligible
  | bankReconAccountAmbiguous
  | bankCounterAccountNotAllowed
  | paymentChannelUnavailable
  | paymentFileState
  | bankTransferPairSettled
  | bankTransferPartnerBookedElsewhere
  | billingPrefixMissing
  | billingVatStatusMissing
  | billingTaxDataMissing
  | notAuthenticated
  | invalidCredentials
  | accountLocked
  | refreshInvalid
  | mfaResetDisabled
  | mfaResetFourEyes
  | mfaResetState
  | idempotencyKeyInvalid
  | idempotencyKeyMismatch
  | idempotencyInProgress
  | rentInvoiceNotAllowed
  | rentInvoiceTaxIdMissing
  | rentInvoiceNoItems
  | rentInvoiceCancelled
  | rentInvoiceG1Closed
  | allocationBasisMissing
  | onlineMeetingDisabled
  | portalCircularDisabled
  | ownershipTransferInvalid
  | correctionResolutionForeign
  | subCommunityBasisMissing
  | rateLimited
  | hoaLevyRefundDisabled
  | uploadTooLarge
  | ruleProposalNotOpen
  | ruleProposalStale
  /-- A constraint or trigger of the database refuses the statement. -/
  | databaseRefused
  deriving DecidableEq

structure ProblemError where
  error : ErrorCode
  detail : Option String := none
  deriving DecidableEq

abbrev Result (α : Type) := Except ProblemError α

/-- `raise ProblemError(error, detail=…)` unless `accepted`. -/
def require (accepted : Prop) [Decidable accepted] (error : ErrorCode)
    (detail : Option String := none) : Result Unit :=
  if accepted then .ok () else .error { error, detail }

/-- The row, or the refusal of a missing row. -/
def orRefuse (row : Option α) (error : ErrorCode) (detail : Option String := none) : Result α :=
  match row with
  | some value => .ok value
  | none => .error { error, detail }

@[simp] theorem require_ok [Decidable accepted] :
    require accepted error detail = .ok result ↔ accepted := by
  unfold require
  split <;> simp_all

@[simp] theorem orRefuse_ok : orRefuse row error detail = .ok value ↔ row = some value := by
  cases row <;> simp [orRefuse]

@[simp] theorem bind_ok {ε : Type} {first : Except ε α} {next : α → Except ε β} :
    (first >>= next) = .ok result ↔ ∃ value, first = .ok value ∧ next value = .ok result := by
  cases first <;> simp [bind, Except.bind]

@[simp] theorem exists_unit {holds : Unit → Prop} : (∃ value, holds value) ↔ holds () :=
  ⟨fun ⟨_, present⟩ => present, fun present => ⟨(), present⟩⟩

@[simp] theorem pure_ok :
    (pure value : Except ε α) = .ok result ↔ value = result := by
  simp [pure, Except.pure]

@[simp] theorem throw_ok :
    ¬ (throw problem : Result α) = .ok result := by
  simp [throw, throwThe, MonadExceptOf.throw]

theorem mapM_ok {ε Item Value : Type} {step : Item → Except ε Value} {items : List Item} {values : List Value} :
    items.mapM step = .ok values ↔ List.Forall₂ (fun item value => step item = .ok value) items values := by
  induction items generalizing values with
  | nil =>
    rw [List.mapM_nil, pure_ok]
    constructor
    · intro same
      cases same
      exact .nil
    · intro each
      cases each
      rfl
  | cons item rest ih =>
    rw [List.mapM_cons, bind_ok]
    constructor
    · intro found
      obtain ⟨value, isValue, isRest⟩ := found
      obtain ⟨more, isMore, result⟩ := bind_ok.mp isRest
      cases pure_ok.mp result
      exact .cons isValue (ih.mp isMore)
    · intro each
      cases each with
      | cons isValue isMore => exact ⟨_, isValue, bind_ok.mpr ⟨_, ih.mpr isMore, rfl⟩⟩

/-- The answer of an accepted request. -/
def answer? : Result α → Option α
  | .ok value => some value
  | .error _ => none

theorem answer?_eq_some : answer? result = some value ↔ result = .ok value := by
  cases result <;> simp [answer?]

theorem accepted_of_isSome (accepted : (answer? result).isSome) :
    result = .ok ((answer? result).get accepted) := by
  cases result with
  | ok value => rfl
  | error problem => simp [answer?] at accepted

end Mhvp.Core
