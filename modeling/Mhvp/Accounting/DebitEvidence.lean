import Mhvp.Accounting.DirectDebitFeedback

namespace Mhvp.Accounting.DirectDebit

open Core Banking Lib.Calendar Lib.Table Lib.Transition

/-- The same status, or a status the bank may report next. -/
def Moves (old new : DebitStatus) : Prop := old = new ∨ old ∈ predecessors new

/-- Recorded evidence of a return stays. -/
structure KeepsReturn (order later : Order) : Prop where
  transaction : ∀ value ∈ order.returnTransactionId, later.returnTransactionId = some value
  day : ∀ value ∈ order.returnedOn, later.returnedOn = some value
  fee : ∀ value ∈ order.returnFeeAmount, later.returnFeeAmount = some value
  voucher : ∀ value ∈ order.returnFeeDocumentId, later.returnFeeDocumentId = some value

/-- The same order, except that missing evidence of its return was completed. -/
structure Completes (order later : Order) : Prop where
  same : later = { order with
    returnedOn := later.returnedOn
    returnFeeAmount := later.returnFeeAmount
    returnFeeDocumentId := later.returnFeeDocumentId
    returnTransactionId := later.returnTransactionId }
  returned : later = order ∨ order.bankStatus = .returned

/-- What any feedback leaves of an order. -/
structure Progress (order later : Order) : Prop where
  amount : later.amount = order.amount
  moves : Moves order.bankStatus later.bankStatus
  repeated : later.bankStatus = order.bankStatus → Completes order later
  collected : ∀ amount ∈ order.collectedAmount, later.collectedAmount = some amount
  collection : order.bankStatus = .collected ∨ order.bankStatus = .returned →
    later.bankTransactionId = order.bankTransactionId
  evidence : KeepsReturn order later

/-- The orders of a later state. -/
def Later (db next : Db) : Prop := Onward Progress db.debits next.debits

/-- An amount is recorded with the collection, the evidence of a return with the return. -/
structure Recorded (order : Order) : Prop where
  collected : order.bankStatus = .collected → order.collectedAmount.isSome
  early : ∀ amount ∈ order.collectedAmount, order.bankStatus = .collected ∨ order.bankStatus = .returned
  amount : ∀ amount ∈ order.collectedAmount, 0 < amount ∧ amount ≤ order.amount
  notReturned : order.bankStatus ≠ .returned → order.returnTransactionId = none ∧ order.returnedOn = none ∧
    order.returnFeeAmount = none ∧ order.returnFeeDocumentId = none

def AllRecorded (db : Db) : Prop := ∀ order ∈ db.debits, Recorded order

section Evidence

variable {db next : Db} {run : Run} {order later last : Order} {feedback : Feedback} {today : Date}

theorem predecessors_trans (before : old ∈ predecessors new) (after : new ∈ predecessors third) :
    old ∈ predecessors third := by
  cases third with
  | opened => cases after
  | accepted =>
    obtain rfl := List.mem_singleton.mp after
    cases before
  | rejected =>
    cases new <;> simp_all [predecessors]
  | collected =>
    cases new <;> simp_all [predecessors]
  | returned =>
    cases old <;> cases new <;> simp_all [predecessors]

theorem Moves.trans (early : Moves old new) (late : Moves new third) : Moves old third := by
  rcases early with rfl | before
  · exact late
  · rcases late with rfl | after
    · exact Or.inr before
    · exact Or.inr (predecessors_trans before after)

theorem Moves.antisymm (early : Moves old new) (late : Moves new old) : old = new := by
  rcases early with same | before
  · exact same
  · rcases late with same | after
    · exact same.symm
    · cases old <;> cases new <;> simp_all [predecessors]

theorem Moves.ended (moves : Moves old new) (ended : old = .collected ∨ old = .returned) :
    new = .collected ∨ new = .returned := by
  rcases moves with rfl | before
  · exact ended
  · rcases ended with rfl | rfl
    · cases new <;> simp_all [predecessors]
    · cases new <;> simp_all [predecessors]

theorem KeepsReturn.refl (order : Order) : KeepsReturn order order :=
  ⟨fun _ found => found, fun _ found => found, fun _ found => found, fun _ found => found⟩

theorem KeepsReturn.trans (early : KeepsReturn order later) (late : KeepsReturn later last) : KeepsReturn order last where
  transaction value found := late.transaction value (early.transaction value found)
  day value found := late.day value (early.day value found)
  fee value found := late.fee value (early.fee value found)
  voucher value found := late.voucher value (early.voucher value found)

theorem Completes.refl (order : Order) : Completes order order := ⟨rfl, Or.inl rfl⟩

theorem Completes.bankStatus (completes : Completes order later) : later.bankStatus = order.bankStatus := by
  rw [completes.same]

theorem Completes.trans (early : Completes order later) (late : Completes later last) : Completes order last where
  same := by
    rw [late.same, early.same]
  returned := by
    rcases late.returned with rfl | returned
    · exact early.returned
    · exact Or.inr (early.bankStatus ▸ returned)

theorem Progress.refl (order : Order) : Progress order order :=
  ⟨rfl, Or.inl rfl, fun _ => Completes.refl order, fun _ found => found, fun _ => rfl, KeepsReturn.refl order⟩

theorem Progress.trans (early : Progress order later) (late : Progress later last) : Progress order last where
  amount := late.amount.trans early.amount
  moves := early.moves.trans late.moves
  repeated same := by
    have between : order.bankStatus = later.bankStatus := early.moves.antisymm (same ▸ late.moves)
    exact (early.repeated between.symm).trans (late.repeated (same.trans between))
  collected amount found := late.collected amount (early.collected amount found)
  collection ended := (late.collection (early.moves.ended ended)).trans (early.collection ended)
  evidence := early.evidence.trans late.evidence

theorem Later.refl (db : Db) : Later db db := Onward.refl Progress.refl db.debits

theorem Later.trans (early : Later db between) (late : Later between next) : Later db next :=
  Onward.trans (fun _ _ _ => Progress.trans) early late

theorem complete_ok [DecidableEq α] {recorded reported result : Option α}
    (accepted : complete recorded reported = .ok result) : ∀ value ∈ recorded, result = some value := by
  intro value known
  obtain rfl := Option.mem_def.mp known
  cases reported with
  | none => exact (pure_ok.mp accepted).symm
  | some other =>
    simp only [complete, bind_ok, exists_unit, pure_ok] at accepted
    exact accepted.2.symm

theorem completeReturn_ok (accepted : completeReturn db run order feedback = .ok (some later))
    (returned : order.bankStatus = .returned) : Completes order later ∧ KeepsReturn order later := by
  simp only [completeReturn, bind_ok, exists_unit, pure_ok] at accepted
  obtain ⟨tx, _, _, day, isDay, fee, isFee, voucher, isVoucher, transaction, isTransaction, answer⟩ := accepted
  split at answer
  · cases answer
  · cases answer
    refine ⟨⟨rfl, Or.inr returned⟩, ?_⟩
    exact ⟨complete_ok isTransaction, complete_ok isDay, complete_ok isFee, complete_ok isVoucher⟩

/-- What an accepted feedback did: complete the evidence of a return, or report an allowed next status. -/
theorem applyStatus_ok (accepted : applyStatus db run order feedback today = .ok (some later)) :
    (order.bankStatus = .returned ∧ Completes order later ∧ KeepsReturn order later) ∨
      (order.bankStatus ∈ predecessors feedback.status ∧ ∃ amount tx, 0 < amount ∧ amount ≤ order.amount ∧
        later = record order feedback amount tx) := by
  simp only [applyStatus, bind_ok, exists_unit, require_ok] at accepted
  obtain ⟨_, _, _, accepted⟩ := accepted
  split at accepted
  · rename_i repeats
    split at accepted
    · rename_i completes
      have returned := repeats.trans completes.1
      exact Or.inl ⟨returned, completeReturn_ok accepted returned⟩
    · cases pure_ok.mp accepted
  · simp only [bind_ok, exists_unit, require_ok, pure_ok] at accepted
    obtain ⟨allowed, _, ⟨positive, within⟩, tx, _, _, answer⟩ := accepted
    exact Or.inr ⟨allowed, _, tx, positive, within, (Option.some.inj answer).symm⟩

@[simp] theorem record_bankStatus (order : Order) (feedback : Feedback) (amount : Decimal)
    (tx : Option (BankTransactionId × BankTransaction)) : (record order feedback amount tx).bankStatus = feedback.status := by
  unfold record
  cases status : feedback.status <;> rfl

@[simp] theorem record_amount (order : Order) (feedback : Feedback) (amount : Decimal)
    (tx : Option (BankTransactionId × BankTransaction)) : (record order feedback amount tx).amount = order.amount := by
  unfold record
  cases status : feedback.status <;> rfl

theorem not_mem_predecessors (status : DebitStatus) : status ∉ predecessors status := by
  cases status <;> simp [predecessors]

section

variable (recorded : Recorded order)
include recorded

theorem Recorded.noCollection (allowed : order.bankStatus ∈ predecessors .collected) :
    order.collectedAmount = none := by
  cases known : order.collectedAmount with
  | none => rfl
  | some amount =>
    rcases recorded.early amount known with status | status
    · simp [status, predecessors] at allowed
    · simp [status, predecessors] at allowed

theorem Recorded.noReturn (allowed : order.bankStatus ∈ predecessors status) :
    order.returnTransactionId = none ∧ order.returnedOn = none ∧ order.returnFeeAmount = none ∧
      order.returnFeeDocumentId = none := by
  apply recorded.notReturned
  intro returned
  rw [returned] at allowed
  cases status <;> simp [predecessors] at allowed

theorem record_progress (allowed : order.bankStatus ∈ predecessors feedback.status)
    (amount : Decimal) (tx : Option (BankTransactionId × BankTransaction)) :
    Progress order (record order feedback amount tx) where
  amount := record_amount order feedback amount tx
  moves := by
    rw [record_bankStatus]
    exact Or.inr allowed
  repeated same := by
    rw [record_bankStatus] at same
    rw [← same] at allowed
    exact absurd allowed (not_mem_predecessors _)
  collected value known := by
    unfold record
    cases status : feedback.status with
    | collected =>
      rw [status] at allowed
      rw [recorded.noCollection allowed] at known
      cases known
    | opened => exact known
    | accepted => exact known
    | rejected => exact known
    | returned => exact known
  collection ended := by
    unfold record
    cases status : feedback.status with
    | returned => rfl
    | opened => simp [status, predecessors] at allowed
    | accepted | rejected | collected => rcases ended with ended | ended <;> simp [status, ended, predecessors] at allowed
  evidence := by
    obtain ⟨noTransaction, noDay, noFee, noVoucher⟩ := recorded.noReturn allowed
    constructor
    · simp [noTransaction]
    · simp [noDay]
    · simp [noFee]
    · simp [noVoucher]

theorem record_recorded (allowed : order.bankStatus ∈ predecessors feedback.status)
    (positive : 0 < amount) (within : amount ≤ order.amount) (tx : Option (BankTransactionId × BankTransaction)) :
    Recorded (record order feedback amount tx) where
  collected status := by
    rw [record_bankStatus] at status
    simp [record, status]
  early value known := by
    rw [record_bankStatus]
    unfold record at known
    cases status : feedback.status with
    | collected => exact Or.inl rfl
    | returned => exact Or.inr rfl
    | opened => simp [status, predecessors] at allowed
    | accepted | rejected =>
      simp only [status] at known
      rcases recorded.early value known with ended | ended <;> simp [status, ended, predecessors] at allowed
  amount value known := by
    rw [record_amount]
    unfold record at known
    cases status : feedback.status with
    | collected =>
      simp only [status] at known
      cases known
      exact ⟨positive, within⟩
    | opened | accepted | rejected | returned => exact recorded.amount value (by simpa only [status] using known)
  notReturned notReturned := by
    rw [record_bankStatus] at notReturned
    unfold record
    cases status : feedback.status with
    | returned => exact absurd status notReturned
    | opened => exact recorded.noReturn allowed
    | accepted => exact recorded.noReturn allowed
    | rejected => exact recorded.noReturn allowed
    | collected => exact recorded.noReturn allowed

end

theorem Completes.recorded (completes : Completes order later) (recorded : Recorded order) : Recorded later := by
  rcases completes.returned with rfl | returned
  · exact recorded
  · rw [completes.same]
    exact ⟨recorded.collected, recorded.early, recorded.amount, fun notReturned => absurd returned notReturned⟩

theorem Completes.progress (completes : Completes order later) (evidence : KeepsReturn order later) :
    Progress order later where
  amount := by rw [completes.same]
  moves := Or.inl completes.bankStatus.symm
  repeated _ := completes
  collected amount known := by
    rw [completes.same]
    exact known
  collection _ := by rw [completes.same]
  evidence := evidence

theorem applyStatus_progress (recorded : Recorded order)
    (accepted : applyStatus db run order feedback today = .ok (some later)) :
    Recorded later ∧ Progress order later := by
  rcases applyStatus_ok accepted with ⟨_, completes, evidence⟩ | ⟨allowed, amount, tx, positive, within, rfl⟩
  · exact ⟨completes.recorded recorded, completes.progress evidence⟩
  · exact ⟨record_recorded recorded allowed positive within tx, record_progress recorded allowed amount tx⟩

theorem applyStatus_getD (recorded : Recorded order)
    (accepted : applyStatus db run order feedback today = .ok answer) :
    Recorded (answer.getD order) ∧ Progress order (answer.getD order) := by
  cases answer with
  | none => exact ⟨recorded, Progress.refl order⟩
  | some later => exact applyStatus_progress recorded accepted

theorem applyDebit_progress (recorded : Recorded order) (line : StatusLine) :
    Recorded (applyDebit db today order line) ∧ Progress order (applyDebit db today order line) := by
  unfold applyDebit
  split
  · split
    · rename_i accepted
      exact applyStatus_getD recorded accepted
    · exact ⟨recorded, Progress.refl order⟩
  · exact ⟨recorded, Progress.refl order⟩

theorem applyEach_progress (recorded : ∀ order ∈ debits, Recorded order)
    (accepted : applyEach db run feedback today ids debits = .ok rows) :
    (∀ order ∈ rows, Recorded order) ∧ Onward Progress debits rows := by
  induction ids generalizing debits with
  | nil =>
    obtain rfl := pure_ok.mp accepted
    exact ⟨recorded, Onward.refl Progress.refl _⟩
  | cons orderId rest ih =>
    simp only [applyEach, bind_ok, orRefuse_ok] at accepted
    obtain ⟨order, found, answer, applied, accepted⟩ := accepted
    obtain ⟨isRecorded, progress⟩ := applyStatus_getD (recorded order (List.mem_of_getElem? found)) applied
    obtain ⟨allRecorded, onward⟩ := ih (fun row member => by
      rcases List.mem_or_eq_of_mem_set member with old | rfl
      · exact recorded row old
      · exact isRecorded) accepted
    exact ⟨allRecorded, Onward.trans (fun _ _ _ => Progress.trans) (Onward.set Progress.refl found progress) onward⟩

theorem applyDebitLines_progress (recorded : ∀ order ∈ debits, Recorded order)
    (lines : List (DebitId × StatusLine)) : (∀ order ∈ applyDebitLines db today debits lines, Recorded order) ∧
      Onward Progress debits (applyDebitLines db today debits lines) := by
  induction lines generalizing debits with
  | nil => exact ⟨recorded, Onward.refl Progress.refl _⟩
  | cons found rest ih =>
    obtain ⟨allRecorded, onward⟩ := @ih (debits.modify found.1 fun order => applyDebit db today order found.2) (by
      intro order member
      rcases mem_modify member with old | ⟨row, isRow, rfl⟩
      · exact recorded order old
      · exact (applyDebit_progress (recorded row isRow) found.2).1)
    refine ⟨allRecorded, Onward.trans (fun _ _ _ => Progress.trans) ?_ onward⟩
    exact Onward.modify Progress.refl fun row member => (applyDebit_progress (recorded row member) found.2).2

theorem debitOf_recorded (made : debitOf runId candidate endToEndId = .ok order) : Recorded order := by
  unfold debitOf at made
  split at made
  · obtain rfl := pure_ok.mp made
    refine ⟨fun status => ?_, fun _ known => ?_, fun _ known => ?_, fun _ => ⟨rfl, rfl, rfl, rfl⟩⟩
    · cases status
    · cases known
    · cases known
  · cases made

theorem Recorded.moved (recorded : Recorded order) (runId : RunId) : Recorded { order with runId } :=
  ⟨recorded.collected, recorded.early, recorded.amount, recorded.notReturned⟩

theorem debitStep_progress (recorded : AllRecorded db) (accepted : debitStep db request = .ok next) :
    AllRecorded next ∧ Later db next := by
  obtain ⟨work, read, written⟩ := Lib.Locking.Protocol.serve_ok.mp accepted
  cases work with
  | insert run orders =>
    obtain rfl := pure_ok.mp written
    obtain ⟨body, rfl, made⟩ := readDebit_insert read
    refine ⟨?_, Onward.append Progress.refl _ _⟩
    intro order member
    rcases List.mem_append.mp member with old | isNew
    · exact recorded order old
    · obtain ⟨drawn, isDrawn, rfl⟩ := List.mem_map.mp isNew
      obtain ⟨_, _, ofCandidate⟩ := createRun_rows made drawn isDrawn
      exact (debitOf_recorded ofCandidate).moved _
  | change | elsewhere =>
    obtain rfl := pure_ok.mp written
    exact ⟨recorded, Onward.refl Progress.refl _⟩

theorem feedbackStep_progress (recorded : AllRecorded db) (accepted : feedbackStep db request = .ok next) :
    AllRecorded next ∧ Later db next := by
  cases request with
  | debit request => exact debitStep_progress recorded accepted
  | bankStatus runId body today =>
    simp only [feedbackStep, bankStatus, runOf, bind_ok, exists_unit, require_ok, orRefuse_ok, pure_ok] at accepted
    obtain ⟨debits, ⟨_, run, _, _, _, applied⟩, rfl⟩ := accepted
    exact applyEach_progress recorded applied
  | importReport checksum report today =>
    obtain rfl := pure_ok.mp accepted
    unfold importReport
    split
    · exact ⟨recorded, Later.refl db⟩
    · exact applyDebitLines_progress recorded _

end Evidence

/-- In every history of runs and feedback, the recorded amounts are right, and what is recorded of a
collection at one time is still so at every later time. -/
theorem feedback_history {db : Db} (noDebits : db.debits = []) (before after : List FeedbackRequest) :
    AllRecorded (run feedbackStep db before) ∧
      Later (run feedbackStep db before) (run feedbackStep db (before ++ after)) := by
  have started : AllRecorded db := by
    intro order member
    rw [noDebits] at member
    cases member
  have recorded : AllRecorded (run feedbackStep db before) :=
    run_invariant (fun _ _ _ holds accepted => (feedbackStep_progress holds accepted).1) before started
  refine ⟨recorded, ?_⟩
  rw [run_append]
  refine (run_relates_invariant ?_ ?_ ?_ ?_ recorded after).2
  · exact Later.refl
  · exact fun _ _ _ => Later.trans
  · exact fun _ _ _ holds accepted => (feedbackStep_progress holds accepted).1
  · exact fun _ _ _ holds accepted => (feedbackStep_progress holds accepted).2

/-- A run handed out, whose first collection the bank returns without a date. -/
def sampleReturn : List FeedbackRequest :=
  (sampleRun [0] "DD1" :: sampleExports 0 0).map .debit ++
    [.bankStatus 0 { status := .returned, reasonCode := some "AC04" } (.ofYmd 2026 4 1)]

/-- The same feedback again, now with the date of the return. -/
def sampleRepeat : FeedbackRequest :=
  .bankStatus 0 { status := .returned, returnedOn := some (.ofYmd 2026 3 25) } (.ofYmd 2026 4 1)

theorem repeated_return_changes_order :
    (run feedbackStep sampleCreditor sampleReturn).debits.map Order.bankStatus = [.returned] ∧
      (run feedbackStep sampleCreditor sampleReturn).debits.map Order.returnedOn = [none] ∧
      (run feedbackStep sampleCreditor (sampleReturn ++ [sampleRepeat])).debits.map Order.returnedOn =
        [some (.ofYmd 2026 3 25)] := by
  decide +kernel

theorem sample_feedback_history : AllRecorded (run feedbackStep sampleCreditor sampleReturn) ∧
    Later (run feedbackStep sampleCreditor sampleReturn)
      (run feedbackStep sampleCreditor (sampleReturn ++ [sampleRepeat])) :=
  feedback_history rfl sampleReturn [sampleRepeat]

end Mhvp.Accounting.DirectDebit
