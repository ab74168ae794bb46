import Mhvp.Accounting.InvoiceSteps

namespace Mhvp.Accounting

open Core Banking Lib.History Lib.Table Lib.Transition List

namespace Invoices

/-- Where the content of an invoice comes from. -/
structure Provenance where
  /-- Who made the last change to the payment relevant content. -/
  contentBy : Option UserId
  /-- Who entered the IBAN. -/
  ibanBy : Option UserId
  /-- The role limit of the last releaser was exceeded. -/
  limitExceeded : Bool := false

def Provenance.update (origin : Provenance) (old new : Invoice) (principal : Principal) : Provenance where
  contentBy := if paymentHash new = paymentHash old then origin.contentBy else principal.userId
  ibanBy := if new.payeeIbanFingerprint = old.payeeIbanFingerprint then origin.ibanBy else principal.userId
  limitExceeded := origin.limitExceeded

def Provenance.release (origin : Provenance) (db : Db) (invoice : Invoice) (principal : Principal) : Provenance :=
  { origin with limitExceeded := InvoiceTax.secondApprovalRequired db invoice principal.roles }

/-- Provenance of every invoice after an accepted request. -/
def noteProvenance (db : Db) (call : InvoiceCall) (next : Db) (origins : List Provenance) : List Provenance :=
  match call with
  | .createInvoice principal _ _ => origins ++ [{ contentBy := principal.userId, ibanBy := principal.userId }]
  | .applyInvoice principal _ _ => origins ++ [{ contentBy := principal.userId, ibanBy := principal.userId }]
  | .updateInvoice invoiceId principal _ _ _ => origins.modify invoiceId fun origin =>
    match db.invoices[invoiceId]?, next.invoices[invoiceId]? with
    | some old, some new => origin.update old new principal
    | _, _ => origin
  | .releaseInvoice invoiceId principal => origins.modify invoiceId fun origin =>
    match db.invoices[invoiceId]? with
    | some invoice => origin.release db invoice principal
    | none => origin
  | _ => origins

/-- The requests with the provenance of the invoices. -/
def notedStep : Db × List Provenance → InvoiceCall → Result (Db × List Provenance) := noted invoiceStep noteProvenance

/-- Content released and IBAN confirmed by others than those they come from, and a third person above the limit. -/
structure FourEyes (db : Db) (origin : Provenance) (invoice : Invoice) : Prop where
  released : invoice.releasedHash = some (paymentHash invoice) ∧ ∃ releaser ∈ invoice.releasedBy,
    invoice.createdBy ≠ some releaser ∧ origin.contentBy ≠ some releaser
  confirmed : IbanDeviates db invoice → ∃ confirmer ∈ invoice.ibanConfirmedBy, origin.ibanBy ≠ some confirmer
  third : origin.limitExceeded = true → ∃ approval ∈ invoice.secondApproval,
    approval.paymentHash = paymentHash invoice ∧ invoice.createdBy ≠ some approval.userId ∧
    invoice.releasedBy ≠ some approval.userId

instance : Decidable (FourEyes db origin invoice) :=
  decidable_of_iff
    ((invoice.releasedHash = some (paymentHash invoice) ∧ ∃ releaser ∈ invoice.releasedBy,
        invoice.createdBy ≠ some releaser ∧ origin.contentBy ≠ some releaser) ∧
      (IbanDeviates db invoice → ∃ confirmer ∈ invoice.ibanConfirmedBy, origin.ibanBy ≠ some confirmer) ∧
      (origin.limitExceeded = true → ∃ approval ∈ invoice.secondApproval,
        approval.paymentHash = paymentHash invoice ∧ invoice.createdBy ≠ some approval.userId ∧
        invoice.releasedBy ≠ some approval.userId))
    ⟨fun parts => ⟨parts.1, parts.2.1, parts.2.2⟩, fun eyes => ⟨eyes.released, eyes.confirmed, eyes.third⟩⟩

/-- What the requests do not check: releases and confirmations of others than the last editor, no change
back to released content, and master data and limits that stay while an invoice is open. -/
def Separate (now : Db × List Provenance) : InvoiceCall → Prop
  | .updateInvoice invoiceId _ body _ _ => ∀ invoice ∈ now.1.invoices[invoiceId]?,
      invoice.releasedHash = some body.paymentHash → paymentHash invoice = body.paymentHash
  | .confirmIban invoiceId principal _ => ∃ confirmer ∈ principal.userId, ∀ origin ∈ now.2[invoiceId]?,
      origin.ibanBy ≠ some confirmer
  | .releaseInvoice invoiceId principal => ∀ releaser ∈ principal.userId,
      (∀ origin ∈ now.2[invoiceId]?, origin.contentBy ≠ some releaser) ∧
      ∀ invoice ∈ now.1.invoices[invoiceId]?, InvoiceTax.SecondApproved invoice →
        ∀ approval ∈ invoice.secondApproval, approval.userId ≠ releaser
  | .putSettings settings => settings.approvalLimitsEnabled = true ∨
      ∀ found ∈ now.1.invoices.zip now.2, found.1.postingStatus ≠ .posted → found.2.limitExceeded = false
  | .contactAccounts rows => ∀ invoice ∈ now.1.invoices, invoice.postingStatus ≠ .posted →
      invoice.ibanConfirmedBy = none → IbanDeviates { now.1 with contactBankAccounts := rows } invoice →
      IbanDeviates now.1 invoice
  | _ => True

instance (now : Db × List Provenance) (call : InvoiceCall) : Decidable (Separate now call) := by
  cases call <;> unfold Separate <;> infer_instance

/-- The separation an open invoice has reached. -/
structure RowSeparate (db : Db) (origin : Provenance) (invoice : Invoice) : Prop where
  fingerprint : invoice.payeeIbanFingerprint ≠ some ""
  confirmed : ∀ confirmer, invoice.ibanConfirmedBy = some confirmer → origin.ibanBy ≠ some confirmer
  current : FindingsCurrent db invoice
  creator : ∀ releaser, invoice.releasedBy = some releaser → invoice.createdBy ≠ some releaser
  editor : invoice.releasedHash = some (paymentHash invoice) → ∀ releaser, invoice.releasedBy = some releaser →
    origin.contentBy ≠ some releaser
  deviation : invoice.releasedHash = some (paymentHash invoice) → IbanDeviates db invoice →
    invoice.ibanConfirmedBy ≠ none
  approval : ∀ approval, invoice.secondApproval = some approval → approval.invoiceVersion ≤ invoice.version ∧
    (approval.invoiceVersion = invoice.version → approval.paymentHash = paymentHash invoice ∧
      invoice.createdBy ≠ some approval.userId ∧ invoice.releasedBy ≠ some approval.userId)
  limit : origin.limitExceeded = true → InvoiceTax.marked invoice = true ∧
    (InvoiceTax.settingsOf db).approvalLimitsEnabled = true

section Changes

variable {db next : Db} {origin : Provenance} {old new invoice : Invoice} {principal : Principal} {body : InvoiceIn}

theorem ibanDeviates_congr (accounts : next.contactBankAccounts = db.contactBankAccounts) :
    IbanDeviates next invoice ↔ IbanDeviates db invoice := by
  unfold IbanDeviates ibanKnown
  rw [accounts]

theorem RowSeparate.frame (row : RowSeparate db origin invoice)
    (accounts : next.contactBankAccounts = db.contactBankAccounts) (settings : next.taxSettings = db.taxSettings) :
    RowSeparate next origin invoice := by
  have deviates : IbanDeviates next invoice ↔ IbanDeviates db invoice := ibanDeviates_congr accounts
  refine ⟨row.fingerprint, row.confirmed, ?_, row.creator, row.editor, ?_, row.approval, ?_⟩
  · intro isDeviating
    exact row.current (deviates.mp isDeviating)
  · intro released isDeviating
    exact row.deviation released (deviates.mp isDeviating)
  · rw [InvoiceTax.settingsOf, settings]
    exact row.limit

theorem same_payee (same : paymentHash new = paymentHash old) (filled : old.payeeIbanFingerprint ≠ some "")
    (newFilled : new.payeeIbanFingerprint ≠ some "") :
    new.payeeIbanFingerprint = old.payeeIbanFingerprint ∧ new.providerContactId = old.providerContactId := by
  have iban : new.payeeIbanFingerprint.getD "" = old.payeeIbanFingerprint.getD "" := congrArg PaymentHash.iban same
  refine ⟨?_, congrArg PaymentHash.payee same⟩
  cases newIban : new.payeeIbanFingerprint with
  | none =>
    cases oldIban : old.payeeIbanFingerprint with
    | none => rfl
    | some text =>
      rw [newIban, oldIban] at iban
      exact absurd (oldIban.trans (congrArg some iban.symm)) filled
  | some newText =>
    cases oldIban : old.payeeIbanFingerprint with
    | none =>
      rw [newIban, oldIban] at iban
      exact absurd (newIban.trans (congrArg some iban)) newFilled
    | some text =>
      rw [newIban, oldIban] at iban
      exact congrArg some iban

theorem RowSeparate.update (row : RowSeparate db origin old) (updated : Updated db body old new)
    (notRestored : old.releasedHash = some body.paymentHash → paymentHash old = body.paymentHash)
    (principal : Principal) : RowSeparate db (origin.update old new principal) new := by
  have filled : new.payeeIbanFingerprint ≠ some "" := by
    rw [updated.fingerprint]
    exact fingerprint_ne_empty _
  -- a release that is valid now was valid before, of the same content
  have kept : new.releasedHash = some (paymentHash new) →
      paymentHash new = paymentHash old ∧ old.releasedHash = some (paymentHash old) := by
    intro released
    rw [updated.releasedHash, updated.hash] at released
    have same := notRestored released
    exact ⟨updated.hash.trans same.symm, released.trans (congrArg some same.symm)⟩
  refine ⟨filled, ?_, updated.current, ?_, ?_, ?_, ?_, ?_⟩
  · intro confirmer isConfirmed
    rw [updated.confirmed] at isConfirmed
    split at isConfirmed
    · rename_i same
      rw [Provenance.update, if_pos same]
      exact row.confirmed confirmer isConfirmed
    · cases isConfirmed
  · rw [updated.releasedBy, updated.createdBy]
    exact row.creator
  · intro released releaser isReleaser
    obtain ⟨same, was⟩ := kept released
    rw [Provenance.update, if_pos same]
    rw [updated.releasedBy] at isReleaser
    exact row.editor was releaser isReleaser
  · intro released deviates
    obtain ⟨same, was⟩ := kept released
    obtain ⟨iban, payee⟩ := same_payee same row.fingerprint filled
    rw [updated.confirmed, if_pos iban]
    apply row.deviation was
    unfold IbanDeviates at deviates ⊢
    rwa [iban, payee] at deviates
  · intro approval isApproval
    rw [updated.secondApproval] at isApproval
    have before := (row.approval approval isApproval).1
    rw [updated.version]
    exact ⟨Nat.le_succ_of_le before, fun same => absurd same (by omega)⟩
  · intro exceeded
    have was := row.limit exceeded
    rw [InvoiceTax.marked, InvoiceTax.taxDataOf, updated.taxData]
    exact was

theorem RowSeparate.confirm (row : RowSeparate db origin old) (other : origin.ibanBy ≠ some confirmer)
    (hints : List String) :
    RowSeparate db origin (evaluate db invoiceId hints { old with ibanConfirmedBy := some confirmer }) := by
  refine ⟨row.fingerprint, ?_, evaluate_current _ _ _ _, row.creator, row.editor, ?_, row.approval, row.limit⟩
  · intro person isPerson
    cases isPerson
    exact other
  · intro released deviates unconfirmed
    cases unconfirmed

theorem marked_markSecondApprovalRequired (invoice : Invoice) (required : Bool) :
    InvoiceTax.marked (InvoiceTax.markSecondApprovalRequired invoice required) = required := by
  cases required with
  | true | false => simp [InvoiceTax.marked, InvoiceTax.markSecondApprovalRequired, InvoiceTax.taxDataOf]

theorem RowSeparate.release (row : RowSeparate db origin old) (creator : old.createdBy ≠ principal.userId)
    (clean : ¬ old.findings.any Payments.ibanFinding)
    (editor : ∀ releaser ∈ principal.userId, origin.contentBy ≠ some releaser)
    (third : ∀ releaser ∈ principal.userId, InvoiceTax.SecondApproved old →
      ∀ approval ∈ old.secondApproval, approval.userId ≠ releaser) :
    RowSeparate db (origin.release db old principal) (InvoiceTax.markSecondApprovalRequired
      { old with releasedBy := principal.userId, releasedHash := some (paymentHash old) }
      (InvoiceTax.secondApprovalRequired db old principal.roles)) := by
  refine ⟨row.fingerprint, row.confirmed, row.current, ?_, ?_, ?_, ?_, ?_⟩
  · intro releaser isReleaser
    exact fun same => creator (same.trans isReleaser.symm)
  · intro _ releaser isReleaser
    exact editor releaser isReleaser
  · intro _ deviates unconfirmed
    exact clean (row.current deviates unconfirmed)
  · intro approval isApproval
    obtain ⟨before, valid⟩ := row.approval approval isApproval
    refine ⟨before, ?_⟩
    intro same
    obtain ⟨hash, notCreator, -⟩ := valid same
    refine ⟨hash, notCreator, ?_⟩
    intro isReleaser
    exact third approval.userId isReleaser ⟨approval, isApproval, same, hash⟩ approval isApproval rfl
  · intro exceeded
    refine ⟨(marked_markSecondApprovalRequired _ _).trans exceeded, ?_⟩
    have both : InvoiceTax.secondApprovalRequired db old principal.roles = true := exceeded
    rw [InvoiceTax.secondApprovalRequired, Bool.and_eq_true] at both
    exact both.1

theorem RowSeparate.approve (row : RowSeparate db origin old)
    (third : old.createdBy ≠ some userId ∧ old.releasedBy ≠ some userId) :
    RowSeparate db origin { old with
      secondApproval := some { userId, invoiceVersion := old.version, paymentHash := paymentHash old } } := by
  refine ⟨row.fingerprint, row.confirmed, row.current, row.creator, row.editor, row.deviation, ?_, row.limit⟩
  intro approval isApproval
  cases isApproval
  exact ⟨le_rfl, fun _ => ⟨rfl, third⟩⟩

theorem voidOutdated_warnings (kept : warning ∈ data.warnings) :
    warning ∈ (InvoiceTax.voidOutdated data).warnings := by
  unfold InvoiceTax.voidOutdated
  split
  · exact mem_append_left _ kept
  · exact kept

theorem marked_refresh (isMarked : data.warnings.contains InvoiceTax.secondApprovalMarker = true) :
    (InvoiceTax.refreshProposals db invoice data).warnings.contains InvoiceTax.secondApprovalMarker = true := by
  rw [contains_iff_mem] at isMarked ⊢
  apply voidOutdated_warnings
  apply mem_append_left
  apply mem_append_left
  apply mem_append_left
  exact mem_filter.mpr ⟨isMarked, by simp⟩

theorem RowSeparate.tax (row : RowSeparate db origin old)
    (marked : InvoiceTax.marked old = true → data.warnings.contains InvoiceTax.secondApprovalMarker = true) :
    RowSeparate db origin (withTaxData old data) :=
  ⟨row.fingerprint, row.confirmed, row.current, row.creator, row.editor, row.deviation, row.approval,
    fun exceeded => ⟨marked (row.limit exceeded).1, (row.limit exceeded).2⟩⟩

theorem Entered.separate (new : Entered db principal invoice) :
    RowSeparate db { contentBy := principal.userId, ibanBy := principal.userId } invoice := by
  refine ⟨new.fingerprint, ?_, new.current, ?_, ?_, ?_, ?_, ?_⟩
  · intro confirmer isConfirmed
    rw [new.confirmed] at isConfirmed
    cases isConfirmed
  · intro releaser isReleaser
    rw [new.releasedBy] at isReleaser
    cases isReleaser
  · intro released
    rw [new.releasedHash] at released
    cases released
  · intro released
    rw [new.releasedHash] at released
    cases released
  · intro approval isApproval
    rw [new.secondApproval] at isApproval
    cases isApproval
  · intro exceeded
    cases exceeded

end Changes

/-- Every open invoice has its provenance and its separation. -/
structure Separated (now : Db × List Provenance) : Prop where
  length : now.2.length = now.1.invoices.length
  rows : ∀ (invoiceId : InvoiceId) (invoice : Invoice) (origin : Provenance),
    now.1.invoices[invoiceId]? = some invoice → now.2[invoiceId]? = some origin →
    invoice.postingStatus ≠ .posted → RowSeparate now.1 origin invoice

section Steps

variable {db next : Db} {origins : List Provenance} {old new : Invoice} {call : InvoiceCall}

theorem noteProvenance_entered (by' : enteredBy call = some principal) :
    noteProvenance db call next origins = origins ++ [{ contentBy := principal.userId, ibanBy := principal.userId }] := by
  cases call with
  | createInvoice creator body hints =>
    cases by'
    rfl
  | applyInvoice creator data hints =>
    cases by'
    rfl
  | _ => cases by'

section

variable (sound : Separated (db, origins))
include sound

theorem Separated.append (row : RowSeparate db origin new) :
    Separated ({ db with invoices := db.invoices ++ [new] }, origins ++ [origin]) := by
  refine ⟨?_, ?_⟩
  · have same := sound.length
    simp only [length_append, length_singleton] at same ⊢
    rw [same]
  · intro invoiceId invoice other found foundOther notPosted
    rcases found_append_one.mp found with old | ⟨rfl, rfl⟩
    · rcases found_append_one.mp foundOther with oldOther | ⟨rfl, rfl⟩
      · exact (sound.rows invoiceId invoice other old oldOther notPosted).frame rfl rfl
      · exact absurd (found_lt old) (by rw [← sound.length]; exact lt_irrefl _)
    · rcases found_append_one.mp foundOther with oldOther | ⟨-, rfl⟩
      · exact absurd (found_lt oldOther) (by rw [sound.length]; exact lt_irrefl _)
      · exact row.frame rfl rfl

theorem Separated.set (found : db.invoices[invoiceId]? = some old)
    (stays : old.postingStatus = .posted → new.postingStatus = .posted) (change : Provenance → Provenance)
    (reviews : List InvoiceReview)
    (row : ∀ origin, origins[invoiceId]? = some origin → RowSeparate db origin old →
      RowSeparate db (change origin) new) :
    Separated (setInvoice { db with invoiceReviews := reviews } invoiceId new, origins.modify invoiceId change) := by
  refine ⟨?_, ?_⟩
  · simpa [setInvoice] using sound.length
  · intro place invoice origin foundInvoice foundOrigin notPosted
    rw [List.getElem?_modify, Option.map_eq_map, Option.map_eq_some_iff] at foundOrigin
    obtain ⟨before, foundBefore, rfl⟩ := foundOrigin
    rcases (found_set found).mp foundInvoice with ⟨rfl, rfl⟩ | ⟨other, kept⟩
    · rw [if_pos rfl]
      have open' : old.postingStatus ≠ .posted := fun posted => notPosted (stays posted)
      exact (row before foundBefore (sound.rows place old before found foundBefore open')).frame rfl rfl
    · rw [if_neg (Ne.symm other)]
      exact (sound.rows place invoice before kept foundBefore notPosted).frame rfl rfl

theorem Separated.keep (found : db.invoices[invoiceId]? = some old)
    (stays : old.postingStatus = .posted → new.postingStatus = .posted) (reviews : List InvoiceReview)
    (row : ∀ origin, origins[invoiceId]? = some origin → RowSeparate db origin old → RowSeparate db origin new) :
    Separated (setInvoice { db with invoiceReviews := reviews } invoiceId new, origins) := by
  have set := sound.set found stays (fun origin => origin) reviews row
  rwa [show (fun origin : Provenance => origin) = id from rfl, modify_id] at set

theorem Separated.changed (admitted : Separate (db, origins) call)
    (found : db.invoices[invoiceId]? = some old) (change : RowChange db invoiceId old call new)
    (reviews : List InvoiceReview) :
    Separated (setInvoice { db with invoiceReviews := reviews } invoiceId new,
      noteProvenance db call (setInvoice { db with invoiceReviews := reviews } invoiceId new) origins) := by
  have after : (setInvoice { db with invoiceReviews := reviews } invoiceId new).invoices[invoiceId]? = some new :=
    (found_set found).mpr (Or.inl ⟨rfl, rfl⟩)
  cases change with
  | update principal body ifMatch hints new updated =>
    have notRestored := admitted old found
    rw [noteProvenance]
    simp only [found, after]
    refine sound.set found ?_ _ reviews ?_
    · intro posted
      rw [updated.wasUnposted] at posted
      cases posted
    · intro origin _ row
      exact row.update updated notRestored principal
  | review principal body reviewStatus =>
    refine sound.keep found (by exact fun posted => posted) reviews ?_
    intro origin _ row
    exact ⟨row.fingerprint, row.confirmed, row.current, row.creator, row.editor, row.deviation, row.approval, row.limit⟩
  | confirm principal hints other =>
    obtain ⟨confirmer, isConfirmer, different⟩ := admitted
    rw [Option.mem_def.mp isConfirmer]
    refine sound.keep found (by exact fun posted => posted) reviews ?_
    intro origin foundOrigin row
    exact row.confirm (different origin foundOrigin) hints
  | release principal other clean =>
    rw [noteProvenance]
    simp only [found]
    refine sound.set found (by exact fun posted => posted) _ reviews ?_
    intro origin foundOrigin row
    apply row.release other clean
    · intro releaser isReleaser
      exact (admitted releaser isReleaser).1 origin foundOrigin
    · intro releaser isReleaser
      exact (admitted releaser isReleaser).2 old found
  | approve principal userId person released third =>
    refine sound.keep found (by exact fun posted => posted) reviews ?_
    intro origin _ row
    exact row.approve third
  | readTax =>
    refine sound.keep found (by exact fun posted => posted) reviews ?_
    intro origin _ row
    exact row.tax marked_refresh
  | putTax body data given =>
    refine sound.keep found (by exact fun posted => posted) reviews ?_
    intro origin _ row
    apply row.tax
    intro isMarked
    apply marked_refresh
    rw [given]
    exact isMarked
  | withhold principal userId data refreshed proposed other =>
    refine sound.keep found (by exact fun posted => posted) reviews ?_
    intro origin _ row
    apply row.tax
    intro isMarked
    have kept : (InvoiceTax.refreshProposals db old (InvoiceTax.taxDataOf old)).warnings.contains
        InvoiceTax.secondApprovalMarker = true := marked_refresh isMarked
    rw [← refreshed] at kept
    exact kept

end

theorem Separated.step {now next : Db × List Provenance} (sound : Separated now) (admitted : Separate now call)
    (accepted : notedStep now call = .ok next) : Separated next := by
  obtain ⟨db, origins⟩ := now
  obtain ⟨after, later⟩ := next
  obtain ⟨served, taken⟩ := noted_ok.mp accepted
  dsimp only at served taken
  subst taken
  cases invoiceStep_effect served with
  | entered call principal row by' new =>
    rw [noteProvenance_entered by']
    exact sound.append new.separate
  | changed call invoiceId old new reviews found change => exact sound.changed admitted found change reviews
  | posted invoiceId principal row total creditorId books entry found postable expense booked =>
    refine ⟨?_, ?_⟩
    · simpa [setInvoice, noteProvenance] using sound.length
    · intro place invoice origin foundInvoice foundOrigin notPosted
      rcases (found_set found).mp foundInvoice with ⟨-, rfl⟩ | ⟨-, kept⟩
      · exact absurd rfl notPosted
      · exact (sound.rows place invoice origin kept foundOrigin notPosted).frame rfl rfl
  | settings settings =>
    refine ⟨sound.length, ?_⟩
    intro invoiceId invoice origin found foundOrigin notPosted
    have row := sound.rows invoiceId invoice origin found foundOrigin notPosted
    refine ⟨row.fingerprint, row.confirmed, row.current, row.creator, row.editor, row.deviation, row.approval, ?_⟩
    intro exceeded
    refine ⟨(row.limit exceeded).1, ?_⟩
    rcases admitted with enabled | noneExceeded
    · exact enabled
    · have pair : (invoice, origin) ∈ db.invoices.zip origins := by
        have entry : (db.invoices.zip origins)[invoiceId]? = some (invoice, origin) := by
          rw [List.getElem?_zip_eq_some]
          exact ⟨found, foundOrigin⟩
        exact mem_of_getElem? entry
      have notExceeded := noneExceeded (invoice, origin) pair notPosted
      rw [exceeded] at notExceeded
      cases notExceeded
  | property profile rows =>
    refine ⟨sound.length, ?_⟩
    intro invoiceId invoice origin found foundOrigin notPosted
    exact (sound.rows invoiceId invoice origin found foundOrigin notPosted).frame rfl rfl
  | supplier profile stored isStored =>
    subst isStored
    refine ⟨?_, ?_⟩
    · simpa [noteProvenance, refreshInvoicesOfSupplier] using sound.length
    · intro invoiceId invoice origin found foundOrigin notPosted
      rw [refreshInvoicesOfSupplier, List.getElem?_map, Option.map_eq_some_iff] at found
      obtain ⟨old, foundOld, rfl⟩ := found
      cases hasData : old.taxData with
      | none =>
        simp only [hasData] at notPosted ⊢
        exact (sound.rows invoiceId old origin foundOld foundOrigin notPosted).frame rfl rfl
      | some data =>
        simp only [hasData] at notPosted ⊢
        split at notPosted
        · rename_i ofSupplier
          rw [if_pos ofSupplier]
          have row := sound.rows invoiceId old origin foundOld foundOrigin notPosted
          refine RowSeparate.tax (row.frame rfl rfl) ?_
          intro isMarked
          apply marked_refresh
          rw [InvoiceTax.marked, InvoiceTax.taxDataOf, hasData] at isMarked
          exact isMarked
        · rename_i other
          rw [if_neg other]
          exact (sound.rows invoiceId old origin foundOld foundOrigin notPosted).frame rfl rfl
  | accounts rows =>
    refine ⟨sound.length, ?_⟩
    intro invoiceId invoice origin found foundOrigin notPosted
    have row := sound.rows invoiceId invoice origin found foundOrigin notPosted
    have relied := admitted invoice (mem_of_getElem? found) notPosted
    refine ⟨row.fingerprint, row.confirmed, ?_, row.creator, row.editor, ?_, row.approval, row.limit⟩
    · intro deviates unconfirmed
      exact row.current (relied unconfirmed deviates) unconfirmed
    · intro released deviates unconfirmed
      exact row.deviation released (relied unconfirmed deviates) unconfirmed
  | journal call after accepted =>
    rw [journalStep_frame accepted]
    refine ⟨sound.length, ?_⟩
    intro invoiceId invoice origin found foundOrigin notPosted
    exact (sound.rows invoiceId invoice origin found foundOrigin notPosted).frame rfl rfl

theorem RowSeparate.fourEyes (row : RowSeparate db origin invoice) (postable : Postable db invoiceId invoice) :
    FourEyes db origin invoice := by
  obtain ⟨releaser, isReleaser⟩ := Option.ne_none_iff_exists'.mp postable.released.1
  refine ⟨⟨postable.released.2, releaser, isReleaser, row.creator releaser isReleaser,
    row.editor postable.released.2 releaser isReleaser⟩, ?_, ?_⟩
  · intro deviates
    obtain ⟨confirmer, isConfirmer⟩ := Option.ne_none_iff_exists'.mp (row.deviation postable.released.2 deviates)
    exact ⟨confirmer, isConfirmer, row.confirmed confirmer isConfirmer⟩
  · intro exceeded
    obtain ⟨isMarked, enabled⟩ := row.limit exceeded
    obtain ⟨approval, isApproval, version, hash⟩ := postable.approved enabled isMarked
    obtain ⟨-, persons⟩ := (row.approval approval isApproval).2 version
    exact ⟨approval, isApproval, hash, persons⟩

end Steps

end Invoices

open Invoices

/-- In every run whose requests are separate, a posted invoice has passed four eyes. -/
theorem posted_four_eyes {start next : Db} (noInvoices : start.invoices = []) (calls : List InvoiceCall)
    (separate : Guarded notedStep Separate (start, []) calls) (invoiceId : InvoiceId) (principal : Principal)
    (accepted : invoiceStep (run invoiceStep start calls) (.postInvoice invoiceId principal) = .ok next) :
    ∃ invoice origin, (run invoiceStep start calls).invoices[invoiceId]? = some invoice ∧
      (run notedStep (start, []) calls).2[invoiceId]? = some origin ∧
      FourEyes (run invoiceStep start calls) origin invoice := by
  have separated : Separated (run notedStep (start, []) calls) := by
    apply separate.invariant (fun _ _ _ sound admitted accepted => sound.step admitted accepted)
    refine ⟨by simp [noInvoices], ?_⟩
    intro invoiceId invoice origin found
    simp [noInvoices] at found
  have erased : (run notedStep (start, []) calls).1 = run invoiceStep start calls := run_noted _ _
  cases invoiceStep_effect accepted with
  | changed call changedId old new reviews found change => cases change
  | entered call principal row by' new => cases by'
  | posted invoiceId principal invoice total creditorId books entry found postable expense booked =>
    have inside : invoiceId < (run notedStep (start, []) calls).2.length := by
      rw [separated.length, erased]
      exact found_lt found
    refine ⟨invoice, _, found, List.getElem?_eq_getElem inside, ?_⟩
    have row := separated.rows invoiceId invoice _ (erased ▸ found) (List.getElem?_eq_getElem inside) postable.notPosted
    rw [erased] at row
    exact row.fourEyes postable

/-- The limit of the manager is 500.00. -/
def limitSettings : AccountingTaxSettings :=
  { approvalLimitsEnabled := true, approvalLimits := [{ roleCode := "manager", limitAmount := 500 }] }

/-- A bill with an unknown IBAN is changed by the clerk, confirmed by the auditor and released by the manager;
the auditor approves it above the limit of the manager. -/
def sampleSeparate : List InvoiceCall :=
  [.putSettings limitSettings, .createInvoice clerk (sampleBill "R1" 1000) [],
   .updateInvoice 0 clerk { sampleBill "R1" 1190 with payeeIban := some "DE02120300000000202051" } none [],
   .confirmIban 0 auditor []] ++ sampleRelease 0 manager ++ [.secondApproval 0 auditor]

theorem sample_four_eyes_of_invoice :
    ∃ invoice origin, (run invoiceStep samplePurchasing sampleSeparate).invoices[0]? = some invoice ∧
      (run notedStep (samplePurchasing, []) sampleSeparate).2[0]? = some origin ∧
      FourEyes (run invoiceStep samplePurchasing sampleSeparate) origin invoice :=
  posted_four_eyes rfl sampleSeparate (by decide +kernel) 0 clerk (accepted_of_isSome (by decide +kernel))

/-- The manager changes the amount of a bill of the clerk and releases it alone. -/
theorem editor_releases_own_change :
    let calls := [.createInvoice clerk (sampleBill "R1" 100) [],
      .updateInvoice 0 manager (sampleBill "R1" 1190) none []] ++ sampleRelease 0 manager
    let now := run notedStep (samplePurchasing, []) calls
    (answer? (notedStep now (.postInvoice 0 clerk))).isSome ∧
      ∃ invoice ∈ now.1.invoices[0]?, ∃ origin ∈ now.2[0]?, ¬ FourEyes now.1 origin invoice := by
  decide +kernel

end Mhvp.Accounting
