import Mhvp.Accounting.InvoiceRequests
import Mhvp.Accounting.JournalRuns

namespace Mhvp.Accounting

open Core Banking Contacts Lib.Table

/-- The payment relevant fields an accepted body gives an invoice. -/
def InvoiceIn.paymentHash (body : InvoiceIn) : PaymentHash where
  gross := roundCents body.gross
  payee := body.providerContactId
  iban := (Invoices.fingerprint body.payeeIban).getD ""
  due := body.dueDate
  number := body.number
  ledger := body.ledgerId
  deductions := body.deductions
  prepaidAmount := (body.prepaidAmount.map roundCents).filter (· ≠ 0)
  retentionAmount := (body.retentionAmount.map roundCents).filter (· ≠ 0)

namespace Invoices

/-- A deviating IBAN without confirmation is among the stored findings. -/
def FindingsCurrent (db : Db) (invoice : Invoice) : Prop :=
  IbanDeviates db invoice → invoice.ibanConfirmedBy = none → invoice.findings.any Payments.ibanFinding = true

/-- A new invoice: nothing is confirmed, released or posted. -/
structure Entered (db : Db) (principal : Principal) (row : Invoice) : Prop where
  createdBy : row.createdBy = principal.userId
  unposted : row.postingStatus = .unposted
  confirmed : row.ibanConfirmedBy = none
  releasedBy : row.releasedBy = none
  releasedHash : row.releasedHash = none
  taxData : row.taxData = none
  secondApproval : row.secondApproval = none
  fingerprint : row.payeeIbanFingerprint ≠ some ""
  current : FindingsCurrent db row

/-- A new version of an invoice: release and approvals stay recorded, a changed IBAN loses its confirmation. -/
structure Updated (db : Db) (body : InvoiceIn) (old new : Invoice) : Prop where
  wasUnposted : old.postingStatus = .unposted
  unposted : new.postingStatus = .unposted
  createdBy : new.createdBy = old.createdBy
  releasedBy : new.releasedBy = old.releasedBy
  releasedHash : new.releasedHash = old.releasedHash
  taxData : new.taxData = old.taxData
  secondApproval : new.secondApproval = old.secondApproval
  version : new.version = old.version + 1
  hash : paymentHash new = body.paymentHash
  fingerprint : new.payeeIbanFingerprint = Invoices.fingerprint body.payeeIban
  confirmed : new.ibanConfirmedBy =
    if new.payeeIbanFingerprint = old.payeeIbanFingerprint then old.ibanConfirmedBy else none
  current : FindingsCurrent db new

/-- What an accepted posting of an invoice has checked. -/
structure Postable (db : Db) (invoiceId : InvoiceId) (invoice : Invoice) : Prop where
  notPosted : invoice.postingStatus ≠ .posted
  reviewed : invoice.reviewStatus ∈ closed
  released : invoice.releasedBy ≠ none ∧ invoice.releasedHash = some (paymentHash invoice)
  notDuplicate : invoice.duplicateOfId = none
  reference : invoice.referenceInvoiceId ≠ none → referenceFindings db invoiceId invoice = []
  approved : (InvoiceTax.settingsOf db).approvalLimitsEnabled = true → InvoiceTax.marked invoice = true →
    InvoiceTax.SecondApproved invoice
  withheld : (InvoiceTax.settingsOf db).constructionWithholdingEnabled = true → ∀ data ∈ invoice.taxData,
    data.withholdingProposal.getD 0 ≠ 0 → data.withholdingApprovedBy ≠ none

/-- The entry of an invoice is appended as posted and moves its total. -/
structure BookedInvoice (before after : Books) (entry : JournalEntry) (total : Decimal) : Prop where
  entries : after.entries = before.entries ++ [entry]
  posted : entry.isPosted
  unreversed : entry.reversedById = none
  cost : totalDebit (entry.lines.map JournalLine.toLineIn) = total
  positive : 0 < total
  sound : before.Sound → after.Sound

/-- Change of one invoice by a request. -/
inductive RowChange (db : Db) (invoiceId : InvoiceId) (old : Invoice) : InvoiceCall → Invoice → Prop
  | update (principal : Principal) (body : InvoiceIn) (ifMatch : Option ℕ) (hints : List String) (new : Invoice)
      (updated : Updated db body old new) :
      RowChange db invoiceId old (.updateInvoice invoiceId principal body ifMatch hints) new
  | review (principal : Principal) (body : InvoiceReviewIn) (reviewStatus : ReviewStatus) :
      RowChange db invoiceId old (.reviewInvoice invoiceId principal body) { old with reviewStatus }
  | confirm (principal : Principal) (hints : List String) (other : old.createdBy ≠ principal.userId) :
      RowChange db invoiceId old (.confirmIban invoiceId principal hints)
        (evaluate db invoiceId hints { old with ibanConfirmedBy := principal.userId })
  | release (principal : Principal) (other : old.createdBy ≠ principal.userId)
      (clean : ¬ old.findings.any Payments.ibanFinding) :
      RowChange db invoiceId old (.releaseInvoice invoiceId principal)
        (InvoiceTax.markSecondApprovalRequired
          { old with releasedBy := principal.userId, releasedHash := some (paymentHash old) }
          (InvoiceTax.secondApprovalRequired db old principal.roles))
  | approve (principal : Principal) (userId : UserId) (person : principal.userId = some userId)
      (released : old.releasedHash = some (paymentHash old))
      (third : old.createdBy ≠ some userId ∧ old.releasedBy ≠ some userId) :
      RowChange db invoiceId old (.secondApproval invoiceId principal)
        { old with
          secondApproval := some { userId, invoiceVersion := old.version, paymentHash := paymentHash old } }
  | readTax : RowChange db invoiceId old (.getInvoiceTax invoiceId)
      (withTaxData old (InvoiceTax.refreshProposals db old (InvoiceTax.taxDataOf old)))
  | putTax (body : InvoiceTaxIn) (data : InvoiceTaxData)
      (given : data = { InvoiceTax.taxDataOf old with
        vatRate := body.vatRate
        inputTaxAmount := body.inputTaxAmount
        reverseCharge := body.reverseCharge
        constructionService := body.constructionService }) :
      RowChange db invoiceId old (.putInvoiceTax invoiceId body)
        (withTaxData old (InvoiceTax.refreshProposals db old data))
  | withhold (principal : Principal) (userId : UserId) (data : InvoiceTaxData)
      (refreshed : data = InvoiceTax.refreshProposals db old (InvoiceTax.taxDataOf old))
      (proposed : data.withholdingProposal.getD 0 ≠ 0) (other : old.createdBy ≠ some userId) :
      RowChange db invoiceId old (.approveWithholding invoiceId principal)
        (withTaxData old { data with
          withholdingApprovedBy := some userId
          withholdingApprovedAmount := data.withholdingProposal })

/-- Who enters an invoice by the request. -/
def enteredBy : InvoiceCall → Option Principal
  | .createInvoice principal _ _ => some principal
  | .applyInvoice principal _ _ => some principal
  | _ => none

/-- What an accepted request did. -/
inductive InvoiceEffect (db : Db) : InvoiceCall → Db → Prop
  | entered (call : InvoiceCall) (principal : Principal) (row : Invoice) (by' : enteredBy call = some principal)
      (new : Entered db principal row) :
      InvoiceEffect db call { db with invoices := db.invoices ++ [row] }
  | changed (call : InvoiceCall) (invoiceId : InvoiceId) (old new : Invoice) (reviews : List InvoiceReview)
      (found : db.invoices[invoiceId]? = some old) (change : RowChange db invoiceId old call new) :
      InvoiceEffect db call (setInvoice { db with invoiceReviews := reviews } invoiceId new)
  | posted (invoiceId : InvoiceId) (principal : Principal) (invoice : Invoice) (total : Decimal)
      (creditorId : AccountId) (books : Books) (entry : JournalEntry)
      (found : db.invoices[invoiceId]? = some invoice) (postable : Postable db invoiceId invoice)
      (expense : expenseAmount db invoice = .ok total) (booked : BookedInvoice db.books books entry total) :
      InvoiceEffect db (.postInvoice invoiceId principal) (setInvoice { db with books } invoiceId
        { invoice with
          creditorAccountId := some creditorId
          postingStatus := .posted
          journalEntryId := some db.books.entries.length })
  | settings (settings : AccountingTaxSettings) : InvoiceEffect db (.putSettings settings) (putSettings db settings)
  | property (profile : PropertyTaxProfile) (rows : List PropertyTaxProfile) :
      InvoiceEffect db (.putPropertyProfile profile) { db with propertyTaxProfiles := rows }
  | supplier (profile : SupplierTaxProfile) (stored : Db)
      (after : stored = { db with
        supplierTaxProfiles := upsert (·.contactId = profile.contactId) profile db.supplierTaxProfiles }) :
      InvoiceEffect db (.putSupplierProfile profile)
        { stored with invoices := refreshInvoicesOfSupplier stored profile.contactId }
  | accounts (rows : List ContactBankAccount) :
      InvoiceEffect db (.contactAccounts rows) { db with contactBankAccounts := rows }
  | journal (call : JournalCall) (next : Db) (accepted : journalStep db call = .ok next) :
      InvoiceEffect db (.journal call) next

section Rows

variable {db next : Db} {invoice written : Invoice} {body : InvoiceIn} {principal : Principal}

theorem ibanFinding_deviation : Payments.ibanFinding ibanDeviation = true := by decide +kernel

theorem evaluate_current (db : Db) (invoiceId : InvoiceId) (hints : List String) (invoice : Invoice) :
    FindingsCurrent db (evaluate db invoiceId hints invoice) := by
  intro deviates unconfirmed
  have stated : ibanDeviation ∈ ibanFindings db invoice := by
    rw [ibanFindings, if_pos ⟨deviates, unconfirmed⟩]
    exact List.mem_singleton_self _
  apply List.any_eq_true.mpr
  refine ⟨ibanDeviation, ?_, ibanFinding_deviation⟩
  simp only [evaluate, findingsOf, List.mem_append, stated, true_or, or_true]

theorem write_ok (accepted : write db invoiceId invoice lines payeeIban hints = .ok written) :
    written = evaluate db invoiceId hints
      { invoice with payeeIban, payeeIbanFingerprint := fingerprint payeeIban, lines } := by
  simp only [write, bind_ok, exists_unit, require_ok, orRefuse_ok, pure_ok] at accepted
  obtain ⟨ledger, -, -, rfl⟩ := accepted
  rfl

theorem fingerprint_ne_empty (iban : Option String) : fingerprint iban ≠ some "" := by
  intro empty
  have filtered := (Option.filter_eq_some_iff.mp empty).2
  simp at filtered

theorem createInvoice_ok (accepted : createInvoice db principal body hints = .ok next) :
    ∃ row, Entered db principal row ∧ next = { db with invoices := db.invoices ++ [row] } := by
  simp only [createInvoice, invoicePayload, bind_ok, exists_unit, require_ok, pure_ok] at accepted
  obtain ⟨ledger, -, payload, ⟨-, -, rfl⟩, row, isWritten, rfl⟩ := accepted
  obtain rfl := write_ok isWritten
  exact ⟨_, ⟨rfl, rfl, rfl, rfl, rfl, rfl, rfl, fingerprint_ne_empty _, evaluate_current _ _ _ _⟩, rfl⟩

theorem applyInvoice_ok (accepted : applyInvoice db principal data hints = .ok next) :
    ∃ row, Entered db principal row ∧ next = { db with invoices := db.invoices ++ [row] } := by
  simp only [applyInvoice, bind_ok, exists_unit, require_ok, pure_ok] at accepted
  obtain ⟨-, row, isWritten, rfl⟩ := accepted
  obtain rfl := write_ok isWritten
  exact ⟨_, ⟨rfl, rfl, rfl, rfl, rfl, rfl, rfl, fingerprint_ne_empty _, evaluate_current _ _ _ _⟩, rfl⟩

theorem updateInvoice_ok (accepted : updateInvoice db invoiceId body ifMatch hints = .ok next) :
    ∃ old new, db.invoices[invoiceId]? = some old ∧ Updated db body old new ∧ next = setInvoice db invoiceId new := by
  simp only [updateInvoice, invoiceOf, invoicePayload, bind_ok, exists_unit, require_ok, orRefuse_ok, pure_ok]
    at accepted
  obtain ⟨old, found, -, unposted, payload, ⟨-, -, rfl⟩, row, isWritten, rfl⟩ := accepted
  obtain rfl := write_ok isWritten
  refine ⟨old, _, found, ?_, rfl⟩
  split
  · rename_i same
    exact ⟨unposted, unposted, rfl, rfl, rfl, rfl, rfl, rfl, rfl, rfl, (if_pos same).symm, evaluate_current _ _ _ _⟩
  · rename_i other
    exact ⟨unposted, unposted, rfl, rfl, rfl, rfl, rfl, rfl, rfl, rfl, (if_neg other).symm, evaluate_current _ _ _ _⟩

theorem creditorAccount_ok (accepted : creditorAccount db ledgerId contactId = .ok (creditorId, books)) :
    books = db.books ∨ ∃ account, books = { db.books with accounts := db.books.accounts ++ [account] } := by
  unfold creditorAccount at accepted
  split at accepted
  · simp only [pure_ok, Prod.mk.injEq] at accepted
    exact Or.inl accepted.2.symm
  · simp only [bind_ok, exists_unit, require_ok, pure_ok, Prod.mk.injEq] at accepted
    obtain ⟨contact, -, number, -, -, -, rfl⟩ := accepted
    exact Or.inr ⟨_, rfl⟩

theorem new_account (books : Books) (account : LedgerAccount) :
    LedgerStep books { books with accounts := books.accounts ++ [account] } := by
  refine .master _ ⟨fun id row found => ⟨row.active, found_append found⟩, fun id row found => found, ?_, ?_, ?_, ?_, ?_⟩
  all_goals rfl

theorem totals_costLines (parts : List (InvoiceLine × Decimal)) :
    totalCredit (parts.map fun part => costLine false part.1 part.2) = 0 ∧
      totalDebit (parts.map fun part => costLine true part.1 part.2) = 0 := by
  simp [totalCredit, totalDebit, costLine, Function.comp_def]

theorem journalLines_total (balanced : Balanced (journalLines invoice creditorId total)) :
    totalDebit (journalLines invoice creditorId total) = total ∧ 0 < total := by
  have creditor := balanced.oneSided (creditorLine (decide (invoice.kind = .creditNote)) creditorId total)
    (List.mem_append_right _ (List.mem_singleton_self _))
  have equal := balanced.equal
  unfold journalLines at equal ⊢
  cases creditNote : decide (invoice.kind = .creditNote) with
  | true =>
    rw [creditNote] at creditor
    have none := (totals_costLines ((invoice.lines.zip (lineParts invoice total)).filter fun part => part.2 ≠ 0)).2
    simp only [totalDebit, List.map_append, List.sum_append] at none ⊢
    rw [none]
    refine ⟨by simp [creditorLine], ?_⟩
    simpa [OneSided, creditorLine] using creditor
  | false =>
    rw [creditNote] at creditor equal
    have none := (totals_costLines ((invoice.lines.zip (lineParts invoice total)).filter fun part => part.2 ≠ 0)).1
    rw [equal]
    simp only [totalCredit, List.map_append, List.sum_append] at none ⊢
    rw [none]
    refine ⟨by simp [creditorLine], ?_⟩
    simpa [OneSided, creditorLine] using creditor

theorem booked_ok (account : creditorAccount db ledgerId contactId = .ok (creditorId, books))
    (written : writeDraft books ledgerId none (entryHeader invoice userId) none
      (journalLines invoice creditorId total) [] = .ok (entryId, drafted))
    (booked : post drafted ledgerId entryId userId = .ok after) :
    entryId = db.books.entries.length ∧ ∃ entry, BookedInvoice db.books after entry total := by
  have notReversal : (entryHeader invoice userId).kind ≠ .reversal := by simp [entryHeader]
  have entries : books.entries = db.books.entries := by
    rcases creditorAccount_ok account with rfl | ⟨account, rfl⟩
    · rfl
    · rfl
  have quiet := draft_step notReversal written
  obtain ⟨row, isRow, ⟨-, rfl, rfl⟩ | ⟨old, replaced, -⟩⟩ := writeDraft_ok written
  · have found : (books.entries ++ [row])[books.entries.length]? = some row := List.getElem?_concat_length
    have total' : totalDebit (row.lines.map JournalLine.toLineIn) = total ∧ 0 < total := by
      have balanced := isRow.sound.balanced
      rw [isRow.lines] at balanced ⊢
      rw [(totals_bare _).1]
      exact journalLines_total (checkBalanced_ok.mp (by
        simp only [writeDraft, bind_ok, exists_unit] at written
        exact written.1))
    obtain ⟨entry, foundEntry, -, ⟨posted, -⟩ | ⟨ledger, posting, rows, posts, rfl⟩⟩ := post_ok booked
    · obtain rfl : row = entry := Option.mem_unique found foundEntry
      exact absurd isRow.draft posted
    · obtain rfl : row = entry := Option.mem_unique found foundEntry
      refine ⟨by rw [entries], row.withPosting posting, ?_, ?_, ?_, total'.1, total'.2, ?_⟩
      · rw [← entries]
        simp [Books.posted]
      · simp [JournalEntry.withPosting, JournalEntry.isPosted]
      · exact isRow.unreversed
      · intro sound
        have known : books.Sound := by
          rcases creditorAccount_ok account with rfl | ⟨added, rfl⟩
          · exact sound
          · exact (new_account db.books added).sound sound
        exact (LedgerStep.post _ _ _ _ _ posts).sound (quiet.step.sound known)
  · cases replaced

theorem assertPostable_ok (accepted : assertPostable db invoiceId invoice = .ok ()) :
    Postable db invoiceId invoice := by
  simp only [assertPostable, InvoiceTax.assertPostingAllowed, bind_ok, exists_unit, require_ok, orRefuse_ok] at accepted
  obtain ⟨notPosted, reviewed, released, notDuplicate, reference, ledger, -, -, approved, withheld⟩ := accepted
  refine ⟨notPosted, reviewed, released, notDuplicate, ?_, approved, withheld⟩
  intro present
  rwa [if_neg present] at reference

theorem postInvoice_ok (accepted : postInvoice db invoiceId principal = .ok next) :
    InvoiceEffect db (.postInvoice invoiceId principal) next := by
  simp only [postInvoice, invoiceOf, bind_ok, exists_unit, orRefuse_ok, pure_ok, Prod.exists] at accepted
  obtain ⟨row, found, postable, creditorId, books, account, total, expense, entryId, drafted, written, after, booked,
    rfl⟩ := accepted
  obtain ⟨rfl, entry, isBooked⟩ := booked_ok account written booked
  exact .posted invoiceId principal row total creditorId after entry found (assertPostable_ok postable) expense isBooked

theorem invoiceStep_effect (accepted : invoiceStep db call = .ok next) : InvoiceEffect db call next := by
  cases call with
  | createInvoice principal body hints =>
    obtain ⟨row, new, rfl⟩ := createInvoice_ok accepted
    exact .entered _ principal row rfl new
  | applyInvoice principal data hints =>
    obtain ⟨row, new, rfl⟩ := applyInvoice_ok accepted
    exact .entered _ principal row rfl new
  | updateInvoice invoiceId principal body ifMatch hints =>
    obtain ⟨old, new, found, updated, rfl⟩ := updateInvoice_ok accepted
    exact .changed _ invoiceId old new db.invoiceReviews found (.update principal body ifMatch hints new updated)
  | reviewInvoice invoiceId principal body =>
    simp only [invoiceStep, reviewInvoice, invoiceOf, bind_ok, exists_unit, require_ok, orRefuse_ok, pure_ok] at accepted
    obtain ⟨old, found, -, userId, -, -, -, rfl⟩ := accepted
    exact .changed _ invoiceId old _ _ found (.review principal body _)
  | confirmIban invoiceId principal hints =>
    simp only [invoiceStep, confirmIban, invoiceOf, bind_ok, exists_unit, require_ok, orRefuse_ok, pure_ok] at accepted
    obtain ⟨old, found, -, other, rfl⟩ := accepted
    exact .changed _ invoiceId old _ db.invoiceReviews found (.confirm principal hints other.1)
  | releaseInvoice invoiceId principal =>
    simp only [invoiceStep, releaseInvoice, invoiceOf, bind_ok, exists_unit, require_ok, orRefuse_ok, pure_ok] at accepted
    obtain ⟨old, found, -, other, clean, rfl⟩ := accepted
    exact .changed _ invoiceId old _ db.invoiceReviews found (.release principal other.1 clean)
  | secondApproval invoiceId principal =>
    simp only [invoiceStep, secondApproval, InvoiceTax.addSecondApproval, invoiceOf, bind_ok, exists_unit, require_ok,
      orRefuse_ok, pure_ok] at accepted
    obtain ⟨old, found, -, userId, person, approved, ⟨-, released, third, rfl⟩, rfl⟩ := accepted
    exact .changed _ invoiceId old _ db.invoiceReviews found (.approve principal userId person released.2 third)
  | postInvoice invoiceId principal => exact postInvoice_ok accepted
  | getInvoiceTax invoiceId =>
    simp only [invoiceStep, getInvoiceTax, invoiceOf, bind_ok, orRefuse_ok, pure_ok] at accepted
    obtain ⟨old, found, rfl⟩ := accepted
    exact .changed _ invoiceId old _ db.invoiceReviews found .readTax
  | putInvoiceTax invoiceId body =>
    simp only [invoiceStep, putInvoiceTax, invoiceOf, bind_ok, orRefuse_ok, pure_ok] at accepted
    obtain ⟨old, found, rfl⟩ := accepted
    exact .changed _ invoiceId old _ db.invoiceReviews found (.putTax body _ rfl)
  | approveWithholding invoiceId principal =>
    simp only [invoiceStep, approveWithholding, InvoiceTax.approveWithholding, invoiceOf, bind_ok, exists_unit,
      require_ok, orRefuse_ok, pure_ok] at accepted
    obtain ⟨old, found, userId, -, approved, ⟨proposed, other, rfl⟩, rfl⟩ := accepted
    exact .changed _ invoiceId old _ db.invoiceReviews found (.withhold principal userId _ rfl proposed other)
  | putSettings settings =>
    obtain rfl := pure_ok.mp accepted
    exact .settings settings
  | putPropertyProfile profile =>
    simp only [invoiceStep, putPropertyProfile, bind_ok, exists_unit, require_ok, pure_ok] at accepted
    obtain ⟨-, rfl⟩ := accepted
    exact .property profile _
  | putSupplierProfile profile =>
    simp only [invoiceStep, putSupplierProfile, bind_ok, exists_unit, require_ok, pure_ok] at accepted
    obtain ⟨-, -, -, rfl⟩ := accepted
    exact .supplier profile _ rfl
  | contactAccounts rows =>
    obtain rfl := pure_ok.mp accepted
    exact .accounts rows
  | journal call => exact .journal call next accepted

end Rows

end Invoices

def samplePurchasing : Db where
  books := { ledgers := [{}], accounts := [{ ledgerId := 0, number := "600000", category := .cost }] }
  contacts := [{ displayName := "Dachdecker" }]

def clerk : Principal := { userId := some 1, roles := ["clerk"] }

def manager : Principal := { userId := some 2, roles := ["manager"] }

def auditor : Principal := { userId := some 3 }

theorem billNumber_length : 1 ≤ "R1".length ∧ "R1".length ≤ 100 := by decide

/-- An invoice of the craftsman with one line. -/
def sampleBill (number : String) (gross : Decimal) (numberLength : 1 ≤ number.length ∧ number.length ≤ 100 := by
    first | exact billNumber_length | decide) : InvoiceIn where
  ledgerId := 0
  providerContactId := 0
  number
  invoiceDate := .ofYmd 2026 1 5
  net := gross
  vat := 0
  gross
  lines := [{ accountId := 0, net := gross }]
  numberLength
  lineCount := by simp

/-- All steps of the review by the auditor, then the release. -/
def sampleRelease (invoiceId : InvoiceId) (principal : Principal) : List InvoiceCall :=
  Invoices.reviewSteps.map (fun step => .reviewInvoice invoiceId auditor { step, result := .ok, reason := "geprüft" }) ++
    [.releaseInvoice invoiceId principal]

end Mhvp.Accounting
