import Mhvp.Accounting.InvoiceSteps

namespace Mhvp.Accounting

open Core Lib.Transition List

namespace InvoiceTax

/-- The proposal recomputed from invoice, profile and settings as they are. -/
def proposalNow (db : Db) (invoice : Invoice) : Decimal := (withholdingOf db invoice (taxDataOf invoice)).getD 0

/-- Nothing is to be withheld, or exactly that amount was approved by another person than the creator. -/
def WithholdingDecided (db : Db) (invoice : Invoice) : Prop :=
  proposalNow db invoice = 0 ∨ ∃ approver ∈ (taxDataOf invoice).withholdingApprovedBy,
    invoice.createdBy ≠ some approver ∧ (taxDataOf invoice).withholdingApprovedAmount = some (proposalNow db invoice)

instance : Decidable (WithholdingDecided db invoice) := by unfold WithholdingDecided; infer_instance

/-- The stored proposal is the recomputed one, where there is something to withhold. -/
def ProposalCurrent (db : Db) (invoice : Invoice) : Prop :=
  proposalNow db invoice = 0 ∨ (taxDataOf invoice).withholdingProposal = some (proposalNow db invoice)

/-- A stored approval is of the stored proposal, by another person than the creator. -/
structure ApprovalSound (createdBy : Option UserId) (data : InvoiceTaxData) : Prop where
  person : ∀ approver, data.withholdingApprovedBy = some approver → createdBy ≠ some approver
  amount : data.withholdingApprovedBy ≠ none → ∃ amount, amount ≠ 0 ∧
    data.withholdingApprovedAmount = some amount ∧ data.withholdingProposal = some amount

section Approvals

variable {db next : Db} {createdBy : Option UserId} {data : InvoiceTaxData} {invoice : Invoice}

theorem ApprovalSound.none (unapproved : data.withholdingApprovedBy = none) : ApprovalSound createdBy data :=
  ⟨fun approver isApproved => by simp [unapproved] at isApproved, fun approved => absurd unapproved approved⟩

theorem voidOutdated_approvedBy (data : InvoiceTaxData) :
    (voidOutdated data).withholdingApprovedBy = none ∨
      (voidOutdated data = data ∧ ¬ Outdated data.withholdingProposal data) := by
  unfold voidOutdated
  split
  · exact Or.inl rfl
  · rename_i current
    exact Or.inr ⟨rfl, current⟩

theorem ApprovalSound.refresh (sound : ApprovalSound createdBy data) (db : Db) (invoice : Invoice) :
    ApprovalSound createdBy (refreshProposals db invoice data) := by
  unfold refreshProposals
  dsimp only
  generalize refreshed : InvoiceTaxData.mk .. = fresh
  have approvedBy : fresh.withholdingApprovedBy = data.withholdingApprovedBy := by rw [← refreshed]
  have approvedAmount : fresh.withholdingApprovedAmount = data.withholdingApprovedAmount := by rw [← refreshed]
  rcases voidOutdated_approvedBy fresh with voided | ⟨same, current⟩
  · exact .none voided
  · rw [same]
    refine ⟨?_, ?_⟩
    · intro approver isApproved
      exact sound.person approver (approvedBy ▸ isApproved)
    · intro approved
      obtain ⟨amount, notZero, ofAmount, -⟩ := sound.amount (approvedBy ▸ approved)
      refine ⟨amount, notZero, approvedAmount.trans ofAmount, ?_⟩
      have proposed : amount = fresh.withholdingProposal.getD 0 := by
        by_contra other
        exact current ⟨amount, approvedAmount.trans ofAmount, other⟩
      cases proposal : fresh.withholdingProposal with
      | none =>
        rw [proposal] at proposed
        exact absurd proposed notZero
      | some value =>
        rw [proposal] at proposed
        exact congrArg some proposed.symm

/-- Every stored approval of the tenant is sound. -/
def ApprovalsSound (db : Db) : Prop := ∀ invoice ∈ db.invoices, ApprovalSound invoice.createdBy (taxDataOf invoice)

theorem rowChange_approval (change : Invoices.RowChange db invoiceId invoice call new)
    (sound : ApprovalSound invoice.createdBy (taxDataOf invoice)) : ApprovalSound new.createdBy (taxDataOf new) := by
  cases change with
  | update principal body ifMatch hints new updated =>
    rw [taxDataOf, updated.createdBy, updated.taxData]
    exact sound
  | review principal body reviewStatus => exact sound
  | confirm principal hints other => exact sound
  | release principal other clean => exact ⟨sound.person, sound.amount⟩
  | approve principal userId person released third => exact sound
  | readTax => exact sound.refresh db invoice
  | putTax body data given =>
    have same : ApprovalSound invoice.createdBy data := by
      rw [given]
      exact ⟨sound.person, sound.amount⟩
    exact same.refresh db invoice
  | withhold principal userId data refreshed proposed other =>
    refine ⟨?_, ?_⟩
    · intro approver isApproved
      cases isApproved
      exact other
    · intro _
      cases proposal : data.withholdingProposal with
      | none => simp [proposal] at proposed
      | some amount => exact ⟨amount, by simpa [proposal] using proposed, rfl, rfl⟩

theorem ApprovalsSound.step (sound : ApprovalsSound db) (accepted : invoiceStep db call = .ok next) :
    ApprovalsSound next := by
  cases Invoices.invoiceStep_effect accepted with
  | entered call principal row by' new =>
    intro invoice member
    rcases mem_append.mp member with old | isNew
    · exact sound invoice old
    · obtain rfl := mem_singleton.mp isNew
      apply ApprovalSound.none
      rw [taxDataOf, new.taxData]
      rfl
  | changed call invoiceId old new reviews found change =>
    intro invoice member
    rcases mem_or_eq_of_mem_set member with kept | rfl
    · exact sound invoice kept
    · exact rowChange_approval change (sound old (mem_of_getElem? found))
  | posted invoiceId principal row total creditorId books entry found postable expense booked =>
    intro invoice member
    rcases mem_or_eq_of_mem_set member with kept | rfl
    · exact sound invoice kept
    · exact sound row (mem_of_getElem? found)
  | settings settings => exact sound
  | property profile rows => exact sound
  | supplier profile stored after =>
    subst after
    intro invoice member
    obtain ⟨old, isOld, rfl⟩ := mem_map.mp member
    have was := sound old isOld
    split
    · rename_i data hasData
      rw [taxDataOf, hasData] at was
      split
      · exact was.refresh _ old
      · rw [taxDataOf, hasData]
        exact was
    · exact was
  | accounts rows => exact sound
  | journal call next accepted =>
    rw [journalStep_frame accepted]
    exact sound

/-- A posting of an invoice finds its withholding decided exactly when the stored proposal is current. -/
theorem decided_iff_current (sound : ApprovalSound invoice.createdBy (taxDataOf invoice))
    (postable : Invoices.Postable db invoiceId invoice)
    (enabled : (settingsOf db).constructionWithholdingEnabled = true) :
    WithholdingDecided db invoice ↔ ProposalCurrent db invoice := by
  unfold WithholdingDecided ProposalCurrent
  constructor
  · rintro (zero | ⟨approver, approved, -, amount⟩)
    · exact Or.inl zero
    · obtain ⟨stated, -, ofAmount, proposal⟩ := sound.amount (Option.ne_none_iff_exists'.mpr ⟨approver, approved⟩)
      rw [amount, Option.some_inj] at ofAmount
      exact Or.inr (ofAmount ▸ proposal)
  · intro current
    by_cases zero : proposalNow db invoice = 0
    · exact Or.inl zero
    · have proposal := current.resolve_left zero
      cases present : invoice.taxData with
      | none => simp [taxDataOf, present] at proposal
      | some data =>
        have same : taxDataOf invoice = data := by rw [taxDataOf, present]; rfl
        rw [same] at sound proposal ⊢
        have approved := postable.withheld enabled data present (by rw [proposal]; exact zero)
        obtain ⟨approver, isApprover⟩ := Option.ne_none_iff_exists'.mp approved
        obtain ⟨amount, -, ofAmount, stated⟩ := sound.amount approved
        refine Or.inr ⟨approver, isApprover, sound.person approver isApprover, ?_⟩
        rw [ofAmount, ← stated, proposal]

end Approvals

end InvoiceTax

open InvoiceTax

/-- In every run, an invoice posted while withholding is enabled has its recomputed proposal decided exactly
when the stored proposal was current. -/
theorem posted_withholding_decided_iff {start next : Db} (noInvoices : start.invoices = []) (calls : List InvoiceCall)
    (invoiceId : InvoiceId) (principal : Principal)
    (accepted : invoiceStep (run invoiceStep start calls) (.postInvoice invoiceId principal) = .ok next)
    (enabled : (settingsOf (run invoiceStep start calls)).constructionWithholdingEnabled = true) :
    ∃ invoice, (run invoiceStep start calls).invoices[invoiceId]? = some invoice ∧
      (WithholdingDecided (run invoiceStep start calls) invoice ↔
        ProposalCurrent (run invoiceStep start calls) invoice) := by
  have sound : ApprovalsSound (run invoiceStep start calls) := by
    apply run_invariant (fun _ _ _ sound accepted => ApprovalsSound.step sound accepted)
    intro invoice member
    simp [noInvoices] at member
  cases Invoices.invoiceStep_effect accepted with
  | changed call changedId old new reviews found change => cases change
  | posted invoiceId principal invoice total creditorId books entry found postable expense booked =>
    exact ⟨invoice, found, decided_iff_current (sound invoice (mem_of_getElem? found)) postable enabled⟩
  | entered call principal row by' new => cases by'

def withholdingSettings : AccountingTaxSettings := { constructionWithholdingEnabled := true }

/-- A bill of 1190.00 for a construction service; the manager approves 178.50 to be withheld. -/
def sampleWithheld : List InvoiceCall :=
  [.putSettings withholdingSettings, .createInvoice clerk (sampleBill "R1" 1190) [],
   .putInvoiceTax 0 { constructionService := true }, .approveWithholding 0 manager]

theorem sample_withholding_decided :
    ∃ invoice, (run invoiceStep samplePurchasing (sampleWithheld ++ sampleRelease 0 manager)).invoices[0]? =
        some invoice ∧
      (WithholdingDecided (run invoiceStep samplePurchasing (sampleWithheld ++ sampleRelease 0 manager)) invoice ↔
        ProposalCurrent (run invoiceStep samplePurchasing (sampleWithheld ++ sampleRelease 0 manager)) invoice) :=
  posted_withholding_decided_iff rfl _ 0 clerk (accepted_of_isSome (by decide +kernel)) (by decide +kernel)

/-- After the approval the bill is changed to 2380.00: it is posted with the approval of 178.50. -/
theorem changed_bill_posted_with_old_withholding :
    let changed := sampleWithheld ++ [.updateInvoice 0 clerk (sampleBill "R1" 2380) none []] ++ sampleRelease 0 manager
    let now := run invoiceStep samplePurchasing changed
    (settingsOf now).constructionWithholdingEnabled = true ∧
      (answer? (invoiceStep now (.postInvoice 0 clerk))).isSome ∧
      ∃ invoice ∈ now.invoices[0]?, proposalNow now invoice = 357 ∧ ¬ WithholdingDecided now invoice := by
  decide +kernel

end Mhvp.Accounting
