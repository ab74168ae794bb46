import Mhvp.Accounting.InvoiceSteps

namespace Mhvp.Accounting

open Core Lib.Aggregate Lib.Table Lib.Transition List

namespace Invoices

/-- The invoice is posted and its entry is not reversed. -/
def InForce (books : Books) (invoice : Invoice) : Prop :=
  invoice.postingStatus = .posted ∧
    ∃ entryId ∈ invoice.journalEntryId, ∃ entry ∈ books.entries[entryId]?, entry.reversedById = none

instance : Decidable (InForce books invoice) := by unfold InForce; infer_instance

/-- What the entry of the invoice moves, while it is in force. -/
def postedCost (books : Books) (invoice : Invoice) : Decimal :=
  if InForce books invoice then
    ((invoice.journalEntryId.bind (books.entries[·]?)).map fun entry =>
      totalDebit (entry.lines.map JournalLine.toLineIn)).getD 0
  else 0

def deductedIds (invoice : Invoice) : List InvoiceId := invoice.deductions.map Deduction.invoiceId

/-- Posted cost of a final invoice and of the partial invoices it deducts, each counted once. -/
def chainCost (db : Db) (invoice : Invoice) : Decimal :=
  postedCost db.books invoice +
    ((deductedIds invoice).dedup.map fun id => ((db.invoices[id]?).map (postedCost db.books)).getD 0).sum

/-- A credit note of the invoice in force. -/
def Credits (books : Books) (originalId : InvoiceId) (invoice : Invoice) : Prop :=
  invoice.kind = .creditNote ∧ invoice.referenceInvoiceId = some originalId ∧ InForce books invoice

instance : DecidablePred (Credits books originalId) := fun _ => by unfold Credits; infer_instance

def creditedGross (db : Db) (originalId : InvoiceId) : Decimal :=
  sumWhere (Credits db.books originalId) Invoice.gross db.invoices

/-- A final invoice in force. -/
def FinalInForce (db : Db) (finalId : InvoiceId) (invoice : Invoice) : Prop :=
  db.invoices[finalId]? = some invoice ∧ invoice.kind = .finalInvoice ∧ InForce db.books invoice

/-- Partial invoices are deducted once and in force, chains cost the final amount, credits stay within it. -/
structure ChainsSound (db : Db) : Prop where
  once : ∀ finalId invoice, FinalInForce db finalId invoice → (deductedIds invoice).Nodup
  exclusive : ∀ finalId otherId invoice other, FinalInForce db finalId invoice → FinalInForce db otherId other →
    finalId ≠ otherId → (deductedIds invoice).Disjoint (deductedIds other)
  inForce : ∀ finalId invoice, FinalInForce db finalId invoice → ∀ id ∈ deductedIds invoice,
    ∃ partialInvoice, db.invoices[id]? = some partialInvoice ∧ partialInvoice.kind = .partialInvoice ∧
      InForce db.books partialInvoice
  cost : ∀ finalId invoice, FinalInForce db finalId invoice → chainCost db invoice = invoice.gross
  credit : ∀ (originalId : InvoiceId) (original : Invoice), db.invoices[originalId]? = some original →
    InForce db.books original → creditedGross db originalId ≤ original.gross

/-- Gross amounts of the other credit notes of the invoice that count without being in force. -/
def idleCredits (db : Db) (invoiceId originalId : InvoiceId) : Decimal :=
  sumWhere (fun found : Invoice × InvoiceId => (found.1.referenceInvoiceId = some originalId ∧
    found.1.kind = .creditNote ∧ found.2 ≠ invoiceId ∧ found.1.postingStatus ≠ .reversed) ∧
    ¬ InForce db.books found.1) (fun found => found.1.gross) db.invoices.zipIdx

/-- The partial invoices of a posted final invoice are distinct, in force and deducted by no other one. -/
def DeductsOnce (db : Db) (invoice : Invoice) : Prop :=
  (deductedIds invoice).Nodup ∧ ∀ id ∈ deductedIds invoice,
    (∀ partialInvoice ∈ db.invoices[id]?, InForce db.books partialInvoice) ∧
    ∀ other ∈ db.invoices, other.kind = .finalInvoice → InForce db.books other → id ∉ deductedIds other

instance : Decidable (DeductsOnce db invoice) := by unfold DeductsOnce; infer_instance

/-- What the requests do not check of the chain. -/
def Chained (db : Db) : InvoiceCall → Prop
  | .postInvoice invoiceId _ => ∀ invoice ∈ db.invoices[invoiceId]?,
      (invoice.kind = .finalInvoice → DeductsOnce db invoice) ∧
      (invoice.kind = .creditNote → ∀ originalId ∈ invoice.referenceInvoiceId,
        0 ≤ idleCredits db invoiceId originalId)
  | .journal (.reverseEntry _ entryId _ _ _ _ _) => ∀ invoice ∈ db.invoices, invoice.kind = .finalInvoice →
      InForce db.books invoice → ∀ id ∈ deductedIds invoice, ∀ partialInvoice ∈ db.invoices[id]?,
        partialInvoice.journalEntryId ≠ some entryId
  | _ => True

instance (db : Db) (call : InvoiceCall) : Decidable (Chained db call) :=
  match call with
  | .postInvoice _ _ => by unfold Chained; infer_instance
  | .journal (.reverseEntry ..) => by unfold Chained; infer_instance
  | .journal (.createEntry ..) | .journal (.updateEntry ..) | .journal (.writeDraft ..)
  | .journal (.approveEntry ..) | .journal (.postEntry ..) | .journal (.lockPeriod ..)
  | .journal (.createAccount ..) | .journal (.setAccountActive ..)
  | .createInvoice .. | .applyInvoice .. | .updateInvoice .. | .reviewInvoice .. | .confirmIban ..
  | .releaseInvoice .. | .secondApproval .. | .getInvoiceTax .. | .putInvoiceTax .. | .approveWithholding ..
  | .putSettings .. | .putPropertyProfile .. | .putSupplierProfile .. | .contactAccounts .. => instDecidableTrue

/-- The amount the entry of a posted invoice moves. -/
def expense (invoice : Invoice) : Decimal :=
  if invoice.kind = .finalInvoice then invoice.gross - (invoice.deductions.map Deduction.gross).sum else invoice.gross

/-- What the posting of an invoice fixes. -/
structure PostedSame (old new : Invoice) : Prop where
  status : new.postingStatus = old.postingStatus
  kind : new.kind = old.kind
  gross : new.gross = old.gross
  deductions : new.deductions = old.deductions
  entry : new.journalEntryId = old.journalEntryId
  reference : new.referenceInvoiceId = old.referenceInvoiceId

/-- A posted invoice has its entry over its expense, and the invoices it deducts or credits are posted. -/
structure PostedRow (db : Db) (invoice : Invoice) : Prop where
  entry : ∃ entryId entry, invoice.journalEntryId = some entryId ∧ db.books.entries[entryId]? = some entry ∧
    entry.isPosted ∧ totalDebit (entry.lines.map JournalLine.toLineIn) = expense invoice
  positive : 0 < invoice.gross
  deducts : invoice.kind = .finalInvoice → ∀ deduction ∈ invoice.deductions, ∃ partialInvoice,
    db.invoices[deduction.invoiceId]? = some partialInvoice ∧ partialInvoice.kind = .partialInvoice ∧
    partialInvoice.postingStatus = .posted ∧ partialInvoice.gross = deduction.gross
  original : invoice.kind = .creditNote → ∀ originalId, invoice.referenceInvoiceId = some originalId →
    ∃ original, db.invoices[originalId]? = some original ∧ original.postingStatus = .posted

/-- The invariant of the chains. -/
structure Chains (db : Db) : Prop where
  books : db.books.Sound
  posted : ∀ invoice ∈ db.invoices, invoice.postingStatus = .posted → PostedRow db invoice
  once : ∀ finalId invoice, FinalInForce db finalId invoice → (deductedIds invoice).Nodup
  exclusive : ∀ finalId otherId invoice other, FinalInForce db finalId invoice → FinalInForce db otherId other →
    finalId ≠ otherId → (deductedIds invoice).Disjoint (deductedIds other)
  inForce : ∀ finalId invoice, FinalInForce db finalId invoice → ∀ id ∈ deductedIds invoice,
    ∀ partialInvoice, db.invoices[id]? = some partialInvoice → InForce db.books partialInvoice
  credit : ∀ (originalId : InvoiceId) (original : Invoice), db.invoices[originalId]? = some original →
    original.postingStatus = .posted → creditedGross db originalId ≤ original.gross

section Rows

variable {db next : Db} {books after : Books} {invoice old new : Invoice}

theorem expenseAmount_ok (accepted : expenseAmount db invoice = .ok total) :
    total = expense invoice ∧ (invoice.kind = .finalInvoice →
      ∀ deduction ∈ invoice.deductions, ∃ partialInvoice, db.invoices[deduction.invoiceId]? = some partialInvoice ∧
        partialInvoice.kind = .partialInvoice ∧
      partialInvoice.postingStatus = .posted ∧ partialInvoice.gross = deduction.gross) := by
  have sums : ∀ (deductions : List Deduction) (deducted : Decimal),
      deductedGross db invoice deductions = .ok deducted →
      deducted = (deductions.map Deduction.gross).sum ∧ ∀ deduction ∈ deductions, ∃ partialInvoice,
        db.invoices[deduction.invoiceId]? = some partialInvoice ∧ partialInvoice.kind = .partialInvoice ∧
        partialInvoice.postingStatus = .posted ∧ partialInvoice.gross = deduction.gross := by
    intro deductions
    induction deductions with
    | nil =>
      intro deducted sum
      obtain rfl := pure_ok.mp sum
      exact ⟨rfl, by simp⟩
    | cons deduction rest ih =>
      intro deducted sum
      simp only [deductedGross, bind_ok, exists_unit, require_ok, orRefuse_ok, pure_ok] at sum
      obtain ⟨partialInvoice, found, stated, others, later, rfl⟩ := sum
      obtain ⟨rfl, each⟩ := ih others later
      obtain ⟨found, isPartial⟩ := Option.filter_eq_some_iff.mp found
      simp only [decide_eq_true_eq] at isPartial
      refine ⟨by rw [map_cons, sum_cons, stated], ?_⟩
      intro other member
      rcases mem_cons.mp member with rfl | inRest
      · exact ⟨partialInvoice, found, isPartial.1, isPartial.2.2.2, stated.symm⟩
      · exact each other inRest
  unfold expenseAmount at accepted
  split at accepted
  · rename_i notFinal
    obtain rfl := pure_ok.mp accepted
    exact ⟨(if_neg notFinal).symm, fun isFinal => absurd isFinal notFinal⟩
  · rename_i isFinal
    simp only [bind_ok, exists_unit, require_ok, pure_ok] at accepted
    obtain ⟨deducted, sum, -, rfl⟩ := accepted
    obtain ⟨rfl, each⟩ := sums _ _ sum
    exact ⟨(if_pos (not_not.mp isFinal)).symm, fun _ => each⟩

/-- Books in which every posted entry is kept, apart from the reference to its reversal. -/
def EntriesKept (books after : Books) : Prop := ∀ (id : EntryId) (entry : JournalEntry),
  books.entries[id]? = some entry → entry.isPosted → ∃ kept, after.entries[id]? = some kept ∧ entry.SameBut kept

theorem EntriesKept.refl (books : Books) : EntriesKept books books :=
  fun _ entry found _ => ⟨entry, found, .refl entry⟩

theorem PostedRow.wasInForce (row : PostedRow db invoice) (kept : EntriesKept db.books after)
    (inForce : InForce after invoice) : InForce db.books invoice := by
  obtain ⟨posted, entryId, isEntry, later, foundLater, unreversed⟩ := inForce
  obtain ⟨otherId, entry, isOther, found, isPosted, -⟩ := row.entry
  obtain rfl : otherId = entryId := Option.mem_unique isOther isEntry
  obtain ⟨same, foundSame, sameBut⟩ := kept otherId entry found isPosted
  obtain rfl : later = same := Option.some.inj ((Option.mem_def.mp foundLater).symm.trans foundSame)
  refine ⟨posted, otherId, isOther, entry, found, ?_⟩
  cases reversed : entry.reversedById with
  | none => rfl
  | some reversal =>
    rw [sameBut.2 reversal reversed] at unreversed
    cases unreversed

/-- The facts of a posted invoice stay true while its entry and the partial invoices it deducts are kept. -/
theorem PostedRow.keep (row : PostedRow db invoice) (kept : EntriesKept db.books next.books)
    (rows : ∀ (id : InvoiceId) (other : Invoice), db.invoices[id]? = some other → other.postingStatus = .posted →
      ∃ later, next.invoices[id]? = some later ∧ PostedSame other later) : PostedRow next invoice := by
  refine ⟨?_, row.positive, ?_, ?_⟩
  · obtain ⟨entryId, entry, isEntry, found, isPosted, cost⟩ := row.entry
    obtain ⟨later, foundLater, sameBut⟩ := kept entryId entry found isPosted
    refine ⟨entryId, later, isEntry, foundLater, sameBut.isPosted.mpr isPosted, ?_⟩
    rw [sameBut.1]
    exact cost
  · intro isFinal deduction member
    obtain ⟨partialInvoice, found, isPartial, posted, gross⟩ := row.deducts isFinal deduction member
    obtain ⟨later, foundLater, same⟩ := rows _ _ found posted
    exact ⟨later, foundLater, same.kind.trans isPartial, same.status.trans posted, same.gross.trans gross⟩
  · intro isCredit originalId refers
    obtain ⟨original, found, posted⟩ := row.original isCredit originalId refers
    obtain ⟨later, foundLater, same⟩ := rows _ _ found posted
    exact ⟨later, foundLater, same.status.trans posted⟩

theorem PostedSame.refl (invoice : Invoice) : PostedSame invoice invoice := ⟨rfl, rfl, rfl, rfl, rfl, rfl⟩

theorem PostedSame.inForce (same : PostedSame old new) : InForce books new ↔ InForce books old := by
  unfold InForce
  rw [same.status, same.entry]

theorem PostedSame.credits (same : PostedSame old new) :
    Credits books originalId new ↔ Credits books originalId old := by
  unfold Credits
  rw [same.kind, same.reference, same.inForce]

theorem not_inForce (unposted : invoice.postingStatus ≠ .posted) : ¬ InForce books invoice :=
  fun inForce => unposted inForce.1

theorem inForce_append (entries : after.entries = books.entries ++ added) (inForce : InForce books invoice) :
    InForce after invoice := by
  obtain ⟨posted, entryId, isEntry, entry, found, unreversed⟩ := inForce
  refine ⟨posted, entryId, isEntry, entry, ?_, unreversed⟩
  rw [entries]
  exact found_append found

theorem entriesKept_append (entries : after.entries = books.entries ++ added) : EntriesKept books after := by
  intro id entry found _
  refine ⟨entry, ?_, .refl entry⟩
  rw [entries]
  exact found_append found

theorem Chains.rows (chains : Chains db) (books : next.books = db.books)
    (forward : ∀ (id : InvoiceId) (old : Invoice), db.invoices[id]? = some old → old.postingStatus = .posted →
      ∃ new, next.invoices[id]? = some new ∧ PostedSame old new)
    (backward : ∀ (id : InvoiceId) (new : Invoice), next.invoices[id]? = some new → new.postingStatus = .posted →
      ∃ old, db.invoices[id]? = some old ∧ PostedSame old new)
    (credited : ∀ originalId, creditedGross next originalId = creditedGross db originalId) : Chains next := by
  have kept : EntriesKept db.books next.books := by
    rw [books]
    exact .refl _
  have before : ∀ finalId invoice, FinalInForce next finalId invoice →
      ∃ old, FinalInForce db finalId old ∧ deductedIds invoice = deductedIds old := by
    rintro finalId invoice ⟨found, isFinal, inForce⟩
    obtain ⟨old, foundOld, same⟩ := backward finalId invoice found inForce.1
    refine ⟨old, ⟨foundOld, same.kind.symm.trans isFinal, ?_⟩, ?_⟩
    · rw [← same.inForce, ← books]
      exact inForce
    · rw [deductedIds, same.deductions]
      rfl
  refine ⟨books ▸ chains.books, ?_, ?_, ?_, ?_, ?_⟩
  · intro invoice member posted
    obtain ⟨id, found⟩ := mem_iff_getElem?.mp member
    obtain ⟨old, foundOld, same⟩ := backward id invoice found posted
    have row := (chains.posted old (mem_of_getElem? foundOld) (same.status.symm.trans posted)).keep kept forward
    have sameExpense : expense invoice = expense old := by rw [expense, same.kind, same.gross, same.deductions]; rfl
    refine ⟨?_, same.gross ▸ row.positive, ?_, ?_⟩
    · rw [sameExpense, same.entry]
      exact row.entry
    · rw [same.kind, same.deductions]
      exact row.deducts
    · rw [same.kind, same.reference]
      exact row.original
  · intro finalId invoice inForce
    obtain ⟨old, was, same⟩ := before finalId invoice inForce
    rw [same]
    exact chains.once finalId old was
  · intro finalId otherId invoice other inForce otherInForce different
    obtain ⟨old, was, same⟩ := before finalId invoice inForce
    obtain ⟨oldOther, wasOther, sameOther⟩ := before otherId other otherInForce
    rw [same, sameOther]
    exact chains.exclusive finalId otherId old oldOther was wasOther different
  · intro finalId invoice inForce id member partialInvoice found
    obtain ⟨old, was, same⟩ := before finalId invoice inForce
    rw [same] at member
    obtain ⟨deduction, isDeduction, rfl⟩ := mem_map.mp member
    have row := chains.posted old (mem_of_getElem? was.1) was.2.2.1
    obtain ⟨oldPartial, foundOld, -, posted, -⟩ := row.deducts was.2.1 deduction isDeduction
    obtain ⟨later, foundLater, samePartial⟩ := forward _ _ foundOld posted
    obtain rfl : partialInvoice = later := Option.mem_unique found foundLater
    rw [books, samePartial.inForce]
    exact chains.inForce finalId old was _ (mem_map_of_mem isDeduction) oldPartial foundOld
  · intro originalId original found posted
    obtain ⟨old, foundOld, same⟩ := backward originalId original found posted
    rw [credited, same.gross]
    exact chains.credit originalId old foundOld (same.status.symm.trans posted)

theorem rowChange_posted (change : RowChange db invoiceId old call new) :
    (old.postingStatus = .unposted ∧ new.postingStatus = .unposted) ∨ PostedSame old new := by
  cases change with
  | update principal body ifMatch hints new updated => exact Or.inl ⟨updated.wasUnposted, updated.unposted⟩
  | review | confirm | release | approve | readTax | putTax | withhold =>
    exact Or.inr ⟨rfl, rfl, rfl, rfl, rfl, rfl⟩

theorem Chains.entered (chains : Chains db) (unposted : new.postingStatus = .unposted) :
    Chains { db with invoices := db.invoices ++ [new] } := by
  have notPosted : new.postingStatus ≠ .posted := by simp [unposted]
  apply chains.rows
  · rfl
  · intro id old found _
    exact ⟨old, found_append found, .refl old⟩
  · intro id row found posted
    rcases found_append_one.mp found with old | ⟨-, rfl⟩
    · exact ⟨row, old, .refl row⟩
    · exact absurd posted notPosted
  · intro originalId
    have absent : ¬ Credits db.books originalId new := fun credits => not_inForce notPosted credits.2.2
    rw [creditedGross, sumWhere_append, sumWhere_singleton, if_neg absent, add_zero]
    rfl

theorem Chains.changed (chains : Chains db) (found : db.invoices[invoiceId]? = some old)
    (change : RowChange db invoiceId old call new) (reviews : List InvoiceReview) :
    Chains (setInvoice { db with invoiceReviews := reviews } invoiceId new) := by
  have stays := rowChange_posted change
  apply chains.rows
  · rfl
  · intro id row foundRow posted
    by_cases here : id = invoiceId
    · subst here
      obtain rfl : old = row := Option.mem_unique found foundRow
      rcases stays with ⟨unposted, -⟩ | same
      · rw [unposted] at posted
        cases posted
      · exact ⟨new, (found_set found).mpr (Or.inl ⟨rfl, rfl⟩), same⟩
    · exact ⟨row, (found_set found).mpr (Or.inr ⟨here, foundRow⟩), .refl row⟩
  · intro id row foundRow posted
    rcases (found_set found).mp foundRow with ⟨rfl, rfl⟩ | ⟨-, kept⟩
    · rcases stays with ⟨-, unposted⟩ | same
      · rw [unposted] at posted
        cases posted
      · exact ⟨old, found, same⟩
    · exact ⟨row, kept, .refl row⟩
  · intro originalId
    have equal : (if Credits db.books originalId new then new.gross else 0) =
        if Credits db.books originalId old then old.gross else 0 := by
      rcases stays with ⟨was, is⟩ | same
      · rw [if_neg fun credits => not_inForce (by simp [is]) credits.2.2,
          if_neg fun credits => not_inForce (by simp [was]) credits.2.2]
      · simp only [same.credits, same.gross]
    rw [creditedGross, setInvoice, sumWhere_set found, equal, sub_add_cancel]
    rfl

theorem Chains.refreshed {tables : Db} (chains : Chains db) (contactId : ContactId) (books : tables.books = db.books)
    (invoices : tables.invoices = db.invoices) :
    Chains { tables with invoices := refreshInvoicesOfSupplier tables contactId } := by
  obtain ⟨refreshed, isRefreshed, same⟩ : ∃ refreshed : Invoice → Invoice,
      refreshInvoicesOfSupplier tables contactId = tables.invoices.map refreshed ∧
        ∀ invoice, PostedSame invoice (refreshed invoice) := by
    refine ⟨_, rfl, fun invoice => ?_⟩
    split
    · split
      · exact ⟨rfl, rfl, rfl, rfl, rfl, rfl⟩
      · exact .refl invoice
    · exact .refl invoice
  apply chains.rows
  · exact books
  · intro id old found _
    refine ⟨_, ?_, same old⟩
    rw [isRefreshed, invoices, List.getElem?_map, found]
    rfl
  · intro id new found _
    rw [isRefreshed, invoices, List.getElem?_map, Option.map_eq_some_iff] at found
    obtain ⟨old, foundOld, rfl⟩ := found
    exact ⟨old, foundOld, same old⟩
  · intro originalId
    rw [creditedGross, isRefreshed, invoices, sumWhere_map, books]
    apply sumWhere_congr
    · intro invoice _
      exact (same invoice).credits
    · intro invoice _ _
      exact (same invoice).gross

theorem reference_ok (isCredit : invoice.kind = .creditNote) (refers : invoice.referenceInvoiceId = some originalId)
    (clean : referenceFindings db invoiceId invoice = []) :
    ∃ original, db.invoices[originalId]? = some original ∧ original.postingStatus = .posted ∧
      otherCredits db invoiceId originalId + invoice.gross ≤ original.gross := by
  rw [referenceFindings, if_neg (not_not.mpr isCredit), refers] at clean
  cases found : db.invoices[originalId]? with
  | none => simp [found] at clean
  | some original =>
    simp only [found, append_eq_nil_iff, ite_eq_right_iff, cons_ne_nil, imp_false, not_not, not_lt] at clean
    exact ⟨original, rfl, clean.1.2, clean.2⟩

theorem otherCredits_eq (found : db.invoices[invoiceId]? = some invoice) (unposted : invoice.postingStatus ≠ .posted)
    (originalId : InvoiceId) :
    otherCredits db invoiceId originalId = creditedGross db originalId + idleCredits db invoiceId originalId := by
  rw [otherCredits, sumWhere_split fun other : Invoice × InvoiceId => InForce db.books other.1]
  congr 1
  have rows : creditedGross db originalId = sumWhere (fun other : Invoice × InvoiceId =>
      Credits db.books originalId other.1) (fun other => other.1.gross) db.invoices.zipIdx := by
    have mapped : sumWhere (Credits db.books originalId) Invoice.gross (db.invoices.zipIdx.map Prod.fst) =
        sumWhere (fun other => Credits db.books originalId other.1) (fun other => other.1.gross) db.invoices.zipIdx :=
      sumWhere_map Prod.fst db.invoices.zipIdx
    rw [zipIdx_map_fst] at mapped
    exact mapped
  rw [rows]
  apply sumWhere_congr
  · intro other member
    constructor
    · rintro ⟨⟨refers, isCredit, -, -⟩, inForce⟩
      exact ⟨isCredit, refers, inForce⟩
    · rintro ⟨isCredit, refers, inForce⟩
      refine ⟨⟨refers, isCredit, ?_, ?_⟩, inForce⟩
      · intro here
        have same := mk_mem_zipIdx_iff_getElem?.mp member
        rw [here, found] at same
        cases same
        exact unposted inForce.1
      · rw [inForce.1]
        exact fun reversed => nomatch reversed
  · intro other _ _
    rfl

end Rows

section Post

variable {db : Db} {after : Books} {invoiceId : InvoiceId} {invoice : Invoice} {total : Decimal} {entry : JournalEntry}

/-- The row of an invoice after its posting. -/
def bookedRow (invoice : Invoice) (creditorId : AccountId) (entryId : EntryId) : Invoice :=
  { invoice with
    creditorAccountId := some creditorId
    postingStatus := .posted
    journalEntryId := some entryId }

def bookedDb (db : Db) (after : Books) (invoiceId : InvoiceId) (invoice : Invoice) (creditorId : AccountId) : Db :=
  setInvoice { db with books := after } invoiceId (bookedRow invoice creditorId db.books.entries.length)

theorem booked_inForce (booked : BookedInvoice db.books after entry total) (invoice : Invoice)
    (creditorId : AccountId) :
    InForce after (bookedRow invoice creditorId db.books.entries.length) := by
  refine ⟨rfl, _, rfl, entry, ?_, booked.unreversed⟩
  rw [booked.entries]
  exact List.getElem?_concat_length

theorem booked_stays (found : db.invoices[invoiceId]? = some invoice) (unposted : invoice.postingStatus ≠ .posted)
    (new : Invoice) (id : InvoiceId) (row : Invoice) (foundRow : db.invoices[id]? = some row)
    (posted : row.postingStatus = .posted) :
    ∃ later, (db.invoices.set invoiceId new)[id]? = some later ∧ PostedSame row later := by
  refine ⟨row, (found_set found).mpr (Or.inr ⟨?_, foundRow⟩), .refl row⟩
  rintro rfl
  obtain rfl : invoice = row := Option.mem_unique found foundRow
  exact unposted posted

section

variable (chains : Chains db)
include chains

theorem booked_sameForce (booked : BookedInvoice db.books after entry total)
    (member : row ∈ db.invoices) : InForce after row ↔ InForce db.books row := by
  constructor
  · intro later
    exact (chains.posted row member later.1).wasInForce (entriesKept_append booked.entries) later
  · exact inForce_append booked.entries

theorem booked_finals (found : db.invoices[invoiceId]? = some invoice)
    (booked : BookedInvoice db.books after entry total)
    (final' : FinalInForce (setInvoice { db with books := after } invoiceId new) finalId row) :
    (finalId = invoiceId ∧ row = new) ∨ FinalInForce db finalId row := by
  obtain ⟨foundRow, isFinal, inForce⟩ := final'
  rcases (found_set found).mp foundRow with here | ⟨-, was⟩
  · exact Or.inl here
  · exact Or.inr ⟨was, isFinal, (booked_sameForce chains booked (mem_of_getElem? was)).mp inForce⟩

theorem booked_row (found : db.invoices[invoiceId]? = some invoice)
    (postable : Postable db invoiceId invoice) (amount : expenseAmount db invoice = .ok total)
    (booked : BookedInvoice db.books after entry total) (creditorId : AccountId) :
    PostedRow (bookedDb db after invoiceId invoice creditorId)
      (bookedRow invoice creditorId db.books.entries.length) := by
  obtain ⟨isExpense, deducts⟩ := expenseAmount_ok amount
  have stays := booked_stays found postable.notPosted (bookedRow invoice creditorId db.books.entries.length)
  refine ⟨?_, ?_, ?_, ?_⟩
  · refine ⟨_, entry, rfl, ?_, booked.posted, booked.cost.trans isExpense⟩
    change after.entries[db.books.entries.length]? = some entry
    rw [booked.entries]
    exact List.getElem?_concat_length
  · have positive := booked.positive
    rw [isExpense, expense] at positive
    by_cases isFinal : invoice.kind = .finalInvoice
    · rw [if_pos isFinal] at positive
      have deducted : 0 ≤ (invoice.deductions.map Deduction.gross).sum := by
        apply sum_nonneg
        intro gross member
        obtain ⟨deduction, isDeduction, rfl⟩ := mem_map.mp member
        obtain ⟨partialInvoice, foundPartial, -, posted, same⟩ := deducts isFinal deduction isDeduction
        rw [← same]
        exact (chains.posted partialInvoice (mem_of_getElem? foundPartial) posted).positive.le
      exact lt_of_le_of_lt deducted (sub_pos.mp positive)
    · rw [if_neg isFinal] at positive
      exact positive
  · intro isFinal deduction member
    obtain ⟨partialInvoice, foundPartial, isPartial, posted, gross⟩ := deducts isFinal deduction member
    obtain ⟨later, foundLater, same⟩ := stays _ _ foundPartial posted
    exact ⟨later, foundLater, same.kind.trans isPartial, same.status.trans posted, same.gross.trans gross⟩
  · intro isCredit originalId refers
    have present : invoice.referenceInvoiceId ≠ none := by
      intro absent
      exact nomatch refers.symm.trans absent
    obtain ⟨original, foundOriginal, posted, -⟩ := reference_ok isCredit refers (postable.reference present)
    obtain ⟨later, foundLater, same⟩ := stays _ _ foundOriginal posted
    exact ⟨later, foundLater, same.status.trans posted⟩

theorem credited_unposted (found : db.invoices[originalId]? = some invoice)
    (unposted : invoice.postingStatus ≠ .posted) : creditedGross db originalId = 0 := by
  apply sumWhere_eq_zero
  rintro row member ⟨isCredit, refers, inForce⟩
  obtain ⟨original, foundOriginal, posted⟩ :=
    (chains.posted row member inForce.1).original isCredit originalId refers
  obtain rfl : invoice = original := Option.mem_unique found foundOriginal
  exact absurd posted unposted

theorem booked_credited (found : db.invoices[invoiceId]? = some invoice)
    (unposted : invoice.postingStatus ≠ .posted) (booked : BookedInvoice db.books after entry total)
    (creditorId : AccountId) (originalId : InvoiceId) :
    creditedGross (bookedDb db after invoiceId invoice creditorId) originalId =
      creditedGross db originalId +
        if invoice.kind = .creditNote ∧ invoice.referenceInvoiceId = some originalId then invoice.gross else 0 := by
  have before : sumWhere (Credits after originalId) Invoice.gross db.invoices = creditedGross db originalId := by
    apply sumWhere_congr
    · intro row member
      rw [Credits, Credits, booked_sameForce chains booked member]
    · intro row _ _
      rfl
  have absent : ¬ Credits after originalId invoice := fun credits => not_inForce unposted credits.2.2
  have added : Credits after originalId (bookedRow invoice creditorId db.books.entries.length) ↔
      invoice.kind = .creditNote ∧ invoice.referenceInvoiceId = some originalId := by
    constructor
    · rintro ⟨isCredit, refers, -⟩
      exact ⟨isCredit, refers⟩
    · rintro ⟨isCredit, refers⟩
      exact ⟨isCredit, refers, booked_inForce booked invoice creditorId⟩
  rw [creditedGross, bookedDb, setInvoice, sumWhere_set found, before, if_neg absent, sub_zero]
  simp only [added]
  rfl

theorem Chains.booked (found : db.invoices[invoiceId]? = some invoice)
    (postable : Postable db invoiceId invoice) (amount : expenseAmount db invoice = .ok total)
    (booked : BookedInvoice db.books after entry total) (chained : Chained db (.postInvoice invoiceId principal))
    (creditorId : AccountId) : Chains (bookedDb db after invoiceId invoice creditorId) := by
  obtain ⟨deductsOnce, notIdle⟩ := chained invoice found
  obtain ⟨-, deducts⟩ := expenseAmount_ok amount
  have unposted := postable.notPosted
  have kept := entriesKept_append booked.entries
  have stays := booked_stays found unposted (bookedRow invoice creditorId db.books.entries.length)
  have row := booked_row chains found postable amount booked creditorId
  -- the posted final invoice shares no partial invoice with those in force before
  have apart : ∀ finalId other, FinalInForce db finalId other → invoice.kind = .finalInvoice →
      (deductedIds invoice).Disjoint (deductedIds other) := by
    rintro finalId other ⟨foundOther, otherFinal, inForce⟩ isFinal id member memberOther
    exact ((deductsOnce isFinal).2 id member).2 other (mem_of_getElem? foundOther) otherFinal inForce memberOther
  refine ⟨booked.sound chains.books, ?_, ?_, ?_, ?_, ?_⟩
  · intro posted member isPosted
    rcases mem_or_eq_of_mem_set member with old | rfl
    · exact (chains.posted posted old isPosted).keep kept stays
    · exact row
  · intro finalId other inForce
    rcases booked_finals chains found booked inForce with ⟨-, rfl⟩ | was
    · exact (deductsOnce inForce.2.1).1
    · exact chains.once finalId other was
  · intro finalId otherId one other inForce otherInForce different
    rcases booked_finals chains found booked inForce with ⟨rfl, rfl⟩ | was
    · rcases booked_finals chains found booked otherInForce with ⟨rfl, -⟩ | wasOther
      · exact absurd rfl different
      · exact apart otherId other wasOther inForce.2.1
    · rcases booked_finals chains found booked otherInForce with ⟨rfl, rfl⟩ | wasOther
      · exact (apart finalId one was otherInForce.2.1).symm
      · exact chains.exclusive finalId otherId one other was wasOther different
  · intro finalId other inForce id member partialInvoice foundPartial
    -- what a final invoice deducts was posted and in force before
    have was : ∃ old, db.invoices[id]? = some old ∧ old.postingStatus = .posted ∧ InForce db.books old := by
      obtain ⟨deduction, isDeduction, rfl⟩ := mem_map.mp member
      rcases booked_finals chains found booked inForce with ⟨-, rfl⟩ | was
      · obtain ⟨old, foundOld, -, posted, -⟩ := deducts inForce.2.1 deduction isDeduction
        exact ⟨old, foundOld, posted, ((deductsOnce inForce.2.1).2 _ member).1 old foundOld⟩
      · have otherRow := chains.posted other (mem_of_getElem? was.1) was.2.2.1
        obtain ⟨old, foundOld, -, posted, -⟩ := otherRow.deducts was.2.1 deduction isDeduction
        exact ⟨old, foundOld, posted, chains.inForce finalId other was _ member old foundOld⟩
    obtain ⟨old, foundOld, posted, oldInForce⟩ := was
    obtain ⟨later, foundLater, same⟩ := stays id old foundOld posted
    obtain rfl : partialInvoice = later := Option.mem_unique foundPartial foundLater
    exact same.inForce.mpr (inForce_append booked.entries oldInForce)
  · intro originalId original foundOriginal posted
    rw [booked_credited chains found unposted booked]
    by_cases credits : invoice.kind = .creditNote ∧ invoice.referenceInvoiceId = some originalId
    · obtain ⟨isCredit, refers⟩ := credits
      have present : invoice.referenceInvoiceId ≠ none := by simp [refers]
      obtain ⟨old, foundOld, oldPosted, within⟩ := reference_ok isCredit refers (postable.reference present)
      obtain ⟨later, foundLater, same⟩ := stays originalId old foundOld oldPosted
      obtain rfl : original = later := Option.mem_unique foundOriginal foundLater
      have idle := notIdle isCredit originalId refers
      rw [if_pos ⟨isCredit, refers⟩, same.gross]
      calc creditedGross db originalId + invoice.gross
          ≤ creditedGross db originalId + idleCredits db invoiceId originalId + invoice.gross := by
            gcongr
            exact le_add_of_nonneg_right idle
        _ = otherCredits db invoiceId originalId + invoice.gross := by rw [otherCredits_eq found unposted]
        _ ≤ old.gross := within
    · rw [if_neg credits, add_zero]
      rcases (found_set found).mp foundOriginal with ⟨rfl, rfl⟩ | ⟨-, was⟩
      · rw [credited_unposted chains found unposted]
        exact row.positive.le
      · exact chains.credit originalId original was posted

end

end Post

section Journal

variable {db next : Db} {call : JournalCall}

theorem JournalEffect.unreversed (effect : JournalEffect db next call)
    (linked : db.books.Linked) (after : next.books.Linked) (found : db.books.entries[entryId]? = some entry)
    (unreversed : entry.reversedById = none)
    (other : ∀ ledgerId userId reason given reasonCode today,
      call ≠ .reverseEntry ledgerId entryId userId reason given reasonCode today)
    (foundKept : next.books.entries[entryId]? = some kept) : kept.reversedById = none := by
  cases effect with
  | none call same =>
    rw [same, found] at foundKept
    cases foundKept
    exact unreversed
  | quiet call step =>
    cases reversed : kept.reversedById with
    | none => rfl
    | some reversalId =>
      -- the reversal would be a posting, and those are the ones from before
      obtain ⟨reversal, foundReversal, reverses⟩ := after.reversed foundKept reversed
      have isPosted := (after.reversal foundReversal reverses).1
      have isPosting : reversal ∈ next.books.postings :=
        mem_filter.mpr ⟨mem_of_getElem? foundReversal, decide_eq_true isPosted⟩
      rw [step.postings] at isPosting
      obtain ⟨place, was⟩ := mem_iff_getElem?.mp (mem_filter.mp isPosting).1
      obtain ⟨-, -, origin, foundOrigin, -, -, byReversal, -⟩ := linked.reversal was reverses
      obtain rfl : entry = origin := Option.mem_unique found foundOrigin
      exact nomatch unreversed.symm.trans byReversal
  | post ledgerId place userId draft ledger posting rows posts same =>
    rw [same] at foundKept
    rcases (found_set posts.found).mp foundKept with ⟨rfl, rfl⟩ | ⟨-, was⟩
    · obtain rfl : entry = draft := Option.mem_unique found posts.found
      exact unreversed
    · obtain rfl : entry = kept := Option.mem_unique found was
      exact unreversed
  | reverse ledgerId place userId reason given reasonCode today original ledger reversal posting foundLedger reverses
      same =>
      rw [same] at foundKept
      have apart : entryId ≠ place := by
        rintro rfl
        exact other _ _ _ _ _ _ rfl
      have stays : (db.books.entries.set place { original with reversedById := some db.books.entries.length })[entryId]? =
          some entry := (found_set reverses.found).mpr (Or.inr ⟨apart, found⟩)
      have was : (db.books.entries.set place { original with reversedById := some db.books.entries.length } ++
          [reversal.withPosting posting])[entryId]? = some entry := found_append stays
      obtain rfl : entry = kept := Option.mem_unique was foundKept
      exact unreversed

theorem Chains.journal (chains : Chains db) (accepted : journalStep db call = .ok next)
    (chained : Chained db (.journal call)) : Chains next := by
  have sound := journalStep_sound db call next chains.books accepted
  have effect := journalStep_effect accepted chains.books.linked.draftOpen
  have invoices : next.invoices = db.invoices := by rw [journalStep_frame accepted]
  have kept : EntriesKept db.books next.books := by
    intro id entry found posted
    rcases effect.step with same | step
    · exact ⟨entry, same ▸ found, .refl entry⟩
    · exact step.posted_immutable found posted
  have before : ∀ row ∈ db.invoices, InForce next.books row → InForce db.books row := by
    intro row member inForce
    exact (chains.posted row member inForce.1).wasInForce kept inForce
  have finals : ∀ finalId row, FinalInForce next finalId row → FinalInForce db finalId row := by
    rintro finalId row ⟨found, isFinal, inForce⟩
    rw [invoices] at found
    exact ⟨found, isFinal, before row (mem_of_getElem? found) inForce⟩
  refine ⟨sound, ?_, ?_, ?_, ?_, ?_⟩
  · intro row member posted
    rw [invoices] at member
    refine (chains.posted row member posted).keep kept ?_
    intro id other found _
    exact ⟨other, invoices ▸ found, .refl other⟩
  · intro finalId row inForce
    exact chains.once finalId row (finals finalId row inForce)
  · intro finalId otherId row other inForce otherInForce
    exact chains.exclusive finalId otherId row other (finals finalId row inForce) (finals otherId other otherInForce)
  · intro finalId row inForce id member partialInvoice found
    have was := finals finalId row inForce
    rw [invoices] at found
    obtain ⟨posted, entryId, isEntry, entry, foundEntry, unreversed⟩ :=
      chains.inForce finalId row was id member partialInvoice found
    obtain ⟨otherId, same, isOther, foundSame, isPosted, -⟩ :=
      (chains.posted partialInvoice (mem_of_getElem? found) posted).entry
    obtain rfl : otherId = entryId := Option.mem_unique isOther isEntry
    obtain rfl : entry = same := Option.some.inj ((Option.mem_def.mp foundEntry).symm.trans foundSame)
    obtain ⟨later, foundLater, -⟩ := kept otherId entry foundEntry isPosted
    refine ⟨posted, otherId, isEntry, later, foundLater, ?_⟩
    refine JournalEffect.unreversed effect chains.books.linked sound.linked foundEntry unreversed ?_ foundLater
    rintro ledgerId userId reason given reasonCode today rfl
    exact chained row (mem_of_getElem? was.1) was.2.1 was.2.2 id member partialInvoice found isEntry
  · intro originalId original found posted
    rw [invoices] at found
    refine le_trans ?_ (chains.credit originalId original found posted)
    rw [creditedGross, invoices]
    apply sumWhere_mono
    · rintro row member ⟨isCredit, refers, inForce⟩
      exact ⟨isCredit, refers, before row member inForce⟩
    · intro row member credits
      exact (chains.posted row member credits.2.2.1).positive.le

end Journal

section Runs

variable {db next start : Db}

theorem Chains.step (chains : Chains db) (chained : Chained db call) (accepted : invoiceStep db call = .ok next) :
    Chains next := by
  cases invoiceStep_effect accepted with
  | entered call principal row by' new => exact chains.entered new.unposted
  | changed call invoiceId old new reviews found change => exact chains.changed found change reviews
  | posted invoiceId principal invoice total creditorId books entry found postable amount booked =>
    exact chains.booked found postable amount booked chained creditorId
  | supplier profile stored after => exact chains.refreshed profile.contactId (by rw [after]) (by rw [after])
  | journal call next accepted => exact chains.journal accepted chained
  | settings | property | accounts =>
    apply chains.rows
    · rfl
    · exact fun id old found _ => ⟨old, found, .refl old⟩
    · exact fun id new found _ => ⟨new, found, .refl new⟩
    · exact fun _ => rfl

theorem Chains.initial (fresh : start.books.Fresh) (noInvoices : start.invoices = []) : Chains start := by
  refine ⟨fresh.sound, ?_, ?_, ?_, ?_, ?_⟩
  · simp [noInvoices]
  · rintro finalId invoice ⟨found, -⟩
    simp [noInvoices] at found
  · rintro finalId otherId invoice other ⟨found, -⟩
    simp [noInvoices] at found
  · rintro finalId invoice ⟨found, -⟩
    simp [noInvoices] at found
  · intro originalId original found
    simp [noInvoices] at found

theorem postedCost_eq (row : PostedRow db invoice) (inForce : InForce db.books invoice) :
    postedCost db.books invoice = expense invoice := by
  obtain ⟨entryId, entry, isEntry, found, -, cost⟩ := row.entry
  rw [postedCost, if_pos inForce, isEntry]
  simp only [Option.bind_some, found, Option.map_some, Option.getD_some]
  exact cost

theorem Chains.partials (chains : Chains db) (inForce : FinalInForce db finalId invoice)
    (member : deduction ∈ invoice.deductions) :
    ∃ partialInvoice, db.invoices[deduction.invoiceId]? = some partialInvoice ∧
      partialInvoice.kind = .partialInvoice ∧ InForce db.books partialInvoice ∧
      postedCost db.books partialInvoice = deduction.gross := by
  have row := chains.posted invoice (mem_of_getElem? inForce.1) inForce.2.2.1
  obtain ⟨partialInvoice, found, isPartial, posted, gross⟩ := row.deducts inForce.2.1 deduction member
  have partialInForce :=
    chains.inForce finalId invoice inForce deduction.invoiceId (mem_map_of_mem member) partialInvoice found
  refine ⟨partialInvoice, found, isPartial, partialInForce, ?_⟩
  rw [postedCost_eq (chains.posted partialInvoice (mem_of_getElem? found) posted) partialInForce, expense,
    if_neg (by simp [isPartial]), gross]

theorem Chains.sound (chains : Chains db) : ChainsSound db := by
  refine ⟨chains.once, chains.exclusive, ?_, ?_, ?_⟩
  · intro finalId invoice inForce id member
    obtain ⟨deduction, isDeduction, rfl⟩ := mem_map.mp member
    obtain ⟨partialInvoice, found, isPartial, partialInForce, -⟩ := chains.partials inForce isDeduction
    exact ⟨partialInvoice, found, isPartial, partialInForce⟩
  · intro finalId invoice inForce
    have row := chains.posted invoice (mem_of_getElem? inForce.1) inForce.2.2.1
    have deducted : ((deductedIds invoice).map fun id => ((db.invoices[id]?).map (postedCost db.books)).getD 0) =
        invoice.deductions.map Deduction.gross := by
      rw [deductedIds, map_map]
      apply map_congr_left
      intro deduction member
      obtain ⟨partialInvoice, found, -, -, cost⟩ := chains.partials inForce member
      simp only [Function.comp_apply, found, Option.map_some, Option.getD_some]
      exact cost
    rw [chainCost, (chains.once finalId invoice inForce).dedup, deducted, postedCost_eq row inForce.2.2, expense,
      if_pos inForce.2.1, sub_add_cancel]
  · intro originalId original found inForce
    exact chains.credit originalId original found inForce.1

/-- While each posting deducts partial invoices in force once and no deducted one is reversed, chains are sound. -/
theorem chains_sound (fresh : start.books.Fresh) (noInvoices : start.invoices = []) (calls : List InvoiceCall)
    (chained : Guarded invoiceStep Chained start calls) : ChainsSound (run invoiceStep start calls) := by
  refine Chains.sound (Guarded.invariant ?_ calls chained (Chains.initial fresh noInvoices))
  intro db call next chains holds accepted
  exact chains.step holds accepted

end Runs

end Invoices

/-- The clerk enters a bill, the manager releases it after the review of the auditor, and it is posted. -/
def samplePosted (invoiceId : InvoiceId) (bill : InvoiceIn) : List InvoiceCall :=
  [.createInvoice clerk bill []] ++ sampleRelease invoiceId manager ++ [.postInvoice invoiceId clerk]

def samplePartial : InvoiceIn := { sampleBill "A1" 2380 with kind := .partialInvoice }

def sampleFinal (deductions : List Deduction) (count : deductions.length ≤ 50) : InvoiceIn :=
  { sampleBill "S1" 5950 with kind := .finalInvoice, deductions, deductionCount := count }

def sampleCreditNote (number : String) (gross : Decimal) (originalId : InvoiceId)
    (numberLength : 1 ≤ number.length ∧ number.length ≤ 100) : InvoiceIn :=
  { sampleBill number gross numberLength with kind := .creditNote, referenceInvoiceId := some originalId }

/-- A final invoice over 5950.00 deducts a partial one over 2380.00, then 1000.00 are credited. -/
def sampleChain : List InvoiceCall :=
  samplePosted 0 samplePartial ++ samplePosted 1 (sampleFinal [⟨0, 2380⟩] (by decide)) ++
    samplePosted 2 (sampleCreditNote "G1" 1000 1 (by decide))

theorem sample_chains_sound : Invoices.ChainsSound (run invoiceStep samplePurchasing sampleChain) :=
  Invoices.chains_sound ⟨rfl, rfl, rfl, rfl⟩ rfl sampleChain (by decide +kernel)

def sampleDoubled : List InvoiceCall :=
  samplePosted 0 samplePartial ++ samplePosted 1 (sampleFinal [⟨0, 2380⟩, ⟨0, 2380⟩] (by decide))

/-- The entry of the partial invoice is reversed after its deduction. -/
def sampleUndone : List InvoiceCall :=
  samplePosted 0 samplePartial ++ samplePosted 1 (sampleFinal [⟨0, 2380⟩] (by decide)) ++
    [.journal (.reverseEntry 0 0 1 "falsch gebucht" none .other (.ofYmd 2026 2 1))]

/-- A credit note over a negative amount that is never posted makes room for one over 5000.00. -/
def sampleRoom : List InvoiceCall :=
  samplePosted 0 (sampleBill "R1" 100) ++
    [.createInvoice clerk (sampleCreditNote "G1" (-9000) 0 (by decide)) []] ++
    samplePosted 2 (sampleCreditNote "G2" 5000 0 (by decide))

open Invoices in
/-- A partial invoice deducted twice, one reversed after its deduction, and credits above the invoice. -/
theorem chains_broken :
    ¬ ChainsSound (run invoiceStep samplePurchasing sampleDoubled) ∧
      ¬ ChainsSound (run invoiceStep samplePurchasing sampleUndone) ∧
      ¬ ChainsSound (run invoiceStep samplePurchasing sampleRoom) := by
  refine ⟨?_, ?_, ?_⟩
  · intro sound
    have repeated : ∃ invoice ∈ (run invoiceStep samplePurchasing sampleDoubled).invoices[1]?,
        invoice.kind = .finalInvoice ∧ InForce (run invoiceStep samplePurchasing sampleDoubled).books invoice ∧
          ¬ (deductedIds invoice).Nodup := by decide +kernel
    obtain ⟨invoice, found, isFinal, inForce, twice⟩ := repeated
    exact twice (sound.once 1 invoice ⟨found, isFinal, inForce⟩)
  · intro sound
    have undone : ∃ invoice ∈ (run invoiceStep samplePurchasing sampleUndone).invoices[1]?,
        invoice.kind = .finalInvoice ∧ InForce (run invoiceStep samplePurchasing sampleUndone).books invoice ∧
          0 ∈ deductedIds invoice ∧ ∃ partialInvoice ∈ (run invoiceStep samplePurchasing sampleUndone).invoices[0]?,
            ¬ InForce (run invoiceStep samplePurchasing sampleUndone).books partialInvoice := by decide +kernel
    obtain ⟨invoice, found, isFinal, inForce, deducted, partialInvoice, foundPartial, reversed⟩ := undone
    obtain ⟨same, foundSame, -, stillInForce⟩ := sound.inForce 1 invoice ⟨found, isFinal, inForce⟩ 0 deducted
    obtain rfl : partialInvoice = same := Option.some.inj ((Option.mem_def.mp foundPartial).symm.trans foundSame)
    exact reversed stillInForce
  · intro sound
    have exceeded : ∃ original ∈ (run invoiceStep samplePurchasing sampleRoom).invoices[0]?,
        InForce (run invoiceStep samplePurchasing sampleRoom).books original ∧
          original.gross < creditedGross (run invoiceStep samplePurchasing sampleRoom) 0 := by decide +kernel
    obtain ⟨original, found, inForce, more⟩ := exceeded
    exact absurd (sound.credit 0 original found inForce) (not_le.mpr more)

end Mhvp.Accounting
