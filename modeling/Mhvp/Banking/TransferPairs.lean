import Mhvp.Banking.Imports

namespace Mhvp.Banking.Imports

open Core Accounting Lib.Calendar Lib.Pairing Lib.Transition List

/-- The two sides of a transfer. -/
structure Opposite (row other : BankTransaction) : Prop where
  amount : other.amount = -row.amount
  entity : other.legalEntityId = row.legalEntityId
  account : other.propertyBankAccountId ≠ row.propertyBankAccountId
  window : withinWindow row.bookingDate other.bookingDate

theorem Opposite.symm (opposite : Opposite row other) : Opposite other row where
  amount := by rw [opposite.amount, neg_neg]
  entity := opposite.entity.symm
  account := opposite.account.symm
  window := opposite.window.symm

/-- A movement belongs to the legal entity of its account. -/
def OfAccount (accounts : List PropertyBankAccount) (row : BankTransaction) : Prop :=
  ∃ account ∈ accounts[row.propertyBankAccountId]?, account.legalEntityId = row.legalEntityId

instance (accounts : List PropertyBankAccount) (row : BankTransaction) : Decidable (OfAccount accounts row) := by unfold OfAccount; infer_instance

/-- The stored movements and their pairs. -/
structure Paired (accounts : List PropertyBankAccount) (rows : List BankTransaction) : Prop where
  ofAccount : ∀ row ∈ rows, OfAccount accounts row
  matching : Matching BankTransaction.transferPairId Opposite rows

section Stored

variable {accounts : List PropertyBankAccount} {account : PropertyBankAccount} {rows later : List BankTransaction}

/-- Who is chosen as partner of a movement. -/
structure Candidate (accounts : List PropertyBankAccount) (tx : BankTransaction) (row : BankTransaction) : Prop where
  free : row.transferPairId = none
  amount : row.amount = -tx.amount
  account : row.propertyBankAccountId ≠ tx.propertyBankAccountId
  entity : ∃ other ∈ accounts[row.propertyBankAccountId]?, other.legalEntityId = tx.legalEntityId
  window : withinWindow row.bookingDate tx.bookingDate

theorem otherAccount_ok (chosen : otherAccount accounts tx = some accountId) :
    accountId ≠ tx.propertyBankAccountId ∧
      ∃ other ∈ accounts[accountId]?, other.legalEntityId = tx.legalEntityId := by
  unfold otherAccount at chosen
  split at chosen
  · cases chosen
  · rename_i iban _
    obtain ⟨⟨other, place⟩, found, rfl⟩ := Option.map_eq_some_iff.mp chosen
    have fits := List.find?_some found
    obtain ⟨-, entity, apart⟩ := of_decide_eq_true fits
    exact ⟨apart, other, mk_mem_zipIdx_iff_getElem?.mp (mem_of_find?_eq_some found), entity⟩

theorem transferPartner_ok (chosen : transferPartner accounts rows tx = some partner) :
    ∃ row, rows[partner]? = some row ∧ Candidate accounts tx row := by
  unfold transferPartner at chosen
  split at chosen
  · rename_i otherId own isOther _
    obtain ⟨⟨row, place⟩, isFirst, rfl⟩ := Option.map_eq_some_iff.mp chosen
    have member := mem_of_mem_head? (Option.mem_def.mpr isFirst)
    rw [mem_insertionSort, mem_filter] at member
    obtain ⟨isRow, fits⟩ := member
    obtain ⟨isAccount, amount, free, -, window⟩ := of_decide_eq_true fits
    obtain ⟨apart, entity⟩ := otherAccount_ok isOther
    refine ⟨row, mk_mem_zipIdx_iff_getElem?.mp isRow, free, amount, ?_, ?_, window⟩
    · rw [isAccount]
      exact apart
    · rw [isAccount]
      exact entity
  · cases chosen

theorem OfAccount.relinked (ofAccount : OfAccount accounts row) :
    OfAccount accounts { row with transferPairId := link } := ofAccount

theorem pairTransfer_paired (paired : Paired accounts rows) (ofAccount : OfAccount accounts tx)
    (free : tx.transferPairId = none) : Paired accounts (pairTransfer accounts rows tx) := by
  unfold pairTransfer
  split
  · constructor
    · intro row member
      rcases mem_append.mp member with old | new
      · exact paired.ofAccount row old
      · obtain rfl := mem_singleton.mp new
        exact ofAccount
    · exact paired.matching.append free
  · rename_i partner chosen
    obtain ⟨row, found, candidate⟩ := transferPartner_ok chosen
    constructor
    · intro other member
      rcases mem_append.mp member with old | new
      · obtain ⟨place, isRow⟩ := mem_iff_getElem?.mp old
        rw [List.getElem?_modify, Option.map_eq_map, Option.map_eq_some_iff] at isRow
        obtain ⟨before, foundBefore, rfl⟩ := isRow
        have known := paired.ofAccount before (mem_of_getElem? foundBefore)
        split
        · exact known.relinked
        · exact known
      · obtain rfl := mem_singleton.mp new
        exact ofAccount.relinked
    · have opposite : Opposite tx row := by
        obtain ⟨own, isOwn, entity⟩ := paired.ofAccount row (mem_of_getElem? found)
        obtain ⟨same, isSame, sameEntity⟩ := candidate.entity
        obtain rfl := Option.some.inj ((Option.mem_def.mp isOwn).symm.trans (Option.mem_def.mp isSame))
        exact ⟨candidate.amount, entity.symm.trans sameEntity, candidate.account, candidate.window.symm⟩
      refine paired.matching.join found candidate.free rfl rfl ?_ ?_
      · exact ⟨opposite.symm.amount, opposite.symm.entity, opposite.symm.account, opposite.symm.window⟩
      · exact ⟨opposite.amount, opposite.entity, opposite.account, opposite.window⟩

theorem storeTransaction_paired (isAccount : accounts[accountId]? = some account)
    (paired : Paired accounts rows) (accepted : storeTransaction accounts accountId account rows tx = .ok later) :
    Paired accounts later := by
  unfold storeTransaction at accepted
  split at accepted
  · obtain rfl := pure_ok.mp accepted
    exact paired
  · simp only [bind_ok, exists_unit, require_ok, pure_ok] at accepted
    obtain ⟨-, rfl⟩ := accepted
    exact pairTransfer_paired paired ⟨account, isAccount, rfl⟩ rfl

theorem storeTransactions_paired (isAccount : accounts[accountId]? = some account)
    (paired : Paired accounts rows)
    (accepted : storeTransactions accounts accountId account rows transactions = .ok later) :
    Paired accounts later := by
  induction transactions generalizing rows with
  | nil =>
    obtain rfl := pure_ok.mp accepted
    exact paired
  | cons tx rest ih =>
    simp only [storeTransactions, bind_ok] at accepted
    obtain ⟨between, first, accepted⟩ := accepted
    exact ih (storeTransaction_paired isAccount paired first) accepted

theorem importStatements_paired (paired : Paired db.bankAccounts rows)
    (accepted : importStatements db rows statements = .ok later) : Paired db.bankAccounts later := by
  induction statements generalizing rows with
  | nil =>
    obtain rfl := pure_ok.mp accepted
    exact paired
  | cons statement rest ih =>
    simp only [importStatements, bind_ok, orRefuse_ok] at accepted
    obtain ⟨accountId, -, account, isAccount, between, first, accepted⟩ := accepted
    exact ih (storeTransactions_paired isAccount paired first) accepted

end Stored

/-- The request imports movements. -/
def ImportRequest.imports : ImportRequest → Bool
  | .elsewhere _ => false
  | _ => true

def BanksPaired (db : Db) : Prop := Paired db.bankAccounts db.bankTransactions

theorem importFile_paired (paired : BanksPaired db) (accepted : importFile db file = .ok rows) :
    Paired db.bankAccounts rows := importStatements_paired paired accepted

theorem importStep_paired {next} (paired : BanksPaired db) (imports : request.imports = true)
    (accepted : importStep db request = .ok next) : BanksPaired next := by
  cases request with
  | importFile file =>
    simp only [importStep, bind_ok, pure_ok] at accepted
    obtain ⟨rows, imported, rfl⟩ := accepted
    have after : Paired db.bankAccounts rows := importFile_paired paired imported
    exact after
  | importCsv upload =>
    simp only [importStep, bind_ok, pure_ok] at accepted
    obtain ⟨file, -, rows, imported, rfl⟩ := accepted
    have after : Paired db.bankAccounts rows := importFile_paired paired imported
    exact after
  | importFetched accountId transactions =>
    simp only [importStep, importFetched, bind_ok, orRefuse_ok, pure_ok] at accepted
    obtain ⟨rows, ⟨account, isAccount, imported⟩, rfl⟩ := accepted
    exact storeTransactions_paired isAccount paired imported
  | elsewhere tables => cases imports

/-- Movements before any pairing, each of the legal entity of its account. -/
def Unpaired (db : Db) : Prop :=
  ∀ row ∈ db.bankTransactions, row.transferPairId = none ∧ OfAccount db.bankAccounts row

instance (db : Db) : Decidable (Unpaired db) := by unfold Unpaired; infer_instance

/-- The movement points at another one that points back, with the opposite amount, on another account of the same
legal entity, at most five days apart; no third movement points at it. -/
def PartnerFits (db : Db) (txId partner : BankTransactionId) (row : BankTransaction) : Prop :=
  partner ≠ txId ∧
    (∃ other ∈ db.bankTransactions[partner]?, other.transferPairId = some txId ∧ other.amount = -row.amount ∧
      other.propertyBankAccountId ≠ row.propertyBankAccountId ∧
      (∃ own ∈ db.bankAccounts[row.propertyBankAccountId]?,
        ∃ foreign ∈ db.bankAccounts[other.propertyBankAccountId]?, foreign.legalEntityId = own.legalEntityId) ∧
      row.bookingDate.ordinal ≤ other.bookingDate.ordinal + 5 ∧
      other.bookingDate.ordinal ≤ row.bookingDate.ordinal + 5) ∧
    ∀ (third : BankTransactionId) (thirdRow : BankTransaction), db.bankTransactions[third]? = some thirdRow →
      thirdRow.transferPairId = some partner → third = txId

theorem BanksPaired.fits (paired : BanksPaired db)
    (found : db.bankTransactions[txId]? = some row) (linked : row.transferPairId = some partner) :
    PartnerFits db txId partner row := by
  obtain ⟨apart, other, foundOther, back, opposite⟩ := paired.matching.returned found linked
  obtain ⟨own, isOwn, ownEntity⟩ := paired.ofAccount row (mem_of_getElem? found)
  obtain ⟨foreign, isForeign, foreignEntity⟩ := paired.ofAccount other (mem_of_getElem? foundOther)
  have sameEntity : foreign.legalEntityId = own.legalEntityId := by
    rw [foreignEntity, opposite.entity, ownEntity]
  refine ⟨apart, ⟨other, foundOther, back, opposite.amount, opposite.account, ⟨own, isOwn, foreign, isForeign,
    sameEntity⟩, opposite.window.1, opposite.window.2⟩, ?_⟩
  intro third thirdRow foundThird linkedThird
  exact paired.matching.unique foundThird found linkedThird linked

/-- In every order of imports the pairs are a matching of transfers between own accounts. -/
theorem transfer_pairs_match {db : Db} (unpaired : Unpaired db) (requests : List ImportRequest)
    (imports : ∀ request ∈ requests, request.imports = true) (txId partner : BankTransactionId)
    (row : BankTransaction) (found : (run importStep db requests).bankTransactions[txId]? = some row)
    (linked : row.transferPairId = some partner) : PartnerFits (run importStep db requests) txId partner row := by
  have start : BanksPaired db := by
    constructor
    · exact fun row member => (unpaired row member).2
    · exact .unlinked fun row member => (unpaired row member).1
  have paired : BanksPaired (run importStep db requests) := by
    clear found unpaired
    induction requests generalizing db with
    | nil => exact start
    | cons request rest ih =>
      rw [run_cons]
      apply ih fun other member => imports other (mem_cons_of_mem _ member)
      rcases commit_cases importStep db request with same | accepted
      · rw [same]
        exact start
      · exact importStep_paired start (imports request mem_cons_self) accepted
  exact paired.fits found linked

def ownAccounts : Db where
  books := {}
  bankAccounts := [{ legalEntityId := 0, iban := "DE02120300000000202051", holder := "WEG" },
    { legalEntityId := 0, iban := "DE02500105170137075030", holder := "WEG Rücklage" }]

def sampleMovement (reference : String) (bookingDate : Date) (amount : Decimal) (iban : String) : RawTransaction where
  bankReference := some reference
  bookingDate := bookingDate
  valueDate := none
  amount := amount
  currency := "EUR"
  counterpartName := none
  counterpartIban := some iban
  counterpartBic := none
  purpose := none
  endToEndId := none
  mandateReference := none
  creditorId := none

def transferOut : ImportRequest :=
  .importFetched 0 [sampleMovement "A1" (.ofYmd 2026 2 3) (-500) "DE02500105170137075030"]

def transferIn : ImportRequest :=
  .importFetched 1 [sampleMovement "B1" (.ofYmd 2026 2 5) 500 "DE02120300000000202051"]

theorem sample_transfer_pair : ∃ row,
    (run importStep ownAccounts [transferOut, transferIn]).bankTransactions[1]? = some row ∧
      PartnerFits (run importStep ownAccounts [transferOut, transferIn]) 1 0 row := by
  have paired : (run importStep ownAccounts [transferOut, transferIn]).bankTransactions[1]?.bind
      BankTransaction.transferPairId = some 0 := by decide +kernel
  obtain ⟨row, found, linked⟩ := Option.bind_eq_some_iff.mp paired
  have unpaired : Unpaired ownAccounts := by decide
  have imports : ∀ request ∈ [transferOut, transferIn], request.imports = true := by
    intro request member
    simp only [mem_cons, not_mem_nil, or_false] at member
    rcases member with rfl | rfl <;> rfl
  exact ⟨row, found, transfer_pairs_match unpaired _ imports 1 0 row found linked⟩

end Mhvp.Banking.Imports
