import Mhvp.Banking.Imports

namespace Mhvp.Banking.Imports

open Core Accounting Lib.Table Lib.Transition List

/-- Reference under which a statement is stored. -/
def refOf (run : SyncRunId) (statement : RawStatement) : StatementRef :=
  if statement.statementRef = "" then .ofRun run else .given statement.statementRef

def knownStatement (statements : List BankStatement) (accountId : BankAccountId) (ref : StatementRef) : Bool :=
  statements.any fun row => row.propertyBankAccountId = accountId ∧ row.statementRef = ref

/-- The statements after one of the file; the index of references is unique per account. -/
def storeStatement (run : SyncRunId) (statements : List BankStatement) (accountId : BankAccountId)
    (statement : RawStatement) : Result (List BankStatement) :=
  let ref := refOf run statement
  if statement.statementRef ≠ "" ∧ knownStatement statements accountId ref then pure statements
  else do
    require (knownStatement statements accountId ref = false) .databaseRefused
    pure (statements ++ [{ propertyBankAccountId := accountId, statementRef := ref }])

/-- Statements and movements of a file, in its order. -/
def importParts (db : Db) (run : SyncRunId) (statements : List BankStatement) (rows : List BankTransaction) :
    List RawStatement → Result (List BankStatement × List BankTransaction)
  | [] => pure (statements, rows)
  | statement :: rest => do
      let suffix := lastFour statement.iban
      let accountId ← orRefuse (accountOf db statement.iban) .validation
        (some (s!"Konto mit IBAN endend auf {suffix} ist keinem Rechtsträger zugeordnet."))
      let account ← orRefuse db.bankAccounts[accountId]? .resourceNotFound
      let withStatement ← storeStatement run statements accountId statement
      let later ← storeTransactions db.bankAccounts accountId account rows statement.transactions
      importParts db run withStatement later rest

/-- One import run of a file. -/
def importRun (run : SyncRunId) (db : Db) (file : ParsedFile) : Result Db := do
  let (bankStatements, bankTransactions) ← importParts db run db.bankStatements db.bankTransactions file.statements
  pure { db with bankStatements, bankTransactions }

section Stored

variable {accounts : List PropertyBankAccount} {account : PropertyBankAccount} {rows later : List BankTransaction}
  {statements next : List BankStatement}

/-- Columns of a row that a trigger of the database freezes, as far as the duplicate test reads them. -/
structure Frozen (row later : BankTransaction) : Prop where
  account : later.propertyBankAccountId = row.propertyBankAccountId
  reference : later.bankReference = row.bankReference
  hash : later.hash = row.hash

theorem Frozen.refl (row : BankTransaction) : Frozen row row := ⟨rfl, rfl, rfl⟩

/-- The rows are still there. -/
def KeptRows (rows later : List BankTransaction) : Prop := ∀ (id : BankTransactionId) (row : BankTransaction),
  rows[id]? = some row → ∃ kept, later[id]? = some kept ∧ Frozen row kept

theorem KeptRows.refl (rows : List BankTransaction) : KeptRows rows rows := fun _ row found => ⟨row, found, .refl row⟩

theorem KeptRows.trans (early : KeptRows rows between) (late : KeptRows between later) : KeptRows rows later := by
  intro id row found
  obtain ⟨kept, foundKept, frozen⟩ := early id row found
  obtain ⟨last, foundLast, frozenLast⟩ := late id kept foundKept
  exact ⟨last, foundLast, frozenLast.account.trans frozen.account, frozenLast.reference.trans frozen.reference,
    frozenLast.hash.trans frozen.hash⟩

theorem KeptRows.stored (kept : KeptRows rows later) (isStored : stored rows accountId reference = true) :
    stored later accountId reference = true := by
  obtain ⟨row, member, isAccount, isReference⟩ := stored_iff.mp isStored
  obtain ⟨id, found⟩ := mem_iff_getElem?.mp member
  obtain ⟨last, foundLast, frozen⟩ := kept id row found
  exact stored_iff.mpr ⟨last, mem_of_getElem? foundLast, frozen.account.trans isAccount,
    frozen.reference.trans isReference⟩

/-- Some row of the account has the contents. -/
def HashStored (rows : List BankTransaction) (accountId : BankAccountId) (hash : ContentHash) : Prop :=
  ∃ row ∈ rows, row.propertyBankAccountId = accountId ∧ row.hash = hash

theorem KeptRows.hashStored (kept : KeptRows rows later) (isStored : HashStored rows accountId contents) :
    HashStored later accountId contents := by
  obtain ⟨row, member, isAccount, isHash⟩ := isStored
  obtain ⟨id, found⟩ := mem_iff_getElem?.mp member
  obtain ⟨last, foundLast, frozen⟩ := kept id row found
  exact ⟨last, mem_of_getElem? foundLast, frozen.account.trans isAccount, frozen.hash.trans isHash⟩

/-- An import of the movement meets it again. -/
def Met (rows : List BankTransaction) (accountId : BankAccountId) (account : PropertyBankAccount)
    (tx : RawTransaction) : Prop :=
  match tx.bankReference with
  | none => HashStored rows accountId (contentHash account tx)
  | some reference => stored rows accountId reference = true

theorem KeptRows.met (kept : KeptRows rows later) (met : Met rows accountId account tx) :
    Met later accountId account tx := by
  unfold Met at met ⊢
  cases isReference : tx.bankReference with
  | none =>
    rw [isReference] at met
    exact kept.hashStored met
  | some reference =>
    rw [isReference] at met
    exact kept.stored met

/-- What a stored movement adds: rows keep all but their pair, and the new row is the last one. -/
structure Appended (rows later : List BankTransaction) (added : BankTransaction) : Prop where
  old : ∀ (id : BankTransactionId) (row : BankTransaction), rows[id]? = some row →
    ∃ link, later[id]? = some { row with transferPairId := link }
  new : ∃ link, later[rows.length]? = some { added with transferPairId := link }
  length : later.length = rows.length + 1

theorem pairTransfer_appended (accounts : List PropertyBankAccount) (rows : List BankTransaction)
    (added : BankTransaction) : Appended rows (pairTransfer accounts rows added) added := by
  unfold pairTransfer
  split
  · constructor
    · exact fun id row found => ⟨row.transferPairId, found_append found⟩
    · exact ⟨added.transferPairId, found_append_one.mpr (Or.inr ⟨rfl, rfl⟩)⟩
    · simp
  · rename_i partner _
    constructor
    · intro id row found
      by_cases isPartner : partner = id
      · subst isPartner
        refine ⟨some rows.length, found_append ?_⟩
        rw [List.getElem?_modify_eq, found]
        rfl
      · refine ⟨row.transferPairId, found_append ?_⟩
        rw [List.getElem?_modify_ne _ _ isPartner, found]
    · exact ⟨some partner, found_append_one.mpr (Or.inr ⟨(length_modify ..).symm, rfl⟩)⟩
    · simp

theorem Appended.kept (appended : Appended rows later added) : KeptRows rows later := by
  intro id row found
  obtain ⟨link, isLater⟩ := appended.old id row found
  exact ⟨_, isLater, rfl, rfl, rfl⟩

section

variable (accepted : storeTransaction accounts accountId account rows tx = .ok later)
include accepted

theorem storeTransaction_cases :
    ((∃ reference ∈ tx.bankReference, reference ≠ "" ∧ stored rows accountId reference = true) ∧ later = rows) ∨
      (∀ reference ∈ tx.bankReference, stored rows accountId reference = false) ∧
        ∃ same, Appended rows later (bankTransaction accountId account tx same) ∧
          (HashStored rows accountId (contentHash account tx) → same.isSome = true) := by
  unfold storeTransaction at accepted
  split at accepted
  · rename_i known
    exact Or.inl ⟨known, (pure_ok.mp accepted).symm⟩
  · simp only [bind_ok, exists_unit, require_ok, pure_ok] at accepted
    obtain ⟨unknown, rfl⟩ := accepted
    refine Or.inr ⟨unknown, _, pairTransfer_appended .., ?_⟩
    rintro ⟨row, member, isAccount, isHash⟩
    rw [List.findIdx?_isSome, any_eq_true]
    exact ⟨row, member, decide_eq_true ⟨isAccount, isHash⟩⟩

theorem storeTransaction_met :
    KeptRows rows later ∧ Met later accountId account tx := by
  rcases storeTransaction_cases accepted with ⟨⟨reference, isReference, -, isStored⟩, rfl⟩ | ⟨-, same, appended, -⟩
  · refine ⟨.refl _, ?_⟩
    rw [Met, Option.mem_def.mp isReference]
    exact isStored
  · obtain ⟨link, isNew⟩ := appended.new
    refine ⟨appended.kept, ?_⟩
    unfold Met
    cases isReference : tx.bankReference with
    | none => exact ⟨_, mem_of_getElem? isNew, rfl, rfl⟩
    | some reference => exact stored_iff.mpr ⟨_, mem_of_getElem? isNew, rfl, isReference⟩

end

theorem storeTransactions_met (accepted : storeTransactions accounts accountId account rows transactions = .ok later) :
    KeptRows rows later ∧ ∀ tx ∈ transactions, Met later accountId account tx := by
  induction transactions generalizing rows with
  | nil =>
    obtain rfl := pure_ok.mp accepted
    exact ⟨.refl _, by simp⟩
  | cons tx rest ih =>
    simp only [storeTransactions, bind_ok] at accepted
    obtain ⟨between, first, accepted⟩ := accepted
    obtain ⟨keptFirst, metFirst⟩ := storeTransaction_met first
    obtain ⟨keptRest, metRest⟩ := ih accepted
    exact ⟨keptFirst.trans keptRest, forall_mem_cons.mpr ⟨keptRest.met metFirst, metRest⟩⟩

/-- Rows of an import that only met known movements: old rows keep their status, new ones go to review. -/
structure Reviewed (rows later : List BankTransaction) : Prop where
  old : ∀ (id : BankTransactionId) (row : BankTransaction), rows[id]? = some row →
    ∃ kept, later[id]? = some kept ∧ Frozen row kept ∧ kept.status = row.status
  new : ∀ (id : BankTransactionId) (row : BankTransaction), later[id]? = some row → rows.length ≤ id →
    row.bankReference = none ∧ row.status = .needsReview
  length : rows.length ≤ later.length

theorem Reviewed.refl (rows : List BankTransaction) : Reviewed rows rows where
  old := fun _ row found => ⟨row, found, .refl row, rfl⟩
  new := fun _ _ found beyond => absurd (found_lt found) (Nat.not_lt.mpr beyond)
  length := le_rfl

theorem Reviewed.kept (reviewed : Reviewed rows later) : KeptRows rows later := by
  intro id row found
  obtain ⟨kept, isKept, frozen, -⟩ := reviewed.old id row found
  exact ⟨kept, isKept, frozen⟩

theorem Reviewed.trans (early : Reviewed rows between) (late : Reviewed between later) : Reviewed rows later where
  old := by
    intro id row found
    obtain ⟨kept, isKept, frozen, status⟩ := early.old id row found
    obtain ⟨last, isLast, frozenLast, statusLast⟩ := late.old id kept isKept
    exact ⟨last, isLast, ⟨frozenLast.account.trans frozen.account, frozenLast.reference.trans frozen.reference,
      frozenLast.hash.trans frozen.hash⟩, statusLast.trans status⟩
  new := by
    intro id row found beyond
    by_cases inBetween : id < between.length
    · obtain ⟨kept, isKept⟩ : ∃ kept, between[id]? = some kept := ⟨_, List.getElem?_eq_getElem inBetween⟩
      obtain ⟨last, isLast, frozen, status⟩ := late.old id kept isKept
      obtain rfl := Option.mem_unique found isLast
      obtain ⟨noReference, review⟩ := early.new id kept isKept beyond
      exact ⟨frozen.reference.trans noReference, status.trans review⟩
    · exact late.new id row found (Nat.not_lt.mp inBetween)
  length := early.length.trans late.length

theorem storeTransaction_reviewed (met : Met rows accountId account tx)
    (accepted : storeTransaction accounts accountId account rows tx = .ok later) : Reviewed rows later := by
  rcases storeTransaction_cases accepted with ⟨-, rfl⟩ | ⟨unknown, same, appended, found⟩
  · exact .refl _
  · have noReference : tx.bankReference = none := by
      cases isReference : tx.bankReference with
      | none => rfl
      | some reference =>
        rw [Met, isReference] at met
        have isStored : stored rows accountId reference = true := met
        rw [unknown reference isReference] at isStored
        cases isStored
    rw [Met, noReference] at met
    have isSame := found met
    constructor
    · intro id row isRow
      obtain ⟨link, isLater⟩ := appended.old id row isRow
      exact ⟨_, isLater, ⟨rfl, rfl, rfl⟩, rfl⟩
    · intro id row isRow beyond
      have last : id = rows.length := by
        have before := found_lt isRow
        rw [appended.length] at before
        exact Nat.le_antisymm (Nat.lt_succ_iff.mp before) beyond
      subst last
      obtain ⟨link, isNew⟩ := appended.new
      obtain rfl := Option.mem_unique isRow isNew
      refine ⟨noReference, ?_⟩
      simp [bankTransaction, isSame, noReference]
    · rw [appended.length]
      exact Nat.le_succ _

theorem storeTransactions_reviewed (met : ∀ tx ∈ transactions, Met rows accountId account tx)
    (accepted : storeTransactions accounts accountId account rows transactions = .ok later) : Reviewed rows later := by
  induction transactions generalizing rows with
  | nil =>
    obtain rfl := pure_ok.mp accepted
    exact .refl _
  | cons tx rest ih =>
    simp only [storeTransactions, bind_ok] at accepted
    obtain ⟨between, first, accepted⟩ := accepted
    have reviewed := storeTransaction_reviewed (met tx mem_cons_self) first
    refine reviewed.trans (ih ?_ accepted)
    intro other member
    exact reviewed.kept.met (met other (mem_cons_of_mem _ member))

theorem storeTransaction_accepted (filled : tx.bankReference ≠ some "") :
    ∃ later, storeTransaction accounts accountId account rows tx = .ok later := by
  unfold storeTransaction
  split
  · exact ⟨rows, rfl⟩
  · rename_i unknown
    refine ⟨_, bind_ok.mpr ⟨(), require_ok.mpr ?_, rfl⟩⟩
    intro reference isReference
    rw [Bool.eq_false_iff]
    intro isStored
    apply unknown
    refine ⟨reference, isReference, ?_, isStored⟩
    rintro rfl
    exact filled isReference

theorem storeTransactions_accepted (filled : ∀ tx ∈ transactions, tx.bankReference ≠ some "") :
    ∃ later, storeTransactions accounts accountId account rows transactions = .ok later := by
  induction transactions generalizing rows with
  | nil => exact ⟨rows, rfl⟩
  | cons tx rest ih =>
    obtain ⟨between, first⟩ : ∃ between, storeTransaction accounts accountId account rows tx = .ok between :=
      storeTransaction_accepted (filled tx mem_cons_self)
    obtain ⟨later, others⟩ : ∃ later, storeTransactions accounts accountId account between rest = .ok later :=
      ih fun other member => filled other (mem_cons_of_mem _ member)
    refine ⟨later, ?_⟩
    simp only [storeTransactions, bind_ok]
    exact ⟨between, first, others⟩

theorem storeTransactions_refused
    (member : tx ∈ transactions) (empty : tx.bankReference = some "") (isStored : stored rows accountId "" = true)
    (accepted : storeTransactions accounts accountId account rows transactions = .ok later) : False := by
  induction transactions generalizing rows with
  | nil => cases member
  | cons first rest ih =>
    simp only [storeTransactions, bind_ok] at accepted
    obtain ⟨between, isFirst, accepted⟩ := accepted
    rcases mem_cons.mp member with rfl | inRest
    · rcases storeTransaction_cases isFirst with ⟨⟨reference, isReference, filled, -⟩, -⟩ | ⟨unknown, -⟩
      · rw [empty] at isReference
        exact filled (Option.some.inj (Option.mem_def.mp isReference)).symm
      · rw [unknown "" empty] at isStored
        cases isStored
    · exact ih inRest ((storeTransaction_met isFirst).1.stored isStored) accepted

end Stored

section Files

variable {db : Db} {run : SyncRunId} {rows later : List BankTransaction} {statements next : List BankStatement}
  {file : List RawStatement} {statement : RawStatement}

theorem knownStatement_iff : knownStatement statements accountId ref = true ↔
    ∃ row ∈ statements, row.propertyBankAccountId = accountId ∧ row.statementRef = ref := by
  simp [knownStatement]

theorem knownStatement_mono (kept : ∀ row ∈ statements, row ∈ next)
    (known : knownStatement statements accountId ref = true) : knownStatement next accountId ref = true := by
  obtain ⟨row, member, same⟩ := knownStatement_iff.mp known
  exact knownStatement_iff.mpr ⟨row, kept row member, same⟩

section

variable (accepted : storeStatement run statements accountId statement = .ok next)
include accepted

theorem storeStatement_cases :
    (statement.statementRef ≠ "" ∧ knownStatement statements accountId (refOf run statement) = true ∧
        next = statements) ∨
      knownStatement statements accountId (refOf run statement) = false ∧
        next = statements ++ [{ propertyBankAccountId := accountId, statementRef := refOf run statement }] := by
  unfold storeStatement at accepted
  dsimp only at accepted
  split at accepted
  · rename_i known
    exact Or.inl ⟨known.1, known.2, (pure_ok.mp accepted).symm⟩
  · simp only [bind_ok, exists_unit, require_ok, pure_ok] at accepted
    exact Or.inr ⟨accepted.1, accepted.2.symm⟩

theorem storeStatement_kept :
    (∀ row ∈ statements, row ∈ next) ∧ knownStatement next accountId (refOf run statement) = true := by
  rcases storeStatement_cases accepted with ⟨-, known, rfl⟩ | ⟨-, rfl⟩
  · exact ⟨fun _ member => member, known⟩
  · constructor
    · exact fun _ member => mem_append_left _ member
    · exact knownStatement_iff.mpr ⟨_, mem_append_right _ (mem_singleton_self _), rfl, rfl⟩

end

theorem refOf_named (named : statement.statementRef ≠ "") : refOf run statement = .given statement.statementRef :=
  if_neg named

theorem refOf_unnamed (unnamed : statement.statementRef = "") : refOf run statement = .ofRun run := if_pos unnamed

/-- An import of the statement meets it and its movements again. -/
structure StatementMet (db : Db) (statements : List BankStatement) (rows : List BankTransaction)
    (statement : RawStatement) : Prop where
  met : ∃ accountId account, accountOf db statement.iban = some accountId ∧
    db.bankAccounts[accountId]? = some account ∧
    (statement.statementRef ≠ "" → knownStatement statements accountId (.given statement.statementRef) = true) ∧
    ∀ tx ∈ statement.transactions, Met rows accountId account tx

theorem StatementMet.mono (known : StatementMet db statements rows statement) (kept : ∀ row ∈ statements, row ∈ next)
    (keptRows : KeptRows rows later) : StatementMet db next later statement := by
  obtain ⟨accountId, account, isId, isAccount, named, met⟩ := known
  refine ⟨accountId, account, isId, isAccount, ?_, ?_⟩
  · exact fun filled => knownStatement_mono kept (named filled)
  · exact fun tx member => keptRows.met (met tx member)

theorem importParts_met (accepted : importParts db run statements rows file = .ok (next, later)) :
    (∀ row ∈ statements, row ∈ next) ∧ KeptRows rows later ∧
      ∀ statement ∈ file, StatementMet db next later statement := by
  induction file generalizing statements rows with
  | nil =>
    obtain ⟨rfl, rfl⟩ := Prod.mk.inj (pure_ok.mp accepted)
    exact ⟨fun _ member => member, .refl _, by simp⟩
  | cons statement rest ih =>
    simp only [importParts, bind_ok, orRefuse_ok] at accepted
    obtain ⟨accountId, isId, account, isAccount, between, storedStatement, middle, storedRows, accepted⟩ := accepted
    obtain ⟨kept, known⟩ := storeStatement_kept storedStatement
    obtain ⟨keptRows, met⟩ := storeTransactions_met storedRows
    obtain ⟨keptRest, keptRowsRest, metRest⟩ := ih accepted
    refine ⟨fun row member => keptRest row (kept row member), keptRows.trans keptRowsRest,
      forall_mem_cons.mpr ⟨?_, metRest⟩⟩
    have here : StatementMet db between middle statement := by
      refine ⟨accountId, account, isId, isAccount, ?_, met⟩
      intro filled
      rw [refOf_named filled] at known
      exact known
    exact here.mono keptRest keptRowsRest

/-- Accounts of the statements without reference. -/
def unnamedAccounts (db : Db) (file : List RawStatement) : List BankAccountId :=
  (file.filter fun statement => statement.statementRef = "").filterMap fun statement => accountOf db statement.iban

theorem unnamedAccounts_cons (isId : accountOf db statement.iban = some accountId) :
    unnamedAccounts db (statement :: file) =
      if statement.statementRef = "" then accountId :: unnamedAccounts db file else unnamedAccounts db file := by
  unfold unnamedAccounts
  by_cases unnamed : statement.statementRef = ""
  · simp [unnamed, isId]
  · simp [unnamed]

/-- The index of references keeps statements without reference of one import on different accounts. -/
theorem importParts_unnamed (accepted : importParts db run statements rows file = .ok (next, later)) :
    (unnamedAccounts db file).Nodup ∧
      ∀ accountId ∈ unnamedAccounts db file, knownStatement statements accountId (.ofRun run) = false := by
  induction file generalizing statements rows with
  | nil => simp [unnamedAccounts]
  | cons statement rest ih =>
    simp only [importParts, bind_ok, orRefuse_ok] at accepted
    obtain ⟨accountId, isId, account, -, between, storedStatement, middle, -, accepted⟩ := accepted
    obtain ⟨distinct, unknown⟩ := ih accepted
    obtain ⟨kept, known⟩ := storeStatement_kept storedStatement
    have before : ∀ other ∈ unnamedAccounts db rest, knownStatement statements other (.ofRun run) = false := by
      intro other member
      rw [Bool.eq_false_iff]
      intro isKnown
      exact absurd (knownStatement_mono kept isKnown) (Bool.eq_false_iff.mp (unknown other member))
    rw [unnamedAccounts_cons isId]
    by_cases unnamed : statement.statementRef = ""
    · rw [if_pos unnamed]
      rw [refOf_unnamed unnamed] at known
      have fresh : knownStatement statements accountId (.ofRun run) = false := by
        rcases storeStatement_cases storedStatement with ⟨named, -⟩ | ⟨isNew, -⟩
        · exact absurd unnamed named
        · rwa [refOf_unnamed unnamed] at isNew
      refine ⟨nodup_cons.mpr ⟨?_, distinct⟩, forall_mem_cons.mpr ⟨fresh, before⟩⟩
      intro again
      rw [unknown accountId again] at known
      cases known
    · rw [if_neg unnamed]
      exact ⟨distinct, before⟩

section

variable (met : ∀ statement ∈ file, StatementMet db statements rows statement)
include met

/-- An import that meets everything again, with references that are filled, is accepted. -/
theorem importParts_accepted (filled : ∀ statement ∈ file, ∀ tx ∈ statement.transactions, tx.bankReference ≠ some "")
    (distinct : (unnamedAccounts db file).Nodup)
    (fresh : ∀ accountId ∈ unnamedAccounts db file, knownStatement statements accountId (.ofRun run) = false) :
    ∃ result, importParts db run statements rows file = .ok result := by
  induction file generalizing statements rows with
  | nil => exact ⟨(statements, rows), rfl⟩
  | cons statement rest ih =>
    obtain ⟨accountId, account, isId, isAccount, named, -⟩ := met statement mem_cons_self
    obtain ⟨middle, storedRows⟩ : ∃ middle,
        storeTransactions db.bankAccounts accountId account rows statement.transactions = .ok middle :=
      storeTransactions_accepted (filled statement mem_cons_self)
    have keptRows := (storeTransactions_met storedRows).1
    rw [unnamedAccounts_cons isId] at distinct fresh
    have parts : ∃ between, storeStatement run statements accountId statement = .ok between ∧
        (∀ row ∈ statements, row ∈ between) ∧ (unnamedAccounts db rest).Nodup ∧
        ∀ other ∈ unnamedAccounts db rest, knownStatement between other (.ofRun run) = false := by
      by_cases unnamed : statement.statementRef = ""
      · rw [if_pos unnamed] at distinct fresh
        have unknown := fresh accountId mem_cons_self
        refine ⟨statements ++ [{ propertyBankAccountId := accountId, statementRef := .ofRun run }], ?_,
          fun _ member => mem_append_left _ member, (nodup_cons.mp distinct).2, ?_⟩
        · simp only [storeStatement, refOf_unnamed unnamed, unnamed, ne_eq, not_true_eq_false, false_and, if_false,
            bind_ok, exists_unit, require_ok, pure_ok]
          exact ⟨unknown, trivial⟩
        · intro other member
          rw [Bool.eq_false_iff]
          intro isKnown
          obtain ⟨row, isRow, isOther, isRef⟩ := knownStatement_iff.mp isKnown
          rcases mem_append.mp isRow with old | new
          · have stillUnknown := fresh other (mem_cons_of_mem _ member)
            rw [knownStatement_iff.mpr ⟨row, old, isOther, isRef⟩] at stillUnknown
            cases stillUnknown
          · obtain rfl := mem_singleton.mp new
            obtain rfl : accountId = other := isOther
            exact (nodup_cons.mp distinct).1 member
      · rw [if_neg unnamed] at distinct fresh
        refine ⟨statements, ?_, fun _ member => member, distinct, fresh⟩
        have known := named unnamed
        simp [storeStatement, refOf_named unnamed, unnamed, known]
    obtain ⟨between, storedStatement, kept, distinctRest, freshRest⟩ := parts
    obtain ⟨result, others⟩ : ∃ result, importParts db run between middle rest = .ok result :=
      ih (fun other member => (met other (mem_cons_of_mem _ member)).mono kept keptRows)
        (fun other member => filled other (mem_cons_of_mem _ member)) distinctRest freshRest
    refine ⟨result, ?_⟩
    simp only [importParts, bind_ok, orRefuse_ok]
    exact ⟨accountId, isId, account, isAccount, between, storedStatement, middle, storedRows, others⟩

/-- An import that meets everything again stores rows for review only, and statements without reference. -/
theorem importParts_reviewed (accepted : importParts db run statements rows file = .ok (next, later)) :
    Reviewed rows later ∧ ((∀ statement ∈ file, statement.statementRef ≠ "") → next = statements) ∧
      ((∃ statement ∈ file, statement.statementRef = "") → statements.length < next.length) ∧
      statements.length ≤ next.length := by
  induction file generalizing statements rows with
  | nil =>
    obtain ⟨rfl, rfl⟩ := Prod.mk.inj (pure_ok.mp accepted)
    exact ⟨.refl _, fun _ => rfl, by simp, le_rfl⟩
  | cons statement rest ih =>
    simp only [importParts, bind_ok, orRefuse_ok] at accepted
    obtain ⟨accountId, isId, account, isAccount, between, storedStatement, middle, storedRows, accepted⟩ := accepted
    obtain ⟨sameId, sameAccount, isSame, isSameAccount, named, metRows⟩ := met statement mem_cons_self
    obtain rfl := Option.mem_unique isId isSame
    obtain rfl := Option.mem_unique isAccount isSameAccount
    have reviewed := storeTransactions_reviewed metRows storedRows
    obtain ⟨reviewedRest, keeps, grows, notShorter⟩ := ih (fun other member =>
      (met other (mem_cons_of_mem _ member)).mono (storeStatement_kept storedStatement).1 reviewed.kept) accepted
    refine ⟨reviewed.trans reviewedRest, ?_⟩
    rcases storeStatement_cases storedStatement with ⟨filled, -, rfl⟩ | ⟨unknown, rfl⟩
    · refine ⟨fun all => keeps (forall_mem_cons.mp all).2, ?_, notShorter⟩
      rintro ⟨other, member, unnamed⟩
      rcases mem_cons.mp member with rfl | inRest
      · exact absurd unnamed filled
      · exact grows ⟨other, inRest, unnamed⟩
    · have unnamed : statement.statementRef = "" := by
        by_contra filled
        rw [refOf_named filled, named filled] at unknown
        cases unknown
      rw [length_append, length_singleton] at notShorter
      refine ⟨fun all => absurd unnamed (all statement mem_cons_self), fun _ => notShorter,
        (Nat.le_succ _).trans notShorter⟩

end

end Files

/-- Accounts, statements and movements are still there. -/
structure Onward (first later : Db) : Prop where
  accounts : first.bankAccounts <+: later.bankAccounts
  statements : ∀ row ∈ first.bankStatements, row ∈ later.bankStatements
  rows : KeptRows first.bankTransactions later.bankTransactions

/-- Every statement of the file has a reference. -/
def NamedStatements (file : ParsedFile) : Prop := ∀ statement ∈ file.statements, statement.statementRef ≠ ""

/-- Some movement has a reference that is empty; the index of references refuses it when it is met again. -/
def HasEmptyReference (file : ParsedFile) : Prop :=
  ∃ statement ∈ file.statements, ∃ tx ∈ statement.transactions, tx.bankReference = some ""

/-- No movement more is new, what is stored again has no reference and goes to review, and no statement is stored. -/
structure Idempotent (db next : Db) : Prop where
  new : ∀ (id : BankTransactionId) (row : BankTransaction), next.bankTransactions[id]? = some row →
    row.status = .new → ∃ old ∈ db.bankTransactions[id]?, old.status = .new
  review : ∀ (id : BankTransactionId) (row : BankTransaction), next.bankTransactions[id]? = some row →
    db.bankTransactions.length ≤ id → row.bankReference = none ∧ row.status = .needsReview
  statements : next.bankStatements = db.bankStatements

theorem Idempotent.refl (db : Db) : Idempotent db db where
  new := fun _ row found isNew => ⟨row, found, isNew⟩
  review := fun _ _ found beyond => absurd (found_lt found) (Nat.not_lt.mpr beyond)
  statements := rfl

section Second

variable {db first later next : Db} {file : ParsedFile} {run : SyncRunId}

theorem Onward.accountOf (onward : Onward first later) (isId : accountOf first iban = some accountId) :
    accountOf later iban = some accountId := by
  obtain ⟨added, isLater⟩ := onward.accounts
  unfold Imports.accountOf at isId ⊢
  rw [← isLater, List.findIdx?_append, isId]
  rfl

theorem Onward.met (onward : Onward first later)
    (met : StatementMet first first.bankStatements first.bankTransactions statement) :
    StatementMet later later.bankStatements later.bankTransactions statement := by
  obtain ⟨accountId, account, isId, isAccount, named, metRows⟩ := met
  refine ⟨accountId, account, onward.accountOf isId, ?_, ?_, ?_⟩
  · obtain ⟨added, isLater⟩ := onward.accounts
    rw [← isLater]
    exact found_append isAccount
  · exact fun filled => knownStatement_mono onward.statements (named filled)
  · exact fun tx member => onward.rows.met (metRows tx member)

theorem importRun_ok (accepted : importRun run db file = .ok next) :
    ∃ statements rows, importParts db run db.bankStatements db.bankTransactions file.statements =
      .ok (statements, rows) ∧ next = { db with bankStatements := statements, bankTransactions := rows } := by
  simp only [importRun, bind_ok, pure_ok] at accepted
  obtain ⟨⟨statements, rows⟩, parts, rfl⟩ := accepted
  exact ⟨statements, rows, parts, rfl⟩

theorem importRun_met (accepted : importRun run db file = .ok first) : ∀ statement ∈ file.statements,
    StatementMet first first.bankStatements first.bankTransactions statement := by
  obtain ⟨statements, rows, parts, rfl⟩ := importRun_ok accepted
  intro statement member
  obtain ⟨accountId, account, isId, rest⟩ := (importParts_met parts).2.2 statement member
  exact ⟨accountId, account, isId, rest⟩

theorem importRun_again (met : ∀ statement ∈ file.statements,
      StatementMet later later.bankStatements later.bankTransactions statement)
    (accepted : importRun run later file = .ok next) :
    Reviewed later.bankTransactions next.bankTransactions ∧
      (NamedStatements file ↔ next.bankStatements = later.bankStatements) := by
  obtain ⟨statements, rows, parts, rfl⟩ := importRun_ok accepted
  obtain ⟨reviewed, keeps, grows, -⟩ := importParts_reviewed met parts
  refine ⟨reviewed, keeps, ?_⟩
  intro same statement member unnamed
  have longer := grows ⟨statement, member, unnamed⟩
  rw [show statements = later.bankStatements from same] at longer
  exact Nat.lt_irrefl _ longer

theorem Reviewed.idempotent (reviewed : Reviewed later.bankTransactions next.bankTransactions)
    (statements : next.bankStatements = later.bankStatements) : Idempotent later next where
  new := by
    intro id row found isNew
    by_cases before : id < later.bankTransactions.length
    · obtain ⟨old, isOld⟩ : ∃ old, later.bankTransactions[id]? = some old := ⟨_, List.getElem?_eq_getElem before⟩
      obtain ⟨kept, isKept, -, status⟩ := reviewed.old id old isOld
      obtain rfl := Option.mem_unique found isKept
      exact ⟨old, isOld, status.symm.trans isNew⟩
    · have review := (reviewed.new id row found (Nat.not_lt.mp before)).2
      rw [isNew] at review
      cases review
  review := reviewed.new
  statements := statements

theorem importRun_refused (met : ∀ statement ∈ file.statements,
      StatementMet later later.bankStatements later.bankTransactions statement) (empty : HasEmptyReference file) :
    ¬ importRun run later file = .ok next := by
  intro accepted
  obtain ⟨statements, rows, parts, -⟩ := importRun_ok accepted
  obtain ⟨statement, member, tx, isTx, isEmpty⟩ := empty
  clear accepted
  generalize later.bankStatements = stored at met parts
  generalize later.bankTransactions = before at met parts
  generalize file.statements = list at met parts member
  induction list generalizing stored before with
  | nil => cases member
  | cons first rest ih =>
    simp only [importParts, bind_ok, orRefuse_ok] at parts
    obtain ⟨accountId, isId, account, isAccount, between, storedStatement, middle, storedRows, parts⟩ := parts
    obtain ⟨sameId, sameAccount, isSame, isSameAccount, named, metRows⟩ := met first mem_cons_self
    obtain rfl := Option.mem_unique isId isSame
    obtain rfl := Option.mem_unique isAccount isSameAccount
    rcases mem_cons.mp member with rfl | inRest
    · have isMet := metRows tx isTx
      rw [Met, isEmpty] at isMet
      exact storeTransactions_refused isTx isEmpty isMet storedRows
    · refine ih between middle ?_ parts inRest
      intro other isOther
      exact (met other (mem_cons_of_mem _ isOther)).mono (storeStatement_kept storedStatement).1
        (storeTransactions_met storedRows).1

end Second

/-- A file that was imported before is imported again without effect exactly if all its statements have a
reference, or an empty reference of a movement refuses it. -/
theorem reimport_idempotent_iff {db first later : Db} {file : ParsedFile} {firstRun run : SyncRunId}
    (accepted : importRun firstRun db file = .ok first) (onward : Onward first later)
    (fresh : ∀ row ∈ later.bankStatements, row.statementRef ≠ .ofRun run) :
    Idempotent later (commit (importRun run) later file) ↔ NamedStatements file ∨ HasEmptyReference file := by
  have met : ∀ statement ∈ file.statements,
      StatementMet later later.bankStatements later.bankTransactions statement :=
    fun statement member => onward.met (importRun_met accepted statement member)
  by_cases empty : HasEmptyReference file
  · rcases commit_cases (importRun run) later file with same | again
    · rw [same]
      exact ⟨fun _ => Or.inr empty, fun _ => .refl later⟩
    · exact absurd again (importRun_refused met empty)
  · have filled : ∀ statement ∈ file.statements, ∀ tx ∈ statement.transactions, tx.bankReference ≠ some "" :=
      fun statement member tx isTx isEmpty => empty ⟨statement, member, tx, isTx, isEmpty⟩
    have sameAccounts : unnamedAccounts later file.statements = unnamedAccounts db file.statements := by
      obtain ⟨statements, rows, parts, rfl⟩ := importRun_ok accepted
      have known := (importParts_met parts).2.2
      unfold unnamedAccounts
      apply filterMap_congr
      intro statement member
      obtain ⟨accountId, account, isId, -⟩ := known statement (mem_filter.mp member).1
      rw [isId]
      exact onward.accountOf isId
    obtain ⟨result, again⟩ : ∃ result, importParts later run later.bankStatements later.bankTransactions
        file.statements = .ok result := by
      obtain ⟨statements, rows, parts, -⟩ := importRun_ok accepted
      apply importParts_accepted met filled
      · rw [sameAccounts]
        exact (importParts_unnamed parts).1
      · intro accountId _
        rw [Bool.eq_false_iff]
        intro known
        obtain ⟨row, member, -, isRef⟩ := knownStatement_iff.mp known
        exact fresh row member isRef
    have isNext : importRun run later file =
        .ok { later with bankStatements := result.1, bankTransactions := result.2 } := by
      simp only [importRun, again, bind_ok, pure_ok]
      exact ⟨result, rfl, rfl⟩
    rw [commit_accepted isNext]
    obtain ⟨reviewed, named⟩ := importRun_again met isNext
    constructor
    · exact fun idempotent => Or.inl (named.mpr idempotent.statements)
    · rintro (isNamed | isEmpty)
      · exact reviewed.idempotent (named.mp isNamed)
      · exact absurd isEmpty empty

def sampleUpload : CsvUpload where
  mapping := CsvFormats.sparkasseCamt
  headerIdx := 0
  rows := [sampleRow "03.02.2026" "MIETE 02"]

/-- A CSV file names no statement: its second import stores one more. -/
theorem csv_statement_stored_twice : ∃ file first, csvFile sampleBank sampleUpload = .ok file ∧
    importRun 0 sampleBank file = .ok first ∧ ¬ Idempotent first (commit (importRun 1) first file) := by
  have counts : ((answer? (csvFile sampleBank sampleUpload)).bind fun file =>
      (answer? (importRun 0 sampleBank file)).map fun first =>
        (first.bankStatements.length, (commit (importRun 1) first file).bankStatements.length)) = some (1, 2) := by
    decide +kernel
  obtain ⟨file, isFile, counted⟩ := Option.bind_eq_some_iff.mp counts
  obtain ⟨first, isFirst, lengths⟩ := Option.map_eq_some_iff.mp counted
  obtain ⟨one, two⟩ := Prod.mk.inj lengths
  refine ⟨file, first, answer?_eq_some.mp isFile, answer?_eq_some.mp isFirst, ?_⟩
  intro idempotent
  rw [idempotent.statements, one] at two
  cases two

/-- Two equal payments without reference, in a statement with one. -/
def namedFile : ParsedFile where
  statements :=
    let movement : RawTransaction :=
      { bankReference := none, bookingDate := .ofYmd 2026 2 3, valueDate := none, amount := 500, currency := "EUR"
        counterpartName := none, counterpartIban := none, counterpartBic := none, purpose := some "Miete"
        endToEndId := none, mandateReference := none, creditorId := none }
    [{ statementRef := "2026/2", iban := "DE02120300000000202051", transactions := [movement, movement] }]

theorem named_statement_idempotent : ∃ first, importRun 0 sampleBank namedFile = .ok first ∧
    Idempotent first (commit (importRun 1) first namedFile) := by
  have accepted : (answer? (importRun 0 sampleBank namedFile)).isSome := by decide +kernel
  have refs : ((answer? (importRun 0 sampleBank namedFile)).map Db.bankStatements) =
      some [{ propertyBankAccountId := 0, statementRef := .given "2026/2" }] := by decide +kernel
  have isFirst := accepted_of_isSome accepted
  generalize (answer? (importRun 0 sampleBank namedFile)).get accepted = first at isFirst
  rw [isFirst] at refs
  have statements := Option.some.inj refs
  refine ⟨first, isFirst, (reimport_idempotent_iff isFirst ⟨prefix_rfl, fun _ member => member, .refl _⟩ ?_).mpr
    (Or.inl ?_)⟩
  · intro row member
    rw [statements] at member
    obtain rfl := mem_singleton.mp member
    simp
  · intro statement member
    obtain rfl := mem_singleton.mp member
    simp

end Mhvp.Banking.Imports
