import Mathlib.Data.List.Sort
import Mhvp.Lib.Deduplicate
import Mhvp.Lib.Table
import Mhvp.Lib.Transition
import Mhvp.Database
import Mhvp.Banking.CsvFormats

/-! Statements imported into bank transactions. -/

namespace Mhvp.Banking

open Core Accounting Lib.Calendar Lib.Deduplicate

namespace Imports

def transferWindowDays : ℕ := 5

/-- Account, day, amount, purpose, end-to-end id and counterpart; only a hint at a duplicate. -/
def contentHash (account : PropertyBankAccount) (tx : RawTransaction) : ContentHash where
  iban := account.iban
  bookingDate := tx.bookingDate
  amount := tx.amount
  purpose := tx.purpose.getD ""
  endToEndId := tx.endToEndId.getD ""
  counterpartIban := tx.counterpartIban.getD ""

def stored (rows : List BankTransaction) (accountId : BankAccountId) (reference : String) : Bool :=
  rows.any fun row => row.propertyBankAccountId = accountId ∧ row.bankReference = some reference

/-- The other own account of the legal entity that the movement names. -/
def otherAccount (accounts : List PropertyBankAccount) (tx : BankTransaction) : Option BankAccountId :=
  match tx.counterpartIban.filter (· ≠ "") with
  | none => none
  | some iban => (accounts.zipIdx.find? fun found =>
    found.1.iban = iban ∧ found.1.legalEntityId = tx.legalEntityId ∧ found.2 ≠ tx.propertyBankAccountId).map
      Prod.snd

def withinWindow (first second : Date) : Prop :=
  first ≤ second.addDays transferWindowDays ∧ second ≤ first.addDays transferWindowDays

instance : DecidableRel withinWindow := fun _ _ => by unfold withinWindow; infer_instance

/-- The earliest unpaired movement of the other account with the opposite amount within the window. -/
def transferPartner (accounts : List PropertyBankAccount) (rows : List BankTransaction) (tx : BankTransaction) :
    Option BankTransactionId :=
  match otherAccount accounts tx, accounts[tx.propertyBankAccountId]? with
  | some other, some own =>
    ((rows.zipIdx.filter fun found =>
      found.1.propertyBankAccountId = other ∧ found.1.amount = -tx.amount ∧ found.1.transferPairId = none ∧
        found.1.counterpartIban = some own.iban ∧ withinWindow found.1.bookingDate tx.bookingDate).insertionSort
      fun first second => first.1.bookingDate ≤ second.1.bookingDate).head?.map Prod.snd
  | _, _ => none

/-- Link the last row with its partner. -/
def pairTransfer (accounts : List PropertyBankAccount) (rows : List BankTransaction) (tx : BankTransaction) :
    List BankTransaction :=
  match transferPartner accounts rows tx with
  | none => rows ++ [tx]
  | some partner =>
    (rows.modify partner fun row => { row with transferPairId := some rows.length }) ++
      [{ tx with transferPairId := some partner }]

def bankTransaction (accountId : BankAccountId) (account : PropertyBankAccount) (tx : RawTransaction)
    (same : Option BankTransactionId) : BankTransaction where
  propertyBankAccountId := accountId
  legalEntityId := account.legalEntityId
  bankReference := tx.bankReference
  bookingDate := tx.bookingDate
  valueDate := tx.valueDate
  amount := tx.amount
  currency := tx.currency
  counterpartName := tx.counterpartName
  counterpartIban := tx.counterpartIban
  counterpartBic := tx.counterpartBic
  purpose := tx.purpose
  endToEndId := tx.endToEndId
  mandateReference := tx.mandateReference
  creditorId := tx.creditorId
  hash := contentHash account tx
  possibleDuplicateOfId := same
  status := if same.isSome ∧ tx.bankReference = none then .needsReview else .new

/-- The rows after one movement; the index of references is unique per account. -/
def storeTransaction (accounts : List PropertyBankAccount) (accountId : BankAccountId)
    (account : PropertyBankAccount) (rows : List BankTransaction) (tx : RawTransaction) :
    Result (List BankTransaction) := do
  if ∃ reference ∈ tx.bankReference, reference ≠ "" ∧ stored rows accountId reference then pure rows
  else do
    require (∀ reference ∈ tx.bankReference, stored rows accountId reference = false) .databaseRefused
    let same := rows.findIdx? fun row =>
      row.propertyBankAccountId = accountId ∧ row.hash = contentHash account tx
    pure (pairTransfer accounts rows (bankTransaction accountId account tx same))

def storeTransactions (accounts : List PropertyBankAccount) (accountId : BankAccountId)
    (account : PropertyBankAccount) (rows : List BankTransaction) : List RawTransaction → Result (List BankTransaction)
  | [] => pure rows
  | tx :: rest => do
      let next ← storeTransaction accounts accountId account rows tx
      storeTransactions accounts accountId account next rest

/-- The own account with the IBAN. -/
def accountOf (db : Db) (iban : String) : Option BankAccountId :=
  db.bankAccounts.findIdx? fun account => account.iban = iban

def lastFour (iban : String) : String := String.ofList (iban.toList.drop (iban.length - 4))

def importStatements (db : Db) (rows : List BankTransaction) : List RawStatement → Result (List BankTransaction)
  | [] => pure rows
  | statement :: rest => do
      let suffix := lastFour statement.iban
      let accountId ← orRefuse (accountOf db statement.iban) .validation
        (some (s!"Konto mit IBAN endend auf {suffix} ist keinem Rechtsträger zugeordnet."))
      let account ← orRefuse db.bankAccounts[accountId]? .resourceNotFound
      let next ← storeTransactions db.bankAccounts accountId account rows statement.transactions
      importStatements db next rest

/-- The bank transactions after the import of a file. -/
def importFile (db : Db) (file : ParsedFile) : Result (List BankTransaction) :=
  importStatements db db.bankTransactions file.statements

/-- Movements fetched from the account service, under the rule of the file import. -/
def importFetched (db : Db) (accountId : BankAccountId) (transactions : List RawTransaction) :
    Result (List BankTransaction) := do
  let account ← orRefuse db.bankAccounts[accountId]? .resourceNotFound
  storeTransactions db.bankAccounts accountId account db.bankTransactions transactions

/-- A CSV file: rows behind the header, with the mapping of its format or of the user. -/
structure CsvUpload where
  mapping : CsvFormats.ColumnMapping
  headerIdx : ℕ
  rows : List CsvFormats.Row
  accountId : Option BankAccountId := none

/-- The errors of a CSV file: its rows, and an own account other than the chosen one. -/
def csvErrors (upload : CsvUpload) (reading : CsvFormats.Reading) (chosen : Option String) : List CsvFormats.RowError :=
  match chosen.map fun iban => CsvFormats.upper (CsvFormats.withoutBlanks iban), reading.ownIban with
  | some selected, some own =>
    if selected = own then reading.errors
    else
      let message := s!"Auftragskonto der Datei ({own}) weicht vom gewählten Konto ({selected}) ab"
      reading.errors ++ [{ line := upload.headerIdx + 1, message }]
  | _, _ => reading.errors

/-- The statement of a CSV file whose rows are all readable and of one account. -/
def csvFile (db : Db) (upload : CsvUpload) : Result ParsedFile := do
  let account ← match upload.accountId with
    | none => pure none
    | some accountId => (orRefuse db.bankAccounts[accountId]? .resourceNotFound).map some
  let reading := CsvFormats.buildTransactions upload.mapping upload.headerIdx upload.rows
  let chosen := account.map PropertyBankAccount.iban
  match csvErrors upload reading chosen with
  | first :: rest =>
    let count := rest.length + 1
    let line := first.line
    let message := first.message
    .error { error := .validation
             detail := some (s!"{count} Zeile(n) nicht lesbar, z. B. Zeile {line}: {message}.") }
  | [] =>
    let iban ← orRefuse ((chosen.or reading.ownIban).filter (· ≠ "")) .validation
      (some ("Kein bekanntes Format erkannt und keine eigene IBAN ermittelbar; " ++
        "bitte Konto oder Mapping angeben."))
    pure { statements := [{ iban, transactions := reading.transactions }] }

inductive ImportRequest
  | importFile (file : ParsedFile)
  | importCsv (upload : CsvUpload)
  | importFetched (accountId : BankAccountId) (transactions : List RawTransaction)
  /-- A request of another part of the program. -/
  | elsewhere (tables : Db)

/-- What the database keeps of a stored movement, with the text nobody changes. -/
structure Movement where
  accountId : BankAccountId
  reference : Option String
  bookingDate : Date
  amount : Decimal
  text : String
  deriving DecidableEq

def movementOf (row : BankTransaction) : Movement where
  accountId := row.propertyBankAccountId
  reference := row.bankReference
  bookingDate := row.bookingDate
  amount := row.amount
  text := row.purpose.getD ""

def movements (db : Db) : List Movement := db.bankTransactions.map movementOf

/-- Other requests add and update rows; a trigger refuses to change or delete a movement. -/
def importStep (db : Db) : ImportRequest → Result Db
  | .importFile file => do
      let bankTransactions ← importFile db file
      pure { db with bankTransactions }
  | .importCsv upload => do
      let file ← csvFile db upload
      let bankTransactions ← importFile db file
      pure { db with bankTransactions }
  | .importFetched accountId transactions => do
      let bankTransactions ← importFetched db accountId transactions
      pure { db with bankTransactions }
  | .elsewhere tables => do
      require (movements db <+: movements tables) .databaseRefused
      pure tables

end Imports

end Mhvp.Banking

namespace Mhvp.Banking.Imports

open Core Accounting Lib.Calendar Lib.Deduplicate Lib.Transition

/-- The same reference of the bank for the same account. -/
def SameReference (first second : Movement) : Prop :=
  first.accountId = second.accountId ∧ first.reference = second.reference ∧
    ∃ reference ∈ second.reference, reference ≠ ""

instance : DecidableRel SameReference := fun _ _ => by unfold SameReference; infer_instance

/-- The movement of an account that a file reports. -/
def reported (accountId : BankAccountId) (tx : RawTransaction) : Movement where
  accountId
  reference := tx.bankReference
  bookingDate := tx.bookingDate
  amount := tx.amount
  text := tx.purpose.getD ""

/-- The movements of statements whose accounts are known, in their order. -/
def statementMovements (db : Db) (statements : List RawStatement) : List Movement :=
  statements.flatMap fun statement =>
    match accountOf db statement.iban with
    | some accountId => statement.transactions.map (reported accountId)
    | none => []

/-- The movements parsed from what a request imports. -/
def parsedMovements (db : Db) : ImportRequest → List Movement
  | .importFile file => statementMovements db file.statements
  | .importCsv upload =>
    match csvFile db upload with
    | .ok file => statementMovements db file.statements
    | .error _ => []
  | .importFetched accountId transactions => transactions.map (reported accountId)
  | .elsewhere _ => []

/-- References tell the movements of a file apart, and agree with the movements stored before. -/
structure ReferencesAgree (db : Db) (request : ImportRequest) : Prop where
  apart : (parsedMovements db request).Pairwise fun first second => ¬ SameReference first second
  agree : ∀ known ∈ movements db, ∀ movement ∈ parsedMovements db request, SameReference known movement →
    known.bookingDate = movement.bookingDate ∧ known.amount = movement.amount ∧ known.text = movement.text

/-- As many stored movements of the account with this day, amount and text as there are in the list. -/
def StoredAs (listed stored : List Movement) : Prop := ∀ accountId bookingDate amount text,
  (listed.countP fun movement => movement.accountId = accountId ∧ movement.bookingDate = bookingDate ∧
      movement.amount = amount ∧ movement.text = text) ≤
    stored.countP fun movement => movement.accountId = accountId ∧ movement.bookingDate = bookingDate ∧
      movement.amount = amount ∧ movement.text = text

/-- No stored movement is changed or deleted. -/
def Kept (db next : Db) : Prop := movements db <+: movements next

section Stored

variable {db next : Db} {accounts : List PropertyBankAccount} {account : PropertyBankAccount}
  {rows later : List BankTransaction}

theorem movementOf_pairTransfer (accounts : List PropertyBankAccount) (rows : List BankTransaction)
    (tx : BankTransaction) : (pairTransfer accounts rows tx).map movementOf = rows.map movementOf ++ [movementOf tx] := by
  unfold pairTransfer
  split
  · simp
  · rename_i partner _
    have linked : (rows.modify partner fun row => { row with transferPairId := some rows.length }).map movementOf =
        rows.map movementOf := by
      apply List.ext_getElem?
      intro index
      rw [List.getElem?_map, List.getElem?_map, List.getElem?_modify]
      cases rows[index]? with
      | none => rfl
      | some row => by_cases here : partner = index <;> simp [here, movementOf]
    rw [List.map_append, linked]
    rfl

theorem stored_iff : stored rows accountId reference = true ↔
    ∃ row ∈ rows, row.propertyBankAccountId = accountId ∧ row.bankReference = some reference := by
  simp [stored]

theorem known_reported : Known SameReference (rows.map movementOf) (reported accountId tx) ↔
    ∃ reference ∈ tx.bankReference, reference ≠ "" ∧ stored rows accountId reference = true := by
  constructor
  · rintro ⟨known, member, isAccount, isReference, reference, present, filled⟩
    obtain ⟨row, isRow, rfl⟩ := List.mem_map.mp member
    exact ⟨reference, present, filled, stored_iff.mpr ⟨row, isRow, isAccount, isReference.trans present⟩⟩
  · rintro ⟨reference, present, filled, isStored⟩
    obtain ⟨row, isRow, isAccount, isReference⟩ := stored_iff.mp isStored
    exact ⟨movementOf row, List.mem_map_of_mem isRow, isAccount, isReference.trans (Option.mem_def.mp present).symm,
      reference, present, filled⟩

theorem storeTransaction_ok (accepted : storeTransaction accounts accountId account rows tx = .ok later) :
    later.map movementOf = absorb SameReference (rows.map movementOf) [reported accountId tx] := by
  unfold storeTransaction at accepted
  unfold absorb absorb
  split at accepted
  · rename_i isKnown
    rw [if_pos (known_reported.mpr isKnown), ← pure_ok.mp accepted]
  · rename_i unknown
    simp only [bind_ok, exists_unit, pure_ok] at accepted
    rw [if_neg (fun isKnown => unknown (known_reported.mp isKnown)), ← accepted.2, movementOf_pairTransfer]
    rfl

theorem storeTransactions_ok (accepted : storeTransactions accounts accountId account rows transactions = .ok later) :
    later.map movementOf = absorb SameReference (rows.map movementOf) (transactions.map (reported accountId)) := by
  induction transactions generalizing rows with
  | nil =>
    obtain rfl := pure_ok.mp accepted
    rfl
  | cons tx rest ih =>
    simp only [storeTransactions, bind_ok] at accepted
    obtain ⟨between, first, accepted⟩ := accepted
    rw [ih accepted, storeTransaction_ok first, ← absorb_append]
    rfl

theorem importStatements_ok (accepted : importStatements db rows statements = .ok later) :
    later.map movementOf = absorb SameReference (rows.map movementOf) (statementMovements db statements) := by
  induction statements generalizing rows with
  | nil =>
    obtain rfl := pure_ok.mp accepted
    rfl
  | cons statement rest ih =>
    simp only [importStatements, bind_ok, orRefuse_ok] at accepted
    obtain ⟨accountId, known, account, _, between, first, accepted⟩ := accepted
    rw [ih accepted, storeTransactions_ok first, ← absorb_append]
    simp [statementMovements, known]

theorem importStep_ok (accepted : importStep db request = .ok next) : (∃ tables, request = .elsewhere tables ∧
    Kept db next) ∨ movements next = absorb SameReference (movements db) (parsedMovements db request) := by
  cases request with
  | importFile file =>
    simp only [importStep, bind_ok, pure_ok] at accepted
    obtain ⟨rows, imported, rfl⟩ := accepted
    exact Or.inr (importStatements_ok imported)
  | importCsv upload =>
    simp only [importStep, bind_ok, pure_ok] at accepted
    obtain ⟨file, read, rows, imported, rfl⟩ := accepted
    refine Or.inr ?_
    rw [parsedMovements, read]
    exact importStatements_ok imported
  | importFetched accountId transactions =>
    simp only [importStep, importFetched, bind_ok, orRefuse_ok, pure_ok] at accepted
    obtain ⟨rows, ⟨account, _, imported⟩, rfl⟩ := accepted
    exact Or.inr (storeTransactions_ok imported)
  | elsewhere tables =>
    simp only [importStep, bind_ok, exists_unit, require_ok, pure_ok] at accepted
    obtain ⟨keeps, rfl⟩ := accepted
    exact Or.inl ⟨tables, rfl, keeps⟩

theorem Kept.refl (db : Db) : Kept db db := List.prefix_rfl

theorem Kept.trans (early : Kept db between) (late : Kept between next) : Kept db next := List.IsPrefix.trans early late

theorem importStep_kept (accepted : importStep db request = .ok next) : Kept db next := by
  rcases importStep_ok accepted with ⟨_, _, keeps⟩ | same
  · exact keeps
  · rw [Kept, same]
    exact prefix_absorb _ _

theorem SameReference.unique (first : SameReference known one) (second : SameReference known other) :
    SameReference one other :=
  ⟨first.1.symm.trans second.1, first.2.1.symm.trans second.2.1, second.2.2⟩

theorem importStep_stores (accepted : importStep db request = .ok next) (agree : ReferencesAgree db request) :
    StoredAs (parsedMovements db request) (movements next) := by
  rcases importStep_ok accepted with ⟨tables, rfl, _⟩ | same
  · intro accountId bookingDate amount text
    exact Nat.zero_le _
  · intro accountId bookingDate amount text
    rw [same]
    refine countP_le_absorb ?_ agree.apart ?_
    · intro known one other first second
      exact first.unique second
    · intro known isKnown movement isParsed sameReference selected
      obtain ⟨sameDay, sameAmount, sameText⟩ := agree.agree known isKnown movement isParsed sameReference
      simpa [sameReference.1, sameDay, sameAmount, sameText] using selected

end Stored

/-- In every history, the movements of an import whose references agree are stored ever after. -/
theorem imported_movements_stored {db next : Db} (before after : List ImportRequest) (request : ImportRequest)
    (accepted : importStep (run importStep db before) request = .ok next)
    (agree : ReferencesAgree (run importStep db before) request) :
    StoredAs (parsedMovements (run importStep db before) request)
      (movements (run importStep db (before ++ request :: after))) := by
  have kept : Kept next (run importStep next after) :=
    run_relates Kept.refl (fun _ _ _ => Kept.trans) (fun _ _ _ => importStep_kept) next after
  intro accountId bookingDate amount text
  rw [run_append, run_cons, commit_accepted accepted]
  exact (importStep_stores accepted agree accountId bookingDate amount text).trans kept.sublist.countP_le

def sampleBank : Db where
  books := {}
  bankAccounts := [{ legalEntityId := 0, iban := "DE02120300000000202051", holder := "WEG" }]

/-- A row of the export, with its end-to-end id. -/
def sampleRow (day endToEndId : String) : CsvFormats.Row :=
  [("auftragskonto", some "DE02120300000000202051"), ("buchungstag", some day), ("valutadatum", some day),
    ("verwendungszweck", some "Miete"), ("betrag", some "500,00"), ("waehrung", some "EUR"),
    ("kundenreferenz (end-to-end)", some endToEndId)]

def sampleImport (february march : String) : ImportRequest :=
  .importCsv { mapping := CsvFormats.sparkasseCamt, headerIdx := 0
               rows := [sampleRow "03.02.2026" february, sampleRow "03.03.2026" march] }

/-- Two rents under the same end-to-end id: the second payment is lost. -/
theorem repeated_reference_loses_payment :
    (parsedMovements sampleBank (sampleImport "MIETE" "MIETE")).map Movement.bookingDate =
        [.ofYmd 2026 2 3, .ofYmd 2026 3 3] ∧
      (run importStep sampleBank [sampleImport "MIETE" "MIETE"]).bankTransactions.map BankTransaction.bookingDate =
        [.ofYmd 2026 2 3] := by
  decide +kernel

theorem sample_movements_stored :
    StoredAs (parsedMovements sampleBank (sampleImport "MIETE 02" "MIETE 03"))
      (movements (run importStep sampleBank [sampleImport "MIETE 02" "MIETE 03"])) := by
  have accepted : (answer? (importStep sampleBank (sampleImport "MIETE 02" "MIETE 03"))).isSome := by decide +kernel
  have agree : ReferencesAgree sampleBank (sampleImport "MIETE 02" "MIETE 03") := by
    constructor
    · decide +kernel
    · intro known member
      cases member
  exact imported_movements_stored [] [] _ (accepted_of_isSome accepted) agree

end Mhvp.Banking.Imports
