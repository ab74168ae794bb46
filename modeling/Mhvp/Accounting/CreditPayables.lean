import Mhvp.Accounting.ItemOrigins

namespace Mhvp.Accounting

open Core Lib.Calendar Billing List

namespace CreditPayables

def rentKey : String := "rent-statement:"

/-- `uuid.UUID(text)`; an id is written as its digits. -/
def writtenId (text : List Char) : Option ℕ :=
  if text ≠ [] ∧ text.all Char.isDigit then
    some (text.foldl (fun number digit => 10 * number + (digit.toNat - '0'.toNat)) 0)
  else none

/-- Statement and contract named by the key of a result entry. -/
def parsedKey (key : Option String) : Option (ℕ × ContractId) := do
  let key ← key
  if key.startsWith rentKey then
    let parts := key.toList.splitOn ':'
    let statementId ← parts[1]?.bind writtenId
    let contractId ← parts[2]?.bind writtenId
    some (statementId, contractId)
  else none

def creditOf (entry : JournalEntry) (accountId : AccountId) : Decimal :=
  creditOn accountId entry.lines - debitOn accountId entry.lines

/-- The entry is listed by a statement that is due, posted or locked. -/
def listed (statements : List Statement) (statementId : ℕ) (entryId : EntryId) : Bool :=
  (statements[statementId]?).any fun statement =>
    decide (statement.status ∈ [StatementStatus.due, .posted, .locked]) &&
      decide (entryId ∈ statement.resultEntryIds)

/-- The credit of one posted result entry on one debtor account. -/
def rentCandidate (db : Db) (found : JournalEntry × EntryId) (accountId : AccountId) :
    Option Candidate := do
  let (entry, entryId) := found
  let (statementId, contractId) ← parsedKey entry.idempotencyKey
  if entry.kind = .statementResult ∧ entry.isPosted ∧ entry.reversedById = none ∧
      categoryOf db.books accountId = some .debtor ∧ 0 < creditOf entry accountId ∧
      entry.contractId = some contractId ∧ listed db.statements statementId entryId then
    some { sourceType := .rentStatement, sourceId := statementId, contractId := some contractId,
           ledgerId := entry.ledgerId, amount := creditOf entry accountId,
           sourceEntryId := some entryId, debtorAccountId := some accountId }
  else none

def rentCandidates (db : Db) : List Candidate :=
  db.books.entries.zipIdx.flatMap fun found =>
    (accountOrder found.1.lines).filterMap (rentCandidate db found)

def candidates (db : Db) (sourceType : CreditSource) : List Candidate :=
  match sourceType with
  | .rentStatement => rentCandidates db
  | _ => db.otherCredits.filter fun candidate => candidate.sourceType = sourceType

def findCandidate (db : Db) (sourceType : CreditSource) (sourceId : ℕ) (contractId : Option ContractId) :
    Result Candidate :=
  orRefuse ((candidates db sourceType).find? fun candidate =>
      candidate.sourceId = sourceId ∧ candidate.contractId = contractId) .resourceNotFound
    (some "Kein auszahlbares Guthaben für diese Quelle (Status, Buchung oder Betrag).")

def mode (db : Db) : CreditMode :=
  (db.creditPayableSetting.map CreditPayableSetting.mode).getD .off

def propose (db : Db) (sourceType : CreditSource) (sourceId : ℕ) (contractId : Option ContractId)
    (amount : Option Decimal) (userId : Option UserId) : Result Db := do
  require (mode db ≠ .off) .conflict (some ("Verbindlichkeitsposten aus Guthaben sind ausgeschaltet " ++
    "(Mandantenschalter, Buchungsregel offen, Q01-01)."))
  require (mode db = .subledger → sourceType = .rentStatement) .conflict
    (some ("Variante Nebenbuchposten setzt eine gebuchte Gutschrift voraus; Eigentümer- und " ++
      "Kautionsabrechnung nur mit Variante Umbuchung."))
  require (∀ row ∈ db.creditPayables, ¬ (row.sourceType = sourceType ∧ row.sourceId = sourceId ∧
    row.contractId = contractId ∧ row.status ≠ .withdrawn)) .conflict
    (some "Für diese Quelle besteht bereits ein Vorschlag.")
  let candidate ← findCandidate db sourceType sourceId contractId
  let value := amount.getD candidate.amount
  if amountPositive : 0 < value then do
    require (value = candidate.amount ∨ sourceType = .ownerStatement) .validation
      (some "Der Betrag ist das Abrechnungsergebnis und nicht änderbar.")
    require (value ≤ candidate.amount) .validation
      (some "Der Betrag übersteigt das Abrechnungsergebnis.")
    let row : CreditPayable :=
      { ledgerId := candidate.ledgerId, sourceType, sourceId, contractId,
        sourceEntryId := candidate.sourceEntryId, amount := value, variant := mode db,
        createdBy := userId, amountPositive }
    pure { db with creditPayables := db.creditPayables ++ [row] }
  else .error { error := .validation, detail := some "Der Betrag muss positiv sein." }

def account (books : Books) (ledgerId : LedgerId) (number : Option String) (label : String) :
    Result (LedgerAccount × AccountId) := do
  let number ← orRefuse (number.filter (· ≠ "")) .conflict
    (some s!"{label} ist in den Einstellungen nicht hinterlegt (Q01-01).")
  orRefuse (books.accounts.zipIdx.find? fun found =>
      found.1.ledgerId = ledgerId ∧ found.1.number = number ∧ found.1.active) .conflict
    (some s!"{label} {number} fehlt im Buchungskreis oder ist deaktiviert.")

/-- The payable of the subledger variant: it stands on the debtor account of the credit. -/
def creditItem (row : CreditPayable) (entryId : EntryId) (entry : JournalEntry)
    (debtorAccountId : AccountId) : OpenItem where
  ledgerId := row.ledgerId
  accountId := debtorAccountId
  journalEntryId := entryId
  kind := .payable
  bookingDate := entry.bookingDate
  dueDate := entry.dueDate.getD entry.bookingDate
  amount := row.amount
  contractId := row.contractId
  amountPositive := row.amountPositive

/-- Subledger variant: the item of the posted credit line. -/
def releaseItem (books : Books) (row : CreditPayable) (candidate : Candidate) :
    Result (OpenItemId × Books) := do
  let entryId ← orRefuse candidate.sourceEntryId .conflict (some "Ergebnisbuchung nicht gefunden.")
  let debtorAccountId ← orRefuse candidate.debtorAccountId .conflict
    (some "Ergebnisbuchung nicht gefunden.")
  let entry ← orRefuse books.entries[entryId]? .conflict (some "Ergebnisbuchung nicht gefunden.")
  require (∀ item ∈ books.openItems,
    ¬ (item.journalEntryId = entryId ∧ item.accountId = debtorAccountId)) .conflict
    (some "Zur Gutschrift besteht bereits ein offener Posten.")
  let item := creditItem row entryId entry debtorAccountId
  pure (books.openItems.length, { books with openItems := books.openItems ++ [item] })

def sourceLabel : CreditSource → String
  | .rentStatement => "Guthaben aus Betriebskostenabrechnung"
  | .ownerStatement => "Auszahlung aus Eigentümerabrechnung"
  | .depositSettlement => "Kautionsrückzahlung"

/-- The account a reclass debits. -/
def sourceAccount (books : Books) (setting : CreditPayableSetting) (row : CreditPayable)
    (candidate : Candidate) : Result AccountId :=
  match row.sourceType with
  | .rentStatement =>
    orRefuse candidate.debtorAccountId .conflict (some "Debitorenkonto nicht gefunden.")
  | .ownerStatement => do
      let found ← account books row.ledgerId setting.ownerDebitAccountNumber
        "Das Sollkonto der Eigentümerauszahlung"
      pure found.2
  | .depositSettlement => do
      let found ← account books row.ledgerId setting.depositDebitAccountNumber
        "Das Sollkonto der Kautionsrückzahlung"
      pure found.2

def reclassHeader (row : CreditPayable) (rowId : CreditPayableId) (bookingDate : Date)
    (userId : Option UserId) : EntryHeader where
  createdBy := userId
  bookingDate := bookingDate
  dueDate := some bookingDate
  text :=
    let label := sourceLabel row.sourceType
    String.ofList (s!"Umbuchung {label} in Verbindlichkeit".toList.take 500)
  kind := .creditReclass
  contractId := row.contractId
  source := .manual
  idempotencyKey := some s!"credit-payable:{rowId}"

/-- Reclass variant: a draft that books the credit to the creditor account. -/
def releaseDraft (books : Books) (setting : Option CreditPayableSetting) (row : CreditPayable)
    (rowId : CreditPayableId) (candidate : Candidate) (bookingDate : Date) (userId : Option UserId) :
    Result (EntryId × Books) := do
  let setting ← orRefuse setting .conflict (some "Einstellungen fehlen.")
  let creditor ← account books row.ledgerId setting.creditorAccountNumber "Das Kreditorenkonto"
  let number := creditor.1.number
  require (creditor.1.category = .creditor) .conflict (some s!"Konto {number} ist kein Kreditorenkonto.")
  let sourceAccountId ← sourceAccount books setting row candidate
  let label := some (sourceLabel row.sourceType)
  writeDraft books row.ledgerId none (reclassHeader row rowId bookingDate userId) none
    [{ accountId := sourceAccountId, debit := row.amount, credit := 0, text := label },
     { accountId := creditor.2, debit := 0, credit := row.amount, text := label }] []

/-- Release by another person than the proposal. -/
def release (db : Db) (rowId : CreditPayableId) (userId : Option UserId) (gateOpen : Bool)
    (bookingDate : Date) : Result Db := do
  let row ← orRefuse db.creditPayables[rowId]? .resourceNotFound
  require gateOpen .releaseGateClosed
  require (row.status = .proposed) .conflict (some "Nur Vorschläge können freigegeben werden.")
  require (mode db ≠ .off) .conflict
    (some "Verbindlichkeitsposten aus Guthaben sind ausgeschaltet (Q01-01).")
  require (mode db = row.variant) .conflict
    (some ("Die Variante wurde seit dem Vorschlag geändert: Vorschlag zurücknehmen und neu " ++
      "anlegen."))
  require ((∃ setting ∈ db.creditPayableSetting, setting.fourEyesRequired = false) ∨
    row.createdBy ≠ userId) .gateFourEyes
    (some "Die Freigabe braucht eine andere Person als den Vorschlag.")
  let candidate ← findCandidate db row.sourceType row.sourceId row.contractId
  require (row.amount ≤ candidate.amount) .conflict
    (some "Das Abrechnungsergebnis hat sich geändert; Vorschlag zurücknehmen.")
  let _ ← ledgerOf db.books row.ledgerId
  match row.variant with
  | .subledger => do
      let (itemId, books) ← releaseItem db.books row candidate
      let released := { row with status := .released, releasedBy := userId, openItemId := some itemId }
      pure { db with books, creditPayables := db.creditPayables.set rowId released }
  | _ => do
      let (entryId, books) ← releaseDraft db.books db.creditPayableSetting row rowId candidate
        bookingDate userId
      let released := { row with status := .released, releasedBy := userId, reclassEntryId := some entryId }
      pure { db with books, creditPayables := db.creditPayables.set rowId released }

end CreditPayables

/-- Requests on the books: journal, write offs and credit payables. Statements and receivable runs write
their rows beside the books; their entries go through the journal. -/
inductive BookCall
  | writeOff (call : WriteOffCall)
  | proposeCredit (sourceType : CreditSource) (sourceId : ℕ) (contractId : Option ContractId)
      (amount : Option Decimal) (userId : Option UserId)
  | releaseCredit (rowId : CreditPayableId) (userId : Option UserId) (gateOpen : Bool)
      (bookingDate : Date)
  | putCreditSetting (setting : CreditPayableSetting)
  | setStatement (statementId : ℕ) (statement : Statement)
  | setReceivableItems (items : List ReceivableItem)

/-- Serve one request. -/
def bookStep (db : Db) : BookCall → Result Db
  | .writeOff call => writeOffStep db call
  | .proposeCredit sourceType sourceId contractId amount userId =>
    CreditPayables.propose db sourceType sourceId contractId amount userId
  | .releaseCredit rowId userId gateOpen bookingDate =>
    CreditPayables.release db rowId userId gateOpen bookingDate
  | .putCreditSetting setting => pure { db with creditPayableSetting := some setting }
  | .setStatement statementId statement =>
    pure { db with statements := db.statements.set statementId statement }
  | .setReceivableItems items => pure { db with receivableItems := items }

open Lib.Transition

variable {books next : Books}

/-- A credit of a posted statement result on a debtor account. -/
structure RentCredit (books : Books) (candidate : Candidate) (entryId : EntryId) (entry : JournalEntry)
    (accountId : AccountId) : Prop where
  entryNamed : candidate.sourceEntryId = some entryId
  accountNamed : candidate.debtorAccountId = some accountId
  ledger : candidate.ledgerId = entry.ledgerId
  amount : candidate.amount = CreditPayables.creditOf entry accountId
  found : books.entries[entryId]? = some entry
  kind : entry.kind = .statementResult
  posted : entry.isPosted
  unreversed : entry.reversedById = none
  debtor : categoryOf books accountId = some .debtor
  onLine : ∃ line ∈ entry.lines, line.accountId = accountId

namespace CreditPayables

theorem rentCandidates_facts (listed : candidate ∈ rentCandidates db) :
    ∃ entryId entry accountId, RentCredit db.books candidate entryId entry accountId := by
  obtain ⟨⟨entry, entryId⟩, present, listed⟩ := mem_flatMap.mp listed
  obtain ⟨accountId, ordered, isCandidate⟩ := mem_filterMap.mp listed
  simp only [rentCandidate, Option.bind_eq_bind, Option.bind_eq_some_iff] at isCandidate
  obtain ⟨⟨statementId, contractId⟩, -, isCandidate⟩ := isCandidate
  split at isCandidate
  · rename_i facts
    obtain ⟨kind, posted, unreversed, debtor, -⟩ := facts
    cases isCandidate
    exact ⟨entryId, entry, accountId, rfl, rfl, rfl, rfl, mem_zipIdx_iff_getElem?.mp present, kind, posted,
      unreversed, debtor, mem_accountOrder _ _ ordered⟩
  · cases isCandidate

theorem findCandidate_mem (found : findCandidate db sourceType sourceId contractId = .ok candidate) :
    candidate ∈ candidates db sourceType := by
  simp only [findCandidate, orRefuse_ok] at found
  exact mem_of_find?_eq_some found

/-- Only rent statements have proposals of the subledger variant. -/
def SubledgerRent (db : Db) : Prop :=
  ∀ row ∈ db.creditPayables, row.variant = .subledger → row.sourceType = .rentStatement

theorem propose_ok {db next : Db}
    (proposed : propose db sourceType sourceId contractId amount userId = .ok next) :
    ∃ row, (row.variant = .subledger → row.sourceType = .rentStatement) ∧ row.status = .proposed ∧
      next = { db with creditPayables := db.creditPayables ++ [row] } := by
  simp only [propose, bind_ok, exists_unit, require_ok] at proposed
  obtain ⟨-, rent, -, candidate, -, proposed⟩ := proposed
  split at proposed
  · simp only [bind_ok, exists_unit, require_ok, pure_ok] at proposed
    obtain ⟨-, -, rfl⟩ := proposed
    exact ⟨_, rent, rfl, rfl⟩
  · cases proposed

/-- The row after its release. -/
def Releases (row released : CreditPayable) : Prop :=
  released.variant = row.variant ∧ released.sourceType = row.sourceType ∧ released.status = .released

theorem release_ok {db next : Db} (rent : SubledgerRent db)
    (accepted : release db rowId userId gateOpen bookingDate = .ok next) :
    ∃ row candidate released, db.creditPayables[rowId]? = some row ∧
      findCandidate db row.sourceType row.sourceId row.contractId = .ok candidate ∧ Releases row released ∧
      ((row.variant = .subledger ∧ ∃ entryId entry accountId,
          RentCredit db.books candidate entryId entry accountId ∧
          Credits db.books (creditItem row entryId entry accountId) entry ∧
          next = { db with
            books := { db.books with
              openItems := db.books.openItems ++ [creditItem row entryId entry accountId] }
            creditPayables := db.creditPayables.set rowId released }) ∨
        (row.variant ≠ .subledger ∧ ∃ drafted, QuietStep db.books drafted ∧
          next = { db with
            books := drafted
            creditPayables := db.creditPayables.set rowId released })) := by
  simp only [release, bind_ok, exists_unit, require_ok, orRefuse_ok] at accepted
  obtain ⟨row, foundRow, -, -, -, -, -, candidate, isCandidate, within, ledger, -, accepted⟩ := accepted
  refine ⟨row, candidate, ?_⟩
  cases variant : row.variant with
  | subledger =>
    rw [variant] at accepted
    simp only [bind_ok, pure_ok] at accepted
    obtain ⟨⟨itemId, books⟩, item, rfl⟩ := accepted
    have isRent : row.sourceType = .rentStatement := rent row (mem_of_getElem? foundRow) variant
    have listed := findCandidate_mem isCandidate
    rw [isRent] at listed
    obtain ⟨entryId, entry, accountId, credit⟩ := rentCandidates_facts listed
    simp only [releaseItem, bind_ok, exists_unit, require_ok, orRefuse_ok, pure_ok, Prod.mk.injEq] at item
    obtain ⟨place, namesEntry, account, namesAccount, author, foundAuthor, alone, -, rfl⟩ := item
    obtain rfl : entryId = place := Option.mem_unique credit.entryNamed namesEntry
    obtain rfl : accountId = account := Option.mem_unique credit.accountNamed namesAccount
    obtain rfl : entry = author := Option.mem_unique credit.found foundAuthor
    have notReversal : entry.kind ≠ .reversal := by
      rw [credit.kind]
      decide
    have credits : Credits db.books (creditItem row entryId entry accountId) entry :=
      ⟨credit.found, credit.posted, credit.unreversed, notReversal, rfl, rfl, credit.debtor, credit.onLine,
        within.trans credit.amount.le, alone⟩
    refine ⟨_, foundRow, isCandidate, ?_, Or.inl ⟨rfl, entryId, entry, accountId, credit, credits, rfl⟩⟩
    exact ⟨variant.symm, rfl, rfl⟩
  | off | reclass =>
    rw [variant] at accepted
    simp only [bind_ok, pure_ok] at accepted
    obtain ⟨⟨entryId, drafted⟩, written, rfl⟩ := accepted
    simp only [releaseDraft, bind_ok, exists_unit, require_ok] at written
    obtain ⟨setting, -, creditor, -, -, sourceAccountId, -, written⟩ := written
    have notReversal : (reclassHeader row rowId bookingDate userId).kind ≠ .reversal := by
      change EntryKind.creditReclass ≠ .reversal
      decide
    refine ⟨_, foundRow, isCandidate, ?_, Or.inr ⟨by simp, drafted, draft_step notReversal written, rfl⟩⟩
    exact ⟨variant.symm, rfl, rfl⟩

theorem bookStep_subledgerRent {db next : Db} (rent : SubledgerRent db)
    (accepted : bookStep db call = .ok next) : SubledgerRent next := by
  cases call with
  | writeOff call =>
    have same : next.creditPayables = db.creditPayables := by rw [writeOffStep_frame accepted]
    intro row member
    rw [same] at member
    exact rent row member
  | proposeCredit sourceType sourceId contractId amount userId =>
    obtain ⟨added, ofRent, -, rfl⟩ := propose_ok accepted
    intro row member
    rcases mem_append.mp member with old | isAdded
    · exact rent row old
    · obtain rfl := mem_singleton.mp isAdded
      exact ofRent
  | releaseCredit rowId userId gateOpen bookingDate =>
    obtain ⟨old, candidate, released, found, -, ⟨variant, source, -⟩, effect⟩ := release_ok rent accepted
    have rows : next.creditPayables = db.creditPayables.set rowId released := by
      rcases effect with ⟨-, -, -, -, -, -, rfl⟩ | ⟨-, -, -, rfl⟩
      · rfl
      · rfl
    intro row member
    rw [rows] at member
    rcases mem_or_eq_of_mem_set member with kept | rfl
    · exact rent row kept
    · rw [variant, source]
      exact rent old (mem_of_getElem? found)
  | putCreditSetting | setStatement | setReceivableItems =>
    obtain rfl := pure_ok.mp accepted
    exact rent

end CreditPayables

theorem bookStep_steps {db next : Db} (sound : db.books.Sound) (rent : CreditPayables.SubledgerRent db)
    (accepted : bookStep db call = .ok next) : BookSteps db.books next.books := by
  cases call with
  | writeOff call => exact (writeOffStep_effect sound accepted).steps
  | proposeCredit sourceType sourceId contractId amount userId =>
    obtain ⟨-, -, -, rfl⟩ := CreditPayables.propose_ok accepted
    exact .refl
  | releaseCredit rowId userId gateOpen bookingDate =>
    obtain ⟨row, -, -, -, -, -, ⟨-, entryId, entry, accountId, -, credits, rfl⟩ | ⟨-, drafted, quiet, rfl⟩⟩ :=
      CreditPayables.release_ok rent accepted
    · exact .single (.credit _ entry credits)
    · exact .single (.ledger _ quiet.step)
  | putCreditSetting | setStatement | setReceivableItems =>
    obtain rfl := pure_ok.mp accepted
    exact .refl

/-- A database before its first draft, without proposals. -/
structure FreshOffice (db : Db) : Prop where
  books : db.books.Fresh
  writeOffs : db.writeOffs = []
  creditPayables : db.creditPayables = []

/-- What every request on the books keeps. -/
structure BookState (db : Db) : Prop where
  sound : db.books.Sound
  rent : CreditPayables.SubledgerRent db

theorem FreshOffice.bookState (fresh : FreshOffice db) : BookState db where
  sound := fresh.books.sound
  rent := by simp [CreditPayables.SubledgerRent, fresh.creditPayables]

theorem bookStep_state (db : Db) (call : BookCall) (next : Db) (holds : BookState db)
    (accepted : bookStep db call = .ok next) : BookState next where
  sound := (bookStep_steps holds.sound holds.rent accepted).sound holds.sound
  rent := CreditPayables.bookStep_subledgerRent holds.rent accepted

theorem book_state (fresh : FreshOffice start) (calls : List BookCall) :
    BookState (run bookStep start calls) :=
  run_invariant bookStep_state calls fresh.bookState

end Mhvp.Accounting
