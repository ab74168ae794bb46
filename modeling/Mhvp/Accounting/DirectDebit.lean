import Mhvp.Banking.OrderRequests

/-! SEPA Core Direct Debit runs: due receivables of one ledger are collected under the mandates of their payers. -/

namespace Mhvp.Accounting.DirectDebit

open Core Contacts Banking Lib.Calendar

def painFormat : String := "pain.008.001.02"
def pain008Versions : List String := ["pain.008.001.02", "pain.008.001.08"]
def requiredApprovals : ℕ := 2

def activeRunStatuses : List RunStatus := [.draft, .approved, .fileGenerated, .exported]

def sepaChars : List Char :=
  "abcdefghijklmnopqrstuvwxyzABCDEFGHIJKLMNOPQRSTUVWXYZ0123456789/-?:().,'+ ".toList

def sepaChar : Char → List Char
  | 'ä' => ['a', 'e']
  | 'ö' => ['o', 'e']
  | 'ü' => ['u', 'e']
  | 'Ä' => ['A', 'e']
  | 'Ö' => ['O', 'e']
  | 'Ü' => ['U', 'e']
  | 'ß' => ['s', 's']
  | '&' => ['+']
  | char => if char ∈ sepaChars then [char] else ['.']

/-- Unknown characters become '.'; blanks are collapsed. -/
def sepaText (value : String) (limit : ℕ) : String :=
  let out := value.toList.flatMap sepaChar
  let words := (out.splitOn ' ').filter (· ≠ [])
  let text := (List.intercalate [' '] words).take limit
  if text = [] then "." else String.ofList text

/-- FRST on the first collection under a mandate, RCUR on every following one. -/
def sequenceType (previousUses : ℕ) : SequenceType := if previousUses = 0 then .frst else .rcur

/-- Why the contact bank account cannot be debited on the collection date. -/
def mandateBlockReason (account : ContactBankAccount) (collectionDate : Date) : Option String :=
  match approvalBlockReason account with
  | some unreleased => some unreleased
  | none =>
    if account.sepaEnabled = false then some "kein SEPA-Mandat auf der Bankverbindung"
    else if account.mandateStatus = .revoked ∨ account.mandateRevokedOn.isSome then some "Mandat widerrufen"
    else if account.mandateReference.getD "" = "" then some "Mandatsreferenz fehlt"
    else match account.mandateSignedOn with
      | none => some "Erteilungsdatum des Mandats fehlt"
      | some signedOn =>
        if account.mandateGrantedVia = none then some "Art der Mandatserteilung fehlt"
        else if collectionDate < signedOn then some "Mandat erst nach dem Einzugsdatum erteilt"
        else if account.mandateScheme ≠ .core then
          some ("B2B-Firmenlastschrift wird nicht unterstützt, kein B2B-Lauf (GAA-05);" ++
            " nur Basislastschrift (CORE)")
        else if account.validTo.any (· < collectionDate) then
          some "Bankverbindung am Einzugsdatum nicht mehr gültig"
        else if collectionDate < account.validFrom then
          some "Bankverbindung am Einzugsdatum noch nicht gültig"
        else none

/-- Legal entity first, tenant billing settings as fallback. -/
def creditorIdentifier (db : Db) (entity : LegalEntity) : Option String :=
  match entity.sepaCreditorId.filter (· ≠ "") with
  | some creditorId => some creditorId
  | none => db.billingCreditorId.filter (· ≠ "")

def checkLeadTime (collectionDate : Date) (leadDays : ℤ) (today : Date) : Result Unit := do
  require (0 ≤ leadDays) .validation (some "Vorlauffrist darf nicht negativ sein.")
  let start := dateText today
  require (today.addDays leadDays.toNat ≤ collectionDate) .validation
    (some (s!"Das Einzugsdatum unterschreitet die angegebene Vorlauffrist von {leadDays} Tagen ab {start}."))

def sequenceText : SequenceType → String
  | .frst => "FRST"
  | .rcur => "RCUR"

/-- Submission lead days per sequence type, if agreed with the bank. -/
def sequenceLeadBlock (config : Option PaymentBankConfig) (sequence : Option SequenceType)
    (collectionDate today : Date) : Option String :=
  match config, sequence with
  | some config, some sequence =>
    match (match sequence with | .frst => config.ddLeadDaysFrst | .rcur => config.ddLeadDaysRcur) with
    | some days =>
      if today.addDays days ≤ collectionDate then none
      else
        let name := sequenceText sequence
        some (s!"Einreichungsfrist {name} von {days} Tagen unterschritten " ++
          "(Bankvereinbarung, zu verifizieren)")
    | none => none
  | _, _ => none

def runStatus (db : Db) (runId : RunId) : Option RunStatus := (db.debitRuns[runId]?).map Run.status

/-- Collections from the account in runs that were handed out. -/
def previousUses (db : Db) (accountId : ContactBankAccountId) : ℕ :=
  (db.debits.filter fun order =>
    order.contactBankAccountId = accountId ∧ runStatus db order.runId = some .exported).length

def InActiveRun (db : Db) (order : Order) : Prop := ∃ status ∈ runStatus db order.runId, status ∈ activeRunStatuses

instance : DecidablePred (InActiveRun db) := fun _ => by unfold InActiveRun; infer_instance

def itemsInActiveRuns (db : Db) : List OpenItemId :=
  (db.debits.filter fun order => InActiveRun db order).map Order.openItemId

/-- Accounts touched by automatic postings whose review is still open. -/
def unreviewedAutoAccounts (db : Db) (ledgerId : LedgerId) : List AccountId :=
  (db.books.entries.zipIdx.filter fun found =>
    found.1.ledgerId = ledgerId ∧ found.1.isPosted ∧ found.2 ∈ db.autoReviewPending).flatMap fun found =>
      found.1.lines.map JournalLine.accountId

def unreviewedAutoReason : String :=
  "Automatikbuchung ohne abgeschlossene Nachkontrolle: zurückgestellt bis zur Nachkontrolle"

/-- Not written off, or written off only later; a flag without a day counts for every day. -/
def notWrittenOffAsOf (asOf : Date) (item : OpenItem) : Bool :=
  !item.writtenOff || item.writtenOffOn.any (asOf < ·)

/-- Open receivables of the ledger due up to the collection date, by due date. -/
def dueItems (db : Db) (ledgerId : LedgerId) (collectionDate : Date) (wanted : Option (List OpenItemId)) :
    List (OpenItem × OpenItemId) :=
  (db.books.openItems.zipIdx.filter fun found =>
    found.1.ledgerId = ledgerId ∧ found.1.kind = .receivable ∧ notWrittenOffAsOf collectionDate found.1 ∧
      found.1.dueDate ≤ collectionDate ∧ ∀ ids ∈ wanted, found.2 ∈ ids).insertionSort
    fun first second => first.1.dueDate ≤ second.1.dueDate

/-- A contact of the party, with one of its accounts under a mandate or none. -/
structure PartyAccount where
  contactId : ContactId
  contact : Contact
  account : Option (ContactBankAccount × ContactBankAccountId)

def accountsOf (db : Db) (contactId : ContactId) : List (ContactBankAccount × ContactBankAccountId) :=
  (db.contactBankAccounts.zipIdx.filter fun found =>
    found.1.contactId = contactId ∧ found.1.sepaEnabled = true).insertionSort
    fun first second => first.1.validFrom ≤ second.1.validFrom

def partyAccounts (db : Db) (partyId : PartyId) : List PartyAccount :=
  let members := (db.partyMembers.filter fun member => member.partyId = partyId).map PartyMember.contactId
  (members.insertionSort fun first second => first ≤ second).flatMap fun contactId =>
    match db.contacts[contactId]?.filter fun contact => contact.deleted = false with
    | none => []
    | some contact =>
      match accountsOf db contactId with
      | [] => [{ contactId, contact, account := none }]
      | accounts => accounts.map fun found => { contactId, contact, account := some found }

/-- Accounts that may be debited on the day. -/
def usable (members : List PartyAccount) (collectionDate : Date) :
    List (PartyAccount × ContactBankAccount × ContactBankAccountId) :=
  members.filterMap fun member => (member.account.filter fun found =>
    mandateBlockReason found.1 collectionDate = none).map fun found => (member, found)

def blockReasons (members : List PartyAccount) (collectionDate : Date) : List String :=
  members.filterMap fun member => member.account.bind fun found => mandateBlockReason found.1 collectionDate

def Candidate.block (candidate : Candidate) (reason : String) : Candidate :=
  { candidate with blockReason := some reason }

/-- The candidate of a contract, resolved to the mandate of its party. -/
def resolveParty (db : Db) (contract : Contract) (collectionDate : Date) (candidate : Candidate) : Candidate :=
  match partyAccounts db contract.partyId with
  | [] => candidate.block "kein Kontakt zur Vertragspartei"
  | first :: rest =>
    let known := { candidate with debtorName := first.contact.displayName, contactId := some first.contactId }
    match usable (first :: rest) collectionDate with
    | [] => known.block ((blockReasons (first :: rest) collectionDate).head?.getD
        "kein SEPA-Mandat der Vertragspartei")
    | [(member, account, accountId)] =>
      { known with
        contactId := some member.contactId
        debtorName := (account.holder.filter (· ≠ "")).getD member.contact.displayName
        contactBankAccountId := some accountId
        mandateReference := account.mandateReference
        mandateSignedOn := account.mandateSignedOn
        mandateScheme := some account.mandateScheme
        iban := some account.iban
        sequenceType := some (DirectDebit.sequenceType (previousUses db accountId)) }
    | _ => known.block "mehrere aktive Mandate der Vertragspartei, Auswahl nötig"

def candidateOf (db : Db) (ledger : Ledger) (ledgerId : LedgerId) (collectionDate : Date)
    (found : OpenItem × OpenItemId) (rest : Decimal) : Candidate :=
  let (item, itemId) := found
  let due := dateText item.dueDate
  let purpose := s!"Sollstellung faellig {due}"
  let candidate : Candidate :=
    { openItemId := itemId, contractId := item.contractId, dueDate := item.dueDate, amount := rest,
      debtorName := "unbekannt", purpose }
  if itemId ∈ itemsInActiveRuns db then candidate.block "bereits in einem Lastschriftlauf enthalten"
  else if item.accountId ∈ unreviewedAutoAccounts db ledgerId then candidate.block unreviewedAutoReason
  else match item.contractId.bind (db.books.contracts[·]?) with
    | none => candidate.block "keine Vertragspartei zur Sollstellung"
    | some contract =>
      if contract.legalEntityId ≠ ledger.legalEntityId then
        candidate.block "Vertrag gehört zu einem anderen Rechtsträger (B01)"
      else
        let number := contract.number
        resolveParty db contract collectionDate { candidate with purpose := s!"Vertrag {number} {purpose}" }

def candidatesOf (db : Db) (ledger : Ledger) (ledgerId : LedgerId) (collectionDate : Date) :
    List (OpenItem × OpenItemId) → Result (List Candidate)
  | [] => pure []
  | found :: others => do
      let rest ← remaining db.books found.2 none
      let candidates ← candidatesOf db ledger ledgerId collectionDate others
      if rest ≤ 0 then pure candidates
      else pure (candidateOf db ledger ledgerId collectionDate found rest :: candidates)

structure Selection where
  creditorId : String
  creditorName : String
  candidates : List Candidate

def Selection.eligible (selection : Selection) : List Candidate :=
  selection.candidates.filter fun candidate => candidate.blockReason = none

def Selection.excluded (selection : Selection) : List Candidate :=
  selection.candidates.filter fun candidate => candidate.blockReason ≠ none

def selectDue (db : Db) (ledger : Ledger) (ledgerId : LedgerId) (collectionDate : Date)
    (openItemIds : Option (List OpenItemId)) : Result Selection := do
  let entity ← orRefuse db.legalEntities[ledger.legalEntityId]? .resourceNotFound
    (some "Rechtsträger nicht gefunden.")
  let creditorId ← orRefuse (creditorIdentifier db entity) .validation
    (some "Keine Gläubiger-Identifikationsnummer hinterlegt (Rechtsträger oder Mandanteneinstellungen).")
  let candidates ← candidatesOf db ledger ledgerId collectionDate
    (dueItems db ledgerId collectionDate openItemIds)
  pure { creditorId, creditorName := entity.name, candidates }

/-- The order of a candidate; eligible candidates are complete by construction. -/
def debitOf (runId : RunId) (candidate : Candidate) (endToEndId : String) : Result Order :=
  match candidate.iban.filter (· ≠ ""), candidate.contactId, candidate.contactBankAccountId,
    candidate.mandateReference.filter (· ≠ ""), candidate.mandateSignedOn, candidate.sequenceType with
  | some iban, some contactId, some contactBankAccountId, some mandateReference, some mandateSignedOn,
    some sequenceType =>
      pure { runId, openItemId := candidate.openItemId, contractId := candidate.contractId, contactId,
             contactBankAccountId, mandateReference, mandateSignedOn,
             mandateScheme := candidate.mandateScheme.getD .core, sequenceType, amount := candidate.amount,
             debtorName := sepaText candidate.debtorName 70, debtorIban := iban,
             purpose := sepaText candidate.purpose 140, endToEndId, dueDate := candidate.dueDate }
  | _, _, _, _, _, _ => .error { error := .conflict, detail := some "Unvollständige Mandatsdaten." }

/-- Orders of the candidates; their end-to-end ids are drawn one after the other. -/
def debitsOf (runId : RunId) (endToEndIds : ℕ → String) : List Candidate → ℕ → Result (List Order)
  | [], _ => pure []
  | candidate :: rest, drawn => do
      let order ← debitOf runId candidate (endToEndIds drawn)
      let others ← debitsOf runId endToEndIds rest (drawn + 1)
      pure (order :: others)

/-- Body of a run request, with the user, the day and the drawn identifiers. -/
structure RunIn where
  ledgerId : LedgerId
  bankAccountId : BankAccountId
  collectionDate : Date
  leadDays : ℤ
  openItemIds : Option (List OpenItemId) := none
  today : Date
  userId : Option UserId := none
  messageId : String
  endToEndIds : ℕ → String

/-- Candidates that fall short of the agreed lead days are excluded as well. -/
def withLeadDays (db : Db) (body : RunIn) (selection : Selection) : Selection :=
  let config := PaymentRun.bankConfig db body.bankAccountId
  let checked (candidate : Candidate) : Candidate :=
    if candidate.blockReason = none then
      let reason := sequenceLeadBlock config candidate.sequenceType body.collectionDate body.today
      { candidate with blockReason := reason }
    else candidate
  { selection with candidates := selection.candidates.map checked }

def excludedText (candidate : Candidate) : String :=
  let name := candidate.debtorName
  let reason := candidate.blockReason.getD "None"
  s!"{name}: {reason}"

def createRun (db : Db) (body : RunIn) : Result (Run × List Order) := do
  let ledger ← orRefuse db.books.ledgers[body.ledgerId]? .resourceNotFound (some "Buchungskreis nicht gefunden.")
  checkLeadTime body.collectionDate body.leadDays body.today
  require (Leading.isLeading db ledger body.ledgerId .directDebit body.collectionDate) .conflict
    (some "Lastschriften löst nur das führende System aus (13.1, 6.9.10).")
  let bank ← orRefuse (db.bankAccounts[body.bankAccountId]?.filter (·.legalEntityId = ledger.legalEntityId))
    .accWrongEntity (some "Einzug nur auf ein Konto des Rechtsträgers des Buchungskreises.")
  require (bank.segregated = false) .validation (some "Auf das getrennte Kautionskonto wird nicht eingezogen.")
  let due ← selectDue db ledger body.ledgerId body.collectionDate body.openItemIds
  let selection := withLeadDays db body due
  require (body.openItemIds = none ∨ selection.excluded = []) .conflict
    (some ("Nicht einziehbar: " ++ "; ".intercalate (selection.excluded.map excludedText)))
  require (selection.eligible ≠ []) .validation (some "Keine einziehbaren Sollstellungen.")
  let orders ← debitsOf db.debitRuns.length body.endToEndIds selection.eligible 0
  pure ({ ledgerId := body.ledgerId, legalEntityId := ledger.legalEntityId,
          propertyBankAccountId := body.bankAccountId, creditorId := selection.creditorId,
          creditorName := sepaText selection.creditorName 70, collectionDate := body.collectionDate,
          leadDays := body.leadDays, messageId := body.messageId, format := painFormat,
          controlSum := (selection.eligible.map Candidate.amount).sum,
          transactionCount := selection.eligible.length, excluded := selection.excluded,
          createdBy := body.userId }, orders)

/-- Orders of a run, FRST before RCUR. -/
def ordersOf (db : Db) (runId : RunId) : List Order :=
  let orders := db.debits.filter fun order => order.runId = runId
  (orders.filter fun order => order.sequenceType = .frst) ++ orders.filter fun order => order.sequenceType = .rcur

def snapshot (run : Run) (orders : List Order) : Snapshot where
  creditorId := run.creditorId
  bank := run.propertyBankAccountId
  date := run.collectionDate
  orders := orders.map fun order =>
    (order.endToEndId, order.amount, order.debtorIban, order.mandateReference, order.sequenceType)

def validApprovals (db : Db) (runId : RunId) (run : Run) : List Approval :=
  db.debitApprovals.filter fun approval => approval.runId = runId ∧ approval.invalidated = false ∧
    approval.snapshotHash = snapshot run (ordersOf db runId)

def approvers (approvals : List Approval) : List UserId := (approvals.map Approval.userId).dedup

def runOf (db : Db) (runId : RunId) : Result Run := orRefuse db.debitRuns[runId]? .resourceNotFound

/-- The new approval and the run with it; a repeated click adds none. -/
def approve (db : Db) (runId : RunId) (userId : UserId) (isPlatformAdmin : Bool) :
    Result (Option (Approval × Run)) := do
  let run ← runOf db runId
  require (run.status ∈ [.draft, RunStatus.approved]) .conflict
    (some "Der Lauf kann nicht mehr freigegeben werden.")
  require (isPlatformAdmin = false) .gateFourEyes
    (some "Plattformadministratoren zählen nicht als Freigabeinstanz.")
  require (¬ (run.createdBy = some userId ∧ db.creatorMayNotApprove = true)) .gateFourEyes
    (some "Der Ersteller des Laufs darf ihn nicht selbst freigeben (Mandantenschalter).")
  let valid := validApprovals db runId run
  if userId ∈ approvers valid then pure none
  else do
    Payments.ensureDifferentPerson db userId (approvers valid)
    let approval : Approval := { runId, userId, snapshotHash := snapshot run (ordersOf db runId) }
    let reached := requiredApprovals ≤ (approvers (valid ++ [approval])).length
    pure (some (approval, if reached then { run with status := .approved } else run))

/-- The run to discard, whose approvals are void. -/
def cancelRun (db : Db) (runId : RunId) : Result Run := do
  let run ← runOf db runId
  require (run.status ≠ .exported) .conflict (some "Ausgegebene Dateien werden über die Bank storniert.")
  pure { run with status := .cancelled }

/-- Findings of one collection of the file; names and purposes are never blank in it. -/
def debitProblems (order : Order) : List String :=
  (if Payments.isBlank order.endToEndId then ["DrctDbtTxInf/PmtId/p:EndToEndId fehlt."] else []) ++
  (if Payments.isBlank order.mandateReference then ["DrctDbtTxInf/DrctDbtTx/p:MndtRltdInf/p:MndtId fehlt."]
    else []) ++
  (if Payments.isBlank order.debtorIban then ["DrctDbtTxInf/DbtrAcct/p:Id/p:IBAN fehlt."] else []) ++
  (if order.amount ≤ 0 then ["DrctDbtTxInf/InstdAmt muss größer als 0 sein."] else [])

/-- Findings of the payments of one sequence type. -/
def groupProblems (bank : PropertyBankAccount) (run : Run) (orders : List Order) : List String :=
  if orders = [] then []
  else
    (if Payments.isBlank bank.iban then ["PmtInf/CdtrAcct/Id/IBAN fehlt."] else []) ++
    (if Payments.isBlank run.creditorId then ["PmtInf/CdtrSchmeId (Gläubiger-Identifikation) fehlt."] else []) ++
    orders.flatMap debitProblems

/-- What the check of the generated file can find: counts and sums are those of the orders. -/
def fileProblems (bank : PropertyBankAccount) (run : Run) (orders : List Order) : List String :=
  (if Payments.isBlank run.messageId then ["GrpHdr/MsgId fehlt."] else []) ++
  groupProblems bank run (orders.filter fun order => order.sequenceType = .frst) ++
  groupProblems bank run (orders.filter fun order => order.sequenceType = .rcur) ++
  (if (orders.map Order.endToEndId).Nodup then [] else ["EndToEndId ist nicht eindeutig."])

/-- The run with its file, filed as document `documentId`. -/
def generateFile (db : Db) (runId : RunId) (documentId : DocumentId) : Result Run := do
  let run ← runOf db runId
  require (run.status = .approved) .gateFourEyes (some "Nur vollständig freigegebene Lastschriftläufe.")
  require (requiredApprovals ≤ (approvers (validApprovals db runId run)).length) .gateFourEyes
    (some "Nur vollständig freigegebene Lastschriftläufe.")
  let ledger ← orRefuse db.books.ledgers[run.ledgerId]? .conflict
    (some "Lastschriften löst nur das führende System aus (13.1, 6.9.10).")
  require (Leading.isLeading db ledger run.ledgerId .directDebit run.collectionDate) .conflict
    (some "Lastschriften löst nur das führende System aus (13.1, 6.9.10).")
  let bank ← orRefuse db.bankAccounts[run.propertyBankAccountId]? .resourceNotFound
  let version := (((PaymentRun.bankConfig db run.propertyBankAccountId).map
    PaymentBankConfig.pain008Version).filter (· ∈ pain008Versions)).getD painFormat
  let orders := ordersOf db runId
  require (orders ≠ []) .validation (some "Keine Lastschriften im Lauf.")
  let problems := fileProblems bank run orders
  require (problems = []) .validation (some ("Lastschriftdatei fehlerhaft: " ++ " ".intercalate problems))
  pure { run with documentId := some documentId, format := version, status := .fileGenerated }

/-- The run whose file is handed out, and whether this is the first time. -/
def downloadFile (db : Db) (runId : RunId) (gateOpen : Bool) : Result (Run × Bool) := do
  require gateOpen .releaseGateClosed
  let run ← runOf db runId
  require (run.status ∈ [.fileGenerated, RunStatus.exported]) .conflict
    (some "Für den Lauf liegt keine Datei vor.")
  require (∃ documentId ∈ run.documentId, documentId ∈ db.documents) .resourceNotFound
    (some "Datei nicht gefunden.")
  pure ({ run with status := .exported }, run.status ≠ .exported)

end Mhvp.Accounting.DirectDebit
