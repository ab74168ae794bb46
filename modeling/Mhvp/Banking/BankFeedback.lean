import Mhvp.Banking.Matching
import Mhvp.Banking.OrderRequests

namespace Mhvp.Banking.Payments

open Core Accounting Lib.Calendar

/-- The transit account of the cash discounts. -/
def discountAccount (db : Db) (order : PaymentOrder) : Result AccountId :=
  orRefuse ((db.books.accounts.zipIdx.find? fun found =>
      found.1.ledgerId = order.ledgerId ∧ found.1.number = Matching.discountHoldingAccountNumber).map Prod.snd)
    .conflict (some "Konto 027000 Durchlaufposten Skonti fehlt im Buchungskreis.")

/-- The movement names this order, or none at all. -/
def RefersTo (tx : BankTransaction) (order : PaymentOrder) : Prop :=
  ∀ endToEndId ∈ tx.endToEndId, endToEndId = "" ∨ endToEndId ∈ ["NOTPROVIDED", order.endToEndId]

instance : Decidable (RefersTo tx order) := by unfold RefersTo; infer_instance

/-- A debit of the ordering account that pays the order at most once. -/
def checkDebit (order : PaymentOrder) (tx : BankTransaction) : Result Unit := do
  require (tx.propertyBankAccountId = order.propertyBankAccountId ∧ tx.amount < 0) .validation
    (some "Der Umsatz ist keine Belastung des auftraggebenden Kontos.")
  require (-tx.amount ≤ order.amount) .validation (some "Belastung höher als der Auftrag.")
  require (RefersTo tx order) .validation (some "Ende-zu-Ende-Referenz passt nicht zum Auftrag.")
  require (tx.status ≠ .booked) .conflict (some "Der Bankumsatz ist bereits anderweitig gebucht.")

/-- The discount is taken with the whole amount only. -/
def grantedDiscount (order : PaymentOrder) (paid : Decimal) : Decimal :=
  if paid = order.amount then order.discount else 0

def counterAccount (db : Db) (order : PaymentOrder) (granted : Decimal) : Result (Option AccountId) :=
  if granted ≠ 0 then (discountAccount db order).map some else pure none

/-- The paid part of the open item is settled, with its discount. -/
def executionBody (order : PaymentOrder) (paid : Decimal) (counter : Option AccountId) : Matching.BookIn where
  settlements := order.openItemId.toList.map fun openItemId =>
    { openItemId, amount := paid + grantedDiscount order paid }
  counterAccountId := counter
  text := some order.purpose
  discount := grantedDiscount order paid

def executed (order : PaymentOrder) (paid : Decimal) (txId : BankTransactionId) (entryId : EntryId) : PaymentOrder :=
  { order with
    executedAmount := some paid
    bankTransactionId := some txId
    journalEntryId := some entryId
    status := if paid = order.amount then .executed else .partiallyExecuted }

def executedStatuses : List OrderStatus := [.executed, .partiallyExecuted]

/-- Handed to the bank and not answered. -/
def sentStatuses : List OrderStatus := [.submitted, .acceptedByBank, .exported]

/-- A debit proves the execution and settles the payable once. Confirming it again has no effect. -/
def recordExecution (db : Db) (orderId : OrderId) (order : PaymentOrder) (txId : BankTransactionId)
    (userId : Option UserId) : Result Db :=
  if order.status ∈ executedStatuses ∧ order.bankTransactionId = some txId then pure db
  else do
    require (order.status ∈ sentStatuses) .conflict (some "Der Auftrag wurde nicht eingereicht.")
    let tx ← orRefuse db.bankTransactions[txId]? .resourceNotFound (some "Bankumsatz nicht gefunden.")
    checkDebit order tx
    let paid := -tx.amount
    let counter ← counterAccount db order (grantedDiscount order paid)
    let booking ← Matching.bookPayment db txId (executionBody order paid counter) none userId .bankImport
    let (entryId, booked) ← Matching.writeBooking db booking
    pure { booked with orders := booked.orders.set orderId (executed order paid txId entryId) }

/-- The credit on the statement is of the executed amount and not booked otherwise. -/
def checkCredit (db : Db) (order : PaymentOrder) : Option BankTransactionId → Result Unit
  | none => pure ()
  | some txId => do
      let credit ← orRefuse db.bankTransactions[txId]? .resourceNotFound (some "Bankumsatz nicht gefunden.")
      require (credit.propertyBankAccountId = order.propertyBankAccountId ∧ 0 < credit.amount) .validation
        (some "Der Umsatz ist keine Gutschrift auf dem auftraggebenden Konto.")
      require (credit.status ∉ [.booked, TransactionStatus.ignored]) .conflict
        (some "Der Bankumsatz ist bereits anderweitig gebucht.")
      require (credit.amount = (order.executedAmount.filter (· ≠ 0)).getD order.amount) .validation
        (some ("Der Rückgabebetrag weicht vom ausgeführten Betrag ab. Gebühren werden nur " ++
          "mit Beleg gesondert gebucht."))

/-- `reason or "Rückgabe durch die Bank"` -/
def returnReason (reason : Option String) : String :=
  (reason.filter (· ≠ "")).getD "Rückgabe durch die Bank"

/-- The credit counts as booked with the reversal. -/
def bookCredit (rows : List BankTransaction) (txId : Option BankTransactionId) (reversalId : EntryId) :
    List BankTransaction :=
  match txId with
  | some credit => rows.modify credit (Matching.bookedWith reversalId)
  | none => rows

/-- The posting is reversed, never edited, and the payable is open again. -/
def recordReturn (db : Db) (orderId : OrderId) (order : PaymentOrder) (reason : Option String)
    (txId : Option BankTransactionId) (userId : Option UserId) (bookingDate : Date) : Result Db :=
  if order.status = .returned then pure db
  else do
    let entryId ← orRefuse order.journalEntryId .conflict (some "Nur ausgeführte Aufträge können zurückkommen.")
    require (order.status ∈ executedStatuses) .conflict (some "Nur ausgeführte Aufträge können zurückkommen.")
    let _ ← orRefuse db.books.entries[entryId]? .conflict
    let _ ← orRefuse db.books.ledgers[order.ledgerId]? .conflict
    checkCredit db order txId
    let (reversalId, reversed) ← reverse db order.ledgerId entryId userId (returnReason reason) bookingDate .bankReturn
    pure { reversed with
      bankTransactions := bookCredit reversed.bankTransactions txId reversalId
      orders := reversed.orders.set orderId { order with status := .returned } }

inductive ManualStatus
  | submitted
  | acceptedByBank
  | rejected
  | executed
  | returned

def manualText : ManualStatus → String
  | .submitted => "submitted"
  | .acceptedByBank => "accepted_by_bank"
  | .rejected => "rejected"
  | .executed => "executed"
  | .returned => "returned"

structure BankStatusIn where
  status : ManualStatus
  reason : Option String := none
  bankTransactionId : Option BankTransactionId := none
  orderIds : Option (List OrderId) := none
  reasonFits : ∀ text ∈ reason, text.length ≤ 2000 := by simp

/-- The orders of a file; none named stands for all. -/
def ordersOfBatch (db : Db) (batchId : BatchId) (chosen : Option (List OrderId)) : List OrderId :=
  let ids := (db.orders.zipIdx.filter fun found => found.1.batchId = some batchId).map Prod.snd
  match chosen with
  | some (first :: others) => ids.filter fun orderId => orderId ∈ first :: others
  | _ => ids

/-- Submission and acceptance only move an order forward. -/
def acknowledged (order : PaymentOrder) (status : OrderStatus) : PaymentOrder :=
  if order.status ∈ [.exported, OrderStatus.submitted] then { order with status } else order

/-- The payable of a rejected order stays open. -/
def rejected (order : PaymentOrder) : Result PaymentOrder := do
  require (order.status ∉ executedStatuses) .conflict
    (some "Ausgeführte Aufträge werden über die Rückgabe korrigiert.")
  pure (if order.status = .rejected then order else { order with status := .rejected })

def putOrder (db : Db) (orderId : OrderId) (order : PaymentOrder) : Db :=
  { db with orders := db.orders.set orderId order }

/-- The feedback on one order. -/
def feedback (db : Db) (body : BankStatusIn) (userId : Option UserId) (today : Date) (orderId : OrderId) :
    Result Db := do
  let order ← orderOf db orderId
  match body.status with
  | .submitted => pure (putOrder db orderId (acknowledged order .submitted))
  | .acceptedByBank => pure (putOrder db orderId (acknowledged order .acceptedByBank))
  | .rejected => do
      let after ← rejected order
      pure (putOrder db orderId after)
  | .executed => do
      let txId ← orRefuse body.bankTransactionId .validation (some "Ausführung nur mit Bankumsatz als Nachweis.")
      recordExecution db orderId order txId userId
  | .returned => recordReturn db orderId order body.reason body.bankTransactionId userId today

/-- One order after the other; one refusal refuses all. -/
def feedbackAll (db : Db) (body : BankStatusIn) (userId : Option UserId) (today : Date) :
    List OrderId → Result Db
  | [] => pure db
  | orderId :: rest => do
      let next ← feedback db body userId today orderId
      feedbackAll next body userId today rest

def bankStatus (db : Db) (batchId : BatchId) (body : BankStatusIn) (userId : Option UserId) (today : Date)
    (now : Instant) : Result Db := do
  let batch ← orRefuse db.batches[batchId]? .resourceNotFound
  let next ← feedbackAll db body userId today (ordersOfBatch db batchId body.orderIds)
  let status := manualText body.status
  let answered := { batch with
    status, bankResponse := batch.bankResponse ++ [{ status, reason := body.reason, moment := now }] }
  pure { next with batches := next.batches.set batchId answered }

def batchOf (db : Db) (batchId : BatchId) : Result PaymentBatch :=
  orRefuse db.batches[batchId]? .resourceNotFound (some "Sammler nicht gefunden.")

/-- The file is handed out while its stored bytes are intact. -/
def downloadBatchFile (db : Db) (batchId : BatchId) (gateOpen intact : Bool) : Result Db := do
  require gateOpen .releaseGateClosed
  let batch ← batchOf db batchId
  require intact .paymentFileState
    (some "Die abgelegte Datei stimmt nicht mit der Prüfsumme des Sammlers überein.")
  pure { db with batches := db.batches.set batchId { batch with downloaded := true } }

/-- The named channel, else the one of the account. -/
def channelOf (db : Db) (batch : PaymentBatch) (channel : Option Channel) : Channel :=
  channel.getD (((PaymentRun.bankConfig db batch.propertyBankAccountId).map
    PaymentBankConfig.submissionChannel).getD .file)

def fintsDetail (flagged : Bool) : String :=
  if flagged then "FinTS-Einreichung ist noch nicht umgesetzt (Grundgerüst, M15-01)."
  else "FinTS-Einreichung ist vorbereitet, aber nicht freigeschaltet " ++
    "(MHVP_FINTS_PAYMENT_SUBMISSION, Betreiberentscheidung V2, M11-42)."

def prerequisites : List String :=
  ["EBICS-Vertrag mit der Bank je Konto und Teilnehmer (Host-ID, Partner-ID, User-ID)",
   "Initialisierung INI (Signaturschlüssel A005/A006) und HIA (Verschlüsselung E002, Authentifikation X002)",
   "Ausdruck und unterschriebener Versand der INI- und HIA-Briefe, Freischaltung durch die Bank",
   "Abholung und Prüfung der Bankschlüssel (HPB) gegen den Bankbrief",
   "Client-Bibliothek: fintech (joonis, lizenzpflichtig) oder Alternative; Betreiberentscheidung V2"]

def flagPrerequisite : String := "Feature-Flag MHVP_EBICS_PAYMENT_SUBMISSION je Mandant und Freigabetor G2"

def ebicsDetail (flagged : Bool) : String :=
  "EBICS: Dokumentation und Vertrag erforderlich. Offen: " ++
    "; ".intercalate (prerequisites ++ if flagged then [] else [flagPrerequisite])

/-- A file is submitted once. -/
def requireFile (batch : PaymentBatch) : Result Unit :=
  require (batch.submittedAt = none) .paymentFileState (some "Der Sammler wurde bereits eingereicht.")

/-- A person states the upload with the reference of the bank; the other channels refuse, flagged or not. -/
def submit (batch : PaymentBatch) (channel : Channel) (flagged : Bool) (reference : Option String) (userId : UserId)
    (now : Instant) : Result PaymentBatch :=
  match channel with
  | .file => do
      requireFile batch
      let given := strip (reference.getD "")
      require (given ≠ "") .validation (some "Bankreferenz oder Protokollnummer der Einreichung angeben.")
      pure { batch with
        submissionChannel := some .file
        submissionReference := some (clip given 140)
        submittedAt := some now
        submittedBy := some userId
        status := "submitted" }
  | .fints => do
      requireFile batch
      .error { error := .paymentChannelUnavailable, detail := some (fintsDetail flagged) }
  | .ebics => .error { error := .paymentChannelUnavailable, detail := some (ebicsDetail flagged) }

def submittedIn (batchId : BatchId) (order : PaymentOrder) : PaymentOrder :=
  if order.batchId = some batchId ∧ order.status = .exported then { order with status := .submitted } else order

def submitBatch (db : Db) (batchId : BatchId) (gateOpen : Bool) (channel : Option Channel) (flagged : Bool)
    (reference : Option String) (userId : UserId) (now : Instant) : Result Db := do
  require gateOpen .releaseGateClosed
  let batch ← batchOf db batchId
  require (channelOf db batch channel = .file → batch.downloaded = true) .paymentFileState
    (some "Die Datei wurde noch nicht heruntergeladen.")
  let sent ← submit batch (channelOf db batch channel) flagged reference userId now
  pure { db with
    orders := db.orders.map (submittedIn batchId)
    batches := db.batches.set batchId sent }

end Mhvp.Banking.Payments
