import Mhvp.Accounting.MandateUses

namespace Mhvp.Accounting.DirectDebit

open Core Banking Lib.Calendar Lib.Transition

/-- Allowed predecessor states of each reported status. -/
def predecessors : DebitStatus → List DebitStatus
  | .opened => []
  | .accepted => [.opened]
  | .rejected => [.opened, .accepted]
  | .collected => [.opened, .accepted]
  | .returned => [.opened, .accepted, .collected]

def statusText : DebitStatus → String
  | .opened => "open"
  | .accepted => "accepted"
  | .rejected => "rejected"
  | .collected => "collected"
  | .returned => "returned"

/-- One bank feedback with its evidence. -/
structure Feedback where
  status : DebitStatus
  reason : Option String := none
  reasonCode : Option String := none
  collectedAmount : Option Decimal := none
  bankTransactionId : Option BankTransactionId := none
  returnedOn : Option Date := none
  returnFeeAmount : Option Decimal := none
  returnFeeDocumentId : Option DocumentId := none

def Feedback.hasReturnData (feedback : Feedback) : Bool :=
  feedback.returnedOn.isSome || feedback.returnFeeAmount.isSome || feedback.returnFeeDocumentId.isSome

def feedbackTx (db : Db) (run : Run) (bankTransactionId : BankTransactionId) : Result BankTransaction := do
  let tx ← orRefuse db.bankTransactions[bankTransactionId]? .resourceNotFound (some "Bankumsatz nicht gefunden.")
  require (tx.propertyBankAccountId = run.propertyBankAccountId) .validation
    (some "Der Umsatz gehört nicht zum Gläubigerkonto des Laufs.")
  pure tx

def checkFeeDocument (db : Db) (documentId : Option DocumentId) : Result Unit :=
  require (∀ document ∈ documentId, document ∈ db.documents) .resourceNotFound
    (some "Gebührenbeleg nicht gefunden.")

/-- The movement the feedback names, which is a credit for a collection and a debit for a return. -/
def namedTx (db : Db) (run : Run) (feedback : Feedback) : Result (Option (BankTransactionId × BankTransaction)) :=
  match feedback.bankTransactionId with
  | none => pure none
  | some bankTransactionId => do
      let tx ← feedbackTx db run bankTransactionId
      require (feedback.status = .collected → 0 < tx.amount) .validation (some "Ein Einzug ist eine Gutschrift.")
      require (feedback.status = .returned → tx.amount < 0) .validation
        (some "Eine Rücklastschrift ist eine Belastung.")
      pure (some (bankTransactionId, tx))

/-- A missing value is completed, a recorded one is never replaced. -/
def complete [DecidableEq α] (recorded reported : Option α) : Result (Option α) :=
  match recorded, reported with
  | recorded, none => pure recorded
  | none, some value => pure (some value)
  | some known, some value => do
      require (known = value) .conflict
        (some "Die Angaben zur Rücklastschrift sind bereits erfasst und werden nicht überschrieben.")
      pure (some known)

/-- The order with completed evidence of its return; none if nothing is new. -/
def completeReturn (db : Db) (run : Run) (order : Order) (feedback : Feedback) : Result (Option Order) := do
  let tx ← namedTx db run feedback
  checkFeeDocument db feedback.returnFeeDocumentId
  let returnedOn ← complete order.returnedOn feedback.returnedOn
  let returnFeeAmount ← complete order.returnFeeAmount feedback.returnFeeAmount
  let returnFeeDocumentId ← complete order.returnFeeDocumentId feedback.returnFeeDocumentId
  let returnTransactionId ← complete order.returnTransactionId (tx.map Prod.fst)
  let completed := { order with returnedOn, returnFeeAmount, returnFeeDocumentId, returnTransactionId }
  pure (if completed = order then none else some completed)

/-- The order under its new status. A return keeps the reference of the collection. -/
def record (order : Order) (feedback : Feedback) (amount : Decimal)
    (tx : Option (BankTransactionId × BankTransaction)) : Order :=
  let reported := { order with
    bankStatus := feedback.status
    bankStatusReason := (feedback.reason.filter (· ≠ "")).map fun reason => clip reason 500
    bankStatusReasonCode := (feedback.reasonCode.filter (· ≠ "")).map fun code => clip code 8 }
  match feedback.status with
  | .returned =>
    { reported with
      returnTransactionId := (tx.map Prod.fst).or order.returnTransactionId
      returnedOn := feedback.returnedOn.or (tx.map fun found => found.2.bookingDate)
      returnFeeAmount := feedback.returnFeeAmount
      returnFeeDocumentId := feedback.returnFeeDocumentId }
  | .collected =>
    { reported with
      bankTransactionId := (tx.map Prod.fst).or order.bankTransactionId
      collectedAmount := some amount }
  | _ => { reported with bankTransactionId := (tx.map Prod.fst).or order.bankTransactionId }

/-- The order after the feedback; none if it repeats the current state. -/
def applyStatus (db : Db) (run : Run) (order : Order) (feedback : Feedback) (today : Date) :
    Result (Option Order) := do
  require (run.status = .exported) .conflict
    (some "Bankrückmeldungen gibt es nur zu ausgegebenen Lastschriftdateien.")
  require (∀ day ∈ feedback.returnedOn, day ≤ today) .validation (some "Das Rückgabedatum liegt in der Zukunft.")
  require (feedback.hasReturnData → feedback.status = .returned) .validation
    (some "Rückgabedatum und Gebühr nur bei einer Rücklastschrift.")
  if order.bankStatus = feedback.status then
    if feedback.status = .returned ∧ (feedback.hasReturnData ∨ feedback.bankTransactionId.isSome) then
      completeReturn db run order feedback
    else pure none
  else do
    let reported := statusText feedback.status
    let current := statusText order.bankStatus
    require (order.bankStatus ∈ predecessors feedback.status) .conflict
      (some (s!"Rückmeldung {reported} nach Status {current} nicht zulässig."))
    require (feedback.collectedAmount.isSome → feedback.status ∈ [.collected, DebitStatus.returned]) .validation
      (some "Betrag nur bei Einzug oder Rückgabe.")
    let amount := feedback.collectedAmount.getD order.amount
    require (0 < amount ∧ amount ≤ order.amount) .validation
      (some "Der gemeldete Betrag muss positiv sein und darf die Lastschrift nicht übersteigen.")
    let tx ← namedTx db run feedback
    require (feedback.status = .returned → ∀ document ∈ feedback.returnFeeDocumentId, document ∈ db.documents)
      .resourceNotFound (some "Gebührenbeleg nicht gefunden.")
    pure (some (record order feedback amount tx))

/-- Body of a manual feedback on the orders of a run. -/
structure BankStatusIn extends Feedback where
  orderIds : Option (List DebitId) := none

/-- What the schema of the body admits. -/
def BankStatusIn.Admitted (body : BankStatusIn) : Prop :=
  body.status ≠ .opened ∧
  (∀ ids ∈ body.orderIds, 1 ≤ ids.length ∧ ids.length ≤ 2000) ∧
  (∀ reason ∈ body.reason, reason.length ≤ 500) ∧
  (∀ code ∈ body.reasonCode, 1 ≤ code.length ∧ code.length ≤ 8) ∧
  (∀ amount ∈ body.collectedAmount, 0 < amount ∧ IsCents amount) ∧
  ∀ fee ∈ body.returnFeeAmount, 0 ≤ fee ∧ IsCents fee

instance (body : BankStatusIn) : Decidable body.Admitted := by
  unfold BankStatusIn.Admitted
  infer_instance

/-- Ids of the orders of a run, FRST before RCUR. -/
def debitIdsOf (db : Db) (runId : RunId) : List DebitId :=
  let orders := db.debits.zipIdx.filter fun found => found.1.runId = runId
  ((orders.filter fun found => found.1.sequenceType = .frst) ++
    orders.filter fun found => found.1.sequenceType = .rcur).map Prod.snd

/-- The feedback on one order after the other; one refusal refuses all. -/
def applyEach (db : Db) (run : Run) (feedback : Feedback) (today : Date) :
    List DebitId → List Order → Result (List Order)
  | [], debits => pure debits
  | orderId :: rest, debits => do
      let order ← orRefuse debits[orderId]? .resourceNotFound
      let answer ← applyStatus db run order feedback today
      applyEach db run feedback today rest (debits.set orderId (answer.getD order))

def bankStatus (db : Db) (runId : RunId) (body : BankStatusIn) (today : Date) : Result (List Order) := do
  require body.Admitted .validation
  let run ← runOf db runId
  let orderIds := debitIdsOf db runId
  let chosen := match body.orderIds with
    | some wanted => orderIds.filter fun orderId => orderId ∈ wanted
    | none => orderIds
  require (∀ wanted ∈ body.orderIds, chosen.length = wanted.dedup.length) .validation
    (some "Lastschrift nicht im Lauf.")
  require (body.collectedAmount.isSome ∨ body.bankTransactionId.isSome ∨ body.hasReturnData → chosen.length = 1)
    .validation (some "Betrag und Bankumsatz nur für eine Lastschrift.")
  applyEach db run body.toFeedback today chosen db.debits

def reportedDebit : ReportedStatus → Option DebitStatus
  | .accepted => some .accepted
  | .rejected => some .rejected
  | .collected => some .collected
  | .returned => some .returned
  | .debited => none
  | .info => none

/-- The feedback a line reports. -/
def lineFeedback (line : StatusLine) : Option Feedback :=
  (reportedDebit line.status).map fun status =>
    { status
      reasonCode := line.reasonCode
      collectedAmount := if status = .collected then line.amount else none
      returnedOn := if status = .returned then line.bookedOn else none }

/-- A refused line leaves the order as it is. -/
def applyDebit (db : Db) (today : Date) (order : Order) (line : StatusLine) : Order :=
  match db.debitRuns[order.runId]?, lineFeedback line with
  | some run, some feedback =>
    match applyStatus db run order feedback today with
    | .ok answer => answer.getD order
    | .error _ => order
  | _, _ => order

/-- All orders of a run whose file was rejected as a whole are rejected. -/
def rejectedRun (db : Db) (report : ParsedReport) : List StatusLine :=
  match report.originalMessageId with
  | some messageId =>
    if report.lines = [] ∧ report.groupRejected then
      match db.debitRuns.findIdx? fun run => run.messageId = messageId with
      | some runId => (db.debits.filter fun order => order.runId = runId).map fun order =>
        BankStatus.rejection order.endToEndId
      | none => []
    else []
  | none => []

/-- The collection a line refers to, if its reference is no transfer. -/
def debitOfLine (db : Db) (line : StatusLine) : Option DebitId :=
  match BankStatus.transferOf db line with
  | some _ => none
  | none =>
    match line.endToEndId.filter fun endToEndId => endToEndId ≠ "" ∧ endToEndId ≠ "NOTPROVIDED" with
    | some endToEndId => db.debits.findIdx? fun order => order.endToEndId = endToEndId
    | none => none

def debitLines (db : Db) (lines : List StatusLine) : List (DebitId × StatusLine) :=
  lines.filterMap fun line => (debitOfLine db line).map fun orderId => (orderId, line)

def applyDebitLines (db : Db) (today : Date) (debits : List Order) (lines : List (DebitId × StatusLine)) :
    List Order :=
  lines.foldl (fun debits found => debits.modify found.1 fun order => applyDebit db today order found.2) debits

/-- A known checksum changes nothing. -/
def importReport (db : Db) (checksum : String) (report : ParsedReport) (today : Date) : Db :=
  if checksum ∈ db.reports then db
  else
    let lines := BankStatus.reportLines db report ++ rejectedRun db report
    { db with
      orders := BankStatus.applyLines db.orders (BankStatus.transferLines db lines)
      debits := applyDebitLines db today db.debits (debitLines db lines)
      reports := db.reports ++ [checksum] }

inductive FeedbackRequest
  /-- The life of the runs, and requests of other parts of the program. -/
  | debit (request : DebitRequest)
  | bankStatus (runId : RunId) (body : BankStatusIn) (today : Date)
  | importReport (checksum : String) (report : ParsedReport) (today : Date)

def feedbackStep (db : Db) : FeedbackRequest → Result Db
  | .debit request => debitStep db request
  | .bankStatus runId body today => do
      let debits ← bankStatus db runId body today
      pure { db with debits }
  | .importReport checksum report today => pure (importReport db checksum report today)

end Mhvp.Accounting.DirectDebit
