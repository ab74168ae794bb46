import Mhvp.Banking.Payments
import Mhvp.Lib.Locking
import Mhvp.Lib.Table

namespace Mhvp.Banking

open Core Accounting Lib.Calendar Lib.Aggregate

/-- Order states that count against the daily limit of the ordering account. -/
def limitStatuses : List OrderStatus := [.exported, .submitted, .acceptedByBank, .executed, .partiallyExecuted]

namespace PaymentRun

def bankConfig (db : Db) (accountId : BankAccountId) : Option PaymentBankConfig :=
  db.bankConfigs.find? fun config => config.propertyBankAccountId = accountId

/-- Sum of the orders for one execution date. -/
def dayTotal (orders : List PaymentOrder) (day : Date) : Decimal :=
  sumWhere (fun order => order.executionDate = day) PaymentOrder.amount orders

def executionDays (orders : List PaymentOrder) : List Date :=
  ((orders.map PaymentOrder.executionDate).dedup).insertionSort fun first second => first ≤ second

def singleFinding (limit : Decimal) (order : PaymentOrder) : Option String :=
  if limit < order.amount then
    let name := order.counterpartName
    let amount := order.amount.text
    let limit := limit.text
    some s!"{name}: {amount} EUR über dem Einzelauftragslimit {limit} EUR"
  else none

def dailyFinding (limit : Decimal) (total : Date → Decimal) (day : Date) : Option String :=
  if limit < total day then
    let date := dateText day
    let sum := (total day).text
    let limit := limit.text
    some s!"Ausführung {date}: Summe {sum} EUR über dem Tageslimit {limit} EUR"
  else none

/-- Findings of orders of one account against the agreed limits, including orders already handed out. -/
def limitFindings (orders : List PaymentOrder) (config : PaymentBankConfig) (already : Date → Decimal) :
    List String :=
  (match config.singleOrderLimit with
    | some limit => orders.filterMap (singleFinding limit)
    | none => []) ++
  (match config.dailyLimit with
    | some limit => (executionDays orders).filterMap
        (dailyFinding limit fun day => already day + dayTotal orders day)
    | none => [])

/-- Orders of the account already handed out for the day, apart from some. -/
def alreadyOut (db : Db) (accountId : BankAccountId) (exclude : List OrderId) (day : Date) : Decimal :=
  sumWhere (fun found : PaymentOrder × OrderId => found.1.propertyBankAccountId = accountId ∧
      found.1.executionDate = day ∧ found.1.status ∈ limitStatuses ∧ found.2 ∉ exclude)
    (fun found => found.1.amount) db.orders.zipIdx

/-- Refuse a payment file that exceeds a limit agreed with the bank of the account. -/
def ensureAccountLimits (db : Db) (orders : List (PaymentOrder × OrderId)) (accountId : BankAccountId) :
    Result Unit :=
  let group := orders.filter fun found => found.1.propertyBankAccountId = accountId
  match bankConfig db accountId with
  | none => pure ()
  | some config =>
    let findings := limitFindings (group.map Prod.fst) config (alreadyOut db accountId (group.map Prod.snd))
    require (findings = []) .conflict (some ("Banklimit überschritten: " ++ "; ".intercalate findings))

def ensureWithinLimits (db : Db) (orders : List (PaymentOrder × OrderId)) : List BankAccountId → Result Unit
  | [] => pure ()
  | accountId :: rest => do
      ensureAccountLimits db orders accountId
      ensureWithinLimits db orders rest

end PaymentRun

namespace Payments

def pain001Versions : List String := ["pain.001.001.03", "pain.001.001.09"]

def controlSum (orders : List PaymentOrder) : Decimal := (orders.map PaymentOrder.amount).sum

def isBlank (text : String) : Bool := strip text = ""

/-- Findings of one transfer of the file; names and purposes are never blank in it. -/
def transferProblems (order : PaymentOrder) : List String :=
  (if isBlank order.endToEndId then ["CdtTrfTxInf/PmtId/EndToEndId fehlt."] else []) ++
  (if isBlank order.counterpartIban then ["CdtTrfTxInf/CdtrAcct/Id/IBAN fehlt."] else []) ++
  (if order.amount ≤ 0 then ["CdtTrfTxInf/Amt/InstdAmt muss größer als 0 sein."] else [])

/-- What the check of the generated file can find: counts and sums are those of the orders. -/
def fileProblems (bank : PropertyBankAccount) (orders : List PaymentOrder) : List String :=
  (PaymentRun.executionDays orders).flatMap (fun day =>
    (if isBlank bank.iban then ["PmtInf/DbtrAcct/Id/IBAN fehlt."] else []) ++
      (orders.filter fun order => order.executionDate = day).flatMap transferProblems) ++
  (if (orders.map fun order => clip order.endToEndId 35).Nodup then [] else ["EndToEndId ist nicht eindeutig."])

/-- The orders of a request, in the order of their ids. The rows are locked. -/
def lockedOrders (db : Db) : List OrderId → Result (List (PaymentOrder × OrderId))
  | [] => pure []
  | orderId :: rest => do
      let order ← orderOf db orderId
      let others ← lockedOrders db rest
      pure ((order, orderId) :: others)

def FullyApproved (db : Db) (found : PaymentOrder × OrderId) : Prop :=
  found.1.status = .approved ∧ 2 ≤ (approvers (validApprovals db found.2 found.1)).length

instance : Decidable (FullyApproved db found) := inferInstanceAs (Decidable (_ ∧ _))

def leadsLedger (db : Db) (ledgerId : LedgerId) : Bool :=
  db.books.ledgers[ledgerId]?.any fun ledger => ledger.leadingSystem = .mhvp

/-- The file of a request and the ids of its orders. -/
def createBatch (db : Db) (orderIds : List OrderId) (gateOpen : Bool) (messageId : String) :
    Result (PaymentBatch × List OrderId) := do
  require gateOpen .releaseGateClosed
  let ids := orderIds.dedup.insertionSort fun first second => first ≤ second
  let found ← lockedOrders db ids
  let orders := found.map Prod.fst
  let banks := (orders.map PaymentOrder.propertyBankAccountId).dedup
  match banks with
  | [bankId] => do
      require (∀ each ∈ found, FullyApproved db each) .gateFourEyes (some "Nur vollständig freigegebene Aufträge.")
      require (∀ order ∈ orders, leadsLedger db order.ledgerId) .conflict
        (some "Zahlungsaufträge löst nur das führende System aus (13.1, 6.9.10).")
      PaymentRun.ensureWithinLimits db found banks
      let bank ← orRefuse db.bankAccounts[bankId]? .resourceNotFound
      let version := ((PaymentRun.bankConfig db bankId).map PaymentBankConfig.pain001Version).getD "pain.001.001.09"
      require (version ∈ pain001Versions) .validation (some s!"Unbekannte pain.001-Version {version}.")
      let problems := fileProblems bank orders
      require (problems = []) .validation
        (some ("Zahlungsdatei fehlerhaft: " ++ " ".intercalate problems))
      pure ({ propertyBankAccountId := bankId, messageId, format := version, transactionCount := orders.length,
              controlSum := controlSum orders }, ids)
  | _ => .error { error := .validation, detail := some "Eine Datei je Auftraggeberkonto." }

end Payments

/-- `accepted`, `rejected`, `collected`, `returned`, `debited` or `info`. -/
inductive ReportedStatus
  | accepted
  | rejected
  | collected
  | returned
  | debited
  | info

/-- One reported transaction. -/
structure StatusLine where
  endToEndId : Option String
  status : ReportedStatus
  reasonCode : Option String := none
  amount : Option Decimal := none
  bookedOn : Option Date := none

namespace BankStatus

/-- A line on a transfer changes its status only; execution and return are proven by the statement. -/
def applyTransfer (order : PaymentOrder) (line : StatusLine) : PaymentOrder :=
  let reported := match line.reasonCode.filter (· ≠ "") with
    | some code => { order with bankStatusReasonCode := some (clip code 8) }
    | none => order
  match line.status with
  | .accepted =>
    if order.status ∈ [.exported, OrderStatus.submitted] then { reported with status := .acceptedByBank }
    else reported
  | .rejected =>
    if order.status ∈ [.exported, .submitted, OrderStatus.acceptedByBank] then
      { reported with status := .rejected }
    else reported
  | _ => reported

theorem applyTransfer_cases (order : PaymentOrder) (line : StatusLine) : ∃ reasonCode,
    applyTransfer order line = { order with bankStatusReasonCode := reasonCode } ∨
      ∃ status, applyTransfer order line = { order with bankStatusReasonCode := reasonCode, status } ∧
        (status = .acceptedByBank ∧ order.status ∈ [.exported, OrderStatus.submitted] ∨
          status = .rejected ∧ order.status ∈ [.exported, .submitted, OrderStatus.acceptedByBank]) := by
  refine ⟨(applyTransfer order line).bankStatusReasonCode, ?_⟩
  unfold applyTransfer
  cases line.status with
  | accepted =>
    dsimp only
    split
    · rename_i sent
      exact Or.inr ⟨_, by split <;> rfl, Or.inl ⟨rfl, sent⟩⟩
    · exact Or.inl (by split <;> rfl)
  | rejected =>
    dsimp only
    split
    · rename_i sent
      exact Or.inr ⟨_, by split <;> rfl, Or.inr ⟨rfl, sent⟩⟩
    · exact Or.inl (by split <;> rfl)
  | _ => exact Or.inl (by split <;> rfl)

end BankStatus

open Contacts Lib.Locking

/-- Lines of a status report; a file rejected as a whole names the message only. -/
structure ParsedReport where
  originalMessageId : Option String := none
  groupRejected : Bool := false
  lines : List StatusLine

namespace BankStatus

def rejection (endToEndId : String) : StatusLine := { endToEndId := some endToEndId, status := .rejected }

/-- The lines to apply: all orders of the original message if the file was rejected as a whole. -/
def reportLines (db : Db) (report : ParsedReport) : List StatusLine :=
  match report.originalMessageId with
  | some messageId =>
    if report.lines = [] ∧ report.groupRejected then
      match db.batches.findIdx? fun batch => batch.messageId = messageId with
      | some batchId => (db.orders.filter fun order => order.batchId = some batchId).map fun order =>
        rejection order.endToEndId
      | none => []
    else report.lines
  | none => report.lines

/-- The order a line refers to. -/
def transferOf (db : Db) (line : StatusLine) : Option OrderId :=
  match line.endToEndId.filter fun endToEndId => endToEndId ≠ "" ∧ endToEndId ≠ "NOTPROVIDED" with
  | some endToEndId => db.orders.findIdx? fun order => order.endToEndId = endToEndId
  | none => none

def transferLines (db : Db) (lines : List StatusLine) : List (OrderId × StatusLine) :=
  lines.filterMap fun line => (transferOf db line).map fun orderId => (orderId, line)

def applyLines (orders : List PaymentOrder) (lines : List (OrderId × StatusLine)) : List PaymentOrder :=
  lines.foldl (fun orders found => orders.modify found.1 fun order => applyTransfer order found.2) orders

end BankStatus

namespace Payments

inductive PaymentRequest
  | createOrder (invoiceId : InvoiceId) (bankAccountId : BankAccountId) (executionDate : Date) (endToEndId : String)
  | createPayout (openItemId : OpenItemId) (contactBankAccountId : ContactBankAccountId)
      (bankAccountId : BankAccountId) (executionDate : Date) (reason : PayoutReason) (purpose : Option String)
      (endToEndId : String)
  | changeOrder (orderId : OrderId) (patch : OrderPatch)
  | approveOrder (orderId : OrderId) (userId : UserId) (isPlatformAdmin : Bool)
  | cancelOrder (orderId : OrderId)
  | createBatch (orderIds : List OrderId) (gateOpen : Bool) (messageId : String)
  | importReport (checksum : String) (report : ParsedReport)
  /-- A request of another part of the program. -/
  | elsewhere (tables : Db)

/-- What a request decided to write. -/
inductive PaymentWork
  | insert (order : PaymentOrder)
  | rewrite (orderId : OrderId) (order : PaymentOrder) (voids : Bool) (approval : Option PaymentApproval)
  | file (orderIds : List OrderId) (batch : PaymentBatch)
  | report (checksum : String) (lines : List (OrderId × StatusLine))
  | elsewhere (tables : Db)

inductive PaymentRow
  | item (itemId : OpenItemId)
  | order (orderId : OrderId)
  deriving DecidableEq

def readPayment (db : Db) : PaymentRequest → Result PaymentWork
  | .createOrder invoiceId bankAccountId executionDate endToEndId => do
      let order ← orderFromInvoice db invoiceId bankAccountId executionDate endToEndId
      pure (.insert order)
  | .createPayout openItemId contactBankAccountId bankAccountId executionDate reason purpose endToEndId => do
      let order ← orderForPayout db openItemId contactBankAccountId bankAccountId executionDate reason purpose
        endToEndId
      pure (.insert order)
  | .changeOrder orderId patch => do
      let (order, voids) ← changeOrder db orderId patch
      pure (.rewrite orderId order voids none)
  | .approveOrder orderId userId isPlatformAdmin => do
      let order ← orderOf db orderId
      match ← approve db orderId userId isPlatformAdmin with
      | none => pure (.rewrite orderId order false none)
      | some (approval, approved) => pure (.rewrite orderId approved false (some approval))
  | .cancelOrder orderId => do
      let order ← cancelOrder db orderId
      pure (.rewrite orderId order true none)
  | .createBatch orderIds gateOpen messageId => do
      let (batch, ids) ← createBatch db orderIds gateOpen messageId
      pure (.file ids batch)
  | .importReport checksum report =>
    if checksum ∈ db.reports then pure (.report checksum [])
    else pure (.report checksum (BankStatus.transferLines db (BankStatus.reportLines db report)))
  | .elsewhere tables => pure (.elsewhere tables)

def paymentLocks : PaymentWork → List PaymentRow
  | .insert order => order.openItemId.toList.map .item
  | .rewrite orderId _ _ _ => [.order orderId]
  | .file orderIds _ => orderIds.map .order
  | .report _ lines => lines.map fun found => .order found.1
  | .elsewhere _ => []

/-- The order of a batch counts as exported. -/
def exportedIn (batchId : BatchId) (order : PaymentOrder) : PaymentOrder :=
  { order with status := .exported, batchId := some batchId }

/-- The tables without the rows of payment orders, which only the requests above write; users and limits stay. -/
def besidePayments (db tables : Db) : Db :=
  { tables with
    orders := db.orders
    approvals := db.approvals
    batches := db.batches
    reports := db.reports
    members := db.members
    bankConfigs := db.bankConfigs }

def writePayment (db : Db) : PaymentWork → Result Db
  | .insert order => pure { db with orders := db.orders ++ [order] }
  | .rewrite orderId order voids approval =>
    let kept := if voids then invalidateApprovals [orderId] db.approvals else db.approvals
    pure { db with orders := db.orders.set orderId order, approvals := kept ++ approval.toList }
  | .file orderIds batch =>
    let batchId := db.batches.length
    pure { db with
      orders := db.orders.mapIdx fun orderId order =>
        if orderId ∈ orderIds then exportedIn batchId order else order
      batches := db.batches ++ [batch] }
  | .report checksum lines =>
    pure { db with
      orders := BankStatus.applyLines db.orders lines
      reports := if checksum ∈ db.reports then db.reports else db.reports ++ [checksum] }
  | .elsewhere tables => pure (besidePayments db tables)

def paymentProtocol : Protocol Db PaymentRequest PaymentWork PaymentRow ProblemError where
  read := readPayment
  locks := paymentLocks
  write := writePayment

end Payments

end Mhvp.Banking
