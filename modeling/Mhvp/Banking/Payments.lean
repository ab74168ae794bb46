import Mhvp.Accounting.Services
import Mathlib.Data.List.Infix

/-! Payment orders: from a posted invoice or as a payout, changed and approved by two persons. -/

namespace Mhvp.Banking

open Core Accounting Contacts Lib.Calendar

/-- Order states that still block a new order on the same open item. -/
def activeOrderStatuses : List OrderStatus :=
  [.draft, .approved, .exported, .submitted, .acceptedByBank]

/-- Cash discount if paid by the discount date. -/
def discount (invoice : Invoice) (payDate : Date) : Decimal :=
  match invoice.discountPercent, invoice.discountUntil with
  | some percent, some until' =>
    if until' < payDate then 0 else roundCents (invoice.gross * percent / 100)
  | _, _ => 0

namespace Payments

def requiredApprovals : ℕ := 2

def orderOf (db : Db) (orderId : OrderId) : Result PaymentOrder :=
  orRefuse db.orders[orderId]? .resourceNotFound

/-- Approvals of the order as it is now. -/
def validApprovals (db : Db) (orderId : OrderId) (order : PaymentOrder) : List PaymentApproval :=
  db.approvals.filter fun approval =>
    approval.orderId = orderId ∧ approval.invalidated = false ∧ approval.snapshotHash = snapshot order

def approvers (approvals : List PaymentApproval) : List UserId := (approvals.map PaymentApproval.userId).dedup

/-- Orders of the item that are not finished. -/
def openOrders (db : Db) (itemId : OpenItemId) : List PaymentOrder :=
  db.orders.filter fun order => order.openItemId = some itemId ∧ order.status ∈ activeOrderStatuses

/-- First payable of the entry of an invoice. -/
def payableOf (books : Books) (invoice : Invoice) : Option (OpenItem × OpenItemId) :=
  books.openItems.zipIdx.find? fun found =>
    some found.1.journalEntryId = invoice.journalEntryId ∧ found.1.kind = .payable

def iban? (invoice : Invoice) : Option String := invoice.payeeIban.filter (· ≠ "")

def providerName (db : Db) (invoice : Invoice) : String :=
  (db.contacts[invoice.providerContactId]?.map Contact.displayName).getD "Empfänger"

/-- `"IBAN weicht" in finding` -/
def ibanFinding (finding : String) : Bool := "IBAN weicht".toList <:+: finding.toList

/-- The draft order of a posted invoice. The payable is locked. -/
def orderFromInvoice (db : Db) (invoiceId : InvoiceId) (bankAccountId : BankAccountId)
    (executionDate : Date) (endToEndId : String) : Result PaymentOrder := do
  let invoice ← orRefuse db.invoices[invoiceId]? .resourceNotFound
  require (invoice.postingStatus = .posted) .conflict
    (some "Nur gebuchte, freigegebene Rechnungen werden bezahlt.")
  let iban ← orRefuse (iban? invoice) .validation (some "Rechnung ohne Empfänger-IBAN.")
  require (¬ invoice.findings.any ibanFinding) .conflict (some "Abweichende IBAN ist nicht bestätigt (PÜ04).")
  let ledger ← orRefuse db.books.ledgers[invoice.ledgerId]? .accWrongEntity
    (some "Zahlung nur vom Konto des Rechtsträgers der Rechnung.")
  let bank ← orRefuse (db.bankAccounts[bankAccountId]?.filter (·.legalEntityId = ledger.legalEntityId))
    .accWrongEntity (some "Zahlung nur vom Konto des Rechtsträgers der Rechnung.")
  require (bank.segregated = false) .validation
    (some "Vom getrennten Kautionskonto werden keine Rechnungen bezahlt.")
  let (_, itemId) ← orRefuse (payableOf db.books invoice) .conflict (some "Kein offener Posten zur Rechnung.")
  let rest ← remaining db.books itemId none
  require (openOrders db itemId = []) .conflict (some "Für die Rechnung besteht bereits ein Zahlungsauftrag.")
  let granted := if rest = invoice.gross then discount invoice executionDate else 0
  let number := invoice.number
  pure { ledgerId := invoice.ledgerId, propertyBankAccountId := bankAccountId, invoiceId := some invoiceId,
         openItemId := some itemId, amount := rest - granted, discount := granted,
         counterpartName := clip (providerName db invoice) 140, counterpartIban := iban,
         purpose := clip s!"Rechnung {number}" 140, endToEndId, executionDate }

inductive PayoutReason
  | ownerPayout
  | statementCredit
  | depositRefund
  | otherRefund
  deriving DecidableEq

def payoutLabel : PayoutReason → String
  | .ownerPayout => "Auszahlung an Eigentümer"
  | .statementCredit => "Guthaben aus Abrechnung"
  | .depositRefund => "Kautionsrückzahlung"
  | .otherRefund => "Erstattung"

def payoutText : PayoutReason → String
  | .ownerPayout => "owner_payout"
  | .statementCredit => "statement_credit"
  | .depositRefund => "deposit_refund"
  | .otherRefund => "other_refund"

/-- The payee is a member of the contract party of the item, if the item has a contract. -/
def payeeIsParty (db : Db) (item : OpenItem) (payee : ContactBankAccount) : Bool :=
  match item.contractId with
  | none => true
  | some contractId => db.books.contracts[contractId]?.any fun contract =>
    db.partyMembers.any fun member =>
      decide (member.partyId = contract.partyId) && decide (member.contactId = payee.contactId)

/-- The draft order of a payout without invoice on a payable. The payable is locked. -/
def orderForPayout (db : Db) (openItemId : OpenItemId) (contactBankAccountId : ContactBankAccountId)
    (bankAccountId : BankAccountId) (executionDate : Date) (reason : PayoutReason) (purpose : Option String)
    (endToEndId : String) : Result PaymentOrder := do
  let item ← orRefuse db.books.openItems[openItemId]? .resourceNotFound (some "Offener Posten nicht gefunden.")
  require (item.kind = .payable ∧ item.writtenOff = false) .validation
    (some "Auszahlungen nur auf offene Verbindlichkeiten.")
  require (∀ invoice ∈ db.invoices, invoice.journalEntryId ≠ some item.journalEntryId) .conflict
    (some "Rechnungen werden über den Rechnungszahllauf bezahlt.")
  require (openOrders db openItemId = []) .conflict (some "Für den Posten besteht bereits ein Zahlungsauftrag.")
  let rest ← remaining db.books openItemId none
  require (0 < rest) .conflict (some "Der Posten ist ausgeglichen.")
  let ledger ← orRefuse db.books.ledgers[item.ledgerId]? .accWrongEntity
    (some "Auszahlung nur vom Konto des Rechtsträgers des Postens.")
  let bank ← orRefuse (db.bankAccounts[bankAccountId]?.filter (·.legalEntityId = ledger.legalEntityId))
    .accWrongEntity (some "Auszahlung nur vom Konto des Rechtsträgers des Postens.")
  require (bank.segregated = decide (reason = .depositRefund)) .validation
    (some ("Kautionsrückzahlungen nur vom getrennten Kautionskonto, andere Auszahlungen " ++
      "nie vom Kautionskonto."))
  let payee ← orRefuse db.contactBankAccounts[contactBankAccountId]? .resourceNotFound
    (some "Bankverbindung nicht gefunden.")
  require (approvalBlockReason payee = none) .conflict (approvalBlockReason payee)
  require (∀ last ∈ payee.validTo, executionDate ≤ last) .validation (some "Bankverbindung nicht mehr gültig.")
  require (payeeIsParty db item payee) .conflict (some "Der Empfänger ist nicht Vertragspartei des Postens.")
  let contactName := (db.contacts[payee.contactId]?.map Contact.displayName).getD "Empfänger"
  let name := (payee.holder.filter (· ≠ "")).getD contactName
  pure { ledgerId := item.ledgerId, propertyBankAccountId := bankAccountId, openItemId := some openItemId,
         amount := rest, counterpartName := clip name 140, counterpartIban := payee.iban,
         purpose := clip ((purpose.filter (· ≠ "")).getD (payoutLabel reason)) 140, endToEndId, executionDate,
         contactBankAccountId := some contactBankAccountId, payoutReason := some (payoutText reason) }

/-- Body of a change request; an amount is positive and in cents. -/
structure OrderPatch where
  executionDate : Option Date := none
  purpose : Option String := none
  amount : Option Decimal := none
  counterpartIban : Option String := none
  amountPositive : ∀ value ∈ amount, 0 < value ∧ IsCents value := by simp

/-- A new amount stays within the open item; the discount survives only while amount plus discount still
equal the open amount. -/
def changeAmount (db : Db) (order : PaymentOrder) : Option Decimal → Result PaymentOrder
  | none => pure order
  | some amount => do
      let rest ← match order.openItemId with
        | some itemId => remaining db.books itemId none
        | none => pure amount
      require (amount ≤ rest) .validation (some "Der Zahlbetrag übersteigt den offenen Posten.")
      pure { order with amount, discount := if amount + order.discount ≠ rest then 0 else order.discount }

/-- The IBAN is a released bank account of the issuer of the invoice. -/
def knownIban (db : Db) (order : PaymentOrder) (iban : String) : Bool :=
  (order.invoiceId.bind fun invoiceId => db.invoices[invoiceId]?).any fun invoice =>
    db.contactBankAccounts.any fun account =>
      decide (account.contactId = invoice.providerContactId) && decide (account.iban = iban) &&
        decide (account.approvalStatus = .approved)

def changeIban (db : Db) (order : PaymentOrder) : Option String → Result PaymentOrder
  | none => pure order
  | some value => do
      let iban ← normaliseIban value
      require (knownIban db order iban) .conflict
        (some "Die IBAN ist nicht in den freigegebenen Stammdaten des Empfängers (PÜ04).")
      pure { order with counterpartIban := iban }

/-- An approved order that changes falls back to draft. -/
def fallBack (order : PaymentOrder) : PaymentOrder :=
  if order.status = .approved then { order with status := .draft } else order

/-- The changed order, and whether its snapshot changed: then its approvals are void. -/
def changeOrder (db : Db) (orderId : OrderId) (patch : OrderPatch) : Result (PaymentOrder × Bool) := do
  let order ← orderOf db orderId
  require (order.status ∈ [.draft, OrderStatus.approved]) .conflict
    (some "Eingereichte Aufträge sind unveränderlich.")
  let withAmount ← changeAmount db order patch.amount
  let withIban ← changeIban db withAmount patch.counterpartIban
  let changed := { withIban with
    executionDate := patch.executionDate.getD withIban.executionDate
    purpose := patch.purpose.getD withIban.purpose }
  if snapshot changed ≠ snapshot order then pure (fallBack changed, true) else pure (changed, false)

def lowered (email : String) : Option String :=
  let text := (strip email).toLower
  if email = "" then none else some text

/-- E-mail and linked contact of a user. -/
def identity (db : Db) (userId : UserId) : Option String × Option ContactId :=
  match db.members[userId]? with
  | none => (none, none)
  | some member => (lowered member.email, member.contactId)

/-- Two accounts with the same e-mail or the same linked contact. -/
def SamePerson (db : Db) (first second : UserId) : Prop :=
  ((identity db first).1 ≠ none ∧ (identity db first).1 = (identity db second).1) ∨
    ((identity db first).2 ≠ none ∧ (identity db first).2 = (identity db second).2)

instance : Decidable (SamePerson db first second) := by unfold SamePerson; infer_instance

/-- Four eyes need two persons, not two accounts. -/
def ensureDifferentPerson (db : Db) (userId : UserId) (others : List UserId) : Result Unit :=
  if userId ∈ others then pure ()
  else require (∀ other ∈ others, ¬ SamePerson db userId other) .gateFourEyes
    (some ("Ein zweites Benutzerkonto derselben Person zählt nicht als zweite Freigabe " ++
      "(gleiche E-Mail oder gleiche Kontaktperson)."))

/-- The new approval and the order with it; a repeated click adds none. -/
def approve (db : Db) (orderId : OrderId) (userId : UserId) (isPlatformAdmin : Bool) :
    Result (Option (PaymentApproval × PaymentOrder)) := do
  let order ← orderOf db orderId
  require (order.status ∈ [.draft, OrderStatus.approved]) .conflict
    (some "Der Auftrag kann nicht mehr freigegeben werden.")
  require (isPlatformAdmin = false) .gateFourEyes
    (some "Plattformadministratoren zählen nicht als Freigabeinstanz.")
  let valid := validApprovals db orderId order
  if userId ∈ approvers valid then pure none
  else do
    ensureDifferentPerson db userId (approvers valid)
    let approval : PaymentApproval := { orderId, userId, snapshotHash := snapshot order }
    let reached := requiredApprovals ≤ (approvers (valid ++ [approval])).length
    pure (some (approval, if reached then { order with status := .approved } else order))

/-- The order to cancel. -/
def cancelOrder (db : Db) (orderId : OrderId) : Result PaymentOrder := do
  let order ← orderOf db orderId
  require (order.status ∈ [.draft, OrderStatus.approved]) .conflict
    (some "Eingereichte Aufträge werden über die Bank storniert.")
  pure { order with status := .cancelled }

end Payments

end Mhvp.Banking
