import Mhvp.Accounting.Checks
import Mhvp.Banking.Imports
import Mhvp.Lib.Locking

namespace Mhvp.Banking.Matching

open Core Accounting

/-- Ledger of the legal entity and the account of the bank account in it. -/
def ledgerFor (db : Db) (tx : BankTransaction) : Result (LedgerId × AccountId) := do
  let ledgerId ← orRefuse (db.books.ledgers.findIdx? fun ledger => ledger.legalEntityId = tx.legalEntityId) .conflict
    (some "Für den Rechtsträger des Kontos gibt es keinen Buchungskreis.")
  let linked := db.books.accounts.zipIdx.filter fun found =>
    found.1.ledgerId = ledgerId ∧ found.1.propertyBankAccountId = some tx.propertyBankAccountId
  require (linked.length ≤ 1) .bankReconAccountAmbiguous
    (some "Mehrere Sachkonten verweisen auf das Bankkonto des Umsatzes.")
  let (_, bank) ← orRefuse linked.head? .conflict (some "Das Bankkonto ist keinem Sachkonto zugeordnet.")
  pure (ledgerId, bank)

/-- The posting still in force: posted and not reversed. -/
def effectiveEntry (books : Books) (entryId : Option EntryId) : Option (JournalEntry × EntryId) :=
  entryId.bind fun id => (books.entries[id]?.filter fun entry =>
    entry.isPosted ∧ entry.reversedById = none).map fun entry => (entry, id)

def movesAccount (entry : JournalEntry) (accountId : AccountId) : Bool :=
  entry.lines.any fun line => line.accountId = accountId

/-- Accounts of the entry other than the bank, by their number. -/
def counterAccounts (books : Books) (entry : JournalEntry) (bank : AccountId) : String :=
  let rows := books.accounts.zipIdx.filter fun found => movesAccount entry found.2 ∧ found.2 ≠ bank
  let sorted := rows.insertionSort fun first second => first.1.number ≤ second.1.number
  if rows = [] then "ein anderes Konto"
  else ", ".intercalate (sorted.map fun found =>
    let number := found.1.number
    let name := found.1.name
    s!"{number} {name}")

/-- The other half of a transfer and how it is booked. -/
structure Pair where
  partnerId : BankTransactionId
  partner : BankTransaction
  partnerBank : AccountId
  bookedElsewhere : Option JournalEntry := none

def settledDetail : String :=
  "Die Umbuchung ist über die Partnerseite bereits gebucht; der Transfer hat " ++
    "keine zweite Wirkung. Zum erneuten Buchen zuerst diese Buchung stornieren."

def bookedDetail : String := "Der Umsatz ist bereits gebucht oder ignoriert."

/-- The other half, locked; refused where it carries a posting that moves this half's account too. -/
def transferPartner (db : Db) (txId : BankTransactionId) (tx : BankTransaction) (partnerId : BankTransactionId) :
    Result Pair := do
  let partner ← orRefuse (db.bankTransactions[partnerId]?.filter fun partner =>
      partner.transferPairId = some txId ∧ partner.legalEntityId = tx.legalEntityId) .conflict
    (some "Das Transferpaar ist unvollständig oder betrifft einen anderen Rechtsträger.")
  match effectiveEntry db.books tx.journalEntryId with
  | some (own, _) =>
    if own.bankTransactionId = some txId then .error { error := .conflict, detail := some bookedDetail }
    else .error { error := .bankTransferPairSettled, detail := some settledDetail }
  | none => do
      let (_, bank) ← ledgerFor db tx
      let (_, partnerBank) ← ledgerFor db partner
      match effectiveEntry db.books partner.journalEntryId with
      | some (theirs, _) => do
          require (movesAccount theirs bank = false) .bankTransferPairSettled (some settledDetail)
          pure { partnerId, partner, partnerBank, bookedElsewhere := some theirs }
      | none => do
          require (partner.status ≠ .needsReview) .conflict
            (some "Die Partnerseite muss zuerst als möglicher Doppelumsatz geklärt werden.")
          pure { partnerId, partner, partnerBank }

def pairOf (db : Db) (txId : BankTransactionId) (tx : BankTransaction) : Result (Option Pair) :=
  match tx.transferPairId with
  | some partnerId => (transferPartner db txId tx partnerId).map some
  | none => pure none

def remainderCategories : List AccountCategory := [.debtor, .creditor, .technical, .transit]
def discountCategories : List AccountCategory := [.revenue, .cost]
def discountHoldingAccountNumber : String := "027000"
def clearingCategories : List AccountCategory := [.transit, .technical]

/-- The clearing account of the tenant standard, if the ledger has it with an allowed category. -/
def tenantClearingAccount (books : Books) (ledgerId : LedgerId) (number : Option String) : Option AccountId :=
  number.bind fun number =>
    ((books.accounts.zipIdx.find? fun found => found.1.ledgerId = ledgerId ∧ found.1.number = number).filter
      fun found => found.1.category ∈ clearingCategories).map Prod.snd

/-- The discount is within the terms of the invoice of a settled item. -/
def withinTerms (db : Db) (discount : Decimal) (plan : PlanIn) : Bool :=
  (db.books.openItems[plan.openItemId]?).any fun item =>
    (db.invoices.find? fun invoice =>
      invoice.journalEntryId = some item.journalEntryId ∧ invoice.discountPercent.isSome).any fun invoice =>
        invoice.discountPercent.any fun percent => decide (discount ≤ roundCents (|item.amount| * percent / 100))

/-- Beside settled items a remainder stays a credit, never income, and a discount needs a reason. -/
def checkCounterAccount (db : Db) (ledgerId : LedgerId) (counterAccountId : AccountId) (rest discount : Decimal)
    (settlements : List PlanIn) (text : Option String) : Result Unit := do
  let counter ← orRefuse (db.books.accounts[counterAccountId]?.filter fun counter => counter.ledgerId = ledgerId)
    .bankCounterAccountNotAllowed (some "Gegenkonto gehört nicht zum Buchungskreis des Umsatzes.")
  let number := counter.number
  let category := Accounting.Checks.categoryText counter.category
  let amount := rest.text
  require (0 < rest → counter.category ∈ remainderCategories) .bankCounterAccountNotAllowed
    (some (s!"Restbetrag {amount} EUR bleibt Guthaben: Gegenkonto {number} ({category}) ist nicht zulässig, " ++
      "nur Personen-, Klärungs- oder Transitkonten."))
  require (0 < discount → counter.category ∈ discountCategories ∨ counter.number = discountHoldingAccountNumber)
    .bankCounterAccountNotAllowed
    (some s!"Skonto braucht ein Erlös- oder Aufwandskonto, nicht {number} ({category}).")
  require (0 < discount → settlements.any (withinTerms db discount) = true ∨ ∃ reason ∈ text, strip reason ≠ "")
    .bankCounterAccountNotAllowed
    (some "Skonto ohne Skontoangabe der Rechnung braucht eine ausdrückliche Begründung im Buchungstext.")

structure BookIn where
  settlements : List PlanIn := []
  counterAccountId : Option AccountId := none
  text : Option String := none
  discount : Decimal := 0

/-- What is settled on each account, in the order of the items. -/
def perAccount (books : Books) (ledgerId : LedgerId) :
    List (AccountId × Decimal) → List PlanIn → Result (List (AccountId × Decimal))
  | sums, [] => pure sums
  | sums, plan :: rest => do
      let item ← orRefuse books.openItems[plan.openItemId]? .resourceNotFound (some "Offener Posten nicht gefunden.")
      require (item.ledgerId = ledgerId) .accWrongEntity (some "Offener Posten eines anderen Rechtsträgers.")
      perAccount books ledgerId (Lib.Tally.add sums (item.accountId, plan.amount)) rest

/-- A line on the side opposite to the bank. -/
def against (incoming : Bool) (accountId : AccountId) (value : Decimal) : LineIn where
  accountId
  debit := if incoming then 0 else value
  credit := if incoming then value else 0

/-- The line of the bank, by the absolute amount of the movement. -/
def bankLine (bank : AccountId) (amount : Decimal) : LineIn := against (decide (amount ≤ 0)) bank |amount|

/-- Where the money goes: accounts of the settled items, a discount and the rest. -/
structure Split where
  perAccount : List (AccountId × Decimal)
  discount : Decimal
  rest : Decimal
  counterAccountId : Option AccountId

/-- The remaining amount stays on the only debtor, unless there is a counter account. -/
def splitAmount (db : Db) (ledgerId : LedgerId) (amount : Decimal) (clearing : Option String) (body : BookIn) :
    Result Split := do
  let sums ← perAccount db.books ledgerId [] body.settlements
  let total := (body.settlements.map PlanIn.amount).sum
  require (total ≤ amount + body.discount) .validation (some "Zuordnung höher als der Zahlbetrag.")
  require (0 < body.discount → body.counterAccountId ≠ none) .validation (some "Skonto braucht ein Gegenkonto.")
  let rest := amount + body.discount - total
  let counter := if 0 < rest ∧ body.counterAccountId = none ∧ 1 < sums.length then
      tenantClearingAccount db.books ledgerId clearing
    else body.counterAccountId
  match counter with
  | some counterAccountId => do
      if sums ≠ [] ∧ (0 < rest ∨ 0 < body.discount) then
        checkCounterAccount db ledgerId counterAccountId rest body.discount body.settlements body.text
      pure { perAccount := sums, discount := body.discount, rest, counterAccountId := counter }
  | none =>
    if 0 < rest then
      match sums with
      | [(only, value)] =>
        pure { perAccount := [(only, value + rest)], discount := body.discount, rest := 0, counterAccountId := none }
      | _ => .error { error := .validation, detail := some "Restbetrag braucht ein Gegenkonto." }
    else pure { perAccount := sums, discount := body.discount, rest, counterAccountId := none }

/-- The lines of the entry, the bank first. -/
def linesOf (bank : AccountId) (amount : Decimal) (split : Split) : List LineIn :=
  let incoming := decide (0 < amount)
  bankLine bank amount ::
    (split.perAccount.map fun found => against incoming found.1 found.2) ++
    (match split.counterAccountId with
      | some counter =>
        (if 0 < split.discount then [against (!incoming) counter split.discount] else []) ++
          (if 0 < split.rest then [against incoming counter split.rest] else [])
      | none => [])

def PersonalAccounts (books : Books) (sums : List (AccountId × Decimal)) : Prop :=
  ∀ found ∈ sums, ∀ account ∈ books.accounts[found.1]?, account.category = .debtor ∨ account.category = .creditor

instance : Decidable (PersonalAccounts books sums) := by unfold PersonalAccounts; infer_instance

/-- `(text or tx.purpose or tx.counterpart_name or "Bankumsatz")[:500]` -/
def entryText (tx : BankTransaction) (text : Option String) : String :=
  let given := fun (value : Option String) => value.filter (· ≠ "")
  clip (((given text).or ((given tx.purpose).or (given tx.counterpartName))).getD "Bankumsatz") 500

/-- An entry that is ready to be written, with the halves of the transfer it is about. -/
structure Booking where
  txId : BankTransactionId
  ledgerId : LedgerId
  header : EntryHeader
  lines : List LineIn
  plan : List PlanIn
  userId : Option UserId
  /-- The other half, locked. -/
  partnerId : Option BankTransactionId
  /-- The other half carries the same posting. -/
  settles : Bool

/-- What a transfer may be booked against. -/
def checkTransfer (db : Db) (bank : AccountId) (body : BookIn) (pair : Pair) : Result Unit :=
  match pair.bookedElsewhere with
  | some theirs => do
      require (body.settlements = [] ∧ body.discount = 0 ∧ body.counterAccountId ≠ some bank) .validation
        (some ("Umbuchungen werden ohne Postenausgleich und ohne Skonto gegen ein " ++
          "anderes Konto als das eigene Bankkonto gebucht."))
      let elsewhere := counterAccounts db.books theirs pair.partnerBank
      let number := (db.books.accounts[pair.partnerBank]?.map LedgerAccount.number).getD ""
      let name := (db.books.accounts[pair.partnerBank]?.map LedgerAccount.name).getD ""
      require (body.counterAccountId ≠ some pair.partnerBank) .bankTransferPartnerBookedElsewhere
        (some (s!"Die Gegenseite dieser Umbuchung ist bereits gegen {elsewhere} gebucht, " ++
          "nicht als Umbuchung auf dieses Bankkonto. Eine Buchung gegen das " ++
          s!"Bankkonto {number} {name} würde dieses Konto ein zweites Mal bewegen. Buchen Sie diesen Umsatz gegen " ++
          s!"{elsewhere}; für eine direkte Umbuchung zwischen beiden Bankkonten ist " ++
          "zuerst die Buchung der Gegenseite zu stornieren."))
  | none =>
    require (body.settlements = [] ∧ body.discount = 0 ∧ body.counterAccountId = some pair.partnerBank) .validation
      (some ("Umbuchungen werden ohne Postenausgleich und ohne Skonto gegen das " ++
        "Bankkonto des Partners gebucht."))

def checkPair (db : Db) (bank : AccountId) (body : BookIn) : Option Pair → Result Unit
  | some pair => checkTransfer db bank body pair
  | none => pure ()

/-- What is booked before: nothing in force, and neither ignored nor a possible duplicate. -/
def checkState (db : Db) (tx : BankTransaction) (pair : Option Pair) : Result Unit := do
  let reopened := tx.journalEntryId.isSome ∧
    (pair.isSome ∨ (effectiveEntry db.books tx.journalEntryId).isNone)
  require (reopened ∨ ¬ (tx.status ∈ [.booked, TransactionStatus.ignored] ∨ tx.journalEntryId.isSome)) .conflict
    (some bookedDetail)
  require (tx.status ≠ .needsReview) .conflict
    (some "Der Umsatz muss zuerst als möglicher Doppelumsatz geklärt werden.")

def entryHeader (txId : BankTransactionId) (tx : BankTransaction) (body : BookIn) (transfer : Bool)
    (userId : Option UserId) (source : EntrySource) : EntryHeader where
  createdBy := userId
  bookingDate := tx.bookingDate
  valueDate := tx.valueDate
  text := entryText tx body.text
  kind := if transfer then .bankTransfer else if 0 < tx.amount then .debtorPayment else .creditorPayment
  reference := tx.bankReference
  bankTransactionId := some txId
  source := source

/-- The entry of a movement, before it is written. The movement and the other half are locked. -/
def bookPayment (db : Db) (txId : BankTransactionId) (body : BookIn) (clearing : Option String)
    (userId : Option UserId) (source : EntrySource) : Result Booking := do
  let tx ← orRefuse db.bankTransactions[txId]? .resourceNotFound
  let pair ← pairOf db txId tx
  checkState db tx pair
  require (tx.transferPairId.isSome → body.counterAccountId ≠ none) .validation
    (some "Umbuchungen werden gegen das Bankkonto des Partners gebucht.")
  let (ledgerId, bank) ← ledgerFor db tx
  checkPair db bank body pair
  let split ← splitAmount db ledgerId |tx.amount| clearing body
  require (PersonalAccounts db.books split.perAccount) .validation (some "Ausgleich nur auf Personenkonten.")
  let transfer := pair.any fun pair => pair.bookedElsewhere.isNone
  pure { txId, ledgerId, header := entryHeader txId tx body transfer userId source
         lines := linesOf bank tx.amount split, plan := body.settlements, userId
         partnerId := pair.map Pair.partnerId
         settles := transfer && pair.all fun pair => pair.partner.status ≠ .ignored }

/-- The movement counts as booked with the entry. -/
def bookedWith (entryId : EntryId) (tx : BankTransaction) : BankTransaction :=
  { tx with status := .booked, journalEntryId := some entryId }

/-- Write and post the entry; the halves carry it. -/
def writeBooking (db : Db) (booking : Booking) : Result (EntryId × Db) := do
  let (entryId, drafted) ← writeDraft db.books booking.ledgerId none booking.header none booking.lines booking.plan
  let books ← post drafted booking.ledgerId entryId booking.userId
  let own := db.bankTransactions.modify booking.txId (bookedWith entryId)
  let both := match booking.partnerId with
    | some partnerId => if booking.settles then own.modify partnerId (bookedWith entryId) else own
    | none => own
  pure (entryId, { db with books, bankTransactions := both })

end Mhvp.Banking.Matching
