import Mhvp.Accounting.Reports

namespace Mhvp.Hoa

open Core Accounting Lib.Calendar Lib.Aggregate

def cashCategories : List AccountCategory := [.bank, .cash]

inductive FlowCategory
  | cost
  | creditor
  | debtor
  | loan
  | reserve
  | revenue
  | other
  /-- Counter lines of an entry linked to a loan item. -/
  | loanItem (kind : LoanItemKind)
  deriving DecidableEq

def loanItemText : LoanItemKind → String
  | .disbursement => "disbursement"
  | .repayment => "repayment"
  | .interest => "interest"
  | .fee => "fee"

def FlowCategory.key : FlowCategory → String
  | .cost => "cost"
  | .creditor => "creditor"
  | .debtor => "debtor"
  | .loan => "loan"
  | .reserve => "reserve"
  | .revenue => "revenue"
  | .other => "other"
  | .loanItem kind => "loan_" ++ loanItemText kind

/-- Flow category of a counter account. -/
def flowCategory (account : LedgerAccount) : FlowCategory :=
  match account.category with
  | .cost => .cost
  | .creditor => .creditor
  | .debtor => .debtor
  | .loan => .loan
  | .reserve => .reserve
  | .revenue => .revenue
  | .technical => if account.statementKind = .reserve then .reserve else .other
  | _ => .other

/-- Amounts by category, in the order of their first amount. -/
abbrev Bucket := List (FlowCategory × Decimal)

def Bucket.add : Bucket → FlowCategory × Decimal → Bucket
  | [], flow => [flow]
  | (category, value) :: rest, flow =>
    if category = flow.1 then (category, value + flow.2) :: rest else (category, value) :: Bucket.add rest flow

def Bucket.collect (flows : List (FlowCategory × Decimal)) : Bucket := flows.foldl Bucket.add []

def Bucket.total (bucket : Bucket) : Decimal := (bucket.map Prod.snd).sum

/-- Amounts whose key starts with one of the keys. -/
def Bucket.flow (bucket : Bucket) (keys : List String) : Decimal :=
  Bucket.total (bucket.filter fun found => keys.any (found.1.key.startsWith ·))

/-- Account of the ledger; a line is on an account of the ledger of its entry. -/
def ledgerAccount (books : Books) (ledgerId : LedgerId) (accountId : AccountId) : Option LedgerAccount :=
  (books.accounts[accountId]?).filter fun account => account.ledgerId = ledgerId

def isCash (books : Books) (ledgerId : LedgerId) (accountId : AccountId) : Bool :=
  (ledgerAccount books ledgerId accountId).any fun account => account.category ∈ cashCategories

def hasCash (books : Books) (ledgerId : LedgerId) (entry : JournalEntry) : Bool :=
  entry.lines.any fun line => isCash books ledgerId line.accountId

def hasCreditor (books : Books) (ledgerId : LedgerId) (entry : JournalEntry) : Bool :=
  entry.lines.any fun line =>
    (ledgerAccount books ledgerId line.accountId).any fun account => account.category = .creditor

/-- Posted entries of the ledger dated in the year. -/
def InYear (ledgerId : LedgerId) (year : ℕ) (entry : JournalEntry) : Prop :=
  entry.ledgerId = ledgerId ∧ entry.isPosted ∧ Date.ofYmd year 1 1 ≤ entry.bookingDate ∧
    entry.bookingDate ≤ Date.ofYmd year 12 31

instance : Decidable (InYear ledgerId year entry) := by unfold InYear; infer_instance

/-- Entries of the year that are no opening balances, with their ids. -/
def flowEntries (books : Books) (ledgerId : LedgerId) (year : ℕ) : List (JournalEntry × EntryId) :=
  books.entries.zipIdx.filter fun found => InYear ledgerId year found.1 ∧ found.1.kind ≠ .openingBalance

/-- Opening balance entries of the year. -/
def migrationEntries (books : Books) (ledgerId : LedgerId) (year : ℕ) : List JournalEntry :=
  books.entries.filter fun entry => InYear ledgerId year entry ∧ entry.kind = .openingBalance

def loanKind (loanItems : List LoanItem) (entryId : EntryId) : Option LoanItemKind :=
  ((loanItems.filter fun item => item.journalEntryId = some entryId).getLast?).map LoanItem.kind

/-- Counter lines of an entry that moves cash, with the category they flow to. -/
def counterFlows (books : Books) (ledgerId : LedgerId) (loanItems : List LoanItem)
    (found : JournalEntry × EntryId) : List (FlowCategory × Decimal) :=
  if hasCash books ledgerId found.1 then
    (found.1.lines.filter fun line => !isCash books ledgerId line.accountId).map fun line =>
      (match loanKind loanItems found.2 with
        | some kind => .loanItem kind
        | none => ((ledgerAccount books ledgerId line.accountId).map flowCategory).getD .other,
        line.net)
  else []

def outflow (flow : FlowCategory × Decimal) : Option (FlowCategory × Decimal) :=
  if 0 < flow.2 then some flow else none

def inflow (flow : FlowCategory × Decimal) : Option (FlowCategory × Decimal) :=
  if flow.2 < 0 then some (flow.1, -flow.2) else none

/-- Net debit of an entry on cost accounts. -/
def costOf (books : Books) (ledgerId : LedgerId) (entry : JournalEntry) : Decimal :=
  sumWhere (fun line => ∃ account ∈ ledgerAccount books ledgerId line.accountId, account.category = .cost)
    JournalLine.net entry.lines

/-- Net debit of an entry on bank and cash accounts. -/
def cashOf (books : Books) (ledgerId : LedgerId) (entry : JournalEntry) : Decimal :=
  sumWhere (fun line => isCash books ledgerId line.accountId) JournalLine.net entry.lines

structure CashAccountRow where
  number : String
  name : String
  category : AccountCategory
  opening : Decimal
  closing : Decimal
  openingMigration : Option Decimal

structure CashTotals where
  opening : Decimal
  inflows : Decimal
  outflows : Decimal
  closing : Decimal
  checkOk : Bool
  deriving DecidableEq

/-- Explained difference as the manager entered it. -/
structure ReconciliationNote where
  code : String
  amount : Decimal
  note : String

structure BridgeRow where
  code : String
  amount : Decimal
  subtotal : Bool := false
  migration : Bool := false
  manual : Bool := false
  note : Option String := none

structure Migration where
  applied : Bool
  entries : ℕ
  sources : List EntrySource
  cutoff : Option Date
  cashOpening : Decimal
  costOpening : Decimal
  otherOpening : Decimal
  note : String

structure CashFlow where
  year : ℕ
  cashAccounts : List CashAccountRow
  cash : CashTotals
  inflows : Bucket
  outflows : Bucket
  loanPositions : Bucket
  bridge : List BridgeRow
  costBooked : Decimal
  costDistributed : Decimal
  explainedManual : List ReconciliationNote
  migration : Migration
  unexplained : Decimal
  note : String

/-- Bank and cash accounts of the ledger. -/
def cashAccounts (books : Books) (ledgerId : LedgerId) : List (LedgerAccount × AccountId) :=
  (books.accounts.zipIdx.filter fun found =>
    found.1.ledgerId = ledgerId ∧ found.1.category ∈ cashCategories).insertionSort
      fun first second => first.1.number ≤ second.1.number

def cashTotals (books : Books) (ledgerId : LedgerId) (loanItems : List LoanItem) (year : ℕ) : CashTotals :=
  let start := Date.ofYmd year 1 1
  let last := Date.ofYmd year 12 31
  let accounts := cashAccounts books ledgerId
  let migrated := ((migrationEntries books ledgerId year).map (cashOf books ledgerId)).sum
  let opening := (accounts.map fun found => balance books found.2 (some start.dayBefore)).sum + migrated
  let closing := (accounts.map fun found => balance books found.2 (some last)).sum
  let flows := (flowEntries books ledgerId year).flatMap (counterFlows books ledgerId loanItems)
  let inflows := (Bucket.collect (flows.filterMap inflow)).total
  let outflows := (Bucket.collect (flows.filterMap outflow)).total
  { opening, inflows, outflows, closing, checkOk := opening + inflows - outflows = closing }

def migrationOf (books : Books) (ledger : Ledger) (ledgerId : LedgerId) (year : ℕ) : Migration :=
  let entries := migrationEntries books ledgerId year
  let cash := (entries.map (cashOf books ledgerId)).sum
  let cost := (entries.map (costOf books ledgerId)).sum
  let all := (entries.map fun entry => (entry.lines.map JournalLine.net).sum).sum
  { applied := entries ≠ [], entries := entries.length,
    sources := (entries.map fun entry => entry.source).dedup, cutoff := ledger.migrationCutoff,
    cashOpening := cash, costOpening := cost, otherOpening := all - cash - cost,
    note := if entries ≠ [] then
        "Übernahme aus Altsystem: Anfangsbestand von Bank und Kasse aus dem " ++
        "Migrationsjournal statt aus dem Vorjahr; Kosten der Vorperiode als erklärte " ++
        "Differenz migration_opening (6.9.10)."
      else "Kein Migrationsjournal im Abrechnungsjahr." }

def cashAccountRow (books : Books) (ledgerId : LedgerId) (year : ℕ) (found : LedgerAccount × AccountId) :
    CashAccountRow :=
  let migration := migrationEntries books ledgerId year
  { number := found.1.number, name := found.1.name, category := found.1.category,
    opening := balance books found.2 (some (Date.ofYmd year 1 1).dayBefore),
    closing := balance books found.2 (some (Date.ofYmd year 12 31)),
    openingMigration := if migration ≠ [] then
        some (migration.map fun entry => debitOn found.2 entry.lines - creditOn found.2 entry.lines).sum
      else none }

def cashFlowReconciliation (books : Books) (ledgerId : LedgerId) (ledger : Ledger)
    (loanItems : List LoanItem) (year : ℕ) (costTotal : Decimal) (notes : List ReconciliationNote) :
    CashFlow :=
  let entries := flowEntries books ledgerId year
  let flows := entries.flatMap (counterFlows books ledgerId loanItems)
  let inflows := Bucket.collect (flows.filterMap inflow)
  let outflows := Bucket.collect (flows.filterMap outflow)
  let migration := migrationOf books ledger ledgerId year
  let costEntries := entries.filter fun found => loanKind loanItems found.2 = none
  let costBooked := (costEntries.map fun found => costOf books ledgerId found.1).sum
  let costViaCreditor := ((costEntries.filter fun found =>
    hasCreditor books ledgerId found.1 && !hasCash books ledgerId found.1).map fun found =>
      costOf books ledgerId found.1).sum
  let loanOut := outflows.flow ["loan"]
  let nonCostOut := outflows.flow ["reserve"] + loanOut + outflows.flow ["debtor"] +
    outflows.flow ["other"] + outflows.flow ["revenue"]
  let costRefunds := inflows.flow ["cost"] + inflows.flow ["creditor"]
  let costPaid := outflows.total - nonCostOut - costRefunds
  let creditorPaid := outflows.flow ["creditor"] - inflows.flow ["creditor"]
  let creditorTiming := creditorPaid - costViaCreditor
  let structureResidual := costPaid - creditorTiming - costBooked
  let manualTotal := (notes.map ReconciliationNote.amount).sum
  let unexplained := costTotal - costBooked - manualTotal - migration.costOpening + structureResidual
  let migrationRow : BridgeRow :=
    { code := "migration_opening", amount := migration.costOpening, migration := true,
      note := some "Kosten der Vorperiode aus dem Migrationsjournal (Altsystem)" }
  let bridge : List BridgeRow :=
    [{ code := "outflows", amount := outflows.total },
     { code := "reserve", amount := -outflows.flow ["reserve"] },
     { code := "loan", amount := -loanOut },
     { code := "owner_refund", amount := -outflows.flow ["debtor"] },
     { code := "other_non_cost", amount := -(outflows.flow ["other"] + outflows.flow ["revenue"]) },
     { code := "cost_refunds", amount := -costRefunds },
     { code := "cost_paid", amount := costPaid, subtotal := true },
     { code := "creditor_timing", amount := -creditorTiming },
     { code := "structure_residual", amount := -structureResidual },
     { code := "cost_booked", amount := costBooked, subtotal := true }] ++
    (if migration.applied then [migrationRow] else []) ++
    notes.map (fun note => { code := note.code, amount := note.amount, manual := true, note := some note.note }) ++
    [{ code := "cost_distributed", amount := costTotal, subtotal := true },
     { code := "unexplained", amount := unexplained }]
  { year, cashAccounts := (cashAccounts books ledgerId).map (cashAccountRow books ledgerId year),
    cash := cashTotals books ledgerId loanItems year, inflows, outflows,
    loanPositions := (inflows.filter fun found => ¬ ∃ other ∈ outflows, other.1 = found.1) ++ outflows |>.filter
      fun found => found.1.key.startsWith "loan_",
    bridge, costBooked, costDistributed := costTotal, explainedManual := notes, migration, unexplained,
    note := if unexplained = 0 then
        "Überleitung stimmt: Geldfluss, gebuchte und verteilte Kosten sind abgestimmt."
      else "Unerklärte Differenz zwischen gebuchten und verteilten Kosten; erklären " ++
        "(Heizkostenabgrenzung, Zeitbezug, Vorjahr) oder Positionen korrigieren (W04)." }

end Mhvp.Hoa
