import Mhvp.Accounting.Reports

namespace Mhvp.Accounting

open Core Lib.Calendar

namespace Checks

def sumDebit (lines : List JournalLine) : Decimal := (lines.map JournalLine.debit).sum

def sumCredit (lines : List JournalLine) : Decimal := (lines.map JournalLine.credit).sum

/-- `coalesce(sum(…), 0)` as a finding writes it. -/
def sumText (present : Bool) (value : Decimal) : String := if present then value.text else "0"

def unbalanced (ledgerId : LedgerId) (entry : JournalEntry) : Option String :=
  match entry.status with
  | .posted posting =>
    let year := posting.fiscalYear
    let number := posting.number
    if entry.ledgerId = ledgerId ∧ entry.lines ≠ [] ∧
        (sumDebit entry.lines ≠ sumCredit entry.lines ∨ entry.lines.length < 2) then
      some s!"Satz {year}-{number} nicht ausgeglichen"
    else none
  | .draft => none

def badItem (books : Books) (ledgerId : LedgerId) (found : OpenItem × OpenItemId) : Option String :=
  let (item, id) := found
  let total := settled books id none
  if item.ledgerId = ledgerId ∧ (item.amount < total ∨ total < 0) then
    some s!"Offener Posten {id} über- oder negativ ausgeglichen"
  else none

def mismatch (books : Books) (ledgerId : LedgerId) (found : OpenItem × OpenItemId) : Option String := do
  let (item, id) := found
  let entry ← books.entries[item.journalEntryId]?
  if item.ledgerId = ledgerId ∧ (∃ line ∈ entry.lines, line.accountId = item.accountId) ∧
      item.amount ≠ |debitOn item.accountId entry.lines - creditOn item.accountId entry.lines| then
    some s!"Offener Posten {id} passt nicht zur Buchungszeile"
  else none

/-- One finding for each line on an account of another ledger. -/
def foreign (books : Books) (ledgerId : LedgerId) (found : JournalEntry × EntryId) : List String :=
  let (entry, id) := found
  if entry.ledgerId = ledgerId then
    (entry.lines.filter fun line => ∃ account ∈ books.accounts[line.accountId]?,
      account.ledgerId ≠ entry.ledgerId).map fun _ =>
        s!"Satz {id} bucht auf Konten eines anderen Buchungskreises"
  else []

def totals (books : Books) (ledgerId : LedgerId) : List String :=
  let lines := ledgerLines books ledgerId none
  let debit := (sumDebit lines).text
  let credit := (sumCredit lines).text
  if sumDebit lines ≠ sumCredit lines then [s!"Summen Soll {debit} und Haben {credit} weichen ab"] else []

/-- Fiscal year and number of a posted entry of the ledger. -/
def numbered (ledgerId : LedgerId) (entry : JournalEntry) : Option (ℕ × ℕ) :=
  match entry.status with
  | .posted posting =>
    if entry.ledgerId = ledgerId then some (posting.fiscalYear, posting.number) else none
  | .draft => none

/-- Posted numbers of a fiscal year. -/
def numbersIn (year : ℕ) (posted : List (ℕ × ℕ)) : List ℕ :=
  (posted.filter fun found => found.1 = year).map Prod.snd

def highest (numbers : List ℕ) : ℕ := numbers.foldr max 0

/-- Years with a posted entry, in order. -/
def years (posted : List (ℕ × ℕ)) : List ℕ := (posted.map Prod.fst).dedup.insertionSort (· ≤ ·)

def gapsOf (posted : List (ℕ × ℕ)) (year : ℕ) : List String :=
  let numbers := numbersIn year posted
  ((List.range' 1 (highest numbers)).filter (· ∉ numbers)).map fun number =>
    s!"Nummernlücke {year}-{number} im Buchungsregister"

def counterOf (books : Books) (ledgerId : LedgerId) (posted : List (ℕ × ℕ)) (year : ℕ) : Option String :=
  let last := lastNumber books.counters ledgerId year
  let highest := highest (numbersIn year posted)
  if last ≠ highest then
    some s!"Zählerstand {last} weicht von höchster Nummer {highest} im Geschäftsjahr {year} ab"
  else none

/-- Posted numbers run `1 .. n` without gaps and the counter equals the highest. -/
def numberingFindings (books : Books) (ledgerId : LedgerId) : List String :=
  let posted := books.entries.filterMap (numbered ledgerId)
  let counted := (books.counters.filter fun counter => counter.ledgerId = ledgerId).map
    JournalNumberCounter.fiscalYear
  let gaps := ((years posted).flatMap (gapsOf posted)).take 1000
  let all := (counted ++ posted.map Prod.fst).dedup.insertionSort (· ≤ ·)
  gaps ++ all.filterMap (counterOf books ledgerId posted)

def categoryText : AccountCategory → String
  | .bank => "bank"
  | .cash => "cash"
  | .reserve => "reserve"
  | .loan => "loan"
  | .technical => "technical"
  | .revenue => "revenue"
  | .cost => "cost"
  | .debtor => "debtor"
  | .creditor => "creditor"
  | .transit => "transit"
  | .tax => "tax"
  | .openingBalance => "opening_balance"

/-- Items of a ledger on an account, with their ids. -/
def itemsOn (books : Books) (ledgerId : LedgerId) (accountId : AccountId) : List (OpenItem × OpenItemId) :=
  books.openItems.zipIdx.filter fun found => found.1.ledgerId = ledgerId ∧ found.1.accountId = accountId

def subledgerFinding (books : Books) (ledgerId : LedgerId) (found : LedgerAccount × AccountId) :
    Option (String × String) :=
  let (account, accountId) := found
  let items := itemsOn books ledgerId accountId
  let lines := (ledgerLines books ledgerId none).filter fun line => line.accountId = accountId
  let amount := (items.map fun item => item.1.amount).sum
  let settledSum := (items.map fun item => settled books item.2 none).sum
  let debit := sumDebit lines
  let credit := sumCredit lines
  let beyond := (account.category = .debtor ∧ (debit < amount ∨ credit < settledSum)) ∨
    (account.category = .creditor ∧ (credit < amount ∨ debit < settledSum))
  if items ≠ [] ∧ beyond then
    let number := account.number
    let category := categoryText account.category
    let rows := books.settlements.filter fun row => row.openItemId ∈ items.map Prod.snd
    let posten := amount.text
    let ausgleich := sumText (rows ≠ []) settledSum
    let soll := sumText (lines ≠ []) debit
    let haben := sumText (lines ≠ []) credit
    some (number, s!"Nebenbuch Konto {number} ({category}) übersteigt Hauptbuch: " ++
      s!"Posten {posten}, Ausgleich {ausgleich}, Soll {soll}, Haben {haben}")
  else none

/-- Hard invariants: per debtor or creditor account the open items never exceed the postings on the
account, and settlements never exceed the opposite side. -/
def subledgerFindings (books : Books) (ledgerId : LedgerId) : List String :=
  let rows := books.accounts.zipIdx.filterMap (subledgerFinding books ledgerId)
  (rows.insertionSort fun first second => first.1 ≤ second.1).map Prod.snd

def driftRowLimit : ℕ := 500

/-- Lines with a unit whose object differs from the object of the unit. -/
def drift (books : Books) (ledgerId : LedgerId) (found : JournalEntry × EntryId) :
    List (Date × ℕ × String) :=
  let (entry, id) := found
  let name := match entry.status with
    | .posted posting =>
      let year := posting.fiscalYear
      let number := posting.number
      s!"{year}-{number}"
    | .draft => toString id
  if entry.ledgerId = ledgerId then
    (entry.lines.zipIdx 1).filterMap fun (line, no) => do
      let unit ← line.unitId.bind (books.units[·]?)
      if line.propertyId ≠ some unit.propertyId then
        some (entry.bookingDate, no, s!"Satz {name} Zeile {no}: Objekt passt nicht zur Einheit")
      else none
  else []

/-- `ORDER BY booking_date, line_no` -/
def DriftBefore (first second : Date × ℕ × String) : Prop :=
  first.1 < second.1 ∨ (first.1 = second.1 ∧ first.2.1 ≤ second.2.1)

instance : DecidableRel DriftBefore := fun first second => by unfold DriftBefore; infer_instance

def linePropertyFindings (books : Books) (ledgerId : LedgerId) : List String :=
  let rows := books.entries.zipIdx.flatMap (drift books ledgerId)
  ((rows.insertionSort DriftBefore).take driftRowLimit).map fun row => row.2.2

end Checks

def checks (books : Books) (ledgerId : LedgerId) : List String :=
  let items := books.openItems.zipIdx
  books.entries.filterMap (Checks.unbalanced ledgerId) ++
    items.filterMap (Checks.badItem books ledgerId) ++
    items.filterMap (Checks.mismatch books ledgerId) ++
    books.entries.zipIdx.flatMap (Checks.foreign books ledgerId) ++
    Checks.totals books ledgerId ++
    Checks.numberingFindings books ledgerId ++
    Checks.subledgerFindings books ledgerId ++
    Checks.linePropertyFindings books ledgerId

end Mhvp.Accounting
