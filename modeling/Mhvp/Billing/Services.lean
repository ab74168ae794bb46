import Mhvp.Accounting.Services

namespace Mhvp.Billing

open Core Accounting

def advanceCodes : List String := ["operating_cost_advance", "heating_cost_advance"]

/-- `select(OpenItem).where(OpenItem.journal_entry_id == entry_id)`, first row. -/
def openItemOf (books : Books) (entryId : Option EntryId) : Option (OpenItem × OpenItemId) :=
  books.openItems.zipIdx.find? fun found => entryId = some found.1.journalEntryId

/-- What counts as paid on a receivable: the amount of its open item less the remaining amount. -/
def paidOn (books : Books) (item : ReceivableItem) : Decimal :=
  match openItemOf books item.journalEntryId with
  | some (openItem, openItemId) => openItem.amount - (openItem.amount - settled books openItemId none)
  | none => 0

/-- Posted advance receivables of a contract in the period of the statement. -/
def advanceItems (db : Db) (statement : Statement) (contractId : ContractId) : List ReceivableItem :=
  db.receivableItems.filter fun item =>
    item.contractId = contractId ∧ item.status = .posted ∧ item.paymentTypeCode ∈ advanceCodes ∧
      statement.periodFrom ≤ item.periodMonth ∧ item.periodMonth ≤ statement.periodTo

/-- Advances due in the period and paid until today. -/
def advances (db : Db) (statement : Statement) (contractId : ContractId) : Decimal × Decimal :=
  let items := advanceItems db statement contractId
  ((items.map ReceivableItem.amount).sum, (items.map (paidOn db.books)).sum)

end Mhvp.Billing

namespace Mhvp.Hoa

open Core Accounting Billing Lib.Calendar

/-- Posted receivables of one component for the contracts of a unit, from `start` to `last`. -/
def advanceItems (db : Db) (unitId : UnitId) (component : String) (start last : Date) :
    List ReceivableItem :=
  db.receivableItems.filter fun item =>
    (∃ contract ∈ db.books.contracts[item.contractId]?, contract.unitId = some unitId) ∧
      item.paymentTypeCode = component ∧ item.status = .posted ∧
      start ≤ item.periodMonth ∧ item.periodMonth ≤ last

/-- Resolved advances and payments on them; the last part is paid on items bound to a reserve. -/
def advances (db : Db) (unitId : UnitId) (component : String) (start last : Date) :
    Decimal × Decimal × (ReserveId → Decimal) :=
  let items := advanceItems db unitId component start last
  ((items.map ReceivableItem.amount).sum, (items.map (paidOn db.books)).sum,
    fun reserveId => ((items.filter fun item => item.reserveId = some reserveId).map (paidOn db.books)).sum)

end Mhvp.Hoa
