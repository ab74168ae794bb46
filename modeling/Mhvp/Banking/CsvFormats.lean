import Mhvp.Banking.Models

namespace Mhvp.Banking

open Core Lib.Calendar

/-- A movement as a file reports it. -/
structure RawTransaction where
  bankReference : Option String
  bookingDate : Date
  valueDate : Option Date
  amount : Decimal
  currency : String
  counterpartName : Option String
  counterpartIban : Option String
  counterpartBic : Option String
  purpose : Option String
  endToEndId : Option String
  mandateReference : Option String
  creditorId : Option String

structure RawStatement where
  /-- Empty if the file names none, as a CSV file. -/
  statementRef : String := ""
  iban : String
  transactions : List RawTransaction

structure ParsedFile where
  statements : List RawStatement

namespace CsvFormats

/-- Header names of the columns; one amount, or a debit and a credit. -/
structure ColumnMapping where
  bookingDate : String
  amount : Option String := none
  amountDebit : Option String := none
  amountCredit : Option String := none
  valueDate : Option String := none
  counterpartName : Option String := none
  counterpartIban : Option String := none
  counterpartBic : Option String := none
  purpose : Option String := none
  purposeExtra : List String := []
  endToEndId : Option String := none
  mandateReference : Option String := none
  creditorId : Option String := none
  ownIban : Option String := none
  bankReference : Option String := none
  currency : Option String := none

/-- The export of the savings banks in the column set of their statements. -/
def sparkasseCamt : ColumnMapping where
  bookingDate := "buchungstag"
  valueDate := some "valutadatum"
  amount := some "betrag"
  currency := some "waehrung"
  counterpartName := some "beguenstigter/zahlungspflichtiger"
  counterpartIban := some "kontonummer/iban"
  counterpartBic := some "bic (swift-code)"
  purpose := some "verwendungszweck"
  endToEndId := some "kundenreferenz (end-to-end)"
  mandateReference := some "mandatsreferenz"
  creditorId := some "glaeubiger id"
  ownIban := some "auftragskonto"

/-- Cells by normalised header; a short row has no text in its last cells. -/
abbrev Row := List (String × Option String)

structure RowError where
  line : ℕ
  message : String

def upper (text : String) : String := String.ofList (text.toList.map Char.toUpper)

def withoutBlanks (text : String) : String := String.ofList (text.toList.filter (· ≠ ' '))

/-- `repr` of a text in the characters of an export. -/
def quoted (text : String) : String :=
  let quote := if '\'' ∈ text.toList ∧ '"' ∉ text.toList then '"' else '\''
  let escaped := text.toList.flatMap fun char =>
    if char = '\\' ∨ char = quote then ['\\', char]
    else match char with
      | '\n' => ['\\', 'n']
      | '\r' => ['\\', 'r']
      | '\t' => ['\\', 't']
      | char => [char]
  String.ofList (quote :: (escaped ++ [quote]))

def digitsValue (digits : List Char) : ℕ := digits.foldl (fun value digit => value * 10 + (digit.toNat - 48)) 0

def allDigits (text : List Char) : Bool := text ≠ [] ∧ text.all Char.isDigit

/-- Sign and digits of a decimal number, without exponent. -/
structure PlainNumber where
  negative : Bool
  whole : List Char
  fraction : List Char

def PlainNumber.value (number : PlainNumber) : Decimal :=
  let magnitude : Decimal := digitsValue (number.whole ++ number.fraction) / (10 ^ number.fraction.length : ℕ)
  if number.negative then -magnitude else magnitude

def unsigned (negative : Bool) (text : List Char) : Option PlainNumber :=
  let whole := text.takeWhile Char.isDigit
  match text.dropWhile Char.isDigit with
  | [] => if whole = [] then none else some { negative, whole, fraction := [] }
  | '.' :: fraction =>
    if fraction.all Char.isDigit ∧ whole ++ fraction ≠ [] then some { negative, whole, fraction } else none
  | _ => none

def plainNumber : List Char → Option PlainNumber
  | '-' :: rest => unsigned true rest
  | '+' :: rest => unsigned false rest
  | text => unsigned false text

def withoutSign : List Char → List Char
  | '-' :: rest => rest
  | '+' :: rest => rest
  | text => text

/-- Texts that `Decimal` reads beside plain numbers: infinity, not-a-number, exponents. -/
def specialNumber (text : List Char) : Bool :=
  let lower := text.map Char.toLower
  let unsigned := withoutSign lower
  let named := unsigned ∈ ["inf".toList, "infinity".toList]
  let nan := match unsigned with
    | 's' :: 'n' :: 'a' :: 'n' :: payload => payload.all Char.isDigit
    | 'n' :: 'a' :: 'n' :: payload => payload.all Char.isDigit
    | _ => false
  let exponent := match lower.dropWhile (· ≠ 'e') with
    | _ :: power => (plainNumber (lower.takeWhile (· ≠ 'e'))).isSome && allDigits (withoutSign power)
    | [] => false
  named || nan || exponent

def withoutCurrency : List Char → List Char
  | 'E' :: 'U' :: 'R' :: rest => withoutCurrency rest
  | '€' :: rest => withoutCurrency rest
  | char :: rest => char :: withoutCurrency rest
  | [] => []

/-- The later of comma and point separates the decimals, a lone comma does so as well. -/
def decimalPoint (text : List Char) : List Char :=
  let asPoint := (text.filter (· ≠ '.')).map fun char => if char = ',' then '.' else char
  if ',' ∈ text ∧ '.' ∈ text then
    if text.reverse.find? (fun char => char = ',' ∨ char = '.') = some ',' then asPoint
    else text.filter (· ≠ ',')
  else if ',' ∈ text then asPoint
  else text

/-- A value with more than two decimals is ambiguous and never guessed. -/
def parseAmount (raw : String) : Except String Decimal :=
  let text := (strip raw).toList.filter fun char => char ≠ ' ' ∧ char ≠ '\u00a0'
  if text = [] then .error "Betrag fehlt"
  else
    let bracketed := text.head? = some '(' ∧ text.getLast? = some ')'
    let inner := if bracketed then (text.drop 1).dropLast else text
    let number := (strip (String.ofList (decimalPoint (withoutCurrency inner)))).toList.filter (· ≠ '_')
    let shown := quoted raw
    match plainNumber number with
    | some plain =>
      if 2 < plain.fraction.length then .error (s!"Betrag {shown} nicht eindeutig lesbar")
      else .ok (if bracketed then -plain.value else plain.value)
    | none =>
      if specialNumber number then .error (s!"Betrag {shown} nicht eindeutig lesbar")
      else .error (s!"Betrag {shown} nicht lesbar")

/-- One or two digits between 1 and `last`. -/
def shortNumber (last : ℕ) (part : List Char) : Option ℕ :=
  if part.length ≤ 2 ∧ allDigits part ∧ 1 ≤ digitsValue part ∧ digitsValue part ≤ last then some (digitsValue part)
  else none

/-- The day of the month may stand behind a blank. -/
def dayNumber : List Char → Option ℕ
  | [' ', digit] => shortNumber 31 [digit]
  | part => shortNumber 31 part

/-- `%Y` -/
def longYear (part : List Char) : Option ℕ :=
  if part.length = 4 ∧ allDigits part ∧ 1 ≤ digitsValue part then some (digitsValue part) else none

/-- `%y`: years from 69 on are of the last century. -/
def shortYear (part : List Char) : Option ℕ :=
  if part.length = 2 ∧ allDigits part then
    some (if 69 ≤ digitsValue part then 1900 + digitsValue part else 2000 + digitsValue part)
  else none

def dayOf (year month day : Option ℕ) : Option Date :=
  match year, month, day with
  | some year, some month, some day =>
    if day ≤ Date.monthLength year month then some (.ofYmd year month day) else none
  | _, _, _ => none

def dayMonthYear (separator : Char) (year : List Char → Option ℕ) (text : List Char) : Option Date :=
  match text.splitOn separator with
  | [day, month, last] => dayOf (year last) (shortNumber 12 month) (dayNumber day)
  | _ => none

def yearMonthDay (text : List Char) : Option Date :=
  match text.splitOn '-' with
  | [first, month, day] => dayOf (longYear first) (shortNumber 12 month) (dayNumber day)
  | _ => none

/-- The first of the formats `%d.%m.%Y`, `%d.%m.%y`, `%Y-%m-%d` and `%d/%m/%Y` that fits. -/
def parseDate (raw : String) : Except String Date :=
  let text := (strip raw).toList
  let shown := quoted raw
  match (dayMonthYear '.' longYear text).or ((dayMonthYear '.' shortYear text).or
    ((yearMonthDay text).or (dayMonthYear '/' longYear text))) with
  | some date => .ok date
  | none => .error (s!"Datum {shown} nicht lesbar")

example : (parseDate "31.2.2026").toOption = none ∧ (parseDate "1.3.26").toOption = some (.ofYmd 2026 3 1) := by
  decide +kernel

example : (parseAmount "1.234,50 EUR").toOption = some (2469 / 2) ∧ (parseAmount "1.234").toOption = none := by
  decide +kernel

/-- The text of a cell; of two cells under one header the last one counts. -/
def cell (row : Row) (field : Option String) : Option String :=
  match field.bind fun name => List.lookup name row.reverse with
  | some (some value) => if value = "" then none else some (strip value)
  | _ => none

/-- Two dates and the amount. -/
def rowValues (mapping : ColumnMapping) (row : Row) : Except String (Date × Option Date × Decimal) := do
  let booking ← parseDate ((cell row (some mapping.bookingDate)).getD "")
  let valueDate ← match (cell row mapping.valueDate).filter (· ≠ "") with
    | some raw => (parseDate raw).map some
    | none => pure none
  let amount ← match mapping.amount.filter (· ≠ "") with
    | some column => parseAmount ((cell row (some column)).getD "")
    | none => do
        let credit ← parseAmount (((cell row mapping.amountCredit).filter (· ≠ "")).getD "0")
        let debit ← parseAmount (((cell row mapping.amountDebit).filter (· ≠ "")).getD "0")
        pure (credit - debit)
  pure (booking, valueDate, amount)

def purposeText (mapping : ColumnMapping) (row : Row) : Option String :=
  let parts := (cell row mapping.purpose).getD "" :: mapping.purposeExtra.map fun field => (cell row (some field)).getD ""
  some (strip (" ".intercalate (parts.filter (· ≠ "")))) |>.filter (· ≠ "")

/-- What is known of the file after some rows. -/
structure Reading where
  transactions : List RawTransaction := []
  errors : List RowError := []
  ownIban : Option String := none
  firstCurrency : Option String := none

def Reading.refuse (reading : Reading) (line : ℕ) (message : String) : Reading :=
  { reading with errors := reading.errors ++ [{ line, message }] }

/-- The end-to-end id stands in for a missing reference of the bank. -/
def rawTransaction (mapping : ColumnMapping) (row : Row) (values : Date × Option Date × Decimal)
    (currency : String) : RawTransaction where
  bankReference := ((cell row mapping.bankReference).filter (· ≠ "")).or (cell row mapping.endToEndId)
  bookingDate := values.1
  valueDate := values.2.1
  amount := values.2.2
  currency
  counterpartName := cell row mapping.counterpartName
  counterpartIban := ((cell row mapping.counterpartIban).map withoutBlanks).filter (· ≠ "")
  counterpartBic := cell row mapping.counterpartBic
  purpose := purposeText mapping row
  endToEndId := cell row mapping.endToEndId
  mandateReference := cell row mapping.mandateReference
  creditorId := cell row mapping.creditorId

/-- One statement has one currency and one own account. -/
def readRow (mapping : ColumnMapping) (line : ℕ) (row : Row) (reading : Reading) : Reading :=
  match rowValues mapping row with
  | .error message => reading.refuse line message
  | .ok values =>
    let currency := upper (((cell row mapping.currency).filter (· ≠ "")).getD "EUR")
    let first := reading.firstCurrency.getD currency
    if currency ≠ first then reading.refuse line (s!"Währung {currency} weicht von {first} ab")
    else
      let known := { reading with firstCurrency := some first }
      let added := fun (reading : Reading) =>
        { reading with transactions := reading.transactions ++ [rawTransaction mapping row values currency] }
      match ((cell row mapping.ownIban).filter (· ≠ "")).map fun iban => upper (withoutBlanks iban) with
      | none => added known
      | some iban =>
        let own := known.ownIban.getD iban
        if iban ≠ own then known.refuse line (s!"Auftragskonto {iban} weicht von {own} ab")
        else added { known with ownIban := some own }

def blankRow (row : Row) : Bool := row.all fun found => found.2.all fun value => strip value = ""

/-- The rows behind the header in line `headerIdx`. -/
def buildTransactions (mapping : ColumnMapping) (headerIdx : ℕ) (rows : List Row) : Reading :=
  rows.zipIdx.foldl (fun reading found =>
    if blankRow found.1 then reading else readRow mapping (headerIdx + 2 + found.2) found.1 reading) {}

end CsvFormats

end Mhvp.Banking
