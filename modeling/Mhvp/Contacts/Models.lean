import Mhvp.Accounting.Models
import Mhvp.Core.Problem

namespace Mhvp.Contacts

open Core Accounting Lib.Calendar

abbrev ContactBankAccountId := ℕ
abbrev PartyId := ℕ

inductive BankAccountApproval
  | pending
  | approved
  | rejected
  deriving DecidableEq

inductive MandateScheme
  | core
  | b2b
  deriving DecidableEq

inductive ContactMandateStatus
  | active
  | revoked
  deriving DecidableEq

inductive MandateGrantedVia
  | telefon
  | brief
  | email
  | portal
  | persoenlich

structure Contact where
  displayName : String
  deleted : Bool := false

structure PartyMember where
  partyId : PartyId
  contactId : ContactId

/-- Bank account of a contact with the record of its SEPA mandate. -/
structure ContactBankAccount where
  contactId : ContactId
  iban : String
  holder : Option String := none
  validFrom : Date
  validTo : Option Date := none
  sepaEnabled : Bool := false
  mandateReference : Option String := none
  mandateSignedOn : Option Date := none
  mandateGrantedVia : Option MandateGrantedVia := none
  mandateScheme : MandateScheme := .core
  mandateStatus : ContactMandateStatus := .active
  mandateRevokedOn : Option Date := none
  approvalStatus : BankAccountApproval := .pending

/-- A user of the tenant with the features that tell two accounts of one person apart. -/
structure Member where
  email : String
  contactId : Option ContactId := none

/-- Why a contact bank account may not be used for mandates or payments yet. -/
def approvalBlockReason (account : ContactBankAccount) : Option String :=
  match account.approvalStatus with
  | .approved => none
  | .rejected => some "Bankverbindung abgelehnt (Vier-Augen-Freigabe)"
  | .pending => some "Bankverbindung noch nicht freigegeben (Vier-Augen-Freigabe)"

def ibanLength : String → Option ℕ
  | "DE" => some 22
  | "AT" => some 20
  | "CH" => some 21
  | "NL" => some 18
  | "BE" => some 16
  | "FR" => some 27
  | "LU" => some 20
  | "IT" => some 27
  | "ES" => some 24
  | _ => none

private def isUpper (char : Char) : Bool := 'A' ≤ char ∧ char ≤ 'Z'

private def isDigit (char : Char) : Bool := '0' ≤ char ∧ char ≤ '9'

/-- `^[A-Z]{2}[0-9]{2}[A-Z0-9]{11,30}$` -/
def ibanShape (iban : List Char) : Bool :=
  15 ≤ iban.length ∧ iban.length ≤ 34 ∧ (iban.take 2).all isUpper ∧ ((iban.drop 2).take 2).all isDigit ∧
    (iban.drop 4).all fun char => isUpper char || isDigit char

/-- `int(ch, 36)` of a digit or an upper case letter. -/
def base36 (char : Char) : ℕ :=
  if isDigit char then char.toNat - '0'.toNat else char.toNat - 'A'.toNat + 10

/-- Value of the characters written one after the other in base 36, read as a decimal number. -/
def ibanNumber (chars : List Char) : ℕ :=
  chars.foldl (fun number char =>
    let value := base36 char
    if value < 10 then 10 * number + value else 100 * number + value) 0

def normaliseIban (value : String) : Result String := do
  let iban := (value.toList.filter fun char => !char.isWhitespace).map Char.toUpper
  require (ibanShape iban) .validation (some "IBAN hat kein gültiges Format.")
  let country := String.ofList (iban.take 2)
  let expected := (ibanLength country).getD iban.length
  require (iban.length = expected) .validation (some s!"IBAN für {country} muss {expected} Zeichen haben.")
  require (ibanNumber (iban.drop 4 ++ iban.take 4) % 97 = 1) .validation (some "IBAN-Prüfziffer ist falsch.")
  pure (String.ofList iban)

end Mhvp.Contacts
