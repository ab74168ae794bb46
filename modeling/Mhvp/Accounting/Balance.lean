import Mhvp.Core.Problem
import Mhvp.Accounting.Models
import Mhvp.Lib.Aggregate

namespace Mhvp.Accounting

open Core

/-- A line as a caller writes it. -/
structure LineIn where
  accountId : AccountId
  debit : Decimal
  credit : Decimal
  text : Option String := none
  vatPercent : Option Decimal := none
  vatAmount : Option Decimal := none
  netAmount : Option Decimal := none
  unitId : Option UnitId := none
  costCenter : Option String := none
  propertyId : Option PropertyId := none

namespace LineProperty

def unitProperty (books : Books) (line : LineIn) : Option PropertyId :=
  line.unitId.bind fun unit => (books.units[unit]?).map PropertyUnit.propertyId

def contractProperty (books : Books) (contractId : Option ContractId) : Option PropertyId :=
  contractId.bind fun contract => (books.contracts[contract]?).map Contract.propertyId

def resolveLine (books : Books) (contractId : Option ContractId) (no : ℕ) (line : LineIn) :
    Result (Option PropertyId) :=
  match line.propertyId, unitProperty books line with
  | some explicit, some ofUnit => do
      require (explicit = ofUnit) .validation
        (some s!"Zeile {no}: Das Objekt passt nicht zum Objekt der Einheit.")
      pure (some explicit)
  | some explicit, none => pure (some explicit)
  | none, some ofUnit => pure (some ofUnit)
  | none, none => pure (contractProperty books contractId)

def resolveLines (books : Books) (contractId : Option ContractId) :
    ℕ → List LineIn → Result (List (Option PropertyId))
  | _, [] => pure []
  | no, line :: rest => do
      let found ← resolveLine books contractId no line
      let others ← resolveLines books contractId (no + 1) rest
      pure (found :: others)

/-- Object per line in input order; unknown units and properties are refused. -/
def resolve (books : Books) (contractId : Option ContractId) (lines : List LineIn) :
    Result (List (Option PropertyId)) := do
  require (∀ unit ∈ lines.filterMap LineIn.unitId, unit < books.units.length) .validation
    (some "Einheit der Buchungszeile unbekannt.")
  require (∀ property ∈ lines.filterMap LineIn.propertyId, property ∈ books.properties) .validation
    (some "Objekt der Buchungszeile unbekannt.")
  resolveLines books contractId 1 lines

theorem resolveLines_length (resolved : resolveLines books contractId no lines = .ok found) :
    found.length = lines.length := by
  induction lines generalizing no found with
  | nil =>
    obtain rfl : [] = found := by simpa [resolveLines] using resolved
    rfl
  | cons line rest ih =>
    simp only [resolveLines, bind_ok, pure_ok] at resolved
    obtain ⟨head, -, others, resolvedRest, rfl⟩ := resolved
    simp [ih resolvedRest]

theorem resolve_length (resolved : resolve books contractId lines = .ok found) :
    found.length = lines.length := by
  simp only [resolve, bind_ok] at resolved
  obtain ⟨-, -, -, -, resolved⟩ := resolved
  exact resolveLines_length resolved

end LineProperty

/-- An amount of at most two decimal places that is not negative. -/
def money (value : Decimal) (label : String) : Result Decimal := do
  require (0 ≤ value ∧ IsCents value) .validation
    (some s!"{label}: Betrag mit höchstens zwei Nachkommastellen und nicht negativ.")
  pure value

def totalDebit (lines : List LineIn) : Decimal := (lines.map LineIn.debit).sum

def totalCredit (lines : List LineIn) : Decimal := (lines.map LineIn.credit).sum

def checkLine (no : ℕ) (line : LineIn) : Result Unit := do
  let _ ← money line.debit s!"Zeile {no} Soll"
  let _ ← money line.credit s!"Zeile {no} Haben"
  require (¬ (0 < line.debit ↔ 0 < line.credit)) .accUnbalanced
    (some s!"Zeile {no}: genau Soll oder Haben größer null.")

def checkLines : ℕ → List LineIn → Result Unit
  | _, [] => pure ()
  | no, line :: rest => do
      checkLine no line
      checkLines (no + 1) rest

def checkBalanced (lines : List LineIn) : Result Unit := do
  require (2 ≤ lines.length) .accUnbalanced
    (some "Ein Buchungssatz braucht mindestens zwei Zeilen.")
  checkLines 1 lines
  let debit := (totalDebit lines).text
  let credit := (totalCredit lines).text
  require (totalDebit lines = totalCredit lines) .accUnbalanced
    (some s!"Soll {debit} und Haben {credit} stimmen nicht überein.")

/-- One side of the line is positive and the other is zero. -/
def OneSided (debit credit : Decimal) : Prop := (0 < debit ∧ credit = 0) ∨ (0 < credit ∧ debit = 0)

instance : Decidable (OneSided debit credit) :=
  inferInstanceAs (Decidable ((0 < debit ∧ credit = 0) ∨ (0 < credit ∧ debit = 0)))

/-- What the balance check accepts. -/
structure Balanced (lines : List LineIn) : Prop where
  twoLines : 2 ≤ lines.length
  oneSided : ∀ line ∈ lines, OneSided line.debit line.credit
  cents : ∀ line ∈ lines, IsCents line.debit ∧ IsCents line.credit
  equal : totalDebit lines = totalCredit lines

@[simp] theorem money_ok : money value label = .ok result ↔ (0 ≤ value ∧ IsCents value) ∧ value = result := by
  simp only [money, bind_ok, require_ok, exists_unit, pure_ok]

theorem oneSided_iff (debitNonneg : 0 ≤ debit) (creditNonneg : 0 ≤ credit) :
    ¬ (0 < debit ↔ 0 < credit) ↔ OneSided debit credit := by
  unfold OneSided
  constructor
  · intro differ
    rcases debitNonneg.lt_or_eq with positive | zero
    · have notCredit : ¬ 0 < credit := fun also => differ ⟨fun _ => also, fun _ => positive⟩
      exact Or.inl ⟨positive, le_antisymm (not_lt.mp notCredit) creditNonneg⟩
    · have positive : 0 < credit := by
        by_contra notCredit
        exact differ ⟨fun isDebit => absurd isDebit (by simp [← zero]), fun also => absurd also notCredit⟩
      exact Or.inr ⟨positive, zero.symm⟩
  · rintro (⟨positive, rfl⟩ | ⟨positive, rfl⟩) <;> simp [positive]

theorem checkLine_ok :
    checkLine no line = .ok () ↔
      OneSided line.debit line.credit ∧ IsCents line.debit ∧ IsCents line.credit := by
  simp only [checkLine, bind_ok, money_ok, require_ok]
  constructor
  · rintro ⟨_, ⟨⟨debitNonneg, debitCents⟩, -⟩, _, ⟨⟨creditNonneg, creditCents⟩, -⟩, differ⟩
    exact ⟨(oneSided_iff debitNonneg creditNonneg).mp differ, debitCents, creditCents⟩
  · rintro ⟨oneSided, debitCents, creditCents⟩
    have debitNonneg : 0 ≤ line.debit := by rcases oneSided with ⟨h, -⟩ | ⟨-, h⟩ <;> simp [h, h.le]
    have creditNonneg : 0 ≤ line.credit := by rcases oneSided with ⟨-, h⟩ | ⟨h, -⟩ <;> simp [h, h.le]
    exact ⟨_, ⟨⟨debitNonneg, debitCents⟩, rfl⟩, _, ⟨⟨creditNonneg, creditCents⟩, rfl⟩,
      (oneSided_iff debitNonneg creditNonneg).mpr oneSided⟩

theorem checkLines_ok :
    checkLines no lines = .ok () ↔
      ∀ line ∈ lines, OneSided line.debit line.credit ∧ IsCents line.debit ∧ IsCents line.credit := by
  induction lines generalizing no with
  | nil => simp [checkLines]
  | cons line rest ih =>
    simp only [checkLines, bind_ok, exists_unit, checkLine_ok, ih, List.forall_mem_cons]

theorem checkBalanced_ok : checkBalanced lines = .ok () ↔ Balanced lines := by
  simp only [checkBalanced, bind_ok, exists_unit, require_ok, checkLines_ok]
  constructor
  · rintro ⟨twoLines, each, equal⟩
    exact ⟨twoLines, fun line member => (each line member).1, fun line member => (each line member).2,
      equal⟩
  · rintro ⟨twoLines, oneSided, cents, equal⟩
    exact ⟨twoLines, fun line member => ⟨oneSided line member, cents line member⟩, equal⟩

end Mhvp.Accounting
