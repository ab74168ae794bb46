import Mathlib.Data.Rat.Floor
import Mhvp.Lib.Calendar
import Mathlib.Data.Int.Log

namespace Mhvp.Core

open Lib.Calendar

/-- `decimal.Decimal`: sums of amounts are exact. -/
abbrev Decimal := ℚ

/-- `value == value.quantize(Decimal("0.01"))` -/
def IsCents (value : Decimal) : Prop := (value * 100).den = 1

instance : Decidable (IsCents value) := inferInstanceAs (Decidable ((value * 100).den = 1))

/-- `f"{value:.2f}"` for an amount in whole cents. -/
def Decimal.text (value : Decimal) : String :=
  let cents := (value * 100).floor.natAbs
  let fraction := toString (cents % 100)
  (if value < 0 then "-" else "") ++ toString (cents / 100) ++ "." ++
    (if fraction.length < 2 then "0" ++ fraction else fraction)

def padded (width number : ℕ) : String :=
  let digits := toString number
  String.ofList (List.replicate (width - digits.length) '0') ++ digits

/-- `text.strip()` -/
def strip (text : String) : String :=
  let open' := text.toList.dropWhile Char.isWhitespace
  String.ofList (open'.reverse.dropWhile Char.isWhitespace).reverse

/-- `text[:limit]` -/
def clip (text : String) (limit : ℕ) : String := String.ofList (text.toList.take limit)

/-- `value.quantize(Decimal("0.01"), rounding=ROUND_HALF_UP)` -/
def roundCents (value : Decimal) : Decimal :=
  let cents := (|value| * 100 + 1 / 2).floor
  (if value < 0 then -(cents : ℚ) else cents) / 100

/-- Digits of a quotient or product in the default context. -/
def contextDigits : ℕ := 28

def roundHalfEven (value : Decimal) : ℤ :=
  let whole := value.floor
  let rest := value - whole
  if rest < 1 / 2 ∨ (rest = 1 / 2 ∧ whole % 2 = 0) then whole else whole + 1

/-- A result in the default context: 28 significant digits, half to even. -/
def contextRound (value : Decimal) : Decimal :=
  let size := |value|
  let digits (part : Decimal) := (toString part.floor.natAbs).length
  let places : ℤ := if 1 ≤ size then contextDigits - digits size else contextDigits - 1 + digits size⁻¹
  let scaled : ℚ := roundHalfEven (size * 10 ^ places) / 10 ^ places
  if value < 0 then -scaled else scaled

/-- `f"{date:%d.%m.%Y}"` -/
def dateText (date : Date) : String :=
  padded 2 date.day ++ "." ++ padded 2 date.month ++ "." ++ padded 4 date.year

example : Decimal.text (-1205 / 100) = "-12.05" := by decide +kernel

example : contextRound (5 / 6) = 8333333333333333333333333333 / 10 ^ 28 := by decide +kernel

/-- A `float` as `==` sees it: both zeros are one. -/
inductive Binary64 where
  | finite (value : ℚ)
  | infinity (negative : Bool)
  | nan
  deriving DecidableEq

namespace Binary64

/-- Exponent of the distance between neighbouring numbers of this size. -/
def exponent (size : ℚ) : ℤ := max (Int.log 2 size - 52) (-1074)

/-- The nearest number, half to even; infinite from `2 ** 1024` on. -/
def nearest (value : ℚ) : Binary64 :=
  let step : ℚ := 2 ^ exponent |value|
  let size := roundHalfEven (|value| / step) * step
  if 2 ^ 1024 ≤ size then .infinity (value < 0) else .finite (if value < 0 then -size else size)

example : nearest (1 / 10) = .finite (3602879701896397 / 2 ^ 55) := by decide +kernel

end Binary64

end Mhvp.Core
