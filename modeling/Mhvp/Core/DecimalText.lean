import Mathlib.Data.List.TakeWhile
import Mhvp.Core.Decimal

namespace Mhvp.Core

open List

/-- `Decimal.as_tuple()`, the digits as a number. -/
structure DecimalTuple where
  negative : Bool
  digits : ℕ
  exponent : ℤ

/-- The text before the first mark, and the text after it. -/
def cut (mark : Char) (text : List Char) : List Char × List Char :=
  (text.takeWhile (· ≠ mark), (text.dropWhile (· ≠ mark)).drop 1)

theorem cut_append (free : mark ∉ first) (rest : List Char) :
    cut mark (first ++ mark :: rest) = (first, rest) := by
  have each : ∀ ch ∈ first, decide (ch ≠ mark) = true := by
    intro ch member
    exact decide_eq_true fun same => free (same ▸ member)
  unfold cut
  rw [takeWhile_append_of_pos each, dropWhile_append_of_pos each]
  simp

theorem cut_free (free : mark ∉ text) : cut mark text = (text, []) := by
  have each : ∀ ch ∈ text, decide (ch ≠ mark) = true := by
    intro ch member
    exact decide_eq_true fun same => free (same ▸ member)
  unfold cut
  rw [takeWhile_eq_self_iff.mpr each, dropWhile_eq_nil_iff.mpr each, drop_nil]

theorem append_mark_inj {mark : Char} {first other rest more : List Char} (free : mark ∉ first) (otherFree : mark ∉ other)
    (same : first ++ mark :: rest = other ++ mark :: more) : first = other ∧ rest = more := by
  have cuts := congrArg (cut mark) same
  rw [cut_append free, cut_append otherFree] at cuts
  exact Prod.mk.inj cuts

namespace DecimalTuple

def value (number : DecimalTuple) : Decimal :=
  (if number.negative then -1 else 1) * number.digits * 10 ^ number.exponent

def coefficient (number : DecimalTuple) : List Char := Nat.toDigits 10 number.digits

/-- Digits before the decimal point. -/
def leftDigits (number : DecimalTuple) : ℤ := number.exponent + number.coefficient.length

/-- Digits of the coefficient to the left of the point in the text: all of them, or one in scientific notation. -/
def dotPlace (number : DecimalTuple) : ℤ :=
  if number.exponent ≤ 0 ∧ -6 < number.leftDigits then number.leftDigits else 1

def intPart (number : DecimalTuple) : List Char :=
  if number.dotPlace ≤ 0 then ['0']
  else if number.coefficient.length ≤ number.dotPlace then
    number.coefficient ++ List.replicate (number.dotPlace - number.coefficient.length).toNat '0'
  else number.coefficient.take number.dotPlace.toNat

def fracPart (number : DecimalTuple) : List Char :=
  if number.dotPlace ≤ 0 then '.' :: (List.replicate (-number.dotPlace).toNat '0' ++ number.coefficient)
  else if number.coefficient.length ≤ number.dotPlace then []
  else '.' :: number.coefficient.drop number.dotPlace.toNat

/-- `"E%+d" % shift` -/
def powerPart (shift : ℤ) : List Char :=
  if shift = 0 then [] else 'E' :: (if shift < 0 then '-' else '+') :: Nat.toDigits 10 shift.natAbs

/-- `str(number)` -/
def str (number : DecimalTuple) : List Char :=
  (if number.negative then ['-'] else []) ++ number.intPart ++ number.fracPart ++
    powerPart (number.leftDigits - number.dotPlace)

def readPower : List Char → ℤ
  | [] => 0
  | sign :: digits => (if sign = '-' then -1 else 1) * (Nat.ofDigitChars 10 digits 0 : ℤ)

def readUnsigned (text : List Char) : Decimal :=
  let (mantissa, power) := cut 'E' text
  let (whole, fraction) := cut '.' mantissa
  (Nat.ofDigitChars 10 (whole ++ fraction) 0 : ℚ) * 10 ^ (readPower power - fraction.length)

def read : List Char → Decimal
  | '-' :: text => -readUnsigned text
  | text => readUnsigned text

theorem isDigit_coefficient (number : DecimalTuple) : ∀ ch ∈ number.coefficient, ch.isDigit = true := by
  intro ch member
  exact Nat.isDigit_of_mem_toDigits (by decide) (by decide) member

/-- Whole part and fraction of a text are digits, and the number stands for them with the power. -/
theorem parts (number : DecimalTuple) :
    ∃ fraction, (number.fracPart = [] ∧ fraction = [] ∨ number.fracPart = '.' :: fraction) ∧
      (∀ ch ∈ number.intPart ++ fraction, ch.isDigit = true) ∧ number.intPart ≠ [] ∧
      (Nat.ofDigitChars 10 (number.intPart ++ fraction) 0 : ℚ) *
        10 ^ (number.leftDigits - number.dotPlace - fraction.length) = number.digits * 10 ^ number.exponent := by
  have digits := isDigit_coefficient number
  have notEmpty : number.coefficient ≠ [] := Nat.toDigits_ne_nil
  have isNumber : Nat.ofDigitChars 10 number.coefficient 0 = number.digits := Nat.ofDigitChars_ten_toDigits
  have isLeft : number.leftDigits = number.exponent + number.coefficient.length := rfl
  have zeros : ∀ (count : ℕ), ∀ ch ∈ List.replicate count '0', ch.isDigit = true := by
    intro count ch member
    rw [eq_of_mem_replicate member]
    decide
  unfold intPart fracPart
  by_cases small : number.dotPlace ≤ 0
  · have isDot : number.dotPlace = number.leftDigits := by
      unfold dotPlace at small ⊢
      split at small
      · rename_i plain
        rw [if_pos plain]
      · omega
    rw [if_pos small, if_pos small]
    refine ⟨_, Or.inr rfl, ?_, cons_ne_nil _ _, ?_⟩
    · intro ch member
      rcases mem_append.mp member with zero | member
      · rw [mem_singleton.mp zero]
        decide
      · rcases mem_append.mp member with zero | member
        · exact zeros _ ch zero
        · exact digits ch member
    · have read : Nat.ofDigitChars 10 (['0'] ++ (List.replicate (-number.dotPlace).toNat '0' ++ number.coefficient)) 0 =
          number.digits := by
        rw [Nat.ofDigitChars_append, Nat.ofDigitChars_append]
        have zero : Nat.ofDigitChars 10 ['0'] 0 = 0 := by decide
        rw [zero, Nat.ofDigitChars_replicate_zero, Nat.mul_zero, isNumber]
      rw [read]
      congr 2
      rw [length_append, length_replicate]
      push_cast
      rw [Int.toNat_of_nonneg (by omega)]
      omega
  · rw [if_neg small, if_neg small]
    by_cases all : (number.coefficient.length : ℤ) ≤ number.dotPlace
    · rw [if_pos all, if_pos all]
      refine ⟨[], Or.inl ⟨rfl, rfl⟩, ?_, ?_, ?_⟩
      · intro ch member
        rw [append_nil] at member
        rcases mem_append.mp member with member | zero
        · exact digits ch member
        · exact zeros _ ch zero
      · intro empty
        exact notEmpty (append_eq_nil_iff.mp empty).1
      · rw [append_nil, Nat.ofDigitChars_append, isNumber, Nat.ofDigitChars_replicate_zero]
        push_cast
        rw [mul_comm _ (number.digits : ℚ), mul_assoc, ← zpow_natCast, ← zpow_add₀ (by norm_num),
          Int.toNat_of_nonneg (by omega)]
        congr 2
        simp only [length_nil, Nat.cast_zero]
        omega
    · rw [if_neg all, if_neg all]
      have inside : number.dotPlace.toNat < number.coefficient.length := by omega
      refine ⟨_, Or.inr rfl, ?_, ?_, ?_⟩
      · rw [take_append_drop]
        exact digits
      · intro empty
        have length := congrArg List.length empty
        rw [length_take, length_nil] at length
        omega
      · rw [take_append_drop, isNumber, length_drop]
        congr 2
        push_cast [inside.le]
        rw [Int.toNat_of_nonneg (by omega)]
        omega

theorem not_mem_of_isDigit {text : List Char} (digits : ∀ ch ∈ text, ch.isDigit = true) {mark : Char}
    (other : mark.isDigit = false) : mark ∉ text := by
  intro member
  rw [digits mark member] at other
  cases other

theorem readPower_powerPart (shift : ℤ) (rest : List Char) (free : 'E' ∉ rest) :
    (cut 'E' (rest ++ powerPart shift)).1 = rest ∧ readPower (cut 'E' (rest ++ powerPart shift)).2 = shift := by
  unfold powerPart
  by_cases zero : shift = 0
  · rw [if_pos zero, append_nil, cut_free free, zero]
    exact ⟨rfl, rfl⟩
  · rw [if_neg zero, cut_append free]
    refine ⟨rfl, ?_⟩
    unfold readPower
    dsimp only
    rw [Nat.ofDigitChars_ten_toDigits]
    by_cases negative : shift < 0
    · rw [if_pos negative, if_pos rfl]
      omega
    · rw [if_neg negative, if_neg (by decide)]
      omega

theorem read_str (number : DecimalTuple) : read number.str = number.value := by
  obtain ⟨fraction, isFraction, digits, notEmpty, isValue⟩ := parts number
  have noExponent : 'E' ∉ number.intPart ++ fraction := not_mem_of_isDigit digits (by decide)
  have noPoint : '.' ∉ number.intPart ++ fraction := not_mem_of_isDigit digits (by decide)
  have unsigned : readUnsigned (number.intPart ++ number.fracPart ++ powerPart (number.leftDigits - number.dotPlace)) =
      number.digits * 10 ^ number.exponent := by
    have free : 'E' ∉ number.intPart ++ number.fracPart := by
      rcases isFraction with ⟨none', -⟩ | point
      · rw [none', append_nil]
        exact fun member => noExponent (mem_append_left _ member)
      · rw [point]
        intro member
        rcases mem_append.mp member with whole | member
        · exact noExponent (mem_append_left _ whole)
        · rcases mem_cons.mp member with same | rest
          · cases same
          · exact noExponent (mem_append_right _ rest)
    obtain ⟨isMantissa, isPower⟩ := readPower_powerPart (number.leftDigits - number.dotPlace) _ free
    have isCut : cut '.' (number.intPart ++ number.fracPart) = (number.intPart, fraction) := by
      have wholeFree : '.' ∉ number.intPart := fun member => noPoint (mem_append_left _ member)
      rcases isFraction with ⟨none', isNone⟩ | point
      · rw [none', isNone, append_nil, cut_free wholeFree]
      · rw [point, cut_append wholeFree]
    unfold readUnsigned
    dsimp only
    rw [isMantissa, isPower, isCut]
    exact isValue
  unfold str value
  rw [mul_assoc, ← unsigned]
  cases number.negative with
  | true =>
    rw [if_pos rfl, if_pos rfl, neg_one_mul]
    rfl
  | false =>
    rw [if_neg Bool.false_ne_true, if_neg Bool.false_ne_true, one_mul, nil_append]
    have head : ∃ ch rest, number.intPart = ch :: rest ∧ ch ≠ '-' := by
      cases isWhole : number.intPart with
      | nil => exact absurd isWhole notEmpty
      | cons ch rest =>
        refine ⟨ch, rest, rfl, ?_⟩
        rintro rfl
        have isDigit := digits '-' (by rw [isWhole]; simp)
        cases isDigit
    obtain ⟨ch, rest, isWhole, notMinus⟩ := head
    rw [isWhole]
    simp only [cons_append]
    unfold read
    split
    · rename_i same
      cases same
      exact absurd rfl notMinus
    · rfl

theorem value_of_str {first second : DecimalTuple} (same : first.str = second.str) : first.value = second.value := by
  rw [← read_str, same, read_str]

theorem not_mem_str (number : DecimalTuple) {mark : Char} (other : mark.isDigit = false)
    (noSign : mark ≠ '-' ∧ mark ≠ '+' ∧ mark ≠ '.' ∧ mark ≠ 'E') : mark ∉ number.str := by
  obtain ⟨fraction, isFraction, digits, -, -⟩ := parts number
  have free := not_mem_of_isDigit digits other
  obtain ⟨noMinus, noPlus, noPoint, noExponent⟩ := noSign
  have power : mark ∉ powerPart (number.leftDigits - number.dotPlace) := by
    unfold powerPart
    split
    · exact not_mem_nil
    · have inDigits : mark ∉ Nat.toDigits 10 (number.leftDigits - number.dotPlace).natAbs := by
        apply not_mem_of_isDigit _ other
        intro ch member
        exact Nat.isDigit_of_mem_toDigits (by decide) (by decide) member
      simp only [mem_cons, not_or]
      refine ⟨noExponent, ?_, inDigits⟩
      split
      · exact noMinus
      · exact noPlus
  have fracFree : mark ∉ number.fracPart := by
    rcases isFraction with ⟨none', -⟩ | point
    · rw [none']
      exact not_mem_nil
    · rw [point, mem_cons, not_or]
      exact ⟨noPoint, fun member => free (mem_append_right _ member)⟩
  unfold str
  rw [mem_append, mem_append, mem_append, not_or, not_or, not_or]
  refine ⟨⟨⟨?_, fun member => free (mem_append_left _ member)⟩, fracFree⟩, power⟩
  split
  · rw [mem_singleton]
    exact noMinus
  · exact not_mem_nil

end DecimalTuple

theorem toList_padded (width number : ℕ) :
    ∃ zeros, (padded width number).toList = List.replicate zeros '0' ++ Nat.toDigits 10 number := by
  refine ⟨width - (toString number).length, ?_⟩
  unfold padded
  rw [String.toList_append, String.toList_ofList, Nat.toString_eq_ofList_toDigits, String.toList_ofList]

theorem isDigit_padded (width number : ℕ) : ∀ ch ∈ (padded width number).toList, ch.isDigit = true := by
  obtain ⟨zeros, isText⟩ := toList_padded width number
  rw [isText]
  intro ch member
  rcases mem_append.mp member with zero | member
  · rw [eq_of_mem_replicate zero]
    decide
  · exact Nat.isDigit_of_mem_toDigits (by decide) (by decide) member

theorem padded_inj (same : (padded width first).toList = (padded width second).toList) :
    first = second := by
  have read : ∀ number, Nat.ofDigitChars 10 (padded width number).toList 0 = number := by
    intro number
    obtain ⟨zeros, isText⟩ := toList_padded width number
    rw [isText, Nat.ofDigitChars_append, Nat.ofDigitChars_replicate_zero, Nat.mul_zero, Nat.ofDigitChars_ten_toDigits]
  rw [← read first, same, read]

end Mhvp.Core
