import Mhvp.Core.DecimalText
import Mhvp.Lib.Months
import Mhvp.Sla.BusinessTime

namespace Mhvp.Banking.ContentHash

open Core Lib.Calendar List
open Sla (isoText)

/-- The fields of a raw movement that are hashed. -/
structure WrittenTransaction where
  bookingDate : Date
  amount : DecimalTuple
  purpose : Option String
  endToEndId : Option String
  counterpartIban : Option String
  real : 1 ≤ bookingDate.ordinal

/-- `tx.purpose or ""` -/
def orEmpty (text : Option String) : String := text.getD ""

/-- `"|".join(parts)` -/
def preimage (ibanFp : String) (tx : WrittenTransaction) : String :=
  "|".intercalate [ibanFp, isoText tx.bookingDate, String.ofList tx.amount.str, orEmpty tx.purpose,
    orEmpty tx.endToEndId, orEmpty tx.counterpartIban]

variable {Digest : Type}

/-- `content_hash` -/
def contentHash (sha256 : String → Digest) (ibanFp : String) (tx : WrittenTransaction) : Digest :=
  sha256 (preimage ibanFp tx)

/-- Texts of a movement; a missing one is an empty one. -/
def texts (tx : WrittenTransaction) : String × String × String :=
  (orEmpty tx.purpose, orEmpty tx.endToEndId, orEmpty tx.counterpartIban)

/-- Equal account, day, amount as a number and texts. -/
def SameContent (ibanFp : String) (tx : WrittenTransaction) (otherFp : String) (other : WrittenTransaction) : Prop :=
  ibanFp = otherFp ∧ tx.bookingDate = other.bookingDate ∧ tx.amount.value = other.amount.value ∧ texts tx = texts other

/-- The texts as they are joined. -/
def joinedTexts (tx : WrittenTransaction) : List Char :=
  (orEmpty tx.purpose).toList ++ '|' :: ((orEmpty tx.endToEndId).toList ++ '|' :: (orEmpty tx.counterpartIban).toList)

/-- Other texts that look alike once they are joined: the mark is part of one of them. -/
def MovedMark (ibanFp : String) (tx : WrittenTransaction) (otherFp : String) (other : WrittenTransaction) : Prop :=
  ibanFp = otherFp ∧ tx.bookingDate = other.bookingDate ∧ tx.amount.str = other.amount.str ∧
    joinedTexts tx = joinedTexts other ∧ texts tx ≠ texts other

/-- End-to-end id and counterpart are free of the mark. -/
def Free (tx : WrittenTransaction) : Prop :=
  '|' ∉ (orEmpty tx.endToEndId).toList ∧ '|' ∉ (orEmpty tx.counterpartIban).toList

/-- An amount written on two places, as `quantize(Decimal("0.01"))` leaves it, and not as `-0.00`. -/
def OnCents (amount : DecimalTuple) : Prop := amount.exponent = -2 ∧ (amount.digits = 0 → amount.negative = false)

variable {ibanFp otherFp : String} {tx other : WrittenTransaction}

theorem toList_isoText (day : Date) : (isoText day).toList = (padded 4 day.year).toList ++
    '-' :: ((padded 2 day.month).toList ++ '-' :: (padded 2 day.day).toList) := by
  unfold isoText
  simp only [String.toList_append]
  simp

theorem isoText_inj (firstReal : 1 ≤ first.ordinal) (secondReal : 1 ≤ second.ordinal)
    (same : (isoText first).toList = (isoText second).toList) : first = second := by
  have free : ∀ width number, '-' ∉ (padded width number).toList :=
    fun width number => DecimalTuple.not_mem_of_isDigit (isDigit_padded width number) (by decide)
  rw [toList_isoText, toList_isoText] at same
  obtain ⟨sameYear, rest⟩ := append_mark_inj (free _ _) (free _ _) same
  obtain ⟨sameMonth, sameDay⟩ := append_mark_inj (free _ _) (free _ _) rest
  rw [← ofYmd_year_month_day first firstReal, ← ofYmd_year_month_day second secondReal,
    padded_inj sameYear, padded_inj sameMonth, padded_inj sameDay]

theorem not_mem_isoText (day : Date) : '|' ∉ (isoText day).toList := by
  have free : ∀ width number, '|' ∉ (padded width number).toList :=
    fun width number => DecimalTuple.not_mem_of_isDigit (isDigit_padded width number) (by decide)
  rw [toList_isoText, mem_append, mem_cons, mem_append, mem_cons]
  simp only [not_or]
  exact ⟨free _ _, by decide, free _ _, by decide, free _ _⟩

theorem str_of_value (firstCents : OnCents first) (secondCents : OnCents second)
    (same : first.value = second.value) : first.str = second.str := by
  obtain ⟨firstNegative, firstDigits, firstExponent⟩ := first
  obtain ⟨secondNegative, secondDigits, secondExponent⟩ := second
  obtain ⟨rfl, firstZero⟩ := firstCents
  obtain ⟨rfl, secondZero⟩ := secondCents
  dsimp only at firstZero secondZero
  have scale : (10 : ℚ) ^ (-2 : ℤ) ≠ 0 := by norm_num
  unfold DecimalTuple.value at same
  dsimp only at same
  have signed := mul_right_cancel₀ scale same
  have firstNonneg : (0 : ℚ) ≤ firstDigits := Nat.cast_nonneg _
  have secondNonneg : (0 : ℚ) ≤ secondDigits := Nat.cast_nonneg _
  cases firstNegative <;> cases secondNegative <;> simp only [if_true, Bool.false_eq_true, if_false] at signed
  · have digits : firstDigits = secondDigits := by
      have number : (firstDigits : ℚ) = secondDigits := by linarith
      exact_mod_cast number
    rw [digits]
  · have zero : secondDigits = 0 := by
      have number : (secondDigits : ℚ) = 0 := by linarith
      exact_mod_cast number
    cases secondZero zero
  · have zero : firstDigits = 0 := by
      have number : (firstDigits : ℚ) = 0 := by linarith
      exact_mod_cast number
    cases firstZero zero
  · have digits : firstDigits = secondDigits := by
      have number : (firstDigits : ℚ) = secondDigits := by linarith
      exact_mod_cast number
    rw [digits]

theorem toList_preimage (ibanFp : String) (tx : WrittenTransaction) : (preimage ibanFp tx).toList =
    ibanFp.toList ++ '|' :: ((isoText tx.bookingDate).toList ++ '|' :: (tx.amount.str ++ '|' :: joinedTexts tx)) := by
  unfold preimage joinedTexts
  rw [String.toList_intercalate]
  simp [List.intercalate]

theorem preimage_eq_iff (plain : '|' ∉ ibanFp.toList) (otherPlain : '|' ∉ otherFp.toList) :
    preimage ibanFp tx = preimage otherFp other ↔ ibanFp = otherFp ∧ tx.bookingDate = other.bookingDate ∧
      tx.amount.str = other.amount.str ∧ joinedTexts tx = joinedTexts other := by
  have amountFree : ∀ amount : DecimalTuple, '|' ∉ amount.str :=
    fun amount => amount.not_mem_str (by decide) (by decide)
  constructor
  · intro same
    have lists := congrArg String.toList same
    rw [toList_preimage, toList_preimage] at lists
    obtain ⟨sameFp, afterFp⟩ := append_mark_inj plain otherPlain lists
    obtain ⟨sameDay, afterDay⟩ := append_mark_inj (not_mem_isoText _) (not_mem_isoText _) afterFp
    obtain ⟨sameAmount, sameTexts⟩ := append_mark_inj (amountFree _) (amountFree _) afterDay
    exact ⟨String.toList_inj.mp sameFp, isoText_inj tx.real other.real sameDay, sameAmount, sameTexts⟩
  · rintro ⟨sameFp, sameDay, sameAmount, sameTexts⟩
    apply String.toList_inj.mp
    rw [toList_preimage, toList_preimage, sameFp, sameDay, sameAmount, sameTexts]

theorem joinedTexts_of_texts (same : texts tx = texts other) : joinedTexts tx = joinedTexts other := by
  obtain ⟨samePurpose, rest⟩ := Prod.mk.inj same
  obtain ⟨sameId, sameIban⟩ := Prod.mk.inj rest
  unfold joinedTexts
  rw [samePurpose, sameId, sameIban]

theorem not_movedMark (free : Free tx) (otherFree : Free other) : ¬ MovedMark ibanFp tx otherFp other := by
  rintro ⟨-, -, -, joined, apart⟩
  apply apart
  have reversed := congrArg List.reverse joined
  unfold joinedTexts at reversed
  simp only [reverse_append, reverse_cons, append_assoc, singleton_append] at reversed
  obtain ⟨sameIban, before⟩ := append_mark_inj (fun member => free.2 (mem_reverse.mp member))
    (fun member => otherFree.2 (mem_reverse.mp member)) reversed
  obtain ⟨sameId, samePurpose⟩ := append_mark_inj (fun member => free.1 (mem_reverse.mp member))
    (fun member => otherFree.1 (mem_reverse.mp member)) before
  unfold texts
  rw [String.toList_inj.mp (reverse_injective sameIban), String.toList_inj.mp (reverse_injective sameId),
    String.toList_inj.mp (reverse_injective samePurpose)]

/-- The hash of two movements identifies their content exactly where equal amounts are written alike and no mark has
moved between their texts, as amounts on cents and last texts without the mark guarantee. -/
theorem content_hash_iff {sha256 : String → Digest} (collisionFree : Function.Injective sha256)
    (plain : '|' ∉ ibanFp.toList) (otherPlain : '|' ∉ otherFp.toList) :
    (((SameContent ibanFp tx otherFp other → contentHash sha256 ibanFp tx = contentHash sha256 otherFp other) ∧
        (¬ SameContent ibanFp tx otherFp other → preimage ibanFp tx ≠ preimage otherFp other)) ↔
      (SameContent ibanFp tx otherFp other → tx.amount.str = other.amount.str) ∧ ¬ MovedMark ibanFp tx otherFp other) ∧
    (OnCents tx.amount → OnCents other.amount → SameContent ibanFp tx otherFp other →
      tx.amount.str = other.amount.str) ∧
    (Free tx → Free other → ¬ MovedMark ibanFp tx otherFp other) := by
  have isEqual : preimage ibanFp tx = preimage otherFp other ↔ ibanFp = otherFp ∧ tx.bookingDate = other.bookingDate ∧
      tx.amount.str = other.amount.str ∧ joinedTexts tx = joinedTexts other := preimage_eq_iff plain otherPlain
  have isHash : contentHash sha256 ibanFp tx = contentHash sha256 otherFp other ↔
      preimage ibanFp tx = preimage otherFp other := collisionFree.eq_iff
  refine ⟨?_, fun cents otherCents same => str_of_value cents otherCents same.2.2.1, not_movedMark⟩
  rw [isHash]
  constructor
  · rintro ⟨equal, unequal⟩
    refine ⟨fun same => (isEqual.mp (equal same)).2.2.1, ?_⟩
    rintro ⟨sameFp, sameDay, sameAmount, joined, apart⟩
    exact unequal (fun same => apart same.2.2.2) (isEqual.mpr ⟨sameFp, sameDay, sameAmount, joined⟩)
  · rintro ⟨alike, notMoved⟩
    constructor
    · intro same
      exact isEqual.mpr ⟨same.1, same.2.1, alike same, joinedTexts_of_texts same.2.2.2⟩
    · intro differ equal
      obtain ⟨sameFp, sameDay, sameAmount, joined⟩ := isEqual.mp equal
      refine notMoved ⟨sameFp, sameDay, sameAmount, joined, fun sameTexts => ?_⟩
      exact differ ⟨sameFp, sameDay, DecimalTuple.value_of_str sameAmount, sameTexts⟩

/-- 10.50 on 2026-10-04, from one source with one digit after the point and from another with two. -/
def sample (digits : ℕ) (exponent : ℤ) (purpose endToEndId : String) : WrittenTransaction where
  bookingDate := .ofYmd 2026 10 4
  amount := ⟨false, digits, exponent⟩
  purpose := some purpose
  endToEndId := some endToEndId
  counterpartIban := none
  real := by decide

theorem sample_identified :
    contentHash id "fp" (sample 1050 (-2) "Miete" "E1") ≠ contentHash id "fp" (sample 1050 (-2) "Miete" "E2") := by
  have same := @content_hash_iff String "fp" "fp" (sample 1050 (-2) "Miete" "E1") (sample 1050 (-2) "Miete" "E2") id
    Function.injective_id (by decide) (by decide)
  have notMoved := same.2.2 ⟨by decide, by decide⟩ ⟨by decide, by decide⟩
  refine (same.1.mpr ⟨fun _ => rfl, notMoved⟩).2 ?_
  rintro ⟨-, -, -, texts⟩
  exact absurd texts (by decide)

/-- The same movement with another number of places has another hash, and two movements have one where the mark of the
purpose of one of them is the separator of the other. -/
theorem written_differently :
    (SameContent "fp" (sample 105 (-1) "Miete" "E1") "fp" (sample 1050 (-2) "Miete" "E1") ∧
      preimage "fp" (sample 105 (-1) "Miete" "E1") ≠ preimage "fp" (sample 1050 (-2) "Miete" "E1")) ∧
    (¬ SameContent "fp" (sample 1050 (-2) "Miete|Mai" "") "fp" (sample 1050 (-2) "Miete" "Mai|") ∧
      preimage "fp" (sample 1050 (-2) "Miete" "Mai|") = preimage "fp" (sample 1050 (-2) "Miete|Mai" "")) := by
  refine ⟨⟨⟨rfl, rfl, by decide +kernel, rfl⟩, by decide +kernel⟩, ?_, by decide +kernel⟩
  rintro ⟨-, -, -, texts⟩
  exact absurd texts (by decide)

end Mhvp.Banking.ContentHash
