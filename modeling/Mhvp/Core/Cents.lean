import Mhvp.Core.Precision

namespace Mhvp.Core

variable {value amount : Decimal}

theorem isCents_iff_int : IsCents value ↔ ∃ cents : ℤ, value = cents / 100 := by
  constructor
  · intro isCents
    refine ⟨(value * 100).num, ?_⟩
    have whole : ((value * 100).num : ℚ) = value * 100 := Rat.coe_int_num_of_den_eq_one isCents
    rw [whole]
    ring
  · rintro ⟨cents, rfl⟩
    have whole : (cents : ℚ) / 100 * 100 = cents := by ring
    unfold IsCents
    rw [whole]
    exact Rat.den_intCast cents

theorem roundCents_neg (value : Decimal) : roundCents (-value) = -roundCents value := by
  unfold roundCents
  rw [abs_neg]
  dsimp only
  rcases lt_trichotomy value 0 with negative | zero | positive
  · rw [if_neg (not_lt.mpr (neg_nonneg.mpr negative.le)), if_pos negative]
    ring
  · subst zero
    decide +kernel
  · rw [if_pos (neg_lt_zero.mpr positive), if_neg positive.not_gt]
    ring

theorem isCents_roundCents (value : Decimal) : IsCents (roundCents value) := by
  rw [isCents_iff_int]
  unfold roundCents
  dsimp only
  split
  · exact ⟨-(|value| * 100 + 1 / 2).floor, by push_cast; ring⟩
  · exact ⟨(|value| * 100 + 1 / 2).floor, rfl⟩

theorem roundCents_error (value : Decimal) : |roundCents value - value| ≤ 1 / 200 := by
  have below := Int.floor_le (|value| * 100 + 1 / 2)
  have above := Int.lt_floor_add_one (|value| * 100 + 1 / 2)
  have isFloor : (|value| * 100 + 1 / 2).floor = ⌊|value| * 100 + 1 / 2⌋ := rfl
  unfold roundCents
  rw [isFloor]
  dsimp only
  generalize ⌊|value| * 100 + 1 / 2⌋ = cents at *
  split
  · rename_i negative
    rw [abs_of_neg negative] at below above
    rw [abs_le]
    constructor <;> linarith
  · rename_i notNegative
    rw [abs_of_nonneg (le_of_not_gt notNegative)] at below above
    rw [abs_le]
    constructor <;> linarith

section

variable (isCents : IsCents amount)
include isCents

theorem roundCents_eq (near : |amount - value| < 1 / 200) : roundCents value = amount := by
  obtain ⟨cents, isAmount⟩ := isCents_iff_int.mp isCents
  obtain ⟨rounded, isRounded⟩ := isCents_iff_int.mp (isCents_roundCents value)
  have error := roundCents_error value
  rw [isAmount] at near
  rw [isRounded] at error
  rw [isAmount, isRounded]
  rw [abs_lt] at near
  rw [abs_le] at error
  have less : (rounded : ℚ) < cents + 1 := by linarith
  have more : (cents : ℚ) < rounded + 1 := by linarith
  have same : rounded = cents := by
    have lessInt : rounded < cents + 1 := by exact_mod_cast less
    have moreInt : cents < rounded + 1 := by exact_mod_cast more
    omega
  rw [same]

theorem roundCents_isCents : roundCents amount = amount := by
  apply roundCents_eq isCents
  norm_num

theorem abs_le_of_isCents (limitCents : IsCents limit)
    (less : |amount| < limit) : |amount| ≤ limit - 1 / 100 := by
  obtain ⟨cents, isAmount⟩ := isCents_iff_int.mp isCents
  obtain ⟨most, isLimit⟩ := isCents_iff_int.mp limitCents
  have isAbs : |amount| = (|cents| : ℤ) / 100 := by
    rw [isAmount, abs_div, Int.cast_abs, abs_of_pos (show (0 : ℚ) < 100 by norm_num)]
  rw [isAbs, isLimit] at less ⊢
  have fewer : |cents| < most := by
    have scaled : ((|cents| : ℤ) : ℚ) < most := (div_lt_div_iff_of_pos_right (by norm_num)).mp less
    exact_mod_cast scaled
  have next : ((|cents| : ℤ) : ℚ) + 1 ≤ most := by exact_mod_cast fewer
  linarith

theorem roundCents_le (less : value < amount + 1 / 200) : roundCents value ≤ amount := by
  obtain ⟨cents, isAmount⟩ := isCents_iff_int.mp isCents
  obtain ⟨rounded, isRounded⟩ := isCents_iff_int.mp (isCents_roundCents value)
  have above := (abs_le.mp (roundCents_error value)).2
  rw [isAmount] at less ⊢
  rw [isRounded] at above ⊢
  by_contra more
  have scaled : (cents : ℚ) < rounded := (div_lt_div_iff_of_pos_right (by norm_num)).mp (not_le.mp more)
  have next : (cents : ℚ) + 1 ≤ rounded := by exact_mod_cast scaled
  linarith

theorem le_roundCents (more : amount - 1 / 200 < value) : amount ≤ roundCents value := by
  have isCentsNeg : IsCents (-amount) := by
    obtain ⟨cents, rfl⟩ := isCents_iff_int.mp isCents
    exact isCents_iff_int.mpr ⟨-cents, by push_cast; ring⟩
  have below := roundCents_le isCentsNeg (show -value < -amount + 1 / 200 by linarith)
  rw [roundCents_neg] at below
  linarith

end

theorem roundCents_zero : roundCents 0 = 0 := by decide +kernel

theorem roundCents_mono (nonneg : 0 ≤ first) (order : first ≤ second) :
    roundCents first ≤ roundCents second := by
  have ofNonneg : ∀ {size : Decimal}, 0 ≤ size → roundCents size = (⌊size * 100 + 1 / 2⌋ : ℤ) / 100 := by
    intro size sizeNonneg
    unfold roundCents
    rw [abs_of_nonneg sizeNonneg]
    dsimp only
    rw [if_neg (not_lt.mpr sizeNonneg)]
    rfl
  rw [ofNonneg nonneg, ofNonneg (nonneg.trans order)]
  have floors : ⌊first * 100 + 1 / 2⌋ ≤ ⌊second * 100 + 1 / 2⌋ := Int.floor_mono (by linarith)
  have cast : ((⌊first * 100 + 1 / 2⌋ : ℤ) : ℚ) ≤ (⌊second * 100 + 1 / 2⌋ : ℤ) := by exact_mod_cast floors
  linarith

theorem roundCents_nonneg (nonneg : 0 ≤ value) : 0 ≤ roundCents value :=
  roundCents_zero ▸ roundCents_mono (le_refl 0) nonneg

/-- Two values near a third one are rounded alike, unless the third one is near a half cent. -/
theorem roundCents_eq_or_half {first second exact tolerance : ℚ} (near : |first - exact| ≤ tolerance)
    (nearSecond : |second - exact| ≤ tolerance) :
    roundCents first = roundCents second ∨ ∃ cents : ℤ, |exact - (2 * cents + 1) / 200| ≤ tolerance := by
  obtain ⟨cents, isFirst⟩ := isCents_iff_int.mp (isCents_roundCents first)
  obtain ⟨others, isSecond⟩ := isCents_iff_int.mp (isCents_roundCents second)
  have error := roundCents_error first
  have errorSecond := roundCents_error second
  rw [isFirst] at error
  rw [isSecond] at errorSecond
  rw [abs_le] at error errorSecond near nearSecond
  rw [isFirst, isSecond]
  rcases lt_trichotomy cents others with less | same | more
  · right
    have next : (cents : ℚ) + 1 ≤ others := by exact_mod_cast less
    refine ⟨cents, abs_le.mpr ⟨?_, ?_⟩⟩ <;> linarith [near.1, near.2, nearSecond.1, nearSecond.2, error.1, errorSecond.2]
  · left
    rw [same]
  · right
    have next : (others : ℚ) + 1 ≤ cents := by exact_mod_cast more
    refine ⟨others, abs_le.mpr ⟨?_, ?_⟩⟩ <;> linarith [near.1, near.2, nearSecond.1, nearSecond.2, error.2, errorSecond.1]

theorem IsCents.add (first : IsCents value) (second : IsCents amount) : IsCents (value + amount) := by
  obtain ⟨cents, rfl⟩ := isCents_iff_int.mp first
  obtain ⟨more, rfl⟩ := isCents_iff_int.mp second
  exact isCents_iff_int.mpr ⟨cents + more, by push_cast; ring⟩

theorem IsCents.neg (isCents : IsCents value) : IsCents (-value) := by
  obtain ⟨cents, rfl⟩ := isCents_iff_int.mp isCents
  exact isCents_iff_int.mpr ⟨-cents, by push_cast; ring⟩

theorem IsCents.sub (first : IsCents value) (second : IsCents amount) : IsCents (value - amount) := by
  rw [sub_eq_add_neg]
  exact first.add second.neg

theorem isCents_zero : IsCents 0 := isCents_iff_int.mpr ⟨0, by simp⟩

theorem IsCents.sum {values : List Decimal} (each : ∀ value ∈ values, IsCents value) : IsCents values.sum := by
  induction values with
  | nil => exact isCents_zero
  | cons value rest ih =>
    rw [List.sum_cons]
    exact (each value List.mem_cons_self).add (ih fun other member => each other (List.mem_cons_of_mem _ member))

theorem contextRound_isCents (isCents : IsCents value) (small : |value| < 10 ^ 26) : contextRound value = value := by
  have nonneg : ∀ {size : Decimal}, IsCents size → 0 ≤ size → size < 10 ^ 26 → contextRound size = size := by
    intro size isSize sizeNonneg less
    obtain ⟨cents, rfl⟩ := isCents_iff_int.mp isSize
    have centsNonneg : 0 ≤ cents := by
      have scaled : (0 : ℚ) ≤ cents := by linarith
      exact_mod_cast scaled
    obtain ⟨number, rfl⟩ := Int.eq_ofNat_of_zero_le centsNonneg
    have cast : ((number : ℤ) : ℚ) = number := Int.cast_natCast number
    rw [cast] at less ⊢
    have few : number < 10 ^ 28 := by
      have scaled : (number : ℚ) < 10 ^ 28 := by linarith
      exact_mod_cast scaled
    have shifted := contextRound_mul_zpow (Nat.cast_nonneg (α := ℚ) number) (-2)
    have places : (10 : ℚ) ^ (-2 : ℤ) = 1 / 100 := by norm_num
    rw [contextRound_natCast few, places, mul_one_div] at shifted
    exact shifted
  rcases le_total 0 value with positive | negative
  · rw [abs_of_nonneg positive] at small
    exact nonneg isCents positive small
  · rw [abs_of_nonpos negative] at small
    have flipped := nonneg isCents.neg (neg_nonneg.mpr negative) small
    rw [contextRound_neg] at flipped
    exact neg_injective flipped

theorem roundedSum_isCents (isCents : ∀ amount ∈ amounts, IsCents amount)
    (nonneg : ∀ amount ∈ amounts, 0 ≤ amount) (small : amounts.sum < 10 ^ 26) :
    Lib.Rounding.roundedSum contextRound amounts = amounts.sum := by
  have general : ∀ (rest : List Decimal) (start : Decimal), IsCents start → 0 ≤ start →
      (∀ amount ∈ rest, IsCents amount) → (∀ amount ∈ rest, 0 ≤ amount) → start + rest.sum < 10 ^ 26 →
      rest.foldl (fun sum amount => contextRound (sum + amount)) start = start + rest.sum := by
    intro rest
    induction rest with
    | nil =>
      intro start _ _ _ _ _
      simp
    | cons amount rest ih =>
      intro start isStart startNonneg each eachNonneg less
      rw [List.sum_cons] at less ⊢
      have own := each amount List.mem_cons_self
      have ownNonneg := eachNonneg amount List.mem_cons_self
      have restNonneg : ∀ other ∈ rest, 0 ≤ other := fun other member => eachNonneg other (List.mem_cons_of_mem _ member)
      have sumNonneg := List.sum_nonneg restNonneg
      have exact' : contextRound (start + amount) = start + amount := by
        apply contextRound_isCents (isStart.add own)
        rw [abs_of_nonneg (add_nonneg startNonneg ownNonneg)]
        linarith
      rw [List.foldl_cons, exact', ih (start + amount) (isStart.add own) (add_nonneg startNonneg ownNonneg)
        (fun other member => each other (List.mem_cons_of_mem _ member)) restNonneg (by linarith), add_assoc]
  have whole := general amounts 0 (isCents_iff_int.mpr ⟨0, by simp⟩) (le_refl 0) isCents nonneg (by linarith)
  simpa [Lib.Rounding.roundedSum] using whole

end Mhvp.Core
