import Mathlib
import NotebookGrading.Double.Binary
import NotebookGrading.Proofs.Double.Products

/-
  The exact values of doubles and their nearest whole
  numbers.

  The parts that are read off the bits of a finite double
  are the ones that its arithmetic works with, so they give
  its value. Of two whole numbers equally near to a value
  the one farther from zero is taken, which makes the choice
  unique and the same for both signs.

  Key definitions include:
    * `Double.exactValue`
    * `Binary.value`
    * `Double.IsRounded`

  Main statements:
    * `Double.value_ofFloat`
    * `Binary.isRounded_roundHalfAway`
    * `Double.IsRounded.unique`
    * `Double.isRounded_iff`
-/

namespace NotebookGrading

open Float.Model Float.Model.UnpackedFloat

------------------------------------------------------------
-- Values
------------------------------------------------------------

/- The value of a sign and a magnitude in binary. -/
def Binary.value
    (b : Binary) : ℚ :=
  (if b.negative then -1 else 1) *
    (b.significand * (2 : ℚ) ^ b.exponent)

namespace Double

/- The value of an unpacked double, if it is finite. -/
def modelValue : UnpackedFloat → ℚ
  | .finite sign mantissa exponent _ =>
      (sign.apply mantissa : ℤ) * (2 : ℚ) ^ exponent
  | _ => 0

/- The value of a double, if it is finite. -/
def exactValue
    (x : Float) : ℚ :=
  modelValue x.toModel.unpack

------------------------------------------------------------
-- The Parts Of The Bits
------------------------------------------------------------

theorem toNat_exponentField
    (bits : BitVec Format.binary64.numBits) :
    (exponentField bits).toNat =
      bits.toNat / 2 ^ 52 % 2048 := by
  unfold exponentField unpackExponent
  rw [BitVec.toNat_cast, BitVec.extractLsb_toNat,
    Nat.shiftRight_eq_div_pow]
  rfl

theorem toNat_unpackMantissa
    (bits : BitVec Format.binary64.numBits) :
    (unpackMantissa bits : BitVec 52).toNat =
      bits.toNat % 2 ^ 52 := by
  unfold unpackMantissa
  rw [BitVec.toNat_cast, BitVec.extractLsb_toNat,
    Nat.shiftRight_zero]
  rfl

theorem toNat_unpackSign
    (bits : BitVec Format.binary64.numBits) :
    (unpackSign bits).toNat = bits.toNat / 2 ^ 63 % 2 := by
  unfold unpackSign
  rw [BitVec.toNat_cast, BitVec.extractLsb_toNat,
    Nat.shiftRight_eq_div_pow]
  rfl

/- The bits of a double. -/
def bitsOf
    (x : Float) : BitVec Format.binary64.numBits :=
  x.toModel.toBits.toBitVec

/- The parts of a double in terms of its bits. -/
theorem ofFloat_eq
    (x : Float) :
    Binary.ofFloat x =
      if (bitsOf x).toNat / 2 ^ 52 % 2048 = 0 then
        ⟨decide ((bitsOf x).toNat ≥ 2 ^ 63),
          (bitsOf x).toNat % 2 ^ 52, -1074⟩
      else
        ⟨decide ((bitsOf x).toNat ≥ 2 ^ 63),
          (bitsOf x).toNat % 2 ^ 52 + 2 ^ 52,
          ((bitsOf x).toNat / 2 ^ 52 % 2048 : Nat) -
            1075⟩ :=
  rfl

/- The sign that the bits of a double begin with. -/
def signOf
    (x : Float) : Sign :=
  Sign.ofBitVec (unpackSign (bitsOf x))

theorem apply_signOf
    (x : Float)
    (n : ℤ) :
    (signOf x).apply n =
      if (Binary.ofFloat x).negative then -n else n := by
  let bits := bitsOf x
  have hBits : bits.toNat < 2 ^ 64 := bits.isLt
  have hSign := toNat_unpackSign bits
  have hNegative :
      (Binary.ofFloat x).negative =
        decide (bits.toNat ≥ 2 ^ 63) := by
    rw [ofFloat_eq]
    split <;> rfl
  unfold signOf Sign.ofBitVec
  rw [hNegative]
  by_cases hZero : unpackSign bits = 0#1
  · have hNat : (unpackSign bits).toNat = 0 :=
      congrArg BitVec.toNat hZero
    rw [if_pos hZero, if_neg]
    · rfl
    · rw [decide_eq_true_eq]
      omega
  · have hNat : (unpackSign bits).toNat ≠ 0 := by
      intro hEq
      exact hZero (BitVec.eq_of_toNat_eq hEq)
    rw [if_neg hZero, if_pos]
    · rfl
    · rw [decide_eq_true_eq]
      omega

/- The value of a finite double by the fields of its bits. -/
theorem exactValue_eq
    {x : Float}
    (h : x.isFinite = true) :
    exactValue x =
      ((signOf x).apply (Binary.ofFloat x).significand : ℤ) *
        (2 : ℚ) ^ (Binary.ofFloat x).exponent := by
  let bits := bitsOf x
  let field := exponentField bits
  let rest : BitVec 52 := unpackMantissa bits
  have hFieldNat :
      field.toNat = bits.toNat / 2 ^ 52 % 2048 :=
    toNat_exponentField bits
  have hRestNat : rest.toNat = bits.toNat % 2 ^ 52 :=
    toNat_unpackMantissa bits
  unfold exactValue Float.Model.unpack UnpackedFloat.unpack
  change
    modelValue
      (if field = -1#11 then
        (if rest = 0#52 then _ else _)
      else if field = 0#11 then
        (if hZero : rest = 0#52 then .zero (signOf x) else
          .finite (signOf x) rest.toNat
            ((field.toNat : Int) - 1075 + 1) _)
      else
        .finite (signOf x) (1#1 ++ rest).toNat
          ((field.toNat : Int) - 1075) _) = _
  have hFinite : field ≠ -1#11 := exponentField_ne h
  rw [if_neg hFinite]
  by_cases hField : field = 0#11
  · have hZero : bits.toNat / 2 ^ 52 % 2048 = 0 := by
      rw [← hFieldNat, hField]
      rfl
    have hParts :
        (Binary.ofFloat x).significand = rest.toNat ∧
          (Binary.ofFloat x).exponent = -1074 := by
      rw [hRestNat]
      rw [ofFloat_eq, if_pos hZero]
      exact ⟨rfl, rfl⟩
    rw [if_pos hField, hParts.1, hParts.2]
    by_cases hRest : rest = 0#52
    · rw [dif_pos hRest, hRest, apply_signOf]
      change (0 : ℚ) = _
      split <;> simp
    · rw [dif_neg hRest, hField]
      rfl
  · have hOne : bits.toNat / 2 ^ 52 % 2048 ≠ 0 := by
      rw [← hFieldNat]
      intro hEq
      exact hField (BitVec.eq_of_toNat_eq hEq)
    have hParts :
        (Binary.ofFloat x).significand =
            (1#1 ++ rest).toNat ∧
          (Binary.ofFloat x).exponent =
            (field.toNat : Int) - 1075 := by
      rw [toNat_one_append, hRestNat, hFieldNat]
      rw [ofFloat_eq, if_neg hOne]
      exact ⟨Nat.add_comm _ _, rfl⟩
    rw [if_neg hField, hParts.1, hParts.2]
    rfl

theorem value_ofFloat
    {x : Float}
    (h : x.isFinite = true) :
    (Binary.ofFloat x).value = exactValue x := by
  rw [exactValue_eq h, apply_signOf, Binary.value]
  split <;> push_cast <;> ring

------------------------------------------------------------
-- Nearest Whole Numbers
------------------------------------------------------------

/-
  A whole number is nearest to a value. When another one is
  just as near, it is the one farther from zero.
-/
structure IsRounded
    (value : ℚ)
    (n : ℤ) : Prop where
  near : |value - n| ≤ 1 / 2
  away : |value - n| = 1 / 2 → |value| < |(n : ℚ)|

namespace IsRounded

variable {value : ℚ}
variable {m n : ℤ}

theorem neg
    (h : IsRounded value n) :
    IsRounded (-value) (-n) := by
  have hDistance : |-value - ((-n : ℤ) : ℚ)| = |value - n| := by
    rw [← abs_neg]
    push_cast
    ring_nf
  constructor
  · rw [hDistance]
    exact h.near
  · rw [hDistance, abs_neg, Int.cast_neg, abs_neg]
    exact h.away

theorem nonneg
    (h : IsRounded value n)
    (hValue : 0 ≤ value) :
    0 ≤ n := by
  have hNear := (abs_le.1 h.near).2
  have hAbove : (-1 : ℚ) < n := by linarith
  have hInt : (-1 : ℤ) < n := by exact_mod_cast hAbove
  omega

/- A value that is not negative lies in a half-open range. -/
theorem range_of_nonneg
    (h : IsRounded value n)
    (hValue : 0 ≤ value) :
    (n : ℚ) - 1 / 2 ≤ value ∧ value < n + 1 / 2 := by
  have hN : (0 : ℚ) ≤ n := by exact_mod_cast h.nonneg hValue
  rcases abs_le.1 h.near with ⟨hLow, hHigh⟩
  refine ⟨by linarith, ?_⟩
  by_contra hNot
  have hTie : value - n = 1 / 2 := by linarith
  have hAway := h.away (by rw [hTie]; norm_num)
  rw [abs_of_nonneg hValue, abs_of_nonneg hN] at hAway
  linarith

theorem unique_of_nonneg
    (h : IsRounded value m)
    (hOther : IsRounded value n)
    (hValue : 0 ≤ value) :
    m = n := by
  rcases h.range_of_nonneg hValue with ⟨hLow, hHigh⟩
  rcases hOther.range_of_nonneg hValue with
    ⟨hOtherLow, hOtherHigh⟩
  have hLess : (m : ℚ) < n + 1 := by linarith
  have hMore : (n : ℚ) < m + 1 := by linarith
  have hLess : m < n + 1 := by exact_mod_cast hLess
  have hMore : n < m + 1 := by exact_mod_cast hMore
  omega

/- No value is rounded to two whole numbers. -/
theorem unique
    (h : IsRounded value m)
    (hOther : IsRounded value n) :
    m = n := by
  rcases le_total 0 value with hValue | hValue
  · exact h.unique_of_nonneg hOther hValue
  · have hNeg := neg_nonneg.2 hValue
    exact neg_inj.1 (h.neg.unique_of_nonneg hOther.neg hNeg)

end IsRounded

end Double

namespace Binary

open Double (IsRounded)

/- The magnitude of a binary number. -/
def magnitude
    (b : Binary) : ℚ :=
  b.significand * (2 : ℚ) ^ b.exponent

theorem magnitude_nonneg
    (b : Binary) :
    0 ≤ b.magnitude :=
  mul_nonneg (Nat.cast_nonneg _) (zpow_nonneg (by decide) _)

/- The whole number in whose range a value lies is nearest. -/
theorem isRounded_of_range
    {value : ℚ}
    {n : ℕ}
    (hValue : 0 ≤ value)
    (hLow : (n : ℚ) - 1 / 2 ≤ value)
    (hHigh : value < n + 1 / 2) :
    IsRounded value n := by
  have hN : (0 : ℚ) ≤ n := Nat.cast_nonneg n
  constructor
  · rw [Int.cast_natCast, abs_le]
    constructor <;> linarith
  · rw [Int.cast_natCast, abs_of_nonneg hValue,
      abs_of_nonneg hN]
    intro hTie
    rcases eq_or_eq_neg_of_abs_eq hTie with hAbove | hBelow
    · linarith
    · linarith

/- A whole magnitude stays as it is. -/
theorem roundedMagnitude_of_ofNat
    {b : Binary}
    {up : ℕ}
    (h : b.exponent = .ofNat up) :
    (b.roundedMagnitude : ℚ) = b.magnitude := by
  rw [roundedMagnitude, magnitude, h]
  simp

/-
  A magnitude with a negative exponent is a quotient by a
  power of two. Half of the divisor is added before the
  division, so a half is rounded up.
-/
theorem range_roundedMagnitude
    {b : Binary}
    {down : ℕ}
    (h : b.exponent = .negSucc down) :
    (b.roundedMagnitude : ℚ) - 1 / 2 ≤ b.magnitude ∧
      b.magnitude < b.roundedMagnitude + 1 / 2 := by
  let divisor : ℕ := 2 ^ (down + 1)
  have hPos : 0 < divisor := Nat.two_pow_pos _
  have hDivisor : (0 : ℚ) < divisor := by exact_mod_cast hPos
  have hMagnitude :
      b.magnitude = b.significand / divisor := by
    rw [magnitude, h, zpow_negSucc, div_eq_mul_inv]
    norm_cast
  have hRounded :
      b.roundedMagnitude =
        (2 * b.significand + divisor) / (2 * divisor) := by
    rw [roundedMagnitude, h]
    change
      (2 * b.significand + divisor) / 2 ^ (down + 2) = _
    rw [Nat.pow_succ, Nat.mul_comm (2 ^ (down + 1))]
  have hLow :=
    Nat.div_mul_le_self
      (2 * b.significand + divisor) (2 * divisor)
  have hHigh :=
    Nat.lt_div_mul_add
      (a := 2 * b.significand + divisor)
      (b := 2 * divisor) (by omega)
  rw [← hRounded] at hLow hHigh
  rw [hMagnitude, le_div_iff₀ hDivisor, div_lt_iff₀ hDivisor]
  constructor
  · have hCast :
        (b.roundedMagnitude * (2 * divisor) : ℚ) ≤
          2 * b.significand + divisor := by
      exact_mod_cast hLow
    linarith
  · have hCast :
        (2 * b.significand + divisor : ℚ) <
          b.roundedMagnitude * (2 * divisor) +
            2 * divisor := by
      exact_mod_cast hHigh
    linarith

theorem isRounded_roundedMagnitude
    (b : Binary) :
    IsRounded b.magnitude b.roundedMagnitude := by
  cases hExponent : b.exponent with
  | ofNat up =>
      have hWhole := roundedMagnitude_of_ofNat hExponent
      apply isRounded_of_range b.magnitude_nonneg <;>
        linarith
  | negSucc down =>
      rcases range_roundedMagnitude hExponent with
        ⟨hLow, hHigh⟩
      exact isRounded_of_range b.magnitude_nonneg hLow hHigh

theorem value_eq
    (b : Binary) :
    b.value =
      if b.negative then -b.magnitude else b.magnitude := by
  unfold value magnitude
  split <;> ring

theorem isRounded_roundHalfAway
    (b : Binary) :
    IsRounded b.value b.roundHalfAway := by
  rw [value_eq, roundHalfAway]
  split
  · exact b.isRounded_roundedMagnitude.neg
  · exact b.isRounded_roundedMagnitude

end Binary

namespace Double

/- Exactly one whole number is the nearest to a double. -/
theorem isRounded_iff
    {x : Float}
    {n : ℤ}
    (h : x.isFinite = true) :
    IsRounded (exactValue x) n ↔
      (Binary.ofFloat x).roundHalfAway = n := by
  have hRounded :=
    (Binary.ofFloat x).isRounded_roundHalfAway
  rw [value_ofFloat h] at hRounded
  constructor
  · exact hRounded.unique
  · rintro rfl
    exact hRounded

end Double

end NotebookGrading
