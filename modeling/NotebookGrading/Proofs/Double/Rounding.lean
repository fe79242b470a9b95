import Mathlib.Algebra.Ring.Int.Defs
import Mathlib.Algebra.Ring.Nat
import NotebookGrading.Double.Text

/-
  The range of rounded doubles.

  Rounding and packing are followed through the exponents of
  unpacked doubles only: a value whose exponent is at most
  971 packs to a finite double, and rounding a value below
  2 ^ 1023 ends at such an exponent.

  Key definitions include:
    * `Double.ExponentAtMost`

  Main statements:
    * `Double.exponentAtMost_unpack_pack`
    * `Double.exponentAtMost_roundWithAccuracy`
-/

namespace NotebookGrading

namespace Double

open Float.Model Float.Model.UnpackedFloat

------------------------------------------------------------
-- Exponents
------------------------------------------------------------

/-
  Whether an unpacked double is zero or a finite number
  with an exponent within a bound.
-/
inductive ExponentAtMost
    (bound : Int) : UnpackedFloat → Prop
  | zero (sign : Sign) :
      ExponentAtMost bound (.zero sign)
  | finite
      {sign : Sign}
      {mantissa : Nat}
      {exponent : Int}
      {hPos : 0 < mantissa}
      (hLe : exponent ≤ bound) :
      ExponentAtMost bound
        (.finite sign mantissa exponent hPos)

theorem ExponentAtMost.isFinite
    {bound : Int}
    {u : UnpackedFloat}
    (h : ExponentAtMost bound u) :
    u.isFinite = true := by
  cases h with
  | zero sign => rfl
  | finite hLe => rfl

theorem ExponentAtMost.isNaN
    {bound : Int}
    {u : UnpackedFloat}
    (h : ExponentAtMost bound u) :
    u.isNaN = false := by
  cases h with
  | zero sign => rfl
  | finite hLe => rfl

------------------------------------------------------------
-- Packing
------------------------------------------------------------

/- The exponent field of packed bits. -/
def exponentField
    (bits : BitVec Format.binary64.numBits) :
    BitVec 11 :=
  unpackExponent bits

/- Only the greatest exponent field marks no finite double. -/
theorem exponentAtMost_unpack
    {bits : BitVec Format.binary64.numBits}
    {bound : Int}
    (hField : exponentField bits ≠ -1#11)
    (hLow : -1074 ≤ bound)
    (hLe :
      ((exponentField bits).toNat : Int) - 1075 ≤ bound) :
    ExponentAtMost bound
      (UnpackedFloat.unpack Format.binary64 bits) := by
  unfold UnpackedFloat.unpack
  change ExponentAtMost bound
    (if exponentField bits = -1#11 then _
      else if exponentField bits = 0#11 then _ else _)
  rw [if_neg hField]
  by_cases hZero : exponentField bits = 0#11
  · rw [if_pos hZero]
    by_cases hMantissa :
      (unpackMantissa bits : BitVec 52) = 0#52
    · rw [dif_pos hMantissa]
      exact .zero _
    · have hNat : (exponentField bits).toNat = 0 :=
        congrArg BitVec.toNat hZero
      rw [dif_neg hMantissa]
      apply ExponentAtMost.finite
      change
        ((exponentField bits).toNat : Int) - 1075 + 1 ≤
          bound
      omega
  · rw [if_neg hZero]
    exact .finite hLe

theorem exponentField_ne
    {x : Float}
    (h : x.isFinite = true) :
    exponentField x.toModel.toBits.toBitVec ≠ -1#11 := by
  intro hEq
  have hUnpack : x.toModel.unpack.isFinite = true := h
  unfold Float.Model.unpack UnpackedFloat.unpack at hUnpack
  change UnpackedFloat.isFinite
    (if exponentField x.toModel.toBits.toBitVec = -1#11 then
      _ else _) = true at hUnpack
  rw [if_pos hEq] at hUnpack
  split at hUnpack <;> cases hUnpack

/- Finite doubles have an exponent of at most 971. -/
theorem exponentAtMost_of_isFinite
    {x : Float}
    (h : x.isFinite = true) :
    ExponentAtMost 971 x.toModel.unpack := by
  let field := exponentField x.toModel.toBits.toBitVec
  have hField : field ≠ -1#11 := exponentField_ne h
  have hNe : field.toNat ≠ 2047 := by
    intro hEq
    exact hField (BitVec.eq_of_toNat_eq hEq)
  have hLt : field.toNat < 2048 := field.isLt
  apply exponentAtMost_unpack hField (by omega)
  change (field.toNat : Int) - 1075 ≤ 971
  omega

/- The mantissa of a double has at most 53 bits. -/
theorem mantissa_lt
    {model : Float.Model}
    {sign : Sign}
    {mantissa : Nat}
    {exponent : Int}
    {hPos : 0 < mantissa}
    (h :
      model.unpack = .finite sign mantissa exponent hPos) :
    mantissa < 2 ^ 53 := by
  let bits : BitVec Format.binary64.numBits :=
    model.toBits.toBitVec
  let field := exponentField bits
  let rest : BitVec 52 := unpackMantissa bits
  unfold Float.Model.unpack UnpackedFloat.unpack at h
  change
    (if field = -1#11 then
      (if rest = 0#52 then _ else _)
    else if field = 0#11 then
      (if hZero : rest = 0#52 then _ else _)
    else
      _) = _ at h
  by_cases hGreatest : field = -1#11
  · rw [if_pos hGreatest] at h
    by_cases hRest : rest = 0#52
    · rw [if_pos hRest] at h
      cases h
    · rw [if_neg hRest] at h
      cases h
  · rw [if_neg hGreatest] at h
    by_cases hField : field = 0#11
    · rw [if_pos hField] at h
      by_cases hRest : rest = 0#52
      · rw [dif_pos hRest] at h
        cases h
      · rw [dif_neg hRest] at h
        injection h with _ hMantissa _
        rw [← hMantissa]
        exact Nat.lt_trans (BitVec.isLt _) (by decide)
    · rw [if_neg hField] at h
      injection h with _ hMantissa _
      rw [← hMantissa]
      exact BitVec.isLt _

theorem exponentAtMost_unpack_packComponents
    {sign : Sign}
    {field : BitVec 11}
    {mantissa : BitVec 52}
    {bound : Int}
    (hField : field ≠ -1#11)
    (hLow : -1074 ≤ bound)
    (hLe : (field.toNat : Int) - 1075 ≤ bound) :
    ExponentAtMost bound
      (UnpackedFloat.unpack Format.binary64
        (packComponents Format.binary64 sign field
          mantissa)) := by
  have hEq :
      exponentField
          (packComponents Format.binary64 sign field
            mantissa) =
        field :=
    unpackExponent_packComponents
  apply exponentAtMost_unpack
  · rw [hEq]
    exact hField
  · exact hLow
  · rw [hEq]
    exact hLe

/-
  Packing overflows, keeps the exponent of a full mantissa,
  or leaves a subnormal double.
-/
theorem pack_finite
    {sign : Sign}
    {mantissa : Nat}
    {exponent : Int}
    {hPos : 0 < mantissa} :
    UnpackedFloat.pack Format.binary64
        (.finite sign mantissa exponent hPos) =
      if 2048 ≤ (exponent + 1023 + 52).toNat + 1 then
        packedInfinity Format.binary64 sign
      else if mantissa.log2 + 1 = 53 then
        packComponents Format.binary64 sign
          (BitVec.ofNat 11 (exponent + 1023 + 52).toNat)
          (BitVec.ofNat 52 mantissa)
      else
        packComponents Format.binary64 sign 0#11
          (BitVec.ofNat 52 mantissa) :=
  rfl

/-
  Packing keeps an exponent of at most 971, up to the
  exponent of the subnormal doubles.
-/
theorem exponentAtMost_unpack_pack
    {bound : Int}
    {u : UnpackedFloat}
    (hLow : -1074 ≤ bound)
    (hHigh : bound ≤ 971)
    (h : ExponentAtMost bound u) :
    ExponentAtMost bound (Float.Model.pack u).unpack := by
  change ExponentAtMost bound
    (UnpackedFloat.unpack Format.binary64
      (UnpackedFloat.pack Format.binary64 u))
  have hZero : (((0#11).toNat : Nat) : Int) = 0 := rfl
  cases h with
  | zero sign =>
      apply exponentAtMost_unpack_packComponents
      · decide
      · exact hLow
      · change (((0#11).toNat : Nat) : Int) - 1075 ≤ bound
        omega
  | @finite sign mantissa exponent hPos hLe =>
      rw [pack_finite, if_neg (by omega)]
      split
      · let biased := (exponent + 1023 + 52).toNat
        have hNat :
            (BitVec.ofNat 11 biased).toNat = biased := by
          rw [BitVec.toNat_ofNat]
          exact Nat.mod_eq_of_lt (by omega)
        apply exponentAtMost_unpack_packComponents
        · intro hEq
          have hGreatest : biased = 2047 :=
            hNat.symm.trans (congrArg BitVec.toNat hEq)
          omega
        · exact hLow
        · change
            ((BitVec.ofNat 11 biased).toNat : Int) - 1075 ≤
              bound
          omega
      · apply exponentAtMost_unpack_packComponents
        · decide
        · exact hLow
        · omega

theorem unpack_packedInfinity
    (sign : Sign) :
    UnpackedFloat.unpack Format.binary64
        (packedInfinity Format.binary64 sign) =
      .infinity sign := by
  cases sign <;> rfl

/- A packed number is finite or infinite. -/
theorem isFinite_unpack_pack
    {u : UnpackedFloat}
    (hNumber : u.isNaN = false)
    (hInf : (Float.Model.pack u).unpack.isInf = false) :
    (Float.Model.pack u).unpack.isFinite = true := by
  cases u with
  | notANumber => cases hNumber
  | infinity sign =>
      change
        (UnpackedFloat.unpack Format.binary64
          (packedInfinity Format.binary64 sign)).isInf =
            false at hInf
      rw [unpack_packedInfinity] at hInf
      cases hInf
  | zero sign =>
      have hZero : ExponentAtMost 0 (.zero sign) :=
        .zero sign
      exact (exponentAtMost_unpack_pack (by decide)
        (by decide) hZero).isFinite
  | finite sign mantissa exponent hPos =>
      by_cases hLe : exponent ≤ 971
      · have hFinite :
            ExponentAtMost 971
              (.finite sign mantissa exponent hPos) :=
          .finite hLe
        exact (exponentAtMost_unpack_pack (by decide)
          (by decide) hFinite).isFinite
      · have hPack :
            UnpackedFloat.pack Format.binary64
                (.finite sign mantissa exponent hPos) =
              packedInfinity Format.binary64 sign := by
          rw [pack_finite, if_pos (by omega)]
        change
          (UnpackedFloat.unpack Format.binary64
            (UnpackedFloat.pack Format.binary64
              (.finite sign mantissa exponent hPos))).isInf =
            false at hInf
        rw [hPack, unpack_packedInfinity] at hInf
        cases hInf

------------------------------------------------------------
-- Rounding
------------------------------------------------------------

theorem mantissa_shiftRight
    (m : ExtendedMantissa)
    (count : Nat) :
    (m >>> count).mantissa = m.mantissa / 2 ^ count := by
  change (count.repeat ExtendedMantissa.shiftRightOne
    m).mantissa = _
  induction count with
  | zero => simp [Nat.repeat]
  | succ count ih =>
      rw [Nat.repeat, ExtendedMantissa.shiftRightOne]
      simp only [ih]
      rw [Nat.div_div_eq_div_mul, Nat.pow_succ]

theorem log2_le_of_lt
    {n bits : Nat}
    (hLt : n < 2 ^ (bits + 1)) :
    n.log2 ≤ bits := by
  by_cases hZero : n = 0
  · rw [hZero]
    exact Nat.zero_le bits
  · have hLog := (Nat.log2_lt hZero).mpr hLt
    omega

theorem roundedMantissa_le
    (m : ExtendedMantissa) :
    m.roundedMantissa ≤ m.mantissa + 1 := by
  rcases m with ⟨mantissa, roundBit, stickyBit⟩
  unfold ExtendedMantissa.roundedMantissa
  cases roundBit with
  | false =>
      cases stickyBit with
      | false => exact Nat.le_succ mantissa
      | true => exact Nat.le_succ mantissa
  | true =>
      cases stickyBit with
      | false =>
          change mantissa + mantissa % 2 ≤ mantissa + 1
          omega
      | true => exact Nat.le_refl _

/-
  Shifting to the target exponent leaves at most 53 bits and
  ends at the target exponent if it is above the given one.
-/
theorem shiftToTargetExponent_le
    (mantissa : Nat)
    (exponent : Int)
    (accuracy : Accuracy) :
    (shiftToTargetExponent Format.binary64 mantissa
        exponent accuracy).1.mantissa < 2 ^ 53 ∧
      (shiftToTargetExponent Format.binary64 mantissa
          exponent accuracy).2 =
        max exponent
          (max (totalExponent mantissa exponent - 53)
            (-1074)) := by
  let target :=
    max (totalExponent mantissa exponent - 53) (-1074)
  let count := (target - exponent).toNat
  have hStart :
      (ExtendedMantissa.ofMantissaAndAccuracy mantissa
        accuracy).mantissa = mantissa := by
    cases accuracy with
    | exact => rfl
    | inexact order => cases order <;> rfl
  constructor
  · change
      (ExtendedMantissa.ofMantissaAndAccuracy mantissa
        accuracy >>> count).mantissa < 2 ^ 53
    rw [mantissa_shiftRight, hStart,
      Nat.div_lt_iff_lt_mul (Nat.two_pow_pos count),
      ← Nat.pow_add]
    refine Nat.lt_of_lt_of_le Nat.lt_log2_self
      (Nat.pow_le_pow_right (by decide) ?_)
    have hTotal :
        totalExponent mantissa exponent =
          mantissa.log2 + 1 + exponent :=
      rfl
    omega
  · change exponent + (count : Int) = max exponent target
    omega

/- Rounding a value below 2 ^ (bound + 52). -/
theorem exponentAtMost_roundWithAccuracy
    {bound : Int}
    {sign : Sign}
    {mantissa : Nat}
    {exponent : Int}
    {accuracy : Accuracy}
    (hLow : -1073 ≤ bound)
    (hExponent : exponent < bound)
    (hTotal :
      totalExponent mantissa exponent ≤ bound + 52) :
    ExponentAtMost bound
      (roundWithAccuracy Format.binary64 sign mantissa
        exponent accuracy) := by
  rcases shiftToTargetExponent_le mantissa exponent
    accuracy with ⟨hFirst, hMiddle⟩
  let first :=
    shiftToTargetExponent Format.binary64 mantissa exponent
      accuracy
  let second :=
    shiftToTargetExponent Format.binary64
      first.1.roundedMantissa first.2 .exact
  change ExponentAtMost bound
    (if hZero : second.1.mantissa = 0 then
      .zero sign
    else
      .finite sign second.1.mantissa second.2
        (Nat.pos_of_ne_zero hZero))
  -- A carry may add a bit, which the second shift removes.
  have hLog : first.1.roundedMantissa.log2 ≤ 53 := by
    apply log2_le_of_lt
    have hRounded := roundedMantissa_le first.1
    have hShifted : first.1.mantissa < 2 ^ 53 := hFirst
    omega
  have hEnd :=
    (shiftToTargetExponent_le first.1.roundedMantissa
      first.2 .exact).2
  have hMiddleEq :
      first.2 =
        max exponent
          (max (totalExponent mantissa exponent - 53)
            (-1074)) :=
    hMiddle
  have hAgain :
      totalExponent first.1.roundedMantissa first.2 =
        first.1.roundedMantissa.log2 + 1 + first.2 :=
    rfl
  by_cases hZero : second.1.mantissa = 0
  · rw [dif_pos hZero]
    exact .zero sign
  · rw [dif_neg hZero]
    apply ExponentAtMost.finite
    change
      (shiftToTargetExponent Format.binary64
        first.1.roundedMantissa first.2 .exact).2 ≤ bound
    omega

end Double

end NotebookGrading
