import NotebookGrading.Proofs.Double.Rounding

/-
  Arithmetic that stays within the finite doubles.

  A product of finite doubles is finite unless it is
  infinite, a quotient is finite if the divisor is at least
  two, and so are the whole numbers below 2 ^ 64.

  Key definitions include:
    * `Double.IsAtLeastTwo`

  Main statements:
    * `Double.isFinite_mul`
    * `Double.isFinite_div`
    * `Double.isFinite_ofDecimal`
-/

namespace NotebookGrading

namespace Double

open Float.Model Float.Model.UnpackedFloat

------------------------------------------------------------
-- Negation And Products
------------------------------------------------------------

/- A double with a bounded exponent, taken apart. -/
theorem ExponentAtMost.cases
    {bound : Int}
    {model : Float.Model}
    (h : ExponentAtMost bound model.unpack) :
    (∃ sign, model.unpack = .zero sign) ∨
      ∃ sign mantissa exponent hPos,
        model.unpack =
            .finite sign mantissa exponent hPos ∧
          mantissa < 2 ^ 53 ∧
          exponent ≤ bound := by
  generalize hUnpack : model.unpack = u at h
  cases h with
  | zero sign => exact .inl ⟨sign, rfl⟩
  | @finite sign mantissa exponent hPos hLe =>
      exact .inr ⟨sign, mantissa, exponent, hPos, rfl,
        mantissa_lt hUnpack, hLe⟩

theorem ExponentAtMost.isFinite_ofModel
    {bound : Int}
    {u : UnpackedFloat}
    (hLow : -1074 ≤ bound)
    (hHigh : bound ≤ 971)
    (h : ExponentAtMost bound u) :
    (Float.ofModel (Float.Model.pack u)).isFinite = true :=
  (exponentAtMost_unpack_pack hLow hHigh h).isFinite

theorem isFinite_neg
    {x : Float}
    (h : x.isFinite = true) :
    (-x).isFinite = true := by
  have hNeg : ExponentAtMost 971 x.toModel.unpack.neg := by
    rcases (exponentAtMost_of_isFinite h).cases with
      ⟨sign, hUnpack⟩ |
      ⟨sign, mantissa, exponent, hPos, hUnpack, -, hLe⟩
    · rw [hUnpack]
      exact .zero _
    · rw [hUnpack]
      exact .finite hLe
  exact hNeg.isFinite_ofModel (by decide) (by decide)

theorem isNaN_roundWithAccuracy
    (sign : Sign)
    (mantissa : Nat)
    (exponent : Int)
    (accuracy : Accuracy) :
    (roundWithAccuracy Format.binary64 sign mantissa
      exponent accuracy).isNaN = false := by
  have hBound :
      ExponentAtMost
        (max (exponent + 1)
          (max (totalExponent mantissa exponent) (-1073)))
        (roundWithAccuracy Format.binary64 sign mantissa
          exponent accuracy) :=
    exponentAtMost_roundWithAccuracy (by omega) (by omega)
      (by omega)
  exact hBound.isNaN

theorem isFinite_mul
    {x y : Float}
    (hX : x.isFinite = true)
    (hY : y.isFinite = true)
    (hInf : (x * y).isInf = false) :
    (x * y).isFinite = true := by
  have hNumber :
      (UnpackedFloat.mul Format.binary64 x.toModel.unpack
        y.toModel.unpack).isNaN = false := by
    rcases (exponentAtMost_of_isFinite hX).cases with
      ⟨signX, hUnpackX⟩ |
      ⟨signX, m, e, hPosX, hUnpackX, -, -⟩ <;>
    rcases (exponentAtMost_of_isFinite hY).cases with
      ⟨signY, hUnpackY⟩ |
      ⟨signY, n, f, hPosY, hUnpackY, -, -⟩ <;>
    rw [hUnpackX, hUnpackY]
    · rfl
    · rfl
    · rfl
    · exact isNaN_roundWithAccuracy _ _ _ _
  exact isFinite_unpack_pack hNumber hInf

------------------------------------------------------------
-- Quotients
------------------------------------------------------------

/- Whether the magnitude of a finite double is two or more. -/
def IsAtLeastTwo
    (x : Float) : Bool :=
  match x.toModel.unpack with
  | .finite _ mantissa exponent _ =>
      decide (2 ≤ totalExponent mantissa exponent)
  | _ => false

theorem IsAtLeastTwo.cases
    {x : Float}
    (h : IsAtLeastTwo x = true) :
    ∃ sign mantissa exponent hPos,
      x.toModel.unpack =
          .finite sign mantissa exponent hPos ∧
        2 ≤ totalExponent mantissa exponent := by
  unfold IsAtLeastTwo at h
  cases hUnpack : x.toModel.unpack with
  | finite sign mantissa exponent hPos =>
      rw [hUnpack] at h
      exact ⟨sign, mantissa, exponent, hPos, rfl,
        of_decide_eq_true h⟩
  | zero sign =>
      rw [hUnpack] at h
      cases h
  | infinity sign =>
      rw [hUnpack] at h
      cases h
  | notANumber =>
      rw [hUnpack] at h
      cases h

theorem IsAtLeastTwo.isFinite
    {x : Float}
    (h : IsAtLeastTwo x = true) :
    x.isFinite = true := by
  rcases cases h with
    ⟨sign, mantissa, exponent, hPos, hUnpack, -⟩
  change x.toModel.unpack.isFinite = true
  rw [hUnpack]
  rfl

/- A quotient has the bits of its dividend at most. -/
theorem log2_shiftLeft_div_le
    {m n : Nat}
    (count : Nat)
    (hN : 0 < n)
    (hPos : 0 < (m <<< count) / n) :
    ((m <<< count) / n).log2 + n.log2 ≤
      m.log2 + count := by
  have hQuotient := Nat.log2_self_le (Nat.ne_of_gt hPos)
  have hDivisor := Nat.log2_self_le (Nat.ne_of_gt hN)
  have hDividend :
      m <<< count < 2 ^ (m.log2 + 1 + count) := by
    rw [Nat.shiftLeft_eq, Nat.pow_add]
    exact Nat.mul_lt_mul_of_pos_right Nat.lt_log2_self
      (Nat.two_pow_pos count)
  have hProduct :
      2 ^ (((m <<< count) / n).log2 + n.log2) <
        2 ^ (m.log2 + 1 + count) := by
    calc 2 ^ (((m <<< count) / n).log2 + n.log2)
        = 2 ^ ((m <<< count) / n).log2 * 2 ^ n.log2 :=
          Nat.pow_add _ _ _
      _ ≤ (m <<< count) / n * n :=
          Nat.mul_le_mul hQuotient hDivisor
      _ ≤ m <<< count := Nat.div_mul_le_self _ _
      _ < 2 ^ (m.log2 + 1 + count) := hDividend
  have hLt :=
    (Nat.pow_lt_pow_iff_right (by decide)).mp hProduct
  omega

/- A quotient by two or more stays below 2 ^ 1023. -/
theorem exponentAtMost_div
    {signX signY : Sign}
    {m n : Nat}
    {e f : Int}
    {hPosX : 0 < m}
    {hPosY : 0 < n}
    (hLt : m < 2 ^ 53)
    (hLe : e ≤ 971)
    (hTwo : 2 ≤ totalExponent n f) :
    ExponentAtMost 971
      (UnpackedFloat.div Format.binary64
        (.finite signX m e hPosX)
        (.finite signY n f hPosY)) := by
  have hTotalX : totalExponent m e = m.log2 + 1 + e := rfl
  have hTotalY : totalExponent n f = n.log2 + 1 + f := rfl
  have hLog : m.log2 ≤ 52 := log2_le_of_lt hLt
  let target :=
    min (e - f)
      (Format.binary64.targetExponent
        (totalExponent m e - totalExponent n f))
  let count := (e - f - target).toNat
  have hTarget :
      target =
        min (e - f)
          (max (totalExponent m e - totalExponent n f - 53)
            (-1074)) :=
    rfl
  have hTotal :
      totalExponent ((m <<< count) / n) target =
        ((m <<< count) / n).log2 + 1 + target :=
    rfl
  change ExponentAtMost 971
    (roundWithAccuracy Format.binary64 (signX / signY)
      ((m <<< count) / n) target
      (accuracyOfFraction ((m <<< count) % n) n))
  apply exponentAtMost_roundWithAccuracy (by decide)
  · omega
  · rcases Nat.eq_zero_or_pos ((m <<< count) / n) with
      hZero | hPos
    · have hLogZero : ((m <<< count) / n).log2 = 0 := by
        rw [hZero]
        rfl
      omega
    · have hBits := log2_shiftLeft_div_le count hPosY hPos
      omega

/- Dividing by two or more keeps a double finite. -/
theorem isFinite_div
    {x y : Float}
    (hX : x.isFinite = true)
    (hY : IsAtLeastTwo y = true) :
    (x / y).isFinite = true := by
  rcases IsAtLeastTwo.cases hY with
    ⟨signY, n, f, hPosY, hUnpackY, hTwo⟩
  have hQuotient :
      ExponentAtMost 971
        (UnpackedFloat.div Format.binary64 x.toModel.unpack
          y.toModel.unpack) := by
    rcases (exponentAtMost_of_isFinite hX).cases with
      ⟨signX, hUnpackX⟩ |
      ⟨signX, m, e, hPosX, hUnpackX, hLt, hLe⟩
    · rw [hUnpackX, hUnpackY]
      exact .zero _
    · rw [hUnpackX, hUnpackY]
      exact exponentAtMost_div hLt hLe hTwo
  exact hQuotient.isFinite_ofModel (by decide) (by decide)

------------------------------------------------------------
-- Whole Numbers
------------------------------------------------------------

/- Doubles of whole numbers below 2 ^ 64. -/
theorem exponentAtMost_ofNat
    {n : Nat}
    (hLt : n < 2 ^ 64) :
    ExponentAtMost 12
      (UnpackedFloat.ofNat Format.binary64 n) := by
  let target :=
    Format.binary64.targetExponent (totalExponent n 0)
  let count := (0 - target).toNat
  have hRound :
      ExponentAtMost 12
        (UnpackedFloat.round Format.binary64 .positive n
          0) := by
    change ExponentAtMost 12
      (roundWithAccuracy Format.binary64 .positive
        (n <<< count) (0 - (count : Int)) .exact)
    apply exponentAtMost_roundWithAccuracy (by decide)
    · omega
    · have hBits : (n <<< count).log2 ≤ 63 + count := by
        apply log2_le_of_lt
        rw [Nat.shiftLeft_eq]
        calc n * 2 ^ count
            < 2 ^ 64 * 2 ^ count :=
              Nat.mul_lt_mul_of_pos_right hLt
                (Nat.two_pow_pos count)
          _ = 2 ^ (63 + count + 1) := by
              rw [← Nat.pow_add]
              congr 1
              omega
      have hTotal :
          totalExponent (n <<< count) (0 - (count : Int)) =
            (n <<< count).log2 + 1 + (0 - (count : Int)) :=
        rfl
      omega
  unfold UnpackedFloat.ofNat UnpackedFloat.ofInt
    UnpackedFloat.normalize
  cases n with
  | zero => exact .zero _
  | succ n =>
      have hCompare :
          compare ((n + 1 : Nat) : Int) 0 = .gt := by
        rw [Int.compare_eq_gt]
        omega
      rw [hCompare]
      exact hRound

/- The whole number itself, as the double times one. -/
theorem exponentAtMost_mul_one
    {model : Float.Model}
    (h : ExponentAtMost 12 model.unpack) :
    ExponentAtMost 971
      (UnpackedFloat.mul Format.binary64 model.unpack
        (.finite .positive (2 ^ 52) (-52) (by decide))) := by
  rcases h.cases with
    ⟨sign, hUnpack⟩ |
    ⟨sign, m, e, hPos, hUnpack, hLt, hLe⟩
  · rw [hUnpack]
    exact .zero _
  · rw [hUnpack]
    apply exponentAtMost_roundWithAccuracy (by decide)
    · omega
    · have hBits : (m * 2 ^ 52).log2 ≤ 104 := by
        apply log2_le_of_lt
        omega
      unfold totalExponent
      omega

theorem ofScientific_zero
    {n : Nat}
    (hZero : n ≠ 0) :
    UnpackedFloat.ofScientific Format.binary64 n 0 =
      roundWithAccuracy Format.binary64 .positive
        (n <<< Format.binary64.mantissaBits *
          10 ^ (0 : Int).toNat)
        (-53) .exact := by
  unfold UnpackedFloat.ofScientific
  refine (dif_neg hZero).trans ?_
  refine (if_neg (by decide)).trans ?_
  refine (if_neg ?_).trans (if_pos (Int.le_refl 0))
  have hPow :
      (2 : Int) ^ Format.binary64.exponentBits = 2048 :=
    rfl
  omega

theorem exponentAtMost_ofScientific
    {n : Nat}
    (hLt : n < 2 ^ 64) :
    ExponentAtMost 971
      (UnpackedFloat.ofScientific Format.binary64 n 0) := by
  by_cases hZero : n = 0
  · rw [hZero]
    exact .zero _
  · rw [ofScientific_zero hZero]
    apply exponentAtMost_roundWithAccuracy (by decide)
      (by decide)
    have hMantissaBits : Format.binary64.mantissaBits = 53 :=
      rfl
    have hBits :
        (n <<< Format.binary64.mantissaBits *
            10 ^ (0 : Int).toNat).log2 ≤
          116 := by
      apply log2_le_of_lt
      rw [hMantissaBits, Nat.shiftLeft_eq, Int.toNat_zero,
        Nat.pow_zero]
      omega
    unfold totalExponent
    omega

theorem isFinite_ofDecimal
    {n : Nat}
    (hLt : n < 2 ^ 64) :
    (ofDecimal n 0).isFinite = true := by
  change (Float.ofScientific n false 0).isFinite = true
  by_cases hSmall : n < 2 ^ 53
  · have hEq :
        Float.ofScientific n false 0 =
          n.toUInt64.toFloat *
            Float.ofBits 0x3FF0000000000000 := by
      unfold Float.ofScientific
      rw [dif_pos ⟨hSmall, by decide⟩]
      rfl
    have hNat : n.toUInt64.toNat < 2 ^ 64 :=
      n.toUInt64.toNat_lt
    have hFloat :
        ExponentAtMost 12
          n.toUInt64.toFloat.toModel.unpack :=
      exponentAtMost_unpack_pack (by decide) (by decide)
        (exponentAtMost_ofNat hNat)
    rw [hEq]
    exact (exponentAtMost_mul_one hFloat).isFinite_ofModel
      (by decide) (by decide)
  · have hEq :
        Float.ofScientific n false 0 =
          Float.ofModel (Float.Model.ofScientific n 0) := by
      unfold Float.ofScientific
      rw [dif_neg (by omega)]
      rfl
    rw [hEq]
    exact (exponentAtMost_ofScientific hLt).isFinite_ofModel
      (by decide) (by decide)

theorem isFinite_ofInt
    {value : Int}
    (hLow : -(2 ^ 64) < value)
    (hHigh : value < 2 ^ 64) :
    (ofInt value).isFinite = true := by
  cases value with
  | ofNat n =>
      exact isFinite_ofDecimal (Int.ofNat_lt.mp hHigh)
  | negSucc n =>
      exact isFinite_neg (isFinite_ofDecimal (by omega))

end Double

end NotebookGrading
