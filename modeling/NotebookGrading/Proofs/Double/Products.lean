import Mathlib
import NotebookGrading.Proofs.Double.Order
import NotebookGrading.Proofs.Double.Rounding

/-
  Products with one, and doubles that compare equal.

  A double is stored with the exponent to which rounding
  would bring it, so a product whose mantissa only gained
  zero bits is rounded to the double it came from. Doubles
  that compare equal are the same, the two zeros apart.

  Main statements:
    * `Double.exponent_unpack`
    * `Double.roundWithAccuracy_exact`
    * `Double.one_mul`
    * `Double.beq_iff_eq`
-/

namespace NotebookGrading

namespace Double

open Float.Model Float.Model.UnpackedFloat

------------------------------------------------------------
-- Stored Exponents
------------------------------------------------------------

/- A leading one in front of 52 bits. -/
theorem toNat_one_append
    (rest : BitVec 52) :
    (1#1 ++ rest).toNat = 2 ^ 52 + rest.toNat := by
  rw [BitVec.toNat_append, BitVec.toNat_ofNat,
    Nat.shiftLeft_eq,
    ← Nat.two_pow_add_eq_or_of_lt rest.isLt 1]
  rfl

theorem log2_one_append
    (rest : BitVec 52) :
    (1#1 ++ rest).toNat.log2 = 52 := by
  have hRest : rest.toNat < 2 ^ 52 := rest.isLt
  rw [toNat_one_append]
  exact (Nat.log2_eq_iff (by omega)).2 ⟨by omega, by omega⟩

/- A stored exponent is the one to which rounding shifts. -/
theorem exponent_unpack
    {model : Float.Model}
    {sign : Sign}
    {mantissa : Nat}
    {exponent : Int}
    {hPos : 0 < mantissa}
    (h :
      model.unpack = .finite sign mantissa exponent hPos) :
    max (totalExponent mantissa exponent - 53) (-1074) =
      exponent := by
  let bits : BitVec Format.binary64.numBits :=
    model.toBits.toBitVec
  let field := exponentField bits
  let rest : BitVec 52 := unpackMantissa bits
  unfold Float.Model.unpack UnpackedFloat.unpack at h
  change
    (if field = -1#11 then
      (if rest = 0#52 then _ else _)
    else if field = 0#11 then
      (if hZero : rest = 0#52 then _ else
        finite (Sign.ofBitVec _) rest.toNat
          ((field.toNat : Int) - 1075 + 1) _)
    else
      finite (Sign.ofBitVec _) (1#1 ++ rest).toNat
        ((field.toNat : Int) - 1075) _) = _ at h
  by_cases hGreatest : field = -1#11
  · rw [if_pos hGreatest] at h
    by_cases hRest : rest = 0#52
    · rw [if_pos hRest] at h
      cases h
    · rw [if_neg hRest] at h
      cases h
  · rw [if_neg hGreatest] at h
    by_cases hField : field = 0#11
    · rw [if_pos hField] at h
      by_cases hRest : rest = 0#52
      · rw [dif_pos hRest] at h
        cases h
      · rw [dif_neg hRest] at h
        injection h with _ hMantissa hExponent
        have hLog : mantissa.log2 ≤ 51 := by
          apply log2_le_of_lt
          rw [← hMantissa]
          exact rest.isLt
        have hZero : field.toNat = 0 :=
          congrArg BitVec.toNat hField
        unfold totalExponent
        omega
    · rw [if_neg hField] at h
      injection h with _ hMantissa hExponent
      have hLog : mantissa.log2 = 52 := by
        rw [← hMantissa]
        exact log2_one_append rest
      have hOne : field.toNat ≠ 0 := by
        intro hZero
        exact hField (BitVec.eq_of_toNat_eq hZero)
      unfold totalExponent
      omega

------------------------------------------------------------
-- Exact Rounding
------------------------------------------------------------

theorem log2_mul_two_pow
    {mantissa : Nat}
    (hPos : 0 < mantissa)
    (count : Nat) :
    (mantissa * 2 ^ count).log2 = mantissa.log2 + count := by
  induction count with
  | zero => simp
  | succ count ih =>
      have hScaled : 0 < mantissa * 2 ^ count :=
        Nat.mul_pos hPos (Nat.two_pow_pos count)
      have hDouble :
          mantissa * 2 ^ (count + 1) =
            2 * (mantissa * 2 ^ count) := by
        rw [Nat.pow_succ, ← Nat.mul_assoc, Nat.mul_comm]
      rw [hDouble, Nat.log2_two_mul (Nat.ne_of_gt hScaled),
        ih, Nat.add_assoc]

/- Bits that are zero are shifted out without a trace. -/
theorem shiftRight_mul_two_pow
    (mantissa count : Nat) :
    ExtendedMantissa.ofMantissaAndAccuracy
          (mantissa * 2 ^ count) .exact >>> count =
      ExtendedMantissa.ofMantissaAndAccuracy mantissa
        .exact := by
  change
    count.repeat ExtendedMantissa.shiftRightOne
        ⟨mantissa * 2 ^ count, false, false⟩ =
      ⟨mantissa, false, false⟩
  induction count generalizing mantissa with
  | zero => simp [Nat.repeat]
  | succ count ih =>
      have hDouble :
          mantissa * 2 ^ (count + 1) =
            mantissa * 2 * 2 ^ count := by
        rw [Nat.pow_succ, Nat.mul_comm (2 ^ count),
          Nat.mul_assoc]
      rw [Nat.repeat, hDouble, ih]
      simp [ExtendedMantissa.shiftRightOne]

/-
  A mantissa with zero bits behind it is shifted back to the
  exponent that it is stored with.
-/
theorem shiftToTargetExponent_exact
    {mantissa : Nat}
    {exponent : Int}
    (hPos : 0 < mantissa)
    (hStored :
      max (totalExponent mantissa exponent - 53) (-1074) =
        exponent)
    (count : Nat) :
    shiftToTargetExponent Format.binary64
        (mantissa * 2 ^ count) (exponent - count) .exact =
      (ExtendedMantissa.ofMantissaAndAccuracy mantissa
        .exact, exponent) := by
  have hLog :
      (mantissa * 2 ^ count).log2 =
        mantissa.log2 + count :=
    log2_mul_two_pow hPos count
  have hTarget :
      max
          (totalExponent (mantissa * 2 ^ count)
              (exponent - count) - 53)
          (-1074) =
        exponent := by
    unfold totalExponent at hStored ⊢
    rw [hLog]
    omega
  have hShift :
      (exponent - (exponent - (count : Int))).toNat =
        count := by
    omega
  change
    shiftToExponent (mantissa * 2 ^ count) (exponent - count)
        .exact
        (max
          (totalExponent (mantissa * 2 ^ count)
              (exponent - count) - 53)
          (-1074)) =
      _
  rw [hTarget]
  unfold shiftToExponent
  simp only [hShift, shiftRight_mul_two_pow]
  congr 1
  omega

/- Rounding what is stored already changes nothing. -/
theorem roundWithAccuracy_exact
    {mantissa : Nat}
    {exponent : Int}
    (sign : Sign)
    (hPos : 0 < mantissa)
    (hStored :
      max (totalExponent mantissa exponent - 53) (-1074) =
        exponent)
    (count : Nat) :
    roundWithAccuracy Format.binary64 sign
        (mantissa * 2 ^ count) (exponent - count) .exact =
      .finite sign mantissa exponent hPos := by
  have hFirst :=
    shiftToTargetExponent_exact hPos hStored count
  have hSecond :
      shiftToTargetExponent Format.binary64
          (ExtendedMantissa.ofMantissaAndAccuracy mantissa
            .exact).roundedMantissa exponent .exact =
        (ExtendedMantissa.ofMantissaAndAccuracy mantissa
          .exact, exponent) := by
    have hStart :=
      shiftToTargetExponent_exact hPos hStored 0
    rw [Nat.pow_zero, Nat.mul_one, Nat.cast_zero,
      Int.sub_zero] at hStart
    exact hStart
  unfold roundWithAccuracy
  simp only [hFirst, hSecond]
  exact dif_neg (Nat.ne_of_gt hPos)

------------------------------------------------------------
-- Doubles
------------------------------------------------------------

theorem unpack_one :
    (1 : Float).toModel.unpack =
      .finite .positive (2 ^ 52) (-52) (by decide) := by
  rfl

theorem positive_mul
    (sign : Sign) :
    Sign.positive * sign = sign := by
  cases sign <;> rfl

/- A double that is packed again is the same double. -/
theorem ofModel_pack_unpack
    (x : Float) :
    Float.ofModel (Float.Model.pack x.toModel.unpack) = x := by
  rcases x with ⟨bits, hValid⟩
  have hPack := pack_unpack_of_valid hValid
  unfold Float.Model.pack Float.Model.unpack
  simp only [hPack]

theorem one_mul
    (x : Float) :
    1 * x = x := by
  have hMul :
      UnpackedFloat.mul Format.binary64
          (1 : Float).toModel.unpack x.toModel.unpack =
        x.toModel.unpack := by
    rw [unpack_one]
    cases hUnpack : x.toModel.unpack with
    | notANumber => rfl
    | infinity sign =>
        exact congrArg UnpackedFloat.infinity (positive_mul sign)
    | zero sign => exact congrArg zero (positive_mul sign)
    | finite sign mantissa exponent hPos =>
        have hRound :=
          roundWithAccuracy_exact sign hPos
            (exponent_unpack hUnpack) 52
        have hExponent : -52 + exponent = exponent - 52 := by
          omega
        change
          roundWithAccuracy Format.binary64
              (.positive * sign) (2 ^ 52 * mantissa)
              (-52 + exponent) .exact = _
        rw [positive_mul, Nat.mul_comm, hExponent]
        exact hRound
  change
    Float.ofModel
        (Float.Model.pack
          (UnpackedFloat.mul Format.binary64
            (1 : Float).toModel.unpack x.toModel.unpack)) =
      x
  rw [hMul]
  exact ofModel_pack_unpack x

/- A number equals itself. -/
theorem beq_self
    {x : Float}
    (h : IsNumber x) :
    (x == x) = true := by
  rcases h with ⟨rank, hRank⟩
  have hNumber : x.toModel.unpack ≠ .notANumber := by
    intro hNaN
    unfold rank? at hRank
    rw [hNaN] at hRank
    cases hRank
  exact
    (beq_iff_ne_notANumber_and_eq _ _).2
      ⟨hNumber, hNumber, .inl rfl⟩

/- Above zero only the same double compares equal. -/
theorem beq_iff_eq
    {x y : Float}
    (hPos : 0 < x) :
    (x == y) = true ↔ x = y := by
  have hNonzero : ∀ sign, x.toModel.unpack ≠ .zero sign := by
    intro sign hZero
    rcases lt_iff.1 hPos with ⟨a, b, hA, hB, hLt⟩
    unfold rank? at hB
    rw [hZero] at hB
    rw [← Option.some.inj hA, ← Option.some.inj hB] at hLt
    exact lt_irrefl _ hLt
  constructor
  · intro h
    have hUnpack :
        x.toModel.unpack = y.toModel.unpack := by
      rcases
          ((beq_iff_ne_notANumber_and_eq _ _).1 h).2.2 with
        hSame | ⟨hZero, -⟩ | ⟨hZero, -⟩
      · exact hSame
      · exact absurd hZero (hNonzero _)
      · exact absurd hZero (hNonzero _)
    rw [← ofModel_pack_unpack x, hUnpack,
      ofModel_pack_unpack y]
  · intro hSame
    rw [← hSame]
    rcases lt_iff.1 hPos with ⟨-, rank, -, hRank, -⟩
    exact beq_self ⟨rank, hRank⟩

end Double

end NotebookGrading
