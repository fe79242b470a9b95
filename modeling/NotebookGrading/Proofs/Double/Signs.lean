import Mathlib
import NotebookGrading.Proofs.Double.ExactValues

/-
  The signs of doubles.

  A sign takes no part in rounding: the opposite of a
  product is the product of the opposite. What is not below
  zero stays so in sums, products and quotients, and when it
  is read from a decimal text.

  Key definitions include:
    * `Double.NotNegative`
    * `Double.NotBelowZero`

  Main statements:
    * `Double.unpack_neg`
    * `Double.neg_mul`
    * `Double.exactValue_neg`
    * `Double.notBelowZero_add`
    * `Double.notBelowZero_mul`
    * `Double.notBelowZero_ofChars?`
-/

namespace NotebookGrading

namespace Double

open Float.Model Float.Model.UnpackedFloat

------------------------------------------------------------
-- Opposite Doubles
------------------------------------------------------------

/- The opposite sign in front of the same bits. -/
theorem unpack_packComponents_neg
    (sign : Sign)
    (field : BitVec 11)
    (mantissa : BitVec 52) :
    UnpackedFloat.unpack Format.binary64
        (packComponents Format.binary64 (-sign) field
          mantissa) =
      (UnpackedFloat.unpack Format.binary64
        (packComponents Format.binary64 sign field
          mantissa)).neg := by
  unfold UnpackedFloat.unpack
  simp only [unpackSign_packComponents,
    unpackExponent_packComponents,
    unpackMantissa_packComponents,
    Sign.ofBitVec_toBitVec]
  split
  · split <;> rfl
  · split
    · split <;> rfl
    · rfl

theorem unpack_pack_notANumber :
    (Float.Model.pack .notANumber).unpack = .notANumber :=
  unpack_packedNaN

/- What is packed after negation unpacks to the opposite. -/
theorem unpack_pack_neg
    (u : UnpackedFloat) :
    (Float.Model.pack u.neg).unpack =
      (Float.Model.pack u).unpack.neg := by
  cases u with
  | notANumber =>
      change (Float.Model.pack .notANumber).unpack = _
      rw [unpack_pack_notANumber]
      rfl
  | infinity sign =>
      exact unpack_packComponents_neg sign _ _
  | zero sign => exact unpack_packComponents_neg sign _ _
  | finite sign mantissa exponent hPos =>
      change
        UnpackedFloat.unpack Format.binary64
            (UnpackedFloat.pack Format.binary64
              (.finite (-sign) mantissa exponent hPos)) =
          (UnpackedFloat.unpack Format.binary64
            (UnpackedFloat.pack Format.binary64
              (.finite sign mantissa exponent hPos))).neg
      rw [pack_finite, pack_finite]
      split
      · exact unpack_packComponents_neg sign _ _
      · split
        · exact unpack_packComponents_neg sign _ _
        · exact unpack_packComponents_neg sign _ _

theorem ext_unpack
    {x y : Float}
    (h : x.toModel.unpack = y.toModel.unpack) :
    x = y := by
  rw [← ofModel_pack_unpack x, h, ofModel_pack_unpack y]

theorem unpack_neg
    (x : Float) :
    (-x).toModel.unpack = x.toModel.unpack.neg := by
  have hPack :
      (Float.Model.pack x.toModel.unpack).unpack =
        x.toModel.unpack :=
    congrArg (fun y : Float => y.toModel.unpack)
      (ofModel_pack_unpack x)
  change
    (Float.Model.pack x.toModel.unpack.neg).unpack = _
  rw [unpack_pack_neg, hPack]

theorem neg_ofModel_pack
    (u : UnpackedFloat) :
    -(Float.ofModel (Float.Model.pack u)) =
      Float.ofModel (Float.Model.pack u.neg) := by
  apply ext_unpack
  rw [unpack_neg]
  exact (unpack_pack_neg u).symm

theorem isFinite_neg_eq
    (x : Float) :
    (-x).isFinite = x.isFinite := by
  change
    (-x).toModel.unpack.isFinite =
      x.toModel.unpack.isFinite
  rw [unpack_neg]
  cases x.toModel.unpack <;> rfl

theorem apply_neg
    (sign : Sign)
    (n : ℤ) :
    (-sign).apply n = -(sign.apply n) := by
  cases sign with
  | positive => rfl
  | negative => exact (neg_neg n).symm

theorem exactValue_neg
    (x : Float) :
    exactValue (-x) = -exactValue x := by
  unfold exactValue
  rw [unpack_neg]
  cases x.toModel.unpack with
  | finite sign mantissa exponent hPos =>
      simp [modelValue, UnpackedFloat.neg, apply_neg]
  | notANumber => exact neg_zero.symm
  | infinity sign => exact neg_zero.symm
  | zero sign => exact neg_zero.symm

------------------------------------------------------------
-- Products Of Opposites
------------------------------------------------------------

theorem roundWithAccuracy_neg
    (sign : Sign)
    (mantissa : Nat)
    (exponent : Int)
    (accuracy : Accuracy) :
    roundWithAccuracy Format.binary64 (-sign) mantissa
        exponent accuracy =
      (roundWithAccuracy Format.binary64 sign mantissa
        exponent accuracy).neg := by
  unfold roundWithAccuracy
  simp only
  split <;> rfl

theorem neg_mul_sign
    (sign other : Sign) :
    -sign * other = -(sign * other) := by
  cases sign <;> cases other <;> rfl

theorem mul_neg_model
    (u v : UnpackedFloat) :
    UnpackedFloat.mul Format.binary64 u.neg v =
      (UnpackedFloat.mul Format.binary64 u v).neg := by
  cases u <;> cases v <;>
    simp [UnpackedFloat.mul, UnpackedFloat.neg,
      neg_mul_sign, roundWithAccuracy_neg]

/- The opposite of a product. -/
theorem neg_mul
    (x y : Float) :
    -x * y = -(x * y) := by
  change
    Float.ofModel
        (Float.Model.pack
          (UnpackedFloat.mul Format.binary64
            (-x).toModel.unpack y.toModel.unpack)) =
      -(Float.ofModel
        (Float.Model.pack
          (UnpackedFloat.mul Format.binary64
            x.toModel.unpack y.toModel.unpack)))
  rw [unpack_neg, mul_neg_model, neg_ofModel_pack]

------------------------------------------------------------
-- Doubles That Are Not Below Zero
------------------------------------------------------------

/- An unpacked double that is not below zero. -/
inductive NotNegative : UnpackedFloat → Prop
  | notANumber : NotNegative .notANumber
  | zero (sign : Sign) : NotNegative (.zero sign)
  | infinity : NotNegative (.infinity .positive)
  | finite
      {mantissa : Nat}
      {exponent : Int}
      {hPos : 0 < mantissa} :
      NotNegative (.finite .positive mantissa exponent hPos)

theorem NotNegative.modelValue_nonneg
    {u : UnpackedFloat}
    (h : NotNegative u) :
    0 ≤ modelValue u := by
  cases h with
  | @finite mantissa exponent hPos =>
      have hValue :
          modelValue
              (.finite .positive mantissa exponent hPos) =
            mantissa * (2 : ℚ) ^ exponent :=
        rfl
      rw [hValue]
      positivity
  | notANumber => exact le_rfl
  | zero sign => exact le_rfl
  | infinity => exact le_rfl

theorem notNegative_unpack_packComponents
    (field : BitVec 11)
    (mantissa : BitVec 52) :
    NotNegative
      (UnpackedFloat.unpack Format.binary64
        (packComponents Format.binary64 .positive field
          mantissa)) := by
  unfold UnpackedFloat.unpack
  simp only [unpackSign_packComponents,
    Sign.ofBitVec_toBitVec]
  split
  · split
    · exact .infinity
    · exact .notANumber
  · split
    · split
      · exact .zero _
      · exact .finite
    · exact .finite

/- Packing keeps what is not below zero there. -/
theorem NotNegative.unpack_pack
    {u : UnpackedFloat}
    (h : NotNegative u) :
    NotNegative (Float.Model.pack u).unpack := by
  cases h with
  | notANumber =>
      rw [unpack_pack_notANumber]
      exact .notANumber
  | zero sign =>
      have hUnpack :
          (Float.Model.pack (.zero sign)).unpack =
            .zero sign :=
        unpack_packedZero
      rw [hUnpack]
      exact .zero sign
  | infinity => exact notNegative_unpack_packComponents _ _
  | @finite mantissa exponent hPos =>
      change
        NotNegative
          (UnpackedFloat.unpack Format.binary64
            (UnpackedFloat.pack Format.binary64
              (.finite .positive mantissa exponent hPos)))
      rw [pack_finite]
      split
      · exact notNegative_unpack_packComponents _ _
      · split
        · exact notNegative_unpack_packComponents _ _
        · exact notNegative_unpack_packComponents _ _

theorem notNegative_roundWithAccuracy
    (mantissa : Nat)
    (exponent : Int)
    (accuracy : Accuracy) :
    NotNegative
      (roundWithAccuracy Format.binary64 .positive mantissa
        exponent accuracy) := by
  unfold roundWithAccuracy
  simp only
  split
  · exact .zero _
  · exact .finite

theorem notNegative_normalize
    {mantissa : Int}
    (hNonneg : 0 ≤ mantissa)
    (exponent : Int)
    (sign : Sign) :
    NotNegative
      (UnpackedFloat.normalize Format.binary64 mantissa
        exponent sign) := by
  unfold UnpackedFloat.normalize
  split
  · rename_i hLess
    rw [Int.compare_eq_lt] at hLess
    omega
  · exact .zero _
  · exact notNegative_roundWithAccuracy _ _ _

theorem NotNegative.add
    {u v : UnpackedFloat}
    (hU : NotNegative u)
    (hV : NotNegative v) :
    NotNegative
      (UnpackedFloat.add Format.binary64 u v) := by
  cases hU with
  | notANumber => exact .notANumber
  | zero sign =>
      cases hV with
      | notANumber => exact .notANumber
      | zero other =>
          unfold UnpackedFloat.add
          simp only
          split <;> exact .zero _
      | infinity => exact .infinity
      | finite => exact .finite
  | infinity =>
      cases hV with
      | notANumber => exact .notANumber
      | zero other => exact .infinity
      | infinity => exact .infinity
      | finite => exact .infinity
  | finite =>
      cases hV with
      | notANumber => exact .notANumber
      | zero other => exact .finite
      | infinity => exact .infinity
      | finite =>
          apply notNegative_normalize
          exact
            Int.add_nonneg (Int.natCast_nonneg _)
              (Int.natCast_nonneg _)

theorem NotNegative.mul
    {u v : UnpackedFloat}
    (hU : NotNegative u)
    (hV : NotNegative v) :
    NotNegative
      (UnpackedFloat.mul Format.binary64 u v) := by
  cases hU with
  | notANumber => exact .notANumber
  | zero sign =>
      cases hV with
      | notANumber => exact .notANumber
      | zero other => exact .zero _
      | infinity => exact .notANumber
      | finite => exact .zero _
  | infinity =>
      cases hV with
      | notANumber => exact .notANumber
      | zero other => exact .notANumber
      | infinity => exact .infinity
      | finite => exact .infinity
  | finite =>
      cases hV with
      | notANumber => exact .notANumber
      | zero other => exact .zero _
      | infinity => exact .infinity
      | finite => exact notNegative_roundWithAccuracy _ _ _

/- A quotient by a positive double. -/
theorem NotNegative.div_finite
    {u : UnpackedFloat}
    (hU : NotNegative u)
    {mantissa : Nat}
    {exponent : Int}
    {hPos : 0 < mantissa} :
    NotNegative
      (UnpackedFloat.div Format.binary64 u
        (.finite .positive mantissa exponent hPos)) := by
  cases hU with
  | notANumber => exact .notANumber
  | zero sign => exact .zero _
  | infinity => exact .infinity
  | finite => exact notNegative_roundWithAccuracy _ _ _

------------------------------------------------------------
-- Sums, Products And Decimals
------------------------------------------------------------

/-
  A double that is not below zero: a zero of either sign, a
  positive double, or no number at all.
-/
def NotBelowZero
    (x : Float) : Prop :=
  NotNegative x.toModel.unpack

theorem NotBelowZero.exactValue_nonneg
    {x : Float}
    (h : NotBelowZero x) :
    0 ≤ exactValue x :=
  NotNegative.modelValue_nonneg h

theorem notBelowZero_add
    {x y : Float}
    (hX : NotBelowZero x)
    (hY : NotBelowZero y) :
    NotBelowZero (x + y) :=
  (NotNegative.add hX hY).unpack_pack

theorem notBelowZero_mul
    {x y : Float}
    (hX : NotBelowZero x)
    (hY : NotBelowZero y) :
    NotBelowZero (x * y) :=
  (NotNegative.mul hX hY).unpack_pack

theorem notBelowZero_foldl
    {xs : List Float}
    {start : Float}
    (hStart : NotBelowZero start)
    (h : ∀ x ∈ xs, NotBelowZero x) :
    NotBelowZero (xs.foldl (· + ·) start) := by
  induction xs generalizing start with
  | nil => exact hStart
  | cons x xs ih =>
      have hX := h x List.mem_cons_self
      exact
        ih (notBelowZero_add hStart hX)
          (fun y hMem => h y (List.mem_cons_of_mem x hMem))

/- Whether a double is a positive number. -/
def isPositiveModel : UnpackedFloat → Bool
  | .finite .positive _ _ _ => true
  | _ => false

theorem notBelowZero_div
    {x y : Float}
    (hX : NotBelowZero x)
    (hY : isPositiveModel y.toModel.unpack = true) :
    NotBelowZero (x / y) := by
  have hQuotient :
      NotNegative
        (UnpackedFloat.div Format.binary64 x.toModel.unpack
          y.toModel.unpack) := by
    revert hY
    generalize y.toModel.unpack = v
    intro hV
    unfold isPositiveModel at hV
    split at hV
    · exact NotNegative.div_finite hX
    · cases hV
  exact hQuotient.unpack_pack

theorem notNegative_ofScientific
    (n : Nat)
    (scale : Int) :
    NotNegative
      (UnpackedFloat.ofScientific Format.binary64 n
        scale) := by
  unfold UnpackedFloat.ofScientific
  split
  · exact .zero _
  · split
    · exact .infinity
    · split
      · exact .zero _
      · split
        · exact notNegative_roundWithAccuracy _ _ _
        · exact notNegative_roundWithAccuracy _ _ _

theorem notBelowZero_toFloat
    (n : UInt64) :
    NotBelowZero n.toFloat := by
  have hNormal :
      NotNegative
        (UnpackedFloat.ofNat Format.binary64 n.toNat) :=
    notNegative_normalize (Int.natCast_nonneg _) _ _
  exact hNormal.unpack_pack

/- The powers of ten that are doubles are positive. -/
theorem isPositiveModel_powerOfTen
    (e : Nat)
    (h : e < Float.exactlyRepresentablePowersOfTen.size) :
    isPositiveModel
        (Float.exactlyRepresentablePowersOfTen[e]).toModel.unpack =
      true := by
  revert e
  decide +kernel

theorem notBelowZero_of_isPositiveModel
    {x : Float}
    (h : isPositiveModel x.toModel.unpack = true) :
    NotBelowZero x := by
  unfold NotBelowZero
  revert h
  generalize x.toModel.unpack = u
  intro hU
  unfold isPositiveModel at hU
  split at hU
  · exact .finite
  · cases hU

theorem notBelowZero_ofScientific
    (n : Nat)
    (down : Bool)
    (scale : Nat) :
    NotBelowZero (Float.ofScientific n down scale) := by
  unfold Float.ofScientific
  split
  · rename_i hSmall
    simp only
    have hPower :=
      isPositiveModel_powerOfTen scale
        (Nat.lt_of_le_of_lt hSmall.2 (by decide))
    split
    · exact
        notBelowZero_div (notBelowZero_toFloat _) hPower
    · exact
        notBelowZero_mul (notBelowZero_toFloat _)
          (notBelowZero_of_isPositiveModel hPower)
  · exact (notNegative_ofScientific n _).unpack_pack

theorem notBelowZero_ofDecimal
    (digits : Nat)
    (scale : Int) :
    NotBelowZero (ofDecimal digits scale) := by
  unfold ofDecimal
  split <;> exact notBelowZero_ofScientific _ _ _

theorem notBelowZero_unsigned?
    {cs : List Char}
    {x : Float}
    (h : unsigned? cs = some x) :
    NotBelowZero x := by
  unfold unsigned? at h
  simp only at h
  split at h
  · cases h
  · rcases Option.map_eq_some_iff.1 h with ⟨_, _, rfl⟩
    exact notBelowZero_ofDecimal _ _

theorem notBelowZero_word?
    {cs : List Char}
    {x : Float}
    (h : word? cs = some x) :
    NotBelowZero x := by
  have hInfinity : NotBelowZero infinity :=
    notNegative_unpack_packComponents _ _
  have hNone : NotBelowZero notANumber :=
    notNegative_unpack_packComponents _ _
  unfold word? at h
  simp only at h
  split at h
  · rwa [← Option.some.inj h]
  · split at h
    · rwa [← Option.some.inj h]
    · split at h
      · rwa [← Option.some.inj h]
      · cases h

/- What is read where no minus stands in front. -/
theorem notBelowZero_ofChars?
    {cs : List Char}
    {x : Float}
    (hSign : (takeSign cs).1 = false)
    (h : ofChars? cs = some x) :
    NotBelowZero x := by
  unfold ofChars? at h
  simp only [hSign] at h
  rcases Option.map_eq_some_iff.1 h with ⟨y, hRead, rfl⟩
  split at hRead
  · rename_i hWord
    rw [← Option.some.inj hRead]
    exact notBelowZero_word? hWord
  · exact notBelowZero_unsigned? hRead

end Double

end NotebookGrading
