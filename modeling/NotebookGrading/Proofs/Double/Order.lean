import Mathlib.Algebra.Order.Ring.Int
import Mathlib.Data.Prod.Lex

/-
  The order of doubles.

  Every double but the one that is no number has a rank, and
  comparing doubles is comparing their ranks. Ranks are
  ordered linearly, so the comparisons of doubles have the
  laws of a linear order wherever they hold at all.

  Key definitions include:
    * `Double.rank?`
    * `Double.IsNumber`

  Main statements:
    * `Double.compare_eq`
    * `Double.lt_iff`, `Double.le_iff`
    * `Double.lt_trans`
    * `Double.isNumber_of_isFinite`
    * `Double.IsNumber.lt_of_not_le`
-/

namespace NotebookGrading

namespace Double

open Float.Model Float.Model.UnpackedFloat

------------------------------------------------------------
-- Ranks
------------------------------------------------------------

/- Kind of double, exponent and mantissa, all signed. -/
abbrev Rank :=
  Int ×ₗ Int ×ₗ Int

/- The rank of an unpacked double that is a number. -/
def unpackedRank? :
    UnpackedFloat → Option Rank
  | .notANumber => none
  | .infinity sign =>
      some (toLex (sign.apply 2, toLex (0, 0)))
  | .zero _ => some (toLex (0, toLex (0, 0)))
  | .finite sign mantissa exponent _ =>
      some
        (toLex
          (sign.apply 1,
            toLex (sign.apply exponent, sign.apply mantissa)))

theorem compare_natCast
    (m n : Nat) :
    compare (m : Int) (n : Int) = compare m n := by
  rcases lt_trichotomy m n with hLt | hEq | hGt
  · rw [compare_lt_iff_lt.2 hLt,
      compare_lt_iff_lt.2 (Int.ofNat_lt.2 hLt)]
  · rw [hEq, compare_eq_iff_eq.2 rfl,
      compare_eq_iff_eq.2 rfl]
  · rw [compare_gt_iff_gt.2 hGt,
      compare_gt_iff_gt.2 (Int.ofNat_lt.2 hGt)]

theorem compare_neg
    (m n : Int) :
    compare (-m) (-n) = (compare m n).swap := by
  rcases lt_trichotomy m n with hLt | hEq | hGt
  · rw [compare_lt_iff_lt.2 hLt,
      compare_gt_iff_gt.2 (neg_lt_neg hLt)]
    rfl
  · rw [hEq, compare_eq_iff_eq.2 rfl,
      compare_eq_iff_eq.2 rfl]
    rfl
  · rw [compare_gt_iff_gt.2 hGt,
      compare_lt_iff_lt.2 (neg_lt_neg hGt)]
    rfl

/- Finite doubles compare as their signed parts do. -/
theorem compare_finite
    {sign sign' : Sign}
    {mantissa mantissa' : Nat}
    {exponent exponent' : Int}
    {hPos : 0 < mantissa}
    {hPos' : 0 < mantissa'} :
    UnpackedFloat.compare
        (.finite sign mantissa exponent hPos)
        (.finite sign' mantissa' exponent' hPos') =
      some
        ((compare (sign.apply 1) (sign'.apply 1)).then
          ((compare (sign.apply exponent)
            (sign'.apply exponent')).then
            (compare (sign.apply mantissa)
              (sign'.apply mantissa')))) := by
  cases sign <;> cases sign'
  case negative.negative =>
    change
      some
        ((compare exponent exponent').then
          (compare mantissa mantissa')).swap =
      some
        ((compare (-exponent) (-exponent')).then
          (compare (-(mantissa : Int)) (-mantissa')))
    rw [compare_neg, compare_neg, compare_natCast,
      Ordering.swap_then]
  case positive.positive =>
    change
      some
        ((compare exponent exponent').then
          (compare mantissa mantissa')) =
      some
        ((compare exponent exponent').then
          (compare (mantissa : Int) mantissa'))
    rw [compare_natCast]
  all_goals rfl

/- Unpacked doubles compare as their ranks do. -/
theorem compare_eq
    (x y : UnpackedFloat) :
    x.compare y =
      (unpackedRank? x).bind (fun a =>
        (unpackedRank? y).map (fun b => compare a b)) := by
  cases x with
  | notANumber => rfl
  | infinity sign =>
      cases sign <;> rcases y with sign' | _ | _ | sign' <;>
        first | rfl | (cases sign' <;> rfl)
  | zero sign =>
      rcases y with sign' | _ | _ | sign' <;>
        first | rfl | (cases sign' <;> rfl)
  | finite sign mantissa exponent hPos =>
      cases y with
      | finite sign' mantissa' exponent' hPos' =>
          exact compare_finite
      | notANumber => cases sign <;> rfl
      | infinity sign' => cases sign <;> cases sign' <;> rfl
      | zero sign' => cases sign <;> rfl

------------------------------------------------------------
-- Comparisons
------------------------------------------------------------

/- The rank of a double that is a number. -/
def rank?
    (x : Float) : Option Rank :=
  unpackedRank? x.toModel.unpack

/- A double that is smaller has a lower rank. -/
theorem lt_iff
    {x y : Float} :
    x < y ↔
      ∃ a b, rank? x = some a ∧ rank? y = some b ∧ a < b := by
  have hCompare :
      x < y ↔
        x.toModel.unpack.compare y.toModel.unpack =
          some .lt := by
    change
      decide
        ((x.toModel.unpack.compare y.toModel.unpack ==
          some .lt) = true) = true ↔ _
    simp
  rw [hCompare, compare_eq]
  unfold rank?
  cases unpackedRank? x.toModel.unpack <;>
    cases unpackedRank? y.toModel.unpack <;>
      simp [compare_lt_iff_lt]

/- A double that is at most another has no higher rank. -/
theorem le_iff
    {x y : Float} :
    x ≤ y ↔
      ∃ a b, rank? x = some a ∧ rank? y = some b ∧ a ≤ b := by
  have hCompare :
      x ≤ y ↔
        (x.toModel.unpack.compare y.toModel.unpack).any
          (·.isLE) = true := by
    change
      decide
        ((x.toModel.unpack.compare y.toModel.unpack).any
          (·.isLE) = true) = true ↔ _
    simp
  rw [hCompare, compare_eq]
  unfold rank?
  cases unpackedRank? x.toModel.unpack <;>
    cases unpackedRank? y.toModel.unpack <;>
      simp [Ordering.isLE_iff_ne_gt, compare_le_iff_le]

theorem lt_trans
    {x y z : Float}
    (hFirst : x < y)
    (hSecond : y < z) :
    x < z := by
  rcases lt_iff.1 hFirst with ⟨a, b, hX, hY, hAB⟩
  rcases lt_iff.1 hSecond with ⟨b', c, hY', hZ, hBC⟩
  have hSame : b' = b := by
    rw [hY] at hY'
    exact (Option.some.inj hY').symm
  subst hSame
  exact lt_iff.2 ⟨a, c, hX, hZ, hAB.trans hBC⟩

theorem le_trans
    {x y z : Float}
    (hFirst : x ≤ y)
    (hSecond : y ≤ z) :
    x ≤ z := by
  rcases le_iff.1 hFirst with ⟨a, b, hX, hY, hAB⟩
  rcases le_iff.1 hSecond with ⟨b', c, hY', hZ, hBC⟩
  have hSame : b' = b := by
    rw [hY] at hY'
    exact (Option.some.inj hY').symm
  subst hSame
  exact le_iff.2 ⟨a, c, hX, hZ, hAB.trans hBC⟩

theorem lt_of_lt_of_le
    {x y z : Float}
    (hFirst : x < y)
    (hSecond : y ≤ z) :
    x < z := by
  rcases lt_iff.1 hFirst with ⟨a, b, hX, hY, hAB⟩
  rcases le_iff.1 hSecond with ⟨b', c, hY', hZ, hBC⟩
  have hSame : b' = b := by
    rw [hY] at hY'
    exact (Option.some.inj hY').symm
  subst hSame
  exact lt_iff.2 ⟨a, c, hX, hZ, hAB.trans_le hBC⟩

theorem le_of_lt
    {x y : Float}
    (h : x < y) :
    x ≤ y := by
  rcases lt_iff.1 h with ⟨a, b, hX, hY, hLt⟩
  exact le_iff.2 ⟨a, b, hX, hY, hLt.le⟩

theorem not_lt_of_le
    {x y : Float}
    (h : x ≤ y) :
    ¬ y < x := by
  rcases le_iff.1 h with ⟨a, b, hX, hY, hLe⟩
  intro hLt
  rcases lt_iff.1 hLt with ⟨b', a', hY', hX', hGt⟩
  rw [hX] at hX'
  rw [hY] at hY'
  rw [← Option.some.inj hX', ← Option.some.inj hY'] at hGt
  exact absurd hLe (not_le.2 hGt)

------------------------------------------------------------
-- Numbers
------------------------------------------------------------

/- A double that can be compared. -/
def IsNumber
    (x : Float) : Prop :=
  ∃ rank, rank? x = some rank

theorem isNumber_of_lt
    {x y : Float}
    (h : x < y) :
    IsNumber x := by
  rcases lt_iff.1 h with ⟨a, b, hX, hY, hLt⟩
  exact ⟨a, hX⟩

/- Every finite double can be compared. -/
theorem isNumber_of_isFinite
    {x : Float}
    (h : x.isFinite = true) :
    IsNumber x := by
  have hUnpack : x.toModel.unpack.isFinite = true := h
  unfold IsNumber rank?
  cases hModel : x.toModel.unpack with
  | notANumber =>
      rw [hModel] at hUnpack
      cases hUnpack
  | infinity sign => exact ⟨_, rfl⟩
  | zero sign => exact ⟨_, rfl⟩
  | finite sign mantissa exponent hPos => exact ⟨_, rfl⟩

theorem IsNumber.le_refl
    {x : Float}
    (h : IsNumber x) :
    x ≤ x := by
  rcases h with ⟨rank, hRank⟩
  exact le_iff.2 ⟨rank, rank, hRank, hRank, le_rfl⟩

/- Of two numbers one is at most the other. -/
theorem IsNumber.lt_of_not_le
    {x y : Float}
    (hX : IsNumber x)
    (hY : IsNumber y)
    (h : ¬ x ≤ y) :
    y < x := by
  rcases hX with ⟨a, hA⟩
  rcases hY with ⟨b, hB⟩
  refine lt_iff.2 ⟨b, a, hB, hA, ?_⟩
  by_contra hNot
  exact h (le_iff.2 ⟨a, b, hA, hB, not_lt.1 hNot⟩)

theorem IsNumber.le_of_not_lt
    {x y : Float}
    (hX : IsNumber x)
    (hY : IsNumber y)
    (h : ¬ y < x) :
    x ≤ y := by
  by_contra hNot
  exact h (hX.lt_of_not_le hY hNot)

end Double

end NotebookGrading
