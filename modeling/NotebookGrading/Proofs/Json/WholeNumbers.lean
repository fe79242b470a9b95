import Mathlib.Algebra.Ring.Int.Defs
import Mathlib.Data.List.TakeWhile
import NotebookGrading.Proofs.Json.Numerals

/-
  Whole numbers read back from their texts.

  The digits of a number begin with a zero only when the
  number is zero, and they fit the significand when the
  number fits 64 bits.

  Main statements:
    * `Json.unsignedNumeral?_decimalDigits`
    * `Json.Numeral.extend_eq`
    * `Json.Number.readsBack_whole`
-/

namespace NotebookGrading

namespace Json

open Double (decimalDigits)

------------------------------------------------------------
-- Digits Of A Number
------------------------------------------------------------

theorem isAsciiDigit_of_mem_decimalDigits
    {n : Nat}
    {c : Char}
    (h : c ∈ decimalDigits n) :
    Text.isAsciiDigit c :=
  Nat.isDigit_of_mem_toDigits (by decide) (Nat.le_refl 10) h

theorem takeDigits_decimalDigits
    (n : Nat) :
    Double.takeDigits (decimalDigits n) =
      (decimalDigits n, []) := by
  have hAll :
      ∀ c ∈ decimalDigits n, Text.isAsciiDigit c :=
    fun _ => isAsciiDigit_of_mem_decimalDigits
  rw [Double.takeDigits, Prod.mk.injEq]
  exact
    ⟨List.takeWhile_eq_self_iff.2 hAll,
      List.dropWhile_eq_nil_iff.2 hAll⟩

/- The digits of a number that is not zero start with one. -/
theorem head?_decimalDigits_ne_zero
    {n : Nat}
    (hPos : 0 < n) :
    (decimalDigits n).head? ≠ some '0' := by
  unfold decimalDigits
  induction n using Nat.strongRecOn with
  | ind n ih =>
      by_cases hSmall : n < 10
      · rw [Nat.toDigits_of_lt_base hSmall]
        have hDigits :
            ∀ d < 10, 0 < d →
              [Nat.digitChar d].head? ≠ some '0' := by
          decide
        exact hDigits n hSmall hPos
      · rw [Nat.toDigits_of_base_le (by decide) (by omega)]
        have hFront := ih (n / 10) (by omega) (by omega)
        rw [List.head?_append]
        cases hDigits : Nat.toDigits 10 (n / 10) with
        | nil => exact absurd hDigits Nat.toDigits_ne_nil
        | cons d rest =>
            rw [hDigits] at hFront
            simpa using hFront

/- Digits alone spell a number without further parts. -/
theorem unsignedNumeral?_decimalDigits
    (negative : Bool)
    (n : Nat) :
    unsignedNumeral? negative (decimalDigits n) =
      some (⟨negative, decimalDigits n, [], none⟩, []) := by
  have hSome : (decimalDigits n).isEmpty = false := by
    simp [decimalDigits]
  have hZero :
      ((decimalDigits n).head? = some '0' &&
        (decimalDigits n).length > 1) = false := by
    rcases Nat.eq_zero_or_pos n with rfl | hPos
    · rfl
    · simp [head?_decimalDigits_ne_zero hPos]
  simp [unsignedNumeral?, takeDigits_decimalDigits, hSome,
    hZero, fraction?, exponent?]

------------------------------------------------------------
-- Significands
------------------------------------------------------------

namespace Numeral

theorem le_ofDigitChars
    (digits : List Char)
    (start : Nat) :
    start ≤ Nat.ofDigitChars 10 digits start := by
  induction digits generalizing start with
  | nil => exact Nat.le_refl start
  | cons c rest ih =>
      rw [Nat.ofDigitChars_cons]
      have hRest := ih (10 * start + (c.toNat - '0'.toNat))
      omega

/- Digits of a number that fits are all counted. -/
theorem extend_eq
    {digits : List Char}
    {start : Nat}
    (h :
      Nat.ofDigitChars 10 digits start ≤
        significandLimit) :
    extend start digits =
      (Nat.ofDigitChars 10 digits start, []) := by
  induction digits generalizing start with
  | nil => rfl
  | cons c rest ih =>
      rw [Nat.ofDigitChars_cons] at h
      have hNext :
          10 * start + (c.toNat - '0'.toNat) ≤
            significandLimit :=
        Nat.le_trans (le_ofDigitChars rest _) h
      rw [extend, if_pos hNext, ih h,
        Nat.ofDigitChars_cons]

/- The number that the digits of a number spell. -/
theorem number?_decimalDigits
    (negative : Bool)
    {n : Nat}
    (h : n ≤ significandLimit) :
    number? ⟨negative, decimalDigits n, [], none⟩ =
      some
        (wholeNumber
          ⟨negative, decimalDigits n, [], none⟩ n) := by
  have hDigits :
      Nat.ofDigitChars 10 (decimalDigits n) 0 = n :=
    Nat.ofDigitChars_ten_toDigits
  have hExtend :
      extend 0 (decimalDigits n) = (n, []) := by
    rw [extend_eq (by rwa [hDigits]), hDigits]
  simp [number?, hExtend]

/- The value of digits behind a minus sign. -/
theorem wholeNumber_of_neg
    {value : Int}
    (hNegative : value < 0)
    (hLow : -(2 ^ 63) ≤ value)
    (digits : List Char) :
    wholeNumber ⟨true, digits, [], none⟩ value.natAbs =
      .whole value := by
  have hNotZero : value.natAbs ≠ 0 := by omega
  have hFits :
      ¬ value.natAbs > 9223372036854775808 := by
    omega
  have hValue : -(value.natAbs : Int) = value := by omega
  simp only [wholeNumber, hNotZero, hFits, if_true,
    decide_false, Bool.or_false, Bool.false_eq_true,
    if_false, hValue]

theorem wholeNumber_of_nonneg
    {value : Int}
    (hNonneg : ¬ value < 0)
    (digits : List Char) :
    wholeNumber ⟨false, digits, [], none⟩ value.natAbs =
      .whole value := by
  have hValue : (value.natAbs : Int) = value := by omega
  simp only [wholeNumber, Bool.false_eq_true, if_false,
    hValue]

end Numeral

------------------------------------------------------------
-- Whole Numbers
------------------------------------------------------------

/- A text reads back when it is one numeral of its value. -/
theorem Number.readsBack_of_numeral?
    {n : Number}
    {numeral : Numeral}
    (hNumeral :
      numeral? n.text.toList = some (numeral, []))
    (hValue : numeral.number? = some n) :
    n.ReadsBack := by
  rw [ReadsBack, hNumeral, Option.map_some, hValue]

/- A whole number of 64 bits is read back. -/
theorem Number.readsBack_whole
    {value : Int}
    (hLow : -(2 ^ 63) ≤ value)
    (hHigh : value < 2 ^ 64) :
    (Number.whole value).ReadsBack := by
  have hFits :
      value.natAbs ≤ Numeral.significandLimit := by
    have hLimit : Numeral.significandLimit = 2 ^ 64 - 1 :=
      rfl
    omega
  have hText :
      (Number.whole value).text.toList =
        if value < 0 then
          '-' :: decimalDigits value.natAbs
        else
          decimalDigits value.natAbs :=
    String.toList_ofList
  by_cases hNegative : value < 0
  · rw [if_pos hNegative] at hText
    have hNumeral :
        numeral? ('-' :: decimalDigits value.natAbs) =
          some
            (⟨true, decimalDigits value.natAbs, [], none⟩,
              []) :=
      unsignedNumeral?_decimalDigits true value.natAbs
    rw [← hText] at hNumeral
    apply Number.readsBack_of_numeral? hNumeral
    rw [Numeral.number?_decimalDigits true hFits,
      Numeral.wholeNumber_of_neg hNegative hLow]
  · rw [if_neg hNegative] at hText
    have hHead :
        (decimalDigits value.natAbs).head? ≠ some '-' := by
      intro hMinus
      have hDigit :=
        isAsciiDigit_of_mem_decimalDigits
          (List.mem_of_mem_head? hMinus)
      cases hDigit
    have hNumeral :
        numeral? (Number.whole value).text.toList =
          some
            (⟨false, decimalDigits value.natAbs, [], none⟩,
              []) := by
      rw [hText, numeral?_of_head?_ne hHead]
      exact
        unsignedNumeral?_decimalDigits false value.natAbs
    apply Number.readsBack_of_numeral? hNumeral
    rw [Numeral.number?_decimalDigits false hFits,
      Numeral.wholeNumber_of_nonneg hNegative]

end Json

end NotebookGrading
