import Mathlib.Data.List.Basic
import Mathlib.Data.List.TakeWhile
import NotebookGrading.Double.Text
import NotebookGrading.Proofs.Text.Parts

/-
  Decimals in the digits of any script.

  The decimal digits of a script stand for the same numbers
  as the ASCII digits. A decimal is read as a double only if
  all of its digits are ASCII digits: reading stops at any
  other character, and only an exponent may follow there.

  Key definitions include:
    * `Text.decimalDigitsValue`
    * `Double.decimalChars`

  Main statements:
    * `Double.isAsciiDigit_of_unsigned?`
    * `Double.unsigned?_decimalChars`
    * `Double.word?_of_isDecimalDigit`
-/

namespace NotebookGrading

------------------------------------------------------------
-- Digits Of Every Script
------------------------------------------------------------

namespace Text

/- The value of a decimal digit of any script. -/
def decimalDigitValue
    (c : Char) : Nat :=
  let run :=
    decimalZeros.find? (fun first =>
      first ≤ c.toNat && c.toNat < first + 10)
  c.toNat - run.getD c.toNat

/- The number that a row of decimal digits spells. -/
def decimalDigitsValue
    (cs : List Char) : Nat :=
  cs.foldl (fun n c => 10 * n + decimalDigitValue c) 0

variable {c : Char}

theorem isAsciiDigit_iff :
    isAsciiDigit c = true ↔
      48 ≤ c.toNat ∧ c.toNat < 58 := by
  have hNine : c ≤ '9' ↔ c.toNat < 58 :=
    UInt32.le_iff_toNat_le.trans Nat.lt_succ_iff.symm
  have hZero : '0' ≤ c ↔ 48 ≤ c.toNat :=
    UInt32.le_iff_toNat_le
  rw [isAsciiDigit, Bool.and_eq_true, decide_eq_true_iff,
    decide_eq_true_iff, hZero, hNine]

/- The run that a decimal digit belongs to. -/
theorem isDecimalDigit_iff :
    isDecimalDigit c = true ↔
      ∃ first ∈ decimalZeros,
        first ≤ c.toNat ∧ c.toNat < first + 10 := by
  simp [isDecimalDigit]

/- Digits of other scripts have large code points. -/
theorem isAsciiDigit_or_of_isDecimalDigit
    (h : isDecimalDigit c = true) :
    isAsciiDigit c = true ∨ 0x660 ≤ c.toNat := by
  have hRuns :
      ∀ first ∈ decimalZeros,
        first = 48 ∨ 0x660 ≤ first := by
    decide
  rcases isDecimalDigit_iff.1 h with
    ⟨first, hMem, hLow, hHigh⟩
  rw [isAsciiDigit_iff]
  rcases hRuns first hMem with hAscii | hLarge
  · left
    omega
  · right
    omega

theorem decimalDigitValue_of_isAsciiDigit
    (h : isAsciiDigit c = true) :
    decimalDigitValue c = c.toNat - '0'.toNat := by
  rcases isAsciiDigit_iff.1 h with ⟨hLow, hHigh⟩
  simp [decimalDigitValue, decimalZeros, hLow, hHigh]

/- Both readings of a row of ASCII digits agree. -/
theorem decimalDigitsValue_of_isAsciiDigit
    {cs : List Char}
    (h : ∀ c ∈ cs, isAsciiDigit c = true) :
    decimalDigitsValue cs = digitsValue cs := by
  apply List.foldl_ext
  intro n c hMem
  rw [decimalDigitValue_of_isAsciiDigit (h c hMem)]

/- Only letters have another case. -/
theorem toLower_of_isDecimalDigit
    (h : isDecimalDigit c = true) :
    c.toLower = c := by
  have hLetter :
      ¬ (c.val ≥ 'A'.val ∧ c.val ≤ 'Z'.val) := by
    rw [ge_iff_le, UInt32.le_iff_toNat_le,
      UInt32.le_iff_toNat_le]
    change ¬ (65 ≤ c.toNat ∧ c.toNat ≤ 90)
    rcases isAsciiDigit_or_of_isDecimalDigit h with
      hAscii | hLarge
    · rw [isAsciiDigit_iff] at hAscii
      omega
    · omega
  exact dif_neg hLetter

end Text

------------------------------------------------------------
-- Decimals Of Digits
------------------------------------------------------------

namespace Double

variable {cs whole places : List Char}

theorem takeDigits_append
    {digits rest : List Char}
    (hDigits : ∀ c ∈ digits, Text.isAsciiDigit c = true)
    (hRest : ∀ c ∈ rest.head?, Text.isAsciiDigit c = false) :
    takeDigits (digits ++ rest) = (digits, rest) :=
  Text.row_append hDigits hRest

theorem takeDigits_eq
    {digits rest : List Char}
    (h : takeDigits cs = (digits, rest)) :
    cs = digits ++ rest ∧
      ∀ c ∈ digits, Text.isAsciiDigit c = true :=
  Text.eq_row_append h

theorem takeDigits_of_all
    (hDigits : ∀ c ∈ cs, Text.isAsciiDigit c = true) :
    takeDigits cs = (cs, []) := by
  rw [takeDigits, List.takeWhile_eq_self_iff.2 hDigits,
    List.dropWhile_eq_nil_iff.2 hDigits]

/- A decimal without a sign and without an exponent. -/
def decimalChars
    (whole places : List Char) : List Char :=
  if places.isEmpty then whole else whole ++ '.' :: places

theorem mem_decimalChars
    {c : Char}
    (hMem : c ∈ whole ++ places) :
    c ∈ decimalChars whole places := by
  unfold decimalChars
  split
  · rename_i hNone
    rw [List.isEmpty_iff] at hNone
    rwa [hNone, List.append_nil] at hMem
  · rcases List.mem_append.1 hMem with hWhole | hPlaces
    · exact List.mem_append_left _ hWhole
    · exact
        List.mem_append_right _
          (List.mem_cons_of_mem _ hPlaces)

theorem eq_point_of_mem_decimalChars
    {c : Char}
    (hMem : c ∈ decimalChars whole places) :
    c ∈ whole ++ places ∨ c = '.' := by
  unfold decimalChars at hMem
  split at hMem
  · exact .inl (List.mem_append_left _ hMem)
  · rcases List.mem_append.1 hMem with hWhole | hMem
    · exact .inl (List.mem_append_left _ hWhole)
    · rcases List.mem_cons.1 hMem with hPoint | hPlaces
      · exact .inr hPoint
      · exact .inl (List.mem_append_right _ hPlaces)

/- The value of a decimal of ASCII digits. -/
theorem unsigned?_of_isAsciiDigit
    (hSome : whole ≠ [])
    (hDigits :
      ∀ c ∈ whole ++ places, Text.isAsciiDigit c = true) :
    unsigned? (decimalChars whole places) =
      some
        (ofDecimal (Text.digitsValue (whole ++ places))
          (-(places.length : Int))) := by
  rw [List.forall_mem_append] at hDigits
  rcases hDigits with ⟨hWhole, hPlaces⟩
  cases places with
  | nil =>
      simp [decimalChars, unsigned?,
        takeDigits_of_all hWhole, takeFraction, exponent?,
        hSome]
  | cons place places =>
      have hPoint :
          takeDigits (whole ++ '.' :: place :: places) =
            (whole, '.' :: place :: places) := by
        apply takeDigits_append hWhole
        rintro c ⟨⟩
        decide
      simp [decimalChars, unsigned?, hPoint, takeFraction,
        takeDigits_of_all hPlaces, exponent?]

/- Where no exponent begins there is none. -/
theorem eq_nil_of_exponent?
    {exponent : Int}
    (h : exponent? cs = some exponent)
    (hExponent : ∀ c ∈ cs, c ≠ 'e' ∧ c ≠ 'E') :
    cs = [] := by
  cases cs with
  | nil => rfl
  | cons c rest =>
      have hC := hExponent c List.mem_cons_self
      simp [exponent?, hC] at h

/- A fraction is a point and digits, or there is none. -/
theorem exists_of_takeFraction
    {digits rest : List Char}
    (h : takeFraction cs = (digits, rest)) :
    ∃ fraction,
      cs = fraction ++ rest ∧
        ∀ c ∈ fraction,
          Text.isAsciiDigit c = true ∨ c = '.' := by
  unfold takeFraction at h
  split at h
  · rcases takeDigits_eq h with ⟨rfl, hDigits⟩
    refine ⟨'.' :: digits, rfl, ?_⟩
    intro c hMem
    rcases List.mem_cons.1 hMem with hPoint | hMem
    · exact .inr hPoint
    · exact .inl (hDigits c hMem)
  · rcases Prod.mk.inj h with ⟨rfl, rfl⟩
    exact ⟨[], rfl, by simp⟩

/-
  Without an exponent there are only digits and a point. The
  digits that are read end where another character stands,
  and only a point or an exponent may stand there.
-/
theorem isAsciiDigit_of_unsigned?
    {x : Float}
    (h : unsigned? cs = some x)
    (hExponent : ∀ c ∈ cs, c ≠ 'e' ∧ c ≠ 'E') :
    ∀ c ∈ cs, Text.isAsciiDigit c = true ∨ c = '.' := by
  unfold unsigned? at h
  cases hWhole : takeDigits cs with
  | mk whole after =>
      cases hFraction : takeFraction after with
      | mk digits rest =>
          rcases takeDigits_eq hWhole with
            ⟨rfl, hDigits⟩
          rcases exists_of_takeFraction hFraction with
            ⟨fraction, rfl, hRead⟩
          simp only [hWhole, hFraction] at h
          split at h
          · cases h
          · rcases Option.map_eq_some_iff.1 h with
              ⟨exponent, hExponent?, _⟩
            have hNil : rest = [] := by
              apply eq_nil_of_exponent? hExponent?
              intro c hMem
              apply hExponent
              exact
                List.mem_append_right _
                  (List.mem_append_right _ hMem)
            subst hNil
            intro c hMem
            rw [List.append_nil] at hMem
            rcases List.mem_append.1 hMem with hMem | hMem
            · exact .inl (hDigits c hMem)
            · exact hRead c hMem

/-
  A decimal of digits of any script has a value exactly if
  they are ASCII digits.
-/
theorem unsigned?_decimalChars
    (hSome : whole ≠ [])
    (hDigits :
      ∀ c ∈ whole ++ places, Text.isDecimalDigit c = true) :
    unsigned? (decimalChars whole places) =
      if (whole ++ places).all Text.isAsciiDigit then
        some
          (ofDecimal
            (Text.decimalDigitsValue (whole ++ places))
            (-(places.length : Int)))
      else
        none := by
  split
  · rename_i hAll
    rw [List.all_eq_true] at hAll
    rw [unsigned?_of_isAsciiDigit hSome hAll,
      Text.decimalDigitsValue_of_isAsciiDigit hAll]
  · rename_i hNot
    rw [Option.eq_none_iff_forall_not_mem]
    intro x hRead
    apply hNot
    rw [List.all_eq_true]
    intro c hMem
    have hExponent :
        ∀ d ∈ decimalChars whole places,
          d ≠ 'e' ∧ d ≠ 'E' := by
      intro d hD
      rcases eq_point_of_mem_decimalChars hD with hD | rfl
      · constructor <;> rintro rfl <;>
          exact absurd (hDigits _ hD) (by decide)
      · decide
    rcases isAsciiDigit_of_unsigned? hRead hExponent c
        (mem_decimalChars hMem) with hDigit | rfl
    · exact hDigit
    · exact absurd (hDigits _ hMem) (by decide)

/- No word for a special number begins with a digit. -/
theorem word?_of_isDecimalDigit
    {first : Char}
    (h : Text.isDecimalDigit first = true)
    (rest : List Char) :
    word? (first :: rest) = none := by
  have hLetters : first ≠ 'i' ∧ first ≠ 'n' := by
    constructor <;> rintro rfl <;>
      exact absurd h (by decide)
  simp [word?, Text.toLower_of_isDecimalDigit h, hLetters]

end Double

end NotebookGrading
