import NotebookGrading.Double.Style
import NotebookGrading.Proofs.Json.WholeNumbers

/-
  The characters of written doubles.

  Whatever the style, a finite magnitude begins with a digit
  and consists of digits, points, signs and the letter that
  marks an exponent. Only the words for the values that are
  not numbers hold other letters.

  Key definitions include:
    * `Double.IsNumeralChar`
    * `Double.IsNumeralText`

  Main statements:
    * `Double.isNumeralText_magnitude`
    * `Double.checksum_cases`
-/

namespace NotebookGrading

namespace Double

------------------------------------------------------------
-- Characters Of Numerals
------------------------------------------------------------

/- A digit, a point, a sign or the mark of an exponent. -/
def IsNumeralChar
    (c : Char) : Prop :=
  Text.isAsciiDigit c = true ∨ c ∈ ['.', '+', '-', 'e']

/- A text of a number: it begins with a digit. -/
structure IsNumeralText
    (cs : List Char) : Prop where
  head : ∃ d rest,
    cs = d :: rest ∧ Text.isAsciiDigit d = true
  all : ∀ c ∈ cs, IsNumeralChar c

theorem isNumeralChar_of_mem_decimalDigits
    {n : Nat}
    {c : Char}
    (h : c ∈ decimalDigits n) :
    IsNumeralChar c :=
  .inl (Json.isAsciiDigit_of_mem_decimalDigits h)

theorem isNumeralChar_of_mem_replicate
    {count : Nat}
    {c : Char}
    (h : c ∈ List.replicate count '0') :
    IsNumeralChar c := by
  rw [List.eq_of_mem_replicate h]
  exact .inl (by decide)

theorem IsNumeralText.append
    {cs ds : List Char}
    (h : IsNumeralText cs)
    (hRest : ∀ c ∈ ds, IsNumeralChar c) :
    IsNumeralText (cs ++ ds) := by
  rcases h.head with ⟨d, rest, rfl, hDigit⟩
  refine ⟨⟨d, rest ++ ds, rfl, hDigit⟩, ?_⟩
  intro c hMem
  rcases List.mem_append.1 hMem with hMem | hMem
  · exact h.all c hMem
  · exact hRest c hMem

theorem isNumeralText_decimalDigits
    (n : Nat) :
    IsNumeralText (decimalDigits n) := by
  refine ⟨?_, fun c => isNumeralChar_of_mem_decimalDigits⟩
  cases hDigits : decimalDigits n with
  | nil => exact absurd hDigits Nat.toDigits_ne_nil
  | cons d rest =>
      refine ⟨d, rest, rfl, ?_⟩
      apply Json.isAsciiDigit_of_mem_decimalDigits (n := n)
      rw [hDigits]
      exact List.mem_cons_self

/- A beginning of a numeral that is not empty. -/
theorem IsNumeralText.take
    {cs : List Char}
    (h : IsNumeralText cs)
    {count : Nat}
    (hPos : 0 < count) :
    IsNumeralText (cs.take count) := by
  rcases h.head with ⟨d, rest, rfl, hDigit⟩
  refine ⟨⟨d, rest.take (count - 1), ?_, hDigit⟩, ?_⟩
  · exact List.take_cons hPos
  · exact fun c hMem => h.all c (List.mem_of_mem_take hMem)

------------------------------------------------------------
-- Notations
------------------------------------------------------------

theorem isNumeralText_positional
    (style : Style)
    (point : Int)
    {digits : List Char}
    (h : IsNumeralText digits) :
    IsNumeralText (positional style digits point) := by
  have hPoint : IsNumeralChar '.' := .inr (by decide)
  have hZero : IsNumeralChar '0' := .inl (by decide)
  unfold positional
  split
  · have hStart : IsNumeralText ['0', '.'] := by
      refine ⟨⟨'0', ['.'], rfl, by decide⟩, ?_⟩
      simp [hZero, hPoint]
    exact
      (hStart.append
        (fun _ => isNumeralChar_of_mem_replicate)).append
          h.all
  · rename_i hPositive
    simp only
    split
    · have hZeros :
          ∀ c ∈ List.replicate
              (point.toNat - digits.length) '0',
            IsNumeralChar c :=
        fun _ => isNumeralChar_of_mem_replicate
      apply (h.append hZeros).append
      split <;> simp [hPoint, hZero]
    · apply (h.take (by omega)).append
      intro c hMem
      rcases List.mem_cons.1 hMem with rfl | hDropped
      · exact hPoint
      · exact h.all c (List.mem_of_mem_drop hDropped)

theorem isNumeralChar_of_mem_exponentText
    {style : Style}
    {exponent : Int}
    {c : Char}
    (h : c ∈ exponentText style exponent) :
    IsNumeralChar c := by
  have hMinus : IsNumeralChar '-' := .inr (by decide)
  have hPlus : IsNumeralChar '+' := .inr (by decide)
  have hPadded :
      ∀ count, ∀ c ∈ List.replicate count '0' ++
          decimalDigits exponent.natAbs,
        IsNumeralChar c := by
    intro count c hMem
    rcases List.mem_append.1 hMem with hMem | hMem
    · exact isNumeralChar_of_mem_replicate hMem
    · exact isNumeralChar_of_mem_decimalDigits hMem
  unfold exponentText at h
  simp only at h
  split at h
  · rcases List.mem_cons.1 h with rfl | hMem
    · exact hMinus
    · exact hPadded _ c hMem
  · split at h
    · rcases List.mem_cons.1 h with rfl | hMem
      · exact hPlus
      · exact hPadded _ c hMem
    · exact hPadded _ c h

theorem isNumeralText_scientific
    (style : Style)
    (exponent : Int)
    {digits : List Char}
    (h : IsNumeralText digits) :
    IsNumeralText (scientific style digits exponent) := by
  have hPoint : IsNumeralChar '.' := .inr (by decide)
  have hMark : IsNumeralChar 'e' := .inr (by decide)
  have hExponent :
      ∀ c ∈ 'e' :: exponentText style exponent,
        IsNumeralChar c := by
    intro c hMem
    rcases List.mem_cons.1 hMem with rfl | hMem
    · exact hMark
    · exact isNumeralChar_of_mem_exponentText hMem
  unfold scientific
  rcases h.head with ⟨d, rest, rfl, hDigit⟩
  cases rest with
  | nil => exact h.append hExponent
  | cons next others =>
      have hMantissa :
          IsNumeralText (d :: '.' :: next :: others) := by
        refine ⟨⟨d, _, rfl, hDigit⟩, ?_⟩
        intro c hMem
        rcases List.mem_cons.1 hMem with rfl | hMem
        · exact .inl hDigit
        · rcases List.mem_cons.1 hMem with rfl | hMem
          · exact hPoint
          · exact h.all c (List.mem_cons_of_mem d hMem)
      exact hMantissa.append hExponent

/- Finite magnitudes are written as numerals. -/
theorem isNumeralText_magnitude
    (style : Style)
    (b : Binary) :
    IsNumeralText (magnitude style b) := by
  unfold magnitude
  split
  · exact
      isNumeralText_positional style 1
        (isNumeralText_decimalDigits 0)
  · simp only
    split
    · exact
        isNumeralText_positional style _
          (isNumeralText_decimalDigits _)
    · exact
        isNumeralText_scientific style _
          (isNumeralText_decimalDigits _)

------------------------------------------------------------
-- Points In Checksum Texts
------------------------------------------------------------

/-
  Points are written as one of three words or as a numeral
  with at most a minus sign in front.
-/
theorem checksum_cases
    (x : Float) :
    (checksum x).toList ∈
        ["nan".toList, "inf".toList, "-inf".toList] ∨
      ∃ sign cs,
        (checksum x).toList = sign ++ cs ∧
          sign ∈ [[], ['-']] ∧ IsNumeralText cs := by
  unfold checksum write
  split
  · exact .inl (by decide)
  · simp only [String.toList_ofList]
    by_cases hFinite : x.isFinite = true
    · have hText :=
        isNumeralText_magnitude checksumStyle
          (Binary.ofFloat x)
      right
      simp only [hFinite, if_true]
      split
      · exact ⟨['-'], _, rfl, by decide, hText⟩
      · exact ⟨[], _, rfl, by decide, hText⟩
    · left
      simp only [hFinite, Bool.false_eq_true, if_false]
      split <;> decide

end Double

end NotebookGrading
