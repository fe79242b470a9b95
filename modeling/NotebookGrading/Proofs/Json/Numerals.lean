import NotebookGrading.Json.Token
import NotebookGrading.Json.Writer

/-
  Written numbers in front of other characters.

  A number ends where a character follows that cannot go on
  with it, so what is read of a number alone is also read
  of it in front of such a character.

  Key definitions include:
    * `Json.EndsNumber`
    * `Json.Number.ReadsBack`
    * `DoublesReadBack`

  Main statements:
    * `Json.numeral?_append`
    * `Json.Number.ReadsBack.token?_append`
-/

namespace NotebookGrading

namespace Json

/- Characters that cannot go on with a number. -/
def EndsNumber
    (rest : List Char) : Prop :=
  ∀ c ∈ rest.head?,
    Text.isAsciiDigit c = false ∧
      c ≠ '.' ∧ c ≠ 'e' ∧ c ≠ 'E'

variable {cs after rest : List Char}

theorem takeDigits_append
    (hRest : EndsNumber rest)
    (cs : List Char) :
    Double.takeDigits (cs ++ rest) =
      ((Double.takeDigits cs).1,
        (Double.takeDigits cs).2 ++ rest) := by
  unfold Double.takeDigits
  induction cs with
  | nil =>
      cases rest with
      | nil => rfl
      | cons c rest =>
          have hDigit := (hRest c rfl).1
          simp [hDigit]
  | cons c cs ih =>
      cases hDigit : Text.isAsciiDigit c with
      | false => simp [hDigit]
      | true =>
          simp only [List.cons_append, List.takeWhile_cons,
            List.dropWhile_cons, hDigit, if_true]
          rw [Prod.mk.injEq] at ih ⊢
          exact ⟨congrArg (c :: ·) ih.1, ih.2⟩

------------------------------------------------------------
-- Fractions And Exponents
------------------------------------------------------------

/- What ends a number does not begin its next part. -/
theorem EndsNumber.head?_append_ne
    (hRest : EndsNumber rest)
    {mark : Char}
    (hMark : mark = '.' ∨ mark = 'e' ∨ mark = 'E')
    (h : cs.head? ≠ some mark) :
    (cs ++ rest).head? ≠ some mark := by
  intro hHead
  cases cs with
  | nil =>
      have hEnds := hRest mark hHead
      rcases hMark with rfl | rfl | rfl <;> simp at hEnds
  | cons c cs => exact h hHead

theorem fraction?_of_head?_ne
    (h : cs.head? ≠ some '.') :
    fraction? cs = some ([], cs) := by
  unfold fraction?
  split
  · simp at h
  · rfl

theorem fraction?_append
    (hRest : EndsNumber rest)
    {digits : List Char}
    (h : fraction? cs = some (digits, after)) :
    fraction? (cs ++ rest) =
      some (digits, after ++ rest) := by
  by_cases hPoint : cs.head? = some '.'
  · rcases List.head?_eq_some_iff.1 hPoint with ⟨cs, rfl⟩
    simp only [List.cons_append, fraction?,
      takeDigits_append hRest] at h ⊢
    split at h
    · simp at h
    · rename_i hSome
      rw [if_neg hSome]
      simp_all
  · rw [fraction?_of_head?_ne hPoint] at h
    rw [fraction?_of_head?_ne
      (hRest.head?_append_ne (Or.inl rfl) hPoint)]
    simp_all

/- A sign is only looked for in front of a character. -/
theorem takeSign_append
    (hNe : cs ≠ [])
    (rest : List Char) :
    Double.takeSign (cs ++ rest) =
      ((Double.takeSign cs).1,
        (Double.takeSign cs).2 ++ rest) := by
  cases cs with
  | nil => exact absurd rfl hNe
  | cons c cs =>
      rw [List.cons_append]
      unfold Double.takeSign
      split <;> simp_all

theorem exponent?_of_head?_ne
    (hLower : cs.head? ≠ some 'e')
    (hUpper : cs.head? ≠ some 'E') :
    exponent? cs = some (none, cs) := by
  cases cs with
  | nil => rfl
  | cons c cs =>
      simp only [List.head?_cons, ne_eq,
        Option.some.injEq] at hLower hUpper
      simp [exponent?, hLower, hUpper]

/- An exponent after its letter. -/
theorem exponent?_cons_append
    (hRest : EndsNumber rest)
    {letter : Char}
    (hLetter : letter = 'e' ∨ letter = 'E')
    {exponent : Option (Bool × List Char)}
    (h :
      exponent? (letter :: cs) = some (exponent, after)) :
    exponent? (letter :: cs ++ rest) =
      some (exponent, after ++ rest) := by
  have hIs : (letter = 'e' || letter = 'E') = true := by
    simpa using hLetter
  have hNe : cs ≠ [] := by
    rintro rfl
    simp [exponent?, hIs, Double.takeSign,
      Double.takeDigits] at h
  simp only [List.cons_append, exponent?, hIs, if_true,
    takeSign_append hNe, takeDigits_append hRest] at h ⊢
  split at h
  · simp at h
  · rename_i hSome
    rw [if_neg hSome]
    simp_all

theorem exponent?_append
    (hRest : EndsNumber rest)
    {exponent : Option (Bool × List Char)}
    (h : exponent? cs = some (exponent, after)) :
    exponent? (cs ++ rest) =
      some (exponent, after ++ rest) := by
  by_cases hLower : cs.head? = some 'e'
  · rcases List.head?_eq_some_iff.1 hLower with ⟨cs, rfl⟩
    exact exponent?_cons_append hRest (Or.inl rfl) h
  by_cases hUpper : cs.head? = some 'E'
  · rcases List.head?_eq_some_iff.1 hUpper with ⟨cs, rfl⟩
    exact exponent?_cons_append hRest (Or.inr rfl) h
  · rw [exponent?_of_head?_ne hLower hUpper] at h
    rw [exponent?_of_head?_ne
      (hRest.head?_append_ne (by simp) hLower)
      (hRest.head?_append_ne (by simp) hUpper)]
    simp_all

------------------------------------------------------------
-- Numbers
------------------------------------------------------------

/- A number without its sign, and what follows it. -/
def unsignedNumeral?
    (negative : Bool)
    (cs : List Char) : Option (Numeral × List Char) := do
  let (whole, afterWhole) := Double.takeDigits cs
  if whole.isEmpty then none
  else if whole.head? = some '0' && whole.length > 1 then
    none
  else
    let (fraction, afterFraction) ← fraction? afterWhole
    let (exponent, rest) ← exponent? afterFraction
    some (⟨negative, whole, fraction, exponent⟩, rest)

theorem numeral?_of_head?_ne
    (h : cs.head? ≠ some '-') :
    numeral? cs = unsignedNumeral? false cs := by
  unfold numeral?
  split
  rename_i hSplit
  split at hSplit
  · simp at h
  · simp only [Prod.mk.injEq] at hSplit
    rw [← hSplit.1, ← hSplit.2]
    rfl

/- A number begins with a digit. -/
theorem head?_of_unsignedNumeral?
    {negative : Bool}
    {n : Numeral}
    (h : unsignedNumeral? negative cs = some (n, after)) :
    ∃ c, cs.head? = some c ∧ Text.isAsciiDigit c := by
  cases cs with
  | nil =>
      simp [unsignedNumeral?, Double.takeDigits] at h
  | cons c cs =>
      refine ⟨c, rfl, ?_⟩
      cases hDigit : Text.isAsciiDigit c with
      | true => rfl
      | false =>
          simp [unsignedNumeral?, Double.takeDigits,
            hDigit] at h

theorem unsignedNumeral?_append
    (hRest : EndsNumber rest)
    {negative : Bool}
    {n : Numeral}
    (h : unsignedNumeral? negative cs = some (n, after)) :
    unsignedNumeral? negative (cs ++ rest) =
      some (n, after ++ rest) := by
  simp only [unsignedNumeral?, takeDigits_append hRest,
    Option.bind_eq_bind] at h ⊢
  split at h
  · simp at h
  rename_i hSome
  rw [if_neg hSome]
  split at h
  · simp at h
  rename_i hZero
  rw [if_neg hZero]
  rcases Option.bind_eq_some_iff.1 h with
    ⟨⟨fraction, afterFraction⟩, hFraction, h⟩
  rcases Option.bind_eq_some_iff.1 h with
    ⟨⟨exponent, afterExponent⟩, hExponent, h⟩
  simp only [Option.some.injEq, Prod.mk.injEq] at h
  rw [fraction?_append hRest hFraction]
  simp only [Option.bind_some]
  rw [exponent?_append hRest hExponent]
  simp [h.1, h.2]

/- A number is read in front of what ends it. -/
theorem numeral?_append
    (hRest : EndsNumber rest)
    {n : Numeral}
    (h : numeral? cs = some (n, after)) :
    numeral? (cs ++ rest) = some (n, after ++ rest) := by
  by_cases hMinus : cs.head? = some '-'
  · rcases List.head?_eq_some_iff.1 hMinus with ⟨cs, rfl⟩
    exact unsignedNumeral?_append hRest h
  · rw [numeral?_of_head?_ne hMinus] at h
    rcases head?_of_unsignedNumeral? h with ⟨c, hHead, _⟩
    have hAppend : (cs ++ rest).head? ≠ some '-' := by
      rw [List.head?_append, hHead]
      rw [hHead] at hMinus
      exact hMinus
    rw [numeral?_of_head?_ne hAppend]
    exact unsignedNumeral?_append hRest h

------------------------------------------------------------
-- Tokens Of Numbers
------------------------------------------------------------

theorem head?_of_numeral?
    {n : Numeral}
    (h : numeral? cs = some (n, after)) :
    ∃ c,
      cs.head? = some c ∧
        (c = '-' ∨ Text.isAsciiDigit c) := by
  by_cases hMinus : cs.head? = some '-'
  · exact ⟨'-', hMinus, Or.inl rfl⟩
  · rw [numeral?_of_head?_ne hMinus] at h
    rcases head?_of_unsignedNumeral? h with
      ⟨c, hHead, hDigit⟩
    exact ⟨c, hHead, Or.inr hDigit⟩

/- No other token begins like a number. -/
theorem token?_of_numeral?
    {n : Numeral}
    (h : numeral? cs = some (n, after)) :
    token? cs = some (.number n.number?, after) := by
  rcases head?_of_numeral? h with ⟨c, hHead, hFirst⟩
  unfold token?
  split
  case h_11 => simp [h]
  all_goals
    simp only [List.head?_cons, Option.some.injEq] at hHead
    subst hHead
    exact absurd hFirst (by decide)

/- The text of a number spells the number. -/
def Number.ReadsBack
    (n : Number) : Prop :=
  (numeral? n.text.toList).map
      (fun result => (result.1.number?, result.2)) =
    some (some n, [])

instance (n : Number) : Decidable n.ReadsBack :=
  inferInstanceAs (Decidable (_ = _))

theorem Number.ReadsBack.token?_append
    {n : Number}
    (h : n.ReadsBack)
    (hRest : EndsNumber rest) :
    token? (n.text.toList ++ rest) =
      some (.number (some n), rest) := by
  rcases Option.map_eq_some_iff.1 h with
    ⟨⟨numeral, after⟩, hNumeral, hValue⟩
  simp only [Prod.mk.injEq] at hValue
  rw [token?_of_numeral? (numeral?_append hRest hNumeral)]
  simp [hValue.1, hValue.2]

end Json

------------------------------------------------------------
-- Doubles
------------------------------------------------------------

/- Every finite double is spelled by its text. -/
def DoublesReadBack
    (doubles : List Float) : Prop :=
  ∀ x ∈ doubles,
    x.isFinite → (Json.Number.real x).ReadsBack

instance (doubles : List Float) :
    Decidable (DoublesReadBack doubles) :=
  inferInstanceAs (Decidable (∀ x ∈ doubles, _ → _))

theorem DoublesReadBack.subset
    {some all : List Float}
    (h : DoublesReadBack all)
    (hSubset : some ⊆ all) :
    DoublesReadBack some :=
  fun x hMem => h x (hSubset hMem)

end NotebookGrading
