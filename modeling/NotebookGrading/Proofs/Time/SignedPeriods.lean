import NotebookGrading.Proofs.Double.Signs
import NotebookGrading.Proofs.Time.PeriodTexts

/-
  Periods with a sign.

  The sign is read before the components and applied to their
  sum, before that is rounded. Rounding, the range and the
  length of time of a number treat both signs alike, so a
  minus gives the opposite period and changes nothing else.
  The components are never below zero themselves.

  Key definitions include:
    * `PeriodError.withInput`

  Main statements:
    * `Period.ofText_of_sign`
    * `Period.rounded?_neg`
    * `WrittenPeriod.notBelowZero_milliseconds`
    * `Period.ofText_minus`
    * `Period.ofText_signed`
-/

namespace NotebookGrading

/- The same error of another text. -/
def PeriodError.withInput
    (input : String) : PeriodError → PeriodError
  | .malformed _ => .malformed input
  | .outOfRange _ => .outOfRange input
  | .negative _ => .negative input

------------------------------------------------------------
-- Signs In Front
------------------------------------------------------------

namespace WrittenPeriod

variable {negative : Bool}
variable {sign : List Char}

/-
  Blanks are only dropped behind what follows the letter P,
  so the components are the same behind every sign.
-/
theorem ofChars?_trimChars
    (hSign : SpellsSign negative sign)
    (rest : List Char) :
    ofChars? (Text.trimChars (sign ++ 'P' :: rest)) =
      (components? (Text.dropTrailingBlanks rest)).map
        (fun components => ⟨negative, components⟩) := by
  have hLetter : Text.isBlank 'P' = false := by decide
  have hTrim :
      Text.trimChars (sign ++ 'P' :: rest) =
        sign ++ 'P' :: Text.dropTrailingBlanks rest := by
    cases hSign with
    | none => exact Text.trimChars_cons hLetter rest
    | plus =>
        rw [List.singleton_append,
          Text.trimChars_cons (by decide),
          Text.dropTrailingBlanks_cons hLetter]
        rfl
    | minus =>
        rw [List.singleton_append,
          Text.trimChars_cons (by decide),
          Text.dropTrailingBlanks_cons hLetter]
        rfl
  rw [hTrim, ofChars?]
  simp only [takeSign_append hSign]

/- The sign is that of the sum in milliseconds. -/
theorem milliseconds_negative
    (components : List PeriodComponent) :
    milliseconds ⟨true, components⟩ =
      -milliseconds ⟨false, components⟩ :=
  Double.neg_mul _ _

end WrittenPeriod

namespace Period

open WrittenPeriod (SpellsSign)

variable {milliseconds : Float}
variable {n : Int}

theorem isCount_neg_iff :
    IsCount (-milliseconds) n ↔
      IsCount milliseconds (-n) := by
  have hFinite := Double.isFinite_neg_eq milliseconds
  have hValue := Double.exactValue_neg milliseconds
  constructor
  · rintro ⟨hX, hN, hRange⟩
    rw [hFinite] at hX
    rw [hValue] at hN
    have hOpposite := hN.neg
    rw [neg_neg] at hOpposite
    exact ⟨hX, hOpposite, by rwa [abs_neg]⟩
  · rintro ⟨hX, hN, hRange⟩
    have hOpposite := hN.neg
    rw [neg_neg, ← hValue] at hOpposite
    rw [← hFinite] at hX
    exact ⟨hX, hOpposite, by rwa [abs_neg] at hRange⟩

/- Opposite doubles are rounded to opposite numbers. -/
theorem rounded?_neg
    (milliseconds : Float) :
    rounded? (-milliseconds) =
      (rounded? milliseconds).map (- ·) := by
  apply Option.ext
  intro n
  rw [rounded?_eq_some_iff, isCount_neg_iff,
    ← rounded?_eq_some_iff, Option.map_eq_some_iff]
  constructor
  · exact fun h => ⟨-n, h, neg_neg n⟩
  · rintro ⟨m, h, rfl⟩
    rwa [neg_neg]

/- What a text with a given sign and components gives. -/
theorem ofText_of_sign
    {negative : Bool}
    {sign rest : List Char}
    {text : String}
    (hSign : SpellsSign negative sign)
    (hText : text.toList = sign ++ 'P' :: rest) :
    ofText text =
      match WrittenPeriod.components?
          (Text.dropTrailingBlanks rest) with
      | none => .error (.malformed text)
      | some components =>
          match rounded?
              (WrittenPeriod.milliseconds
                ⟨negative, components⟩) with
          | none => .error (.outOfRange text)
          | some n => .ok n := by
  rw [ofText, hText,
    WrittenPeriod.ofChars?_trimChars hSign rest]
  cases WrittenPeriod.components?
    (Text.dropTrailingBlanks rest) <;> rfl

end Period

------------------------------------------------------------
-- Components That Are Not Below Zero
------------------------------------------------------------

open Double (NotBelowZero)

namespace PeriodComponent

open WrittenPeriod (SpellsNumber)

variable {component : PeriodComponent}
variable {whole places : List Char}

/- Digits are no commas. -/
theorem pointForComma_of_isDecimalDigit
    {c : Char}
    (h : Text.isDecimalDigit c = true) :
    pointForComma c = c := by
  apply if_neg
  rintro rfl
  exact absurd h (by decide)

/- So no sign is read in a number. -/
theorem takeSign_number
    (h : SpellsNumber whole places component.number) :
    Double.takeSign (component.number.map pointForComma) =
      (false, component.number.map pointForComma) := by
  rcases h.exists_first with
    ⟨first, rest, hNumber, hDigit⟩
  have hSign : first ≠ '-' ∧ first ≠ '+' := by
    constructor <;> rintro rfl <;>
      exact absurd hDigit (by decide)
  rw [hNumber, List.map_cons,
    pointForComma_of_isDecimalDigit hDigit]
  unfold Double.takeSign
  split
  · rename_i hCons
    exact absurd (List.cons.inj hCons).1 hSign.1
  · rename_i hCons
    exact absurd (List.cons.inj hCons).1 hSign.2
  · rfl

theorem notBelowZero_unit
    (unit : PeriodUnit) :
    NotBelowZero unit.seconds := by
  apply Double.notBelowZero_of_isPositiveModel
  cases unit <;> decide +kernel

theorem notBelowZero_seconds?
    {seconds : Float}
    (h : SpellsNumber whole places component.number)
    (hSeconds : component.seconds? = some seconds) :
    NotBelowZero seconds := by
  rcases Option.map_eq_some_iff.1 hSeconds with
    ⟨value, hValue, rfl⟩
  have hNumber : NotBelowZero value :=
    Double.notBelowZero_ofChars?
      (congrArg Prod.fst (takeSign_number h)) hValue
  exact
    Double.notBelowZero_mul hNumber
      (notBelowZero_unit component.unit)

end PeriodComponent

namespace WrittenPeriod

theorem notBelowZero_magnitude
    {period : WrittenPeriod}
    (h :
      ∀ component ∈ period.components, ∃ whole places,
        SpellsNumber whole places component.number) :
    NotBelowZero period.magnitude := by
  apply Double.notBelowZero_foldl
  · exact Double.NotNegative.zero .negative
  · intro x hMem
    rcases List.mem_filterMap.1 hMem with
      ⟨component, hComponent, hSeconds⟩
    rcases h component hComponent with
      ⟨whole, places, hNumber⟩
    exact
      PeriodComponent.notBelowZero_seconds? hNumber hSeconds

theorem notBelowZero_milliseconds
    {components : List PeriodComponent}
    (h :
      ∀ component ∈ components, ∃ whole places,
        SpellsNumber whole places component.number) :
    NotBelowZero (milliseconds ⟨false, components⟩) := by
  have hThousand : NotBelowZero 1000 :=
    Double.notBelowZero_of_isPositiveModel
      (by decide +kernel)
  have hMagnitude :
      NotBelowZero (magnitude ⟨false, components⟩) :=
    notBelowZero_magnitude h
  exact Double.notBelowZero_mul hMagnitude hThousand

theorem numbers_of_components?
    {cs : List Char}
    {components : List PeriodComponent}
    (h : components? cs = some components) :
    ∀ component ∈ components, ∃ whole places,
      SpellsNumber whole places component.number := by
  have hRead :
      ofChars? ('P' :: cs) = some ⟨false, components⟩ := by
    have hSign :
        Double.takeSign ('P' :: cs) = (false, 'P' :: cs) :=
      rfl
    simp only [ofChars?, hSign, h, Option.map_some]
  exact (ofChars?_eq_some_iff.1 hRead).numbers

end WrittenPeriod

------------------------------------------------------------
-- Opposite Periods
------------------------------------------------------------

namespace Period

variable {text : String}
variable {rest : List Char}

/- A period without a sign is not negative. -/
theorem nonneg_of_ofText
    {n : Int}
    (hText : text.toList = 'P' :: rest)
    (h : ofText text = .ok n) :
    0 ≤ n := by
  rw [ofText_of_sign .none hText] at h
  split at h
  · cases h
  · rename_i components hRead
    split at h
    · cases h
    · rename_i m hRounded
      rcases Except.ok.inj h with rfl
      have hCount := rounded?_eq_some_iff.1 hRounded
      have hAbove :=
        WrittenPeriod.notBelowZero_milliseconds
          (WrittenPeriod.numbers_of_components? hRead)
      exact hCount.isRounded.nonneg hAbove.exactValue_nonneg

/- A plus changes nothing but the text of an error. -/
theorem ofText_plus
    (hText : text.toList = 'P' :: rest) :
    ofText ("+" ++ text) =
      (ofText text).mapError
        (PeriodError.withInput ("+" ++ text)) := by
  have hPlus :
      ("+" ++ text).toList = ['+'] ++ 'P' :: rest := by
    rw [String.toList_append, hText]
    rfl
  rw [ofText_of_sign .plus hPlus,
    ofText_of_sign .none hText]
  cases WrittenPeriod.components?
      (Text.dropTrailingBlanks rest) with
  | none => rfl
  | some components =>
      simp only
      cases rounded?
        (WrittenPeriod.milliseconds
          ⟨false, components⟩) <;> rfl

/- A minus gives the opposite period. -/
theorem ofText_minus
    (hText : text.toList = 'P' :: rest) :
    ofText ("-" ++ text) =
      ((ofText text).map (- ·)).mapError
        (PeriodError.withInput ("-" ++ text)) := by
  have hMinus :
      ("-" ++ text).toList = ['-'] ++ 'P' :: rest := by
    rw [String.toList_append, hText]
    rfl
  rw [ofText_of_sign .minus hMinus,
    ofText_of_sign .none hText]
  cases WrittenPeriod.components?
      (Text.dropTrailingBlanks rest) with
  | none => rfl
  | some components =>
      simp only
      rw [WrittenPeriod.milliseconds_negative, rounded?_neg]
      cases rounded?
        (WrittenPeriod.milliseconds
          ⟨false, components⟩) <;> rfl

/- Only a period of no length is its own opposite. -/
theorem nonNegativeOfText_minus
    {n : Int}
    (hText : text.toList = 'P' :: rest) :
    nonNegativeOfText ("-" ++ text) = .ok n ↔
      ofText text = .ok 0 ∧ n = 0 := by
  rw [nonNegativeOfText_eq_ok_iff, ofText_minus hText]
  cases hRead : ofText text with
  | error e =>
      constructor
      · rintro ⟨h, _⟩
        cases h
      · rintro ⟨h, _⟩
        cases h
  | ok m =>
      have hM := nonneg_of_ofText hText hRead
      constructor
      · rintro ⟨h, hN⟩
        have hOpposite : -m = n := Except.ok.inj h
        have hZero : m = 0 := by omega
        exact ⟨by rw [hZero], by omega⟩
      · rintro ⟨h, rfl⟩
        rw [Except.ok.inj h]
        exact ⟨rfl, le_rfl⟩

/-
  In front of a text that begins with the letter P a plus
  changes nothing and a minus gives the opposite period. An
  error stays the same one and names the longer text. So a
  minus gives a period that is not negative only in front of
  one of no length.
-/
theorem ofText_signed
    (text : String)
    (hLetter : text.toList.head? = some 'P') :
    ofText ("+" ++ text) =
        (ofText text).mapError
          (PeriodError.withInput ("+" ++ text)) ∧
      ofText ("-" ++ text) =
        ((ofText text).map (- ·)).mapError
          (PeriodError.withInput ("-" ++ text)) ∧
      (∀ n, nonNegativeOfText ("-" ++ text) = .ok n ↔
        ofText text = .ok 0 ∧ n = 0) := by
  rcases List.head?_eq_some_iff.1 hLetter with ⟨rest, hText⟩
  exact
    ⟨ofText_plus hText, ofText_minus hText,
      fun _ => nonNegativeOfText_minus hText⟩

/- Half a millisecond is rounded away from zero. -/
theorem ofText_signed_half :
    "PT0,0005S".toList.head? = some 'P' ∧
      ofText "PT0,0005S" = .ok 1 ∧
      ofText "+PT0,0005S" = .ok 1 ∧
      ofText "-PT0,0005S" = .ok (-1) ∧
      (∀ n, nonNegativeOfText "-PT0,0005S" ≠ .ok n) := by
  have hRead : ofText "PT0,0005S" = .ok 1 := by
    decide +kernel
  rcases ofText_signed "PT0,0005S" (by decide) with
    ⟨hPlus, hMinus, hNonneg⟩
  rw [hRead] at hPlus hMinus
  refine ⟨by decide, hRead, hPlus, hMinus, ?_⟩
  intro n h
  have hZero := ((hNonneg n).1 h).1
  rw [hRead] at hZero
  exact absurd (Except.ok.inj hZero) (by decide)

end Period

end NotebookGrading
