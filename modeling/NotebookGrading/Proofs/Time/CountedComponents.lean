import NotebookGrading.Proofs.Double.Decimals
import NotebookGrading.Proofs.Time.SignedPeriods

/-
  The components that a period counts.

  A component may be written with the digits of any script,
  but only a number of ASCII digits is read as a double. The
  sum of a period has one summand for each component of such
  a number, its amount times the length of its unit. The
  other components of an accepted text are left out.

  Key definitions include:
    * `PeriodComponent.isPlain`
    * `PeriodComponent.inSeconds`
    * `WrittenPeriod.summands`
    * `WrittenPeriod.lengths`
    * `WrittenPeriod.inMilliseconds`

  Main statements:
    * `PeriodComponent.value?_eq`
    * `WrittenPeriod.summands_eq`
    * `Period.ofText_summands`
-/

namespace NotebookGrading

------------------------------------------------------------
-- The Values Of Components
------------------------------------------------------------

namespace PeriodComponent

open WrittenPeriod (SpellsNumber IsDigits)

/- The digits in front of the mark. -/
def whole
    (component : PeriodComponent) : List Char :=
  (WrittenPeriod.takeDigits component.number).1

/- The digits behind the mark, if there is one. -/
def places
    (component : PeriodComponent) : List Char :=
  (WrittenPeriod.takeDigits component.number).2.drop 1

/- All digits of the number are ASCII digits. -/
def isPlain
    (component : PeriodComponent) : Bool :=
  (component.whole ++ component.places).all
    Text.isAsciiDigit

/- The double nearest to the number that is written. -/
def amount
    (component : PeriodComponent) : Float :=
  Double.ofDecimal
    (Text.decimalDigitsValue
      (component.whole ++ component.places))
    (-(component.places.length : Int))

/- The length of a component, whatever its digits are. -/
def inSeconds
    (component : PeriodComponent) : Float :=
  component.amount * component.unit.seconds

variable {component : PeriodComponent}
variable {whole places : List Char}

theorem parts_eq
    (h : SpellsNumber whole places component.number) :
    component.whole = whole ∧
      component.places = places := by
  unfold PeriodComponent.whole PeriodComponent.places
  generalize component.number = number at h
  cases h with
  | whole hDigits =>
      have hRow :=
        WrittenPeriod.takeDigits_append hDigits.all
          WrittenPeriod.endsDigits_nil
      rw [List.append_nil] at hRow
      rw [hRow]
      exact ⟨rfl, rfl⟩
  | fraction hDigits hMark hPlaces =>
      rw [WrittenPeriod.takeDigits_append hDigits.all]
      · exact ⟨rfl, rfl⟩
      · rintro c ⟨⟩
        exact WrittenPeriod.isDecimalDigit_mark hMark

theorem map_pointForComma
    {digits : List Char}
    (h : IsDigits digits) :
    digits.map pointForComma = digits := by
  have hEach : ∀ c ∈ digits, pointForComma c = id c :=
    fun c hMem =>
      pointForComma_of_isDecimalDigit (h.all c hMem)
  rw [List.map_congr_left hEach, List.map_id]

/- A number is read as a decimal with a point. -/
theorem map_pointForComma_number
    {number : List Char}
    (h : SpellsNumber whole places number) :
    number.map pointForComma =
      Double.decimalChars whole places := by
  cases h with
  | whole hDigits => exact map_pointForComma hDigits
  | fraction hDigits hMark hPlaces =>
      rename_i mark
      have hPoint : pointForComma mark = '.' := by
        rcases hMark with rfl | rfl <;> rfl
      rw [List.map_append, List.map_cons,
        map_pointForComma hDigits, map_pointForComma hPlaces,
        hPoint, Double.decimalChars, hPlaces.isEmpty]
      rfl

/- It has neither a sign nor the form of a word. -/
theorem value?_eq_unsigned?
    (h : SpellsNumber whole places component.number) :
    component.value? =
      Double.unsigned?
        (Double.decimalChars whole places) := by
  have hWord :
      Double.word?
        (Double.decimalChars whole places) = none := by
    rw [← map_pointForComma_number h]
    rcases h.exists_first with
      ⟨first, rest, hNumber, hDigit⟩
    rw [hNumber, List.map_cons,
      pointForComma_of_isDecimalDigit hDigit]
    exact Double.word?_of_isDecimalDigit hDigit _
  rw [value?, Double.ofChars?]
  simp only [takeSign_number h]
  rw [map_pointForComma_number h, hWord]
  simp

theorem value?_eq
    (h : SpellsNumber whole places component.number) :
    component.value? =
      if component.isPlain then
        some component.amount
      else
        none := by
  rcases parts_eq h with ⟨hWhole, hPlaces⟩
  have hDigits :
      ∀ c ∈ whole ++ places,
        Text.isDecimalDigit c = true := by
    rw [List.forall_mem_append]
    exact ⟨h.isDigits_whole.all, h.isDecimalDigit_places⟩
  rw [value?_eq_unsigned? h, isPlain, amount, hWhole, hPlaces]
  exact
    Double.unsigned?_decimalChars h.isDigits_whole.ne_nil
      hDigits

theorem seconds?_eq
    (h : SpellsNumber whole places component.number) :
    component.seconds? =
      if component.isPlain then
        some component.inSeconds
      else
        none := by
  rw [seconds?, value?_eq h]
  split <;> rfl

end PeriodComponent

------------------------------------------------------------
-- The Sums Of Periods
------------------------------------------------------------

namespace WrittenPeriod

/- The lengths that the sum of a period is made of. -/
def summands
    (period : WrittenPeriod) : List Float :=
  period.components.filterMap PeriodComponent.seconds?

/- The lengths of all components that are written. -/
def lengths
    (period : WrittenPeriod) : List Float :=
  period.components.map PeriodComponent.inSeconds

/- A sum of lengths in milliseconds, with a sign. -/
def inMilliseconds
    (negative : Bool)
    (lengths : List Float) : Float :=
  let sum := lengths.foldl (· + ·) (-0.0)
  (if negative then -sum else sum) * 1000

variable {period : WrittenPeriod}

theorem milliseconds_eq
    (period : WrittenPeriod) :
    period.milliseconds =
      inMilliseconds period.negative period.summands := by
  simp only [milliseconds, seconds, magnitude,
    inMilliseconds, summands]

/- Exactly the plain components are summands. -/
theorem summands_eq
    (h :
      ∀ component ∈ period.components, ∃ whole places,
        SpellsNumber whole places component.number) :
    period.summands =
      (period.components.filter
        PeriodComponent.isPlain).map
          PeriodComponent.inSeconds := by
  have hEach :
      ∀ component ∈ period.components,
        component.seconds? =
          if component.isPlain then
            some component.inSeconds
          else
            none := by
    intro component hMem
    rcases h component hMem with ⟨whole, places, hNumber⟩
    exact PeriodComponent.seconds?_eq hNumber
  rw [summands, List.filterMap_congr hEach,
    ← List.filterMap_eq_map, List.filterMap_filter]
  rfl

end WrittenPeriod

namespace Period

open WrittenPeriod (inMilliseconds)

theorem exists_isIn_of_ofText
    {text : String}
    {n : Int}
    (h : ofText text = .ok n) :
    ∃ period : WrittenPeriod,
      period.IsIn text ∧ IsCount period.milliseconds n := by
  by_cases hIn : ∃ period : WrittenPeriod, period.IsIn text
  · rcases hIn with ⟨period, hIn⟩
    exact ⟨period, hIn, (ofText_eq_ok_iff hIn).1 h⟩
  · rw [ofText_of_not_isIn hIn] at h
    cases h

/-
  An accepted text is rounded from the signed sum of its
  plain components, those whose digits are all ASCII digits.
  If all components are plain, each of them is counted. Any
  other component is left out.
-/
theorem ofText_summands
    {text : String}
    {n : Int}
    (h : ofText text = .ok n) :
    ∃ period : WrittenPeriod,
      period.IsIn text ∧
        period.summands =
          (period.components.filter
            PeriodComponent.isPlain).map
              PeriodComponent.inSeconds ∧
        IsCount
          (inMilliseconds period.negative period.summands)
          n ∧
        ((∀ component ∈ period.components,
            component.isPlain = true) →
          period.summands = period.lengths ∧
            IsCount
              (inMilliseconds period.negative
                period.lengths)
              n) ∧
        ((∃ component ∈ period.components,
            ¬ component.isPlain = true) →
          period.summands.length <
            period.components.length) := by
  rcases exists_isIn_of_ofText h with ⟨period, hIn, hCount⟩
  have hSummands :=
    WrittenPeriod.summands_eq
      (WrittenPeriod.isIn_iff.1 hIn).numbers
  rw [WrittenPeriod.milliseconds_eq] at hCount
  refine ⟨period, hIn, hSummands, hCount, ?_, ?_⟩
  · intro hPlain
    have hLengths : period.summands = period.lengths := by
      rw [hSummands, List.filter_eq_self.2 hPlain,
        WrittenPeriod.lengths]
    rw [← hLengths]
    exact ⟨rfl, hCount⟩
  · intro hOther
    rw [hSummands, List.length_map]
    exact List.length_filter_lt_length_iff_exists.2 hOther

/- A day, and one hour and a half. -/
theorem ofText_summands_fraction :
    ofText "P1DT1,5H" = .ok 91800000 ∧
      ∃ period : WrittenPeriod,
        period.IsIn "P1DT1,5H" ∧
          period.summands = period.lengths ∧
          IsCount
            (inMilliseconds period.negative period.lengths)
            91800000 := by
  have hRead : ofText "P1DT1,5H" = .ok 91800000 := by
    decide +kernel
  have hKnown :
      WrittenPeriod.IsIn
        ⟨false, [⟨.day, ['1']⟩, ⟨.hour, ['1', ',', '5']⟩]⟩
        "P1DT1,5H" :=
    isIn_of_ofChars? (by decide +kernel)
  rcases ofText_summands hRead with
    ⟨period, hIn, _, _, hPlain, _⟩
  rcases hIn.unique hKnown with rfl
  exact ⟨hRead, _, hIn, hPlain (by decide)⟩

/-
  A day and three hours, with the digit three of another
  script: the hours are left out, and a day remains.
-/
theorem ofText_summands_otherScript :
    ofText "P1DT\u0663H" = .ok 86400000 ∧
      ∃ period : WrittenPeriod,
        period.IsIn "P1DT\u0663H" ∧
          period.components.length = 2 ∧
          period.summands.length = 1 ∧
          IsCount
            (inMilliseconds period.negative period.lengths)
            97200000 ∧
          ¬ IsCount
            (inMilliseconds period.negative period.lengths)
            86400000 := by
  have hKnown :
      WrittenPeriod.IsIn
        ⟨false, [⟨.day, ['1']⟩, ⟨.hour, ['\u0663']⟩]⟩
        "P1DT\u0663H" :=
    isIn_of_ofChars? (by decide +kernel)
  have hWhole :
      IsCount
        (inMilliseconds false
          (WrittenPeriod.lengths
            ⟨false,
              [⟨.day, ['1']⟩, ⟨.hour, ['\u0663']⟩]⟩))
        97200000 :=
    rounded?_eq_some_iff.1 (by decide +kernel)
  refine
    ⟨by decide +kernel, _, hKnown, rfl, by decide, hWhole, ?_⟩
  intro hShort
  exact absurd (hWhole.unique hShort) (by decide)

end Period

end NotebookGrading
