import Mathlib.Data.List.TakeWhile
import NotebookGrading.Proofs.Text.Parts
import NotebookGrading.Time.Period

/-
  The notation of periods.

  A grammar says which characters spell which period: a
  sign, the letter P, components of the date, and after a
  letter T components of the time. The components stand in
  the order of their units, each unit at most once. There is
  one at least, and one at least after a T. The reader finds
  exactly the periods that the grammar spells.

  Key definitions include:
    * `WrittenPeriod.IsDigits`
    * `WrittenPeriod.SpellsNumber`
    * `WrittenPeriod.InOrder`
    * `WrittenPeriod.Spells`

  Main statements:
    * `WrittenPeriod.number?_append`
    * `WrittenPeriod.spellsNumber_of_number?`
    * `WrittenPeriod.takeComponents_append`
    * `WrittenPeriod.ofChars?_eq_some_iff`
-/

namespace NotebookGrading

namespace WrittenPeriod

------------------------------------------------------------
-- The Grammar
------------------------------------------------------------

/- One or more digits of any script. -/
structure IsDigits
    (cs : List Char) : Prop where
  ne_nil : cs ≠ []
  all : ∀ c ∈ cs, Text.isDecimalDigit c = true

/-
  A number, with the digits before and after its mark: a
  point or a comma, which needs digits on both sides.
-/
inductive SpellsNumber :
    List Char → List Char → List Char → Prop
  | whole
      {digits : List Char}
      (hDigits : IsDigits digits) :
      SpellsNumber digits [] digits
  | fraction
      {digits places : List Char}
      {mark : Char}
      (hDigits : IsDigits digits)
      (hMark : mark = '.' ∨ mark = ',')
      (hPlaces : IsDigits places) :
      SpellsNumber digits places (digits ++ mark :: places)

/- A sign: only a minus makes a period negative. -/
inductive SpellsSign : Bool → List Char → Prop
  | none : SpellsSign false []
  | plus : SpellsSign false ['+']
  | minus : SpellsSign true ['-']

end WrittenPeriod

/- The characters of a component. -/
def PeriodComponent.chars
    (component : PeriodComponent) : List Char :=
  component.number ++ [component.unit.letter]

namespace WrittenPeriod

/-
  Components of some units in the order of these units, each
  unit at most once, with numbers in front of their letters.
-/
structure InOrder
    (units : List PeriodUnit)
    (components : List PeriodComponent) : Prop where
  order :
    (components.map PeriodComponent.unit).Sublist units
  numbers :
    ∀ component ∈ components, ∃ whole places,
      SpellsNumber whole places component.number

/- The characters of some components. -/
def chars
    (components : List PeriodComponent) : List Char :=
  components.flatMap PeriodComponent.chars

/-
  The characters that spell a period, with or without a
  part for the time.
-/
inductive Spells : WrittenPeriod → List Char → Prop
  | date
      {negative : Bool}
      {sign : List Char}
      {date : List PeriodComponent}
      (hSign : SpellsSign negative sign)
      (hDate : InOrder PeriodUnit.dateUnits date)
      (hSome : date ≠ []) :
      Spells ⟨negative, date⟩ (sign ++ 'P' :: chars date)
  | time
      {negative : Bool}
      {sign : List Char}
      {date time : List PeriodComponent}
      (hSign : SpellsSign negative sign)
      (hDate : InOrder PeriodUnit.dateUnits date)
      (hTime : InOrder PeriodUnit.timeUnits time)
      (hSome : time ≠ []) :
      Spells ⟨negative, date ++ time⟩
        (sign ++ 'P' :: (chars date ++ 'T' :: chars time))

------------------------------------------------------------
-- Digits
------------------------------------------------------------

/- Characters at which a row of digits ends. -/
def EndsDigits
    (rest : List Char) : Prop :=
  ∀ c ∈ rest.head?, Text.isDecimalDigit c = false

theorem takeDigits_append
    {digits rest : List Char}
    (hDigits : ∀ c ∈ digits, Text.isDecimalDigit c = true)
    (hRest : EndsDigits rest) :
    takeDigits (digits ++ rest) = (digits, rest) :=
  Text.row_append hDigits hRest

theorem takeDigits_eq
    {cs digits rest : List Char}
    (h : takeDigits cs = (digits, rest)) :
    cs = digits ++ rest ∧
      ∀ c ∈ digits, Text.isDecimalDigit c = true :=
  Text.eq_row_append h

theorem isDigits_of_isEmpty_eq_false
    {digits : List Char}
    (hSome : digits.isEmpty = false)
    (hAll : ∀ c ∈ digits, Text.isDecimalDigit c = true) :
    IsDigits digits := by
  refine ⟨?_, hAll⟩
  rintro rfl
  cases hSome

theorem IsDigits.isEmpty
    {digits : List Char}
    (h : IsDigits digits) :
    digits.isEmpty = false := by
  rw [← Bool.not_eq_true, List.isEmpty_iff]
  exact h.ne_nil

------------------------------------------------------------
-- Numbers
------------------------------------------------------------

namespace SpellsNumber

variable {whole places number : List Char}

theorem isDigits_whole
    (h : SpellsNumber whole places number) :
    IsDigits whole := by
  cases h with
  | whole hDigits => exact hDigits
  | fraction hDigits hMark hPlaces => exact hDigits

theorem isDecimalDigit_places
    (h : SpellsNumber whole places number) :
    ∀ c ∈ places, Text.isDecimalDigit c = true := by
  cases h with
  | whole hDigits => simp
  | fraction hDigits hMark hPlaces => exact hPlaces.all

theorem exists_eq_append
    (h : SpellsNumber whole places number) :
    ∃ after, number = whole ++ after := by
  cases h with
  | whole hDigits => exact ⟨[], (List.append_nil _).symm⟩
  | fraction hDigits hMark hPlaces => exact ⟨_, rfl⟩

/- A number begins with a digit. -/
theorem exists_first
    (h : SpellsNumber whole places number) :
    ∃ first rest,
      number = first :: rest ∧
        Text.isDecimalDigit first = true := by
  rcases h.exists_eq_append with ⟨after, rfl⟩
  have hDigits := h.isDigits_whole
  cases whole with
  | nil => exact absurd rfl hDigits.ne_nil
  | cons first rest =>
      exact
        ⟨first, rest ++ after, rfl,
          hDigits.all first List.mem_cons_self⟩

end SpellsNumber

/- A character that is no part of a number. -/
structure EndsNumber
    (c : Char) : Prop where
  isDecimalDigit : Text.isDecimalDigit c = false
  ne_point : c ≠ '.'
  ne_comma : c ≠ ','

theorem endsNumber_letter
    (unit : PeriodUnit) :
    EndsNumber unit.letter := by
  cases unit <;> constructor <;> decide

theorem isDecimalDigit_mark
    {mark : Char}
    (h : mark = '.' ∨ mark = ',') :
    Text.isDecimalDigit mark = false := by
  rcases h with rfl | rfl <;> decide

/- A number is read up to a character behind it. -/
theorem number?_append
    {whole places number rest : List Char}
    {c : Char}
    (h : SpellsNumber whole places number)
    (hEnds : EndsNumber c) :
    number? (number ++ c :: rest) =
      some (number, c :: rest) := by
  have hRest : EndsDigits (c :: rest) := by
    rintro d ⟨⟩
    exact hEnds.isDecimalDigit
  cases h with
  | whole hDigits =>
      have hNone : takeFraction (c :: rest) =
          ([], c :: rest) := by
        simp [takeFraction, hEnds.ne_point, hEnds.ne_comma]
      simp [number?, takeDigits_append hDigits.all hRest,
        hDigits.isEmpty, hNone]
  | fraction hDigits hMark hPlaces =>
      rename_i mark
      have hMarked :
          EndsDigits (mark :: (places ++ c :: rest)) := by
        rintro d ⟨⟩
        exact isDecimalDigit_mark hMark
      have hFraction :
          takeFraction (mark :: (places ++ c :: rest)) =
            (mark :: places, c :: rest) := by
        simp [takeFraction, hMark, hPlaces.isEmpty,
          takeDigits_append hPlaces.all hRest]
      simp [number?, takeDigits_append hDigits.all hMarked,
        hDigits.isEmpty, hFraction]

/- What is read as a fraction is one, or nothing. -/
theorem takeFraction_eq
    {cs fraction rest : List Char}
    (h : takeFraction cs = (fraction, rest)) :
    cs = fraction ++ rest ∧
      (fraction = [] ∨
        ∃ mark places,
          fraction = mark :: places ∧
            (mark = '.' ∨ mark = ',') ∧
            IsDigits places) := by
  cases cs with
  | nil =>
      rcases Prod.mk.inj h with ⟨rfl, rfl⟩
      exact ⟨rfl, .inl rfl⟩
  | cons mark after =>
      cases hPlaces : takeDigits after with
      | mk places others =>
          rcases takeDigits_eq hPlaces with ⟨rfl, hAll⟩
          rw [takeFraction, hPlaces] at h
          by_cases hMarked :
              (mark = '.' ∨ mark = ',') ∧
                places.isEmpty = false
          · simp only at h
            rw [if_pos (by simpa using hMarked)] at h
            rcases Prod.mk.inj h with ⟨rfl, rfl⟩
            exact
              ⟨rfl, .inr ⟨mark, places, rfl, hMarked.1,
                isDigits_of_isEmpty_eq_false hMarked.2
                  hAll⟩⟩
          · simp only at h
            rw [if_neg (by simpa using hMarked)] at h
            rcases Prod.mk.inj h with ⟨rfl, rfl⟩
            exact ⟨rfl, .inl rfl⟩

/- What is read as a number is one. -/
theorem spellsNumber_of_number?
    {cs number rest : List Char}
    (h : number? cs = some (number, rest)) :
    cs = number ++ rest ∧
      ∃ whole places,
        SpellsNumber whole places number := by
  cases hWhole : takeDigits cs with
  | mk digits after =>
      cases hFraction : takeFraction after with
      | mk fraction others =>
          rcases takeDigits_eq hWhole with ⟨rfl, hAll⟩
          rcases takeFraction_eq hFraction with
            ⟨rfl, hCases⟩
          unfold number? at h
          simp only [hWhole, hFraction] at h
          cases hEmpty : digits.isEmpty with
          | true => simp [hEmpty] at h
          | false =>
              have hDigits :=
                isDigits_of_isEmpty_eq_false hEmpty hAll
              simp only [hEmpty, Bool.false_eq_true,
                if_false, Option.some.injEq,
                Prod.mk.injEq] at h
              rcases h with ⟨rfl, rfl⟩
              refine ⟨(List.append_assoc _ _ _).symm, ?_⟩
              rcases hCases with
                rfl | ⟨mark, places, rfl, hMark, hPlaces⟩
              · rw [List.append_nil]
                exact ⟨digits, [], .whole hDigits⟩
              · exact
                  ⟨digits, places,
                    .fraction hDigits hMark hPlaces⟩

------------------------------------------------------------
-- Components
------------------------------------------------------------

/-
  A component is read for its own unit and for one of the
  same letter, but for no other.
-/
theorem component?_chars_append
    {component : PeriodComponent}
    {whole places : List Char}
    (h : SpellsNumber whole places component.number)
    (unit : PeriodUnit)
    (rest : List Char) :
    component? unit (component.chars ++ rest) =
      if component.unit.letter = unit.letter then
        some (⟨unit, component.number⟩, rest)
      else
        none := by
  have hNumber :
      number?
          (component.number ++
            component.unit.letter :: rest) =
        some
          (component.number,
            component.unit.letter :: rest) :=
    number?_append h (endsNumber_letter component.unit)
  simp [component?, PeriodComponent.chars, hNumber]

theorem component?_eq_some
    {unit : PeriodUnit}
    {cs rest : List Char}
    {component : PeriodComponent}
    (h : component? unit cs = some (component, rest)) :
    cs = component.chars ++ rest ∧
      component.unit = unit ∧
      ∃ whole places,
        SpellsNumber whole places component.number := by
  unfold component? at h
  split at h
  · rename_i number c after hNumber
    split at h
    · rename_i hLetter
      rcases Prod.mk.inj (Option.some.inj h) with
        ⟨rfl, rfl⟩
      rcases spellsNumber_of_number? hNumber with
        ⟨hCs, hSpelled⟩
      refine ⟨?_, rfl, hSpelled⟩
      rw [hCs, hLetter, PeriodComponent.chars,
        List.append_assoc]
      rfl
    · cases h
  · cases h

/- No component begins where there is no digit. -/
theorem component?_of_endsDigits
    {rest : List Char}
    (h : EndsDigits rest)
    (unit : PeriodUnit) :
    component? unit rest = none := by
  have hDigits : takeDigits ([] ++ rest) = ([], rest) :=
    takeDigits_append (by simp) h
  rw [List.nil_append] at hDigits
  have hNumber : number? rest = none := by
    simp [number?, hDigits]
  simp [component?, hNumber]

/- What is read is in order, and what follows is left. -/
theorem takeComponents_eq
    {units : List PeriodUnit}
    {cs rest : List Char}
    {components : List PeriodComponent}
    (h : takeComponents units cs = (components, rest)) :
    cs = chars components ++ rest ∧
      InOrder units components := by
  induction units generalizing cs rest components with
  | nil =>
      rcases Prod.mk.inj h with ⟨rfl, rfl⟩
      exact ⟨rfl, List.Sublist.slnil, by simp⟩
  | cons unit units ih =>
      cases hFirst : component? unit cs with
      | none =>
          simp only [takeComponents, hFirst] at h
          rcases ih h with ⟨hCs, hOrder, hNumbers⟩
          exact ⟨hCs, hOrder.cons unit, hNumbers⟩
      | some found =>
          rcases found with ⟨first, after⟩
          rcases component?_eq_some hFirst with
            ⟨rfl, rfl, hNumber⟩
          cases hRest : takeComponents units after with
          | mk others left =>
              rcases ih hRest with ⟨rfl, hOrder, hNumbers⟩
              simp only [takeComponents, hFirst, hRest] at h
              rcases Prod.mk.inj h with ⟨rfl, rfl⟩
              refine ⟨by simp [chars], ?_, ?_⟩
              · exact hOrder.cons_cons first.unit
              · intro component hMem
                rcases List.mem_cons.1 hMem with rfl | hMem
                · exact hNumber
                · exact hNumbers component hMem

/-
  Components in order are read up to a character that is no
  digit, provided the letters of the units differ. The
  induction is over the units: a unit that does not occur is
  passed over, since the next component has another letter.
-/
theorem takeComponents_append
    {units : List PeriodUnit}
    {components : List PeriodComponent}
    {rest : List Char}
    (hLetters : (units.map PeriodUnit.letter).Nodup)
    (h : InOrder units components)
    (hRest : EndsDigits rest) :
    takeComponents units (chars components ++ rest) =
      (components, rest) := by
  induction units generalizing components with
  | nil =>
      have hNil : components = [] :=
        List.map_eq_nil_iff.1 (List.sublist_nil.1 h.order)
      rw [hNil]
      rfl
  | cons unit units ih =>
      rw [List.map_cons, List.nodup_cons] at hLetters
      cases components with
      | nil =>
          have hNone := component?_of_endsDigits hRest unit
          have hNil : InOrder units [] :=
            ⟨List.nil_sublist units, h.numbers⟩
          have hLater := ih hLetters.2 hNil
          simpa [takeComponents, chars, hNone] using hLater
      | cons first others =>
          rcases h.numbers first List.mem_cons_self with
            ⟨whole, places, hNumber⟩
          have hOthers :
              ∀ component ∈ others, ∃ whole places,
                SpellsNumber whole places
                  component.number :=
            fun component hMem =>
              h.numbers component
                (List.mem_cons_of_mem first hMem)
          have hSplit :
              chars (first :: others) ++ rest =
                first.chars ++ (chars others ++ rest) := by
            simp [chars]
          rw [hSplit, takeComponents,
            component?_chars_append hNumber]
          by_cases hUnit : first.unit = unit
          · subst hUnit
            have hOrder :
                (others.map PeriodComponent.unit).Sublist
                  units :=
              List.cons_sublist_cons.1 h.order
            simp only [if_true,
              ih hLetters.2 ⟨hOrder, hOthers⟩]
          · have hOrder :
                ((first :: others).map
                  PeriodComponent.unit).Sublist units := by
              rcases List.sublist_cons_iff.1 h.order with
                hSkipped | ⟨_, hTaken, _⟩
              · exact hSkipped
              · exact absurd (List.cons.inj hTaken).1 hUnit
            have hMem : first.unit ∈ units :=
              hOrder.subset List.mem_cons_self
            have hLetter :
                first.unit.letter ≠ unit.letter := by
              intro hSame
              apply hLetters.1
              rw [← hSame]
              exact List.mem_map_of_mem hMem
            rw [if_neg hLetter]
            simp only
            rw [← hSplit]
            exact ih hLetters.2 ⟨hOrder, h.numbers⟩

------------------------------------------------------------
-- Whole Periods
------------------------------------------------------------

theorem endsDigits_nil :
    EndsDigits [] := by
  rintro c ⟨⟩

theorem endsDigits_timeMark
    (rest : List Char) :
    EndsDigits ('T' :: rest) := by
  rintro c ⟨⟩
  decide

theorem takeComponents_date
    {date : List PeriodComponent}
    {rest : List Char}
    (h : InOrder PeriodUnit.dateUnits date)
    (hRest : EndsDigits rest) :
    takeComponents PeriodUnit.dateUnits
        (chars date ++ rest) =
      (date, rest) :=
  takeComponents_append (by decide) h hRest

theorem takeComponents_time
    {time : List PeriodComponent}
    (h : InOrder PeriodUnit.timeUnits time) :
    takeComponents PeriodUnit.timeUnits (chars time) =
      (time, []) := by
  rw [← List.append_nil (chars time)]
  exact takeComponents_append (by decide) h endsDigits_nil

/- A part for the date alone. -/
theorem components?_date
    {date : List PeriodComponent}
    (h : InOrder PeriodUnit.dateUnits date)
    (hSome : date ≠ []) :
    components? (chars date) = some date := by
  have hDate := takeComponents_date h endsDigits_nil
  rw [List.append_nil] at hDate
  simp [components?, hDate, hSome]

/- A part for the date, which may be empty, and the time. -/
theorem components?_time
    {date time : List PeriodComponent}
    (hDate : InOrder PeriodUnit.dateUnits date)
    (hTime : InOrder PeriodUnit.timeUnits time)
    (hSome : time ≠ []) :
    components? (chars date ++ 'T' :: chars time) =
      some (date ++ time) := by
  simp [components?,
    takeComponents_date hDate (endsDigits_timeMark _),
    takeComponents_time hTime, hSome]

theorem components?_eq_some
    {cs : List Char}
    {components : List PeriodComponent}
    (h : components? cs = some components) :
    (InOrder PeriodUnit.dateUnits components ∧
        components ≠ [] ∧ cs = chars components) ∨
      ∃ date time,
        InOrder PeriodUnit.dateUnits date ∧
          InOrder PeriodUnit.timeUnits time ∧
          time ≠ [] ∧
          components = date ++ time ∧
          cs = chars date ++ 'T' :: chars time := by
  cases hDate : takeComponents PeriodUnit.dateUnits cs with
  | mk date afterDate =>
      rcases takeComponents_eq hDate with ⟨rfl, hDateOrder⟩
      simp only [components?, hDate] at h
      split at h
      · split at h
        · cases h
        · rename_i hSome
          rcases Option.some.inj h with rfl
          refine .inl ⟨hDateOrder, ?_, List.append_nil _⟩
          simpa using hSome
      · rename_i rest
        cases hTime :
            takeComponents PeriodUnit.timeUnits rest with
        | mk time afterTime =>
            rcases takeComponents_eq hTime with
              ⟨rfl, hTimeOrder⟩
            simp only [hTime] at h
            split at h
            · cases h
            · rename_i hNot
              rcases Option.some.inj h with rfl
              have hFacts : time ≠ [] ∧ afterTime = [] := by
                simpa using hNot
              rw [hFacts.2, List.append_nil]
              exact
                .inr ⟨date, time, hDateOrder, hTimeOrder,
                  hFacts.1, rfl, rfl⟩
      · cases h

theorem takeSign_append
    {negative : Bool}
    {sign : List Char}
    (h : SpellsSign negative sign)
    (body : List Char) :
    Double.takeSign (sign ++ 'P' :: body) =
      (negative, 'P' :: body) := by
  cases h <;> rfl

theorem spellsSign_of_takeSign
    {cs unsigned : List Char}
    {negative : Bool}
    (h : Double.takeSign cs = (negative, unsigned)) :
    ∃ sign,
      SpellsSign negative sign ∧ cs = sign ++ unsigned := by
  unfold Double.takeSign at h
  split at h
  · rcases Prod.mk.inj h with ⟨rfl, rfl⟩
    exact ⟨['-'], .minus, rfl⟩
  · rcases Prod.mk.inj h with ⟨rfl, rfl⟩
    exact ⟨['+'], .plus, rfl⟩
  · rcases Prod.mk.inj h with ⟨rfl, rfl⟩
    exact ⟨[], .none, rfl⟩

/- The reader finds the period that the grammar spells. -/
theorem ofChars?_eq_some_iff
    {cs : List Char}
    {period : WrittenPeriod} :
    ofChars? cs = some period ↔ Spells period cs := by
  constructor
  · intro h
    unfold ofChars? at h
    split at h
    · rename_i negative rest hSign
      rcases spellsSign_of_takeSign hSign with
        ⟨sign, hSpelled, rfl⟩
      rcases Option.map_eq_some_iff.1 h with
        ⟨components, hComponents, rfl⟩
      rcases components?_eq_some hComponents with
        ⟨hDate, hSome, rfl⟩ |
        ⟨date, time, hDate, hTime, hSome, rfl, rfl⟩
      · exact .date hSpelled hDate hSome
      · exact .time hSpelled hDate hTime hSome
    · cases h
  · intro h
    unfold ofChars?
    cases h with
    | date hSign hDate hSome =>
        simp only [takeSign_append hSign]
        rw [components?_date hDate hSome]
        rfl
    | time hSign hDate hTime hSome =>
        simp only [takeSign_append hSign]
        rw [components?_time hDate hTime hSome]
        rfl

/- Every component of a period has a number. -/
theorem Spells.numbers
    {cs : List Char}
    {period : WrittenPeriod}
    (h : Spells period cs) :
    ∀ component ∈ period.components, ∃ whole places,
      SpellsNumber whole places component.number := by
  cases h with
  | date hSign hDate hSome => exact hDate.numbers
  | time hSign hDate hTime hSome =>
      exact
        List.forall_mem_append.2
          ⟨hDate.numbers, hTime.numbers⟩

/- No characters spell two periods. -/
theorem Spells.unique
    {cs : List Char}
    {period other : WrittenPeriod}
    (h : Spells period cs)
    (hOther : Spells other cs) :
    period = other := by
  have hRead := ofChars?_eq_some_iff.2 h
  rw [ofChars?_eq_some_iff.2 hOther] at hRead
  exact (Option.some.inj hRead).symm

end WrittenPeriod

end NotebookGrading
