import NotebookGrading.Proofs.Double.ExactValues
import NotebookGrading.Proofs.Time.WrittenPeriods

/-
  What is read from the text of a period.

  A text that spells no period is malformed. Any other text
  gives the whole number of milliseconds that is nearest to
  the sum of its components, or is out of range. The numbers
  in range fit 64 bits and have an opposite there, so the
  steps by which a number becomes a length of time change
  none and refuse none.

  Key definitions include:
    * `WrittenPeriod.IsIn`
    * `Period.IsCount`

  Main statements:
    * `WrittenPeriod.isIn_iff`
    * `Period.ofMilliseconds?_ofIntClamp`
    * `Period.rounded?_eq_some_iff`
    * `Period.not_exists_isCount_iff`
    * `Period.ofText_outcome`
-/

namespace NotebookGrading

------------------------------------------------------------
-- Periods Between Blanks
------------------------------------------------------------

namespace WrittenPeriod

/- A text consists of a period and blanks around it. -/
def IsIn
    (period : WrittenPeriod)
    (text : String) : Prop :=
  ∃ before cs after,
    text.toList = before ++ cs ++ after ∧
      Text.AllBlank before ∧ Text.AllBlank after ∧
      Spells period cs

/- A period begins with its sign or with the letter P. -/
theorem Spells.exists_first
    {period : WrittenPeriod}
    {cs : List Char}
    (h : Spells period cs) :
    ∃ first rest,
      cs = first :: rest ∧ Text.isBlank first = false := by
  have hSigned :
      ∀ negative sign body, SpellsSign negative sign →
        ∃ first rest,
          sign ++ 'P' :: body = first :: rest ∧
            Text.isBlank first = false := by
    intro negative sign body hSign
    cases hSign with
    | none => exact ⟨'P', body, rfl, by decide⟩
    | plus => exact ⟨'+', 'P' :: body, rfl, by decide⟩
    | minus => exact ⟨'-', 'P' :: body, rfl, by decide⟩
  cases h with
  | date hSign hDate hSome => exact hSigned _ _ _ hSign
  | time hSign hDate hTime hSome =>
      exact hSigned _ _ _ hSign

/- Components end with the letter of the last unit. -/
theorem exists_chars_eq
    {components : List PeriodComponent}
    (hSome : components ≠ []) :
    ∃ start, ∃ unit : PeriodUnit,
      chars components = start ++ [unit.letter] := by
  rcases List.eq_nil_or_concat' components with
    hNil | ⟨init, last, rfl⟩
  · exact absurd hNil hSome
  · refine
      ⟨chars init ++ last.number, last.unit, ?_⟩
    simp [chars, PeriodComponent.chars]

/- So does a period. -/
theorem Spells.exists_last
    {period : WrittenPeriod}
    {cs : List Char}
    (h : Spells period cs) :
    ∃ start, ∃ unit : PeriodUnit,
      cs = start ++ [unit.letter] := by
  cases h with
  | date hSign hDate hSome =>
      rcases exists_chars_eq hSome with ⟨start, unit, hEq⟩
      exact ⟨_, unit, by rw [hEq, ← List.cons_append,
        ← List.append_assoc]⟩
  | time hSign hDate hTime hSome =>
      rcases exists_chars_eq hSome with ⟨start, unit, hEq⟩
      exact ⟨_, unit, by rw [hEq, ← List.cons_append,
        ← List.append_assoc, ← List.cons_append,
        ← List.append_assoc]⟩

theorem isBlank_letter
    (unit : PeriodUnit) :
    Text.isBlank unit.letter = false := by
  cases unit <;> decide

/- The period in a text is what is left by trimming. -/
theorem isIn_iff
    {period : WrittenPeriod}
    {text : String} :
    period.IsIn text ↔
      Spells period (Text.trimChars text.toList) := by
  constructor
  · rintro ⟨before, cs, after, hText, hBefore, hAfter,
      hSpells⟩
    rcases hSpells.exists_first with
      ⟨first, rest, hStart, hFirst⟩
    rcases hSpells.exists_last with ⟨start, unit, hEnd⟩
    rw [hText,
      Text.trimChars_append hBefore hFirst hStart
        (isBlank_letter unit) hEnd hAfter]
    exact hSpells
  · intro hSpells
    rcases Text.exists_trimChars text.toList with
      ⟨before, after, hBefore, hAfter, hText⟩
    exact
      ⟨before, _, after, hText, hBefore, hAfter, hSpells⟩

/- No text holds two periods. -/
theorem IsIn.unique
    {period other : WrittenPeriod}
    {text : String}
    (h : period.IsIn text)
    (hOther : other.IsIn text) :
    period = other :=
  (isIn_iff.1 h).unique (isIn_iff.1 hOther)

end WrittenPeriod

------------------------------------------------------------
-- Numbers Of Milliseconds
------------------------------------------------------------

namespace Period

/-
  A double stands for a whole number of milliseconds: it is
  finite, and the nearest whole number is in range.
-/
structure IsCount
    (milliseconds : Float)
    (n : Int) : Prop where
  isFinite : milliseconds.isFinite = true
  isRounded :
    Double.IsRounded (Double.exactValue milliseconds) n
  inRange : |n| < 2 ^ 63

variable {milliseconds : Float}
variable {n : Int}

theorem IsCount.unique
    {m : Int}
    (h : IsCount milliseconds m)
    (hOther : IsCount milliseconds n) :
    m = n :=
  h.isRounded.unique hOther.isRounded

theorem natAbs_lt_limit_iff :
    n.natAbs < limit ↔ |n| < 2 ^ 63 := by
  have hLimit : (limit : Int) = 2 ^ 63 := rfl
  rw [← hLimit, ← Int.natCast_natAbs]
  exact Int.ofNat_lt.symm

/- A number in range is one of 64 bits as it stands. -/
theorem toInt_ofIntClamp
    (h : |n| < 2 ^ 63) :
    (Int64.ofIntClamp n).toInt = n := by
  rcases abs_lt.1 h with ⟨hLow, hHigh⟩
  have hMin : Int64.minValue.toInt = -2 ^ 63 := by decide
  have hMax : Int64.maxValue.toInt = 2 ^ 63 - 1 := by decide
  unfold Int64.ofIntClamp
  rw [dif_pos (by omega), dif_pos (by omega)]
  exact Int64.toInt_ofIntLE

/- No number in range is refused as a length of time. -/
theorem ofMilliseconds?_ofIntClamp
    (h : |n| < 2 ^ 63) :
    ofMilliseconds? (Int64.ofIntClamp n) = some n := by
  have hCount := toInt_ofIntClamp h
  have hLeast : (-Int64.maxValue).toInt = -(2 ^ 63 - 1) := by
    decide
  have hNot :
      ¬ Int64.ofIntClamp n < -Int64.maxValue := by
    rw [Int64.lt_iff_toInt_lt, hCount, hLeast]
    have hLow := (abs_lt.1 h).1
    omega
  rw [ofMilliseconds?, if_neg hNot, hCount]

theorem rounded?_eq_some_iff :
    rounded? milliseconds = some n ↔
      IsCount milliseconds n := by
  unfold rounded?
  constructor
  · intro h
    split at h
    · rename_i hFinite
      simp only at h
      split at h
      · rename_i hLimit
        have hRange := natAbs_lt_limit_iff.1 hLimit
        rw [ofMilliseconds?_ofIntClamp hRange] at h
        rcases Option.some.inj h with rfl
        exact
          ⟨hFinite, (Double.isRounded_iff hFinite).2 rfl,
            hRange⟩
      · cases h
    · cases h
  · intro h
    have hRounded :=
      (Double.isRounded_iff h.isFinite).1 h.isRounded
    rw [if_pos h.isFinite]
    simp only [hRounded]
    rw [if_pos (natAbs_lt_limit_iff.2 h.inRange)]
    exact ofMilliseconds?_ofIntClamp h.inRange

theorem rounded?_eq_none_iff :
    rounded? milliseconds = none ↔
      ¬ ∃ n, IsCount milliseconds n := by
  rw [Option.eq_none_iff_forall_not_mem, not_exists]
  exact
    forall_congr' (fun _ => not_congr rounded?_eq_some_iff)

/-
  A double stands for no number of milliseconds if it is not
  finite or the nearest whole number is too far from zero.
-/
theorem not_exists_isCount_iff :
    (¬ ∃ n, IsCount milliseconds n) ↔
      milliseconds.isFinite = false ∨
        ∃ n,
          Double.IsRounded
              (Double.exactValue milliseconds) n ∧
            2 ^ 63 ≤ |n| := by
  constructor
  · intro hNone
    cases hFinite : milliseconds.isFinite with
    | false => exact .inl rfl
    | true =>
        have hRounded := (Double.isRounded_iff hFinite).2 rfl
        refine .inr ⟨_, hRounded, ?_⟩
        by_contra hNear
        exact
          hNone ⟨_, hFinite, hRounded, not_le.1 hNear⟩
  · rintro (hInfinite | ⟨m, hRounded, hFar⟩) ⟨n, hCount⟩
    · rw [hCount.isFinite] at hInfinite
      cases hInfinite
    · rw [hRounded.unique hCount.isRounded] at hFar
      exact absurd hCount.inRange (not_lt.2 hFar)

------------------------------------------------------------
-- Outcomes
------------------------------------------------------------

variable {text : String}
variable {period : WrittenPeriod}

theorem ofText_of_not_isIn
    (h : ¬ ∃ period : WrittenPeriod, period.IsIn text) :
    ofText text = .error (.malformed text) := by
  have hNone :
      WrittenPeriod.ofChars?
        (Text.trimChars text.toList) = none := by
    rw [Option.eq_none_iff_forall_not_mem]
    intro period hMem
    apply h
    exact
      ⟨period,
        WrittenPeriod.isIn_iff.2
          (WrittenPeriod.ofChars?_eq_some_iff.1 hMem)⟩
  rw [ofText, hNone]

theorem ofText_of_isIn
    (h : period.IsIn text) :
    ofText text =
      match rounded? period.milliseconds with
      | none => .error (.outOfRange text)
      | some n => .ok n := by
  have hSome :
      WrittenPeriod.ofChars?
        (Text.trimChars text.toList) = some period :=
    WrittenPeriod.ofChars?_eq_some_iff.2
      (WrittenPeriod.isIn_iff.1 h)
  cases hRounded : rounded? period.milliseconds <;>
    simp only [ofText, hSome, hRounded]

theorem ofText_eq_ok_iff
    (h : period.IsIn text) :
    ofText text = .ok n ↔
      IsCount period.milliseconds n := by
  rw [ofText_of_isIn h, ← rounded?_eq_some_iff]
  cases rounded? period.milliseconds <;> simp

theorem ofText_eq_outOfRange_iff
    (h : period.IsIn text)
    {input : String} :
    ofText text = .error (.outOfRange input) ↔
      input = text ∧
        ¬ ∃ n, IsCount period.milliseconds n := by
  rw [ofText_of_isIn h, ← rounded?_eq_none_iff]
  cases rounded? period.milliseconds <;>
    simp [eq_comm]

theorem ofText_eq_malformed_iff
    {input : String} :
    ofText text = .error (.malformed input) ↔
      input = text ∧
        ¬ ∃ period : WrittenPeriod, period.IsIn text := by
  by_cases hIn : ∃ period : WrittenPeriod, period.IsIn text
  · rcases hIn with ⟨period, hIn⟩
    have hSome :
        ∃ period : WrittenPeriod, period.IsIn text :=
      ⟨period, hIn⟩
    rw [ofText_of_isIn hIn]
    cases rounded? period.milliseconds <;> simp [hSome]
  · rw [ofText_of_not_isIn hIn]
    simp [hIn, eq_comm]

theorem nonNegativeOfText_eq_ok_iff :
    nonNegativeOfText text = .ok n ↔
      ofText text = .ok n ∧ 0 ≤ n := by
  unfold nonNegativeOfText
  cases hText : ofText text with
  | error e => simp
  | ok m =>
      by_cases hNegative : m < 0
      · simp only [hNegative, if_true]
        constructor
        · intro h
          cases h
        · rintro ⟨h, hNonneg⟩
          rw [← Except.ok.inj h] at hNonneg
          omega
      · simp only [hNegative, if_false]
        constructor
        · intro h
          rw [← Except.ok.inj h]
          exact ⟨rfl, by omega⟩
        · exact fun h => h.1

/-
  A text is malformed exactly if it does not consist of a
  period and blanks around it. A text with a period gives
  the whole number of milliseconds nearest to its sum, or is
  out of range if that sum is not finite or the number has a
  magnitude of 2 ^ 63 or more. No number in range is changed
  when it becomes one of 64 bits, or refused as a length of
  time. And where a period must not be negative, only that
  is checked besides.
-/
theorem ofText_outcome
    (text : String) :
    (∀ input,
      ofText text = .error (.malformed input) ↔
        input = text ∧
          ¬ ∃ period : WrittenPeriod, period.IsIn text) ∧
    (∀ period : WrittenPeriod, period.IsIn text →
      (∀ n, ofText text = .ok n ↔
        IsCount period.milliseconds n) ∧
      (∀ n, IsCount period.milliseconds n →
        (Int64.ofIntClamp n).toInt = n ∧
          ofMilliseconds? (Int64.ofIntClamp n) = some n) ∧
      (∀ input, ofText text = .error (.outOfRange input) ↔
        input = text ∧
          (period.milliseconds.isFinite = false ∨
            ∃ n,
              Double.IsRounded
                  (Double.exactValue period.milliseconds)
                  n ∧
                2 ^ 63 ≤ |n|))) ∧
    (∀ n, nonNegativeOfText text = .ok n ↔
      ofText text = .ok n ∧ 0 ≤ n) := by
  refine ⟨fun _ => ofText_eq_malformed_iff, ?_,
    fun _ => nonNegativeOfText_eq_ok_iff⟩
  intro period hIn
  refine ⟨fun _ => ofText_eq_ok_iff hIn, ?_, ?_⟩
  · intro n hCount
    exact
      ⟨toInt_ofIntClamp hCount.inRange,
        ofMilliseconds?_ofIntClamp hCount.inRange⟩
  · intro input
    rw [← not_exists_isCount_iff]
    exact ofText_eq_outOfRange_iff hIn

theorem isIn_of_ofChars?
    (h :
      WrittenPeriod.ofChars? (Text.trimChars text.toList) =
        some period) :
    period.IsIn text :=
  WrittenPeriod.isIn_iff.2
    (WrittenPeriod.ofChars?_eq_some_iff.1 h)

/-
  A negative period with a fraction and blanks around it,
  and the shortest period of whole years that is too long.
-/
theorem ofText_outcome_signed :
    ofText " -P1DT1,5H\n" = .ok (-91800000) ∧
      ofText "P292471209Y" =
        .error (.outOfRange "P292471209Y") := by
  have hSigned :
      WrittenPeriod.IsIn
        ⟨true, [⟨.day, ['1']⟩, ⟨.hour, ['1', ',', '5']⟩]⟩
        " -P1DT1,5H\n" :=
    isIn_of_ofChars? (by decide +kernel)
  have hLong :
      WrittenPeriod.IsIn
        ⟨false, [⟨.year, "292471209".toList⟩]⟩
        "P292471209Y" :=
    isIn_of_ofChars? (by decide +kernel)
  constructor
  · apply
      (((ofText_outcome _).2.1 _ hSigned).1 _).2
    exact rounded?_eq_some_iff.1 (by decide +kernel)
  · apply
      (((ofText_outcome _).2.1 _ hLong).2.2 _).2
    have hNone :
        rounded?
            (WrittenPeriod.milliseconds
              ⟨false, [⟨.year, "292471209".toList⟩]⟩) =
          none := by
      decide +kernel
    exact
      ⟨rfl,
        not_exists_isCount_iff.1
          (rounded?_eq_none_iff.1 hNone)⟩

end Period

end NotebookGrading
