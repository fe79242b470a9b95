import NotebookGrading.Proofs.Policy.LateScaling

/-
  Which late policies are accepted, and what the others are
  blamed for.

  Each step is compared with the one in front of it only.
  As long as the steps were in order, that one has the
  longest period and the least fraction of all steps so far,
  so the policies that pass are those in which every step is
  in order with all steps before it. A policy that does not
  pass is blamed for the first step that is not.

  Key definitions include:
    * `LatePolicy.IsWellFormed`
    * `LatePolicy.IsFirstOffender`
    * `LatePolicy.Blame`
    * `LatePolicy.Bound.Summarizes`

  Main statements:
    * `LatePolicy.isWellFormed_concat_iff`
    * `LatePolicy.Bound.Summarizes.admits_of_check`
    * `LatePolicy.Bound.Summarizes.blame_of_check`
    * `LatePolicy.Bound.Summarizes.validateFrom`
    * `LatePolicy.validate_outcome`
-/

namespace NotebookGrading

------------------------------------------------------------
-- Periods In Order
------------------------------------------------------------

namespace LateStep

/-
  The period of a step is a number of milliseconds that is
  not negative.
-/
def HasPeriod
    (step : LateStep)
    (period : Int) : Prop :=
  Period.ofText step.period = .ok period ∧ 0 ≤ period

def IsShorterThan
    (step other : LateStep) : Prop :=
  ∃ period otherPeriod,
    step.HasPeriod period ∧
      other.HasPeriod otherPeriod ∧
      period < otherPeriod

variable {step : LateStep}
variable {period otherPeriod : Int}

theorem HasPeriod.unique
    (h : step.HasPeriod period)
    (hOther : step.HasPeriod otherPeriod) :
    period = otherPeriod := by
  have hSame := h.1
  rw [hOther.1] at hSame
  exact (Except.ok.inj hSame).symm

theorem isShorterThan_iff
    {other : LateStep}
    (h : step.HasPeriod period)
    (hOther : other.HasPeriod otherPeriod) :
    step.IsShorterThan other ↔ period < otherPeriod := by
  constructor
  · rintro ⟨_, _, hStep, hLater, hLt⟩
    rw [h.unique hStep, hOther.unique hLater]
    exact hLt
  · intro hLt
    exact ⟨period, otherPeriod, h, hOther, hLt⟩

theorem milliseconds_eq_ok_iff :
    step.milliseconds = .ok period ↔
      step.HasPeriod period := by
  unfold milliseconds Period.nonNegativeOfText HasPeriod
  cases Period.ofText step.period with
  | error cause => simp
  | ok n =>
      by_cases hNegative : n < 0
      · simp only [hNegative, if_true]
        constructor
        · intro h
          cases h
        · rintro ⟨hEq, hNot⟩
          rw [← Except.ok.inj hEq] at hNot
          omega
      · simp only [hNegative, if_false]
        constructor
        · intro h
          rw [← Except.ok.inj h]
          exact ⟨rfl, by omega⟩
        · rintro ⟨hEq, -⟩
          rw [Except.ok.inj hEq]

theorem milliseconds_eq_error
    {error : SettingsError}
    (h : step.milliseconds = .error error) :
    ∃ cause,
      Period.nonNegativeOfText step.period =
          .error cause ∧
        error = .invalidPeriod step.period cause := by
  unfold milliseconds at h
  cases hPeriod : Period.nonNegativeOfText step.period with
  | ok n => simp [hPeriod] at h
  | error cause =>
      simp only [hPeriod, Except.error.injEq] at h
      exact ⟨cause, rfl, h.symm⟩

end LateStep

------------------------------------------------------------
-- Well-Formed Policies
------------------------------------------------------------

namespace LatePolicy

/-
  The periods of a policy are above zero and grow strictly,
  and its fractions lie between zero and one and shrink
  strictly.
-/
structure IsWellFormed
    (policy : LatePolicy) : Prop where
  positive :
    ∀ step ∈ policy,
      ∃ period, step.HasPeriod period ∧ 0 < period
  increasing : policy.Pairwise LateStep.IsShorterThan
  fractions :
    ∀ step ∈ policy, 0 < step.scaling ∧ step.scaling < 1
  decreasing :
    policy.Pairwise
      (fun step later => later.scaling < step.scaling)

/- All periods of a policy end before that of a step. -/
def EndsBefore
    (policy : LatePolicy)
    (step : LateStep) : Prop :=
  (∃ period, step.HasPeriod period ∧ 0 < period) ∧
    ∀ earlier ∈ policy, earlier.IsShorterThan step

/- All steps of a policy keep more than a step. -/
def KeepsMoreThan
    (policy : LatePolicy)
    (step : LateStep) : Prop :=
  ∀ earlier ∈ policy, step.scaling < earlier.scaling

/- A step may follow the steps of a policy. -/
structure Admits
    (policy : LatePolicy)
    (step : LateStep) : Prop where
  endsBefore : policy.EndsBefore step
  fraction : 0 < step.scaling ∧ step.scaling < 1
  keepsMore : policy.KeepsMoreThan step

theorem isWellFormed_nil :
    IsWellFormed [] :=
  ⟨by simp, .nil, by simp, .nil⟩

variable {front policy : LatePolicy}
variable {step : LateStep}

/- A policy grows by the steps that it admits. -/
theorem isWellFormed_concat_iff :
    IsWellFormed (front ++ [step]) ↔
      front.IsWellFormed ∧ front.Admits step := by
  constructor
  · rintro ⟨hPositive, hIncreasing, hFractions, hDecreasing⟩
    simp only [List.forall_mem_append,
      List.forall_mem_singleton] at hPositive hFractions
    simp only [List.pairwise_append, List.mem_singleton,
      forall_eq] at hIncreasing hDecreasing
    exact
      ⟨⟨hPositive.1, hIncreasing.1, hFractions.1,
          hDecreasing.1⟩,
        ⟨hPositive.2, hIncreasing.2.2⟩, hFractions.2,
        hDecreasing.2.2⟩
  · rintro ⟨hFront, hEnds, hFraction, hKeeps⟩
    constructor
    · simpa only [List.forall_mem_append,
        List.forall_mem_singleton] using
          ⟨hFront.positive, hEnds.1⟩
    · simpa only [List.pairwise_append, List.mem_singleton,
        forall_eq] using
          ⟨hFront.increasing, List.pairwise_singleton _ _,
            hEnds.2⟩
    · simpa only [List.forall_mem_append,
        List.forall_mem_singleton] using
          ⟨hFront.fractions, hFraction⟩
    · simpa only [List.pairwise_append, List.mem_singleton,
        forall_eq] using
          ⟨hFront.decreasing, List.pairwise_singleton _ _,
            hKeeps⟩

/- The first steps of a well-formed policy are so too. -/
theorem IsWellFormed.of_isPrefix
    (h : policy.IsWellFormed)
    (hPrefix : front <+: policy) :
    front.IsWellFormed where
  positive := fun step hMem =>
    h.positive step (hPrefix.subset hMem)
  increasing := h.increasing.sublist hPrefix.sublist
  fractions := fun step hMem =>
    h.fractions step (hPrefix.subset hMem)
  decreasing := h.decreasing.sublist hPrefix.sublist

------------------------------------------------------------
-- Blame
------------------------------------------------------------

/-
  A step with which a policy ceases to be well-formed, and
  the steps in front of it.
-/
structure IsFirstOffender
    (policy front : LatePolicy)
    (step : LateStep) : Prop where
  isPrefix : front ++ [step] <+: policy
  before :
    ∀ shorter, shorter <+: front → IsWellFormed shorter
  fails : ¬ IsWellFormed (front ++ [step])

/- How the period in front of a step is spelled. -/
def lastPeriod
    (front : LatePolicy) : String :=
  (front.getLast?.map LateStep.period).getD "P0D"

/-
  What a step behind others is blamed for. Its period comes
  first, then the order of the periods, then its fraction,
  and the order of the fractions last.
-/
inductive Blame
    (front : LatePolicy)
    (step : LateStep) : SettingsError → Prop
  | invalidPeriod
      {cause : PeriodError}
      (hPeriod :
        Period.nonNegativeOfText step.period =
          .error cause) :
      Blame front step (.invalidPeriod step.period cause)
  | periodsNotIncreasing
      {period : Int}
      (hPeriod : step.HasPeriod period)
      (hEnds : ¬ front.EndsBefore step) :
      Blame front step
        (.periodsNotIncreasing step.period front.lastPeriod)
  | scalingOutOfRange
      (hEnds : front.EndsBefore step)
      (hFraction : ¬ (0 < step.scaling ∧ step.scaling < 1)) :
      Blame front step (.scalingOutOfRange step.scaling)
  | scalingNotDecreasing
      {last : LateStep}
      (hEnds : front.EndsBefore step)
      (hFraction : 0 < step.scaling ∧ step.scaling < 1)
      (hLast : front.getLast? = some last)
      (hKeeps : ¬ front.KeepsMoreThan step) :
      Blame front step
        (.scalingNotDecreasing step.scaling last.scaling)

/- Only a step that is not admitted is blamed. -/
theorem Blame.not_admits
    {error : SettingsError}
    (h : Blame front step error) :
    ¬ front.Admits step := by
  intro hAdmits
  cases h with
  | invalidPeriod hPeriod =>
      rcases hAdmits.endsBefore.1 with ⟨period, hHas, -⟩
      have hOk := LateStep.milliseconds_eq_ok_iff.2 hHas
      simp [LateStep.milliseconds, hPeriod] at hOk
  | periodsNotIncreasing hPeriod hEnds =>
      exact hEnds hAdmits.endsBefore
  | scalingOutOfRange hEnds hFraction =>
      exact hFraction hAdmits.fraction
  | scalingNotDecreasing hEnds hFraction hLast hKeeps =>
      exact hKeeps hAdmits.keepsMore

------------------------------------------------------------
-- What A Bound Says About The Steps Before It
------------------------------------------------------------

/-
  A bound stands for some steps: beyond its period and
  below its fraction is beyond and below all of them, and
  it is made from the last.
-/
structure Bound.Summarizes
    (bound : Bound)
    (front : LatePolicy) : Prop where
  isNumber : Double.IsNumber bound.scaling
  label_eq : bound.label = front.lastPeriod
  scaling_eq :
    ∀ last ∈ front.getLast?, last.scaling = bound.scaling
  longer_iff :
    ∀ step period,
      step.HasPeriod period →
        (bound.period < period ↔ front.EndsBefore step)
  smaller_iff :
    ∀ step : LateStep,
      step.scaling < 1 →
        (step.scaling < bound.scaling ↔
          front.KeepsMoreThan step)

namespace Bound.Summarizes

/- In front of the first step there is nothing to exceed. -/
theorem first :
    Bound.first.Summarizes [] where
  isNumber := ⟨_, rfl⟩
  label_eq := rfl
  scaling_eq := by simp
  longer_iff := by
    intro step period hPeriod
    constructor
    · intro hPositive
      exact ⟨⟨period, hPeriod, hPositive⟩, by simp⟩
    · rintro ⟨⟨other, hOther, hPositive⟩, -⟩
      rw [hPeriod.unique hOther]
      exact hPositive
  smaller_iff := by
    intro step hBelow
    exact ⟨fun _ => by simp [KeepsMoreThan], fun _ => hBelow⟩

variable {bound : Bound}
variable {period : Int}

/- A step that is admitted takes the place of the last. -/
theorem concat
    (h : bound.Summarizes front)
    (hPeriod : step.HasPeriod period)
    (hLonger : bound.period < period)
    (hBelow : step.scaling < 1)
    (hSmaller : step.scaling < bound.scaling) :
    Bound.Summarizes ⟨period, step.period, step.scaling⟩
      (front ++ [step]) where
  isNumber := Double.isNumber_of_lt hBelow
  label_eq := by simp [lastPeriod]
  scaling_eq := by simp
  longer_iff := by
    intro later laterPeriod hLater
    have hBound := h.longer_iff later laterPeriod hLater
    have hStep := LateStep.isShorterThan_iff hPeriod hLater
    constructor
    · intro hLt
      have hFront := hBound.1 (hLonger.trans hLt)
      refine ⟨hFront.1, ?_⟩
      simpa only [List.forall_mem_append,
        List.forall_mem_singleton] using
          ⟨hFront.2, hStep.2 hLt⟩
    · rintro ⟨-, hAll⟩
      exact hStep.1 (hAll step (by simp))
  smaller_iff := by
    intro later hLater
    have hBound := h.smaller_iff later hLater
    constructor
    · intro hLt
      have hFront :=
        hBound.1 (Double.lt_trans hLt hSmaller)
      simpa only [KeepsMoreThan, List.forall_mem_append,
        List.forall_mem_singleton] using ⟨hFront, hLt⟩
    · intro hAll
      exact hAll step (by simp)

/- A step passes exactly when the steps before admit it. -/
theorem admits_of_check
    {next : Bound}
    (h : bound.Summarizes front)
    (hCheck : bound.check step = .ok next) :
    front.Admits step ∧ next.Summarizes (front ++ [step]) := by
  rcases (check_eq_ok_iff h.isNumber).1 hCheck with
    ⟨period, hMilliseconds, hLonger, hFraction, hSmaller,
      rfl⟩
  have hPeriod :=
    LateStep.milliseconds_eq_ok_iff.1 hMilliseconds
  refine
    ⟨⟨(h.longer_iff step period hPeriod).1 hLonger,
        hFraction,
        (h.smaller_iff step hFraction.2).1 hSmaller⟩,
      h.concat hPeriod hLonger hFraction.2 hSmaller⟩

/- A step that does not pass is blamed for its first fault. -/
theorem blame_of_check
    {error : SettingsError}
    (h : bound.Summarizes front)
    (hCheck : bound.check step = .error error) :
    Blame front step error := by
  unfold Bound.check at hCheck
  cases hMilliseconds : step.milliseconds with
  | error cause =>
      simp only [hMilliseconds, Except.error.injEq] at hCheck
      rcases LateStep.milliseconds_eq_error hMilliseconds
        with ⟨cause, hPeriod, hError⟩
      rw [← hCheck, hError]
      exact .invalidPeriod hPeriod
  | ok period =>
      have hPeriod :=
        LateStep.milliseconds_eq_ok_iff.1 hMilliseconds
      have hLonger := h.longer_iff step period hPeriod
      simp only [hMilliseconds] at hCheck
      split at hCheck
      · rename_i hShort
        rw [← Except.error.inj hCheck, h.label_eq]
        apply Blame.periodsNotIncreasing hPeriod
        rw [← hLonger]
        omega
      · rename_i hLong
        have hEnds := hLonger.1 (Int.not_le.1 hLong)
        split at hCheck
        · rename_i hNot
          rw [← Except.error.inj hCheck]
          apply Blame.scalingOutOfRange hEnds
          rw [← LateStep.isFraction_iff]
          simpa using hNot
        · rename_i hIs
          have hFraction :
              0 < step.scaling ∧ step.scaling < 1 :=
            LateStep.isFraction_iff.1 (by simpa using hIs)
          split at hCheck
          · rename_i hLarge
            have hKeeps : ¬ front.KeepsMoreThan step := by
              rw [← h.smaller_iff step hFraction.2]
              exact Double.not_lt_of_le hLarge
            cases hLast : front.getLast? with
            | none =>
                have hNil := List.getLast?_eq_none_iff.1 hLast
                rw [hNil] at hKeeps
                exact absurd (by simp [KeepsMoreThan]) hKeeps
            | some last =>
                rw [← Except.error.inj hCheck,
                  ← h.scaling_eq last hLast]
                exact
                  .scalingNotDecreasing hEnds hFraction hLast
                    hKeeps
          · cases hCheck

/-
  Behind steps in order, the check of the others ends with
  a well-formed policy or with its first offender.
-/
theorem validateFrom
    (h : bound.Summarizes front)
    (hFront : front.IsWellFormed)
    (rest : LatePolicy) :
    LatePolicy.validateFrom bound rest = .ok () ∧
        IsWellFormed (front ++ rest) ∨
      ∃ error before step,
        LatePolicy.validateFrom bound rest = .error error ∧
          IsFirstOffender (front ++ rest) before step ∧
          Blame before step error := by
  induction rest generalizing bound front with
  | nil => exact .inl ⟨rfl, by simpa using hFront⟩
  | cons step rest ih =>
      unfold LatePolicy.validateFrom
      cases hCheck : bound.check step with
      | ok next =>
          -- The steps in order take in one more.
          rcases h.admits_of_check hCheck with
            ⟨hAdmits, hNext⟩
          have hMore :=
            isWellFormed_concat_iff.2 ⟨hFront, hAdmits⟩
          have hRest := ih hNext hMore
          rw [List.append_assoc] at hRest
          exact hRest
      | error error =>
          have hBlame := h.blame_of_check hCheck
          right
          refine ⟨error, front, step, rfl, ⟨?_, ?_, ?_⟩, hBlame⟩
          · exact ⟨rest, by simp⟩
          · intro shorter hShorter
            exact hFront.of_isPrefix hShorter
          · rw [isWellFormed_concat_iff]
            exact fun hBoth => hBlame.not_admits hBoth.2

end Bound.Summarizes

/-
  A late policy is accepted exactly if it is well-formed:
  all its periods are read, are above zero and grow
  strictly, and all its fractions lie between zero and one
  and shrink strictly. Otherwise the first step with which
  it ceases to be well-formed is blamed.
-/
theorem validate_outcome
    (policy : LatePolicy) :
    (policy.validate = .ok () ↔ policy.IsWellFormed) ∧
      ∀ error,
        policy.validate = .error error →
          ∃ front step,
            policy.IsFirstOffender front step ∧
              Blame front step error := by
  have hRun :=
    Bound.Summarizes.first.validateFrom isWellFormed_nil
      policy
  rw [List.nil_append] at hRun
  rcases hRun with
    ⟨hOk, hWellFormed⟩ |
      ⟨error, front, step, hError, hOffender, hBlame⟩
  · refine ⟨⟨fun _ => hWellFormed, fun _ => hOk⟩, ?_⟩
    intro error hError
    rw [validate, hOk] at hError
    cases hError
  · constructor
    · constructor
      · intro hOk
        rw [validate, hError] at hOk
        cases hOk
      · intro hWellFormed
        exact
          absurd
            (hWellFormed.of_isPrefix hOffender.isPrefix)
            hOffender.fails
    · intro other hOther
      rw [validate, hError] at hOther
      rw [← Except.error.inj hOther]
      exact ⟨front, step, hOffender, hBlame⟩

end LatePolicy

end NotebookGrading
