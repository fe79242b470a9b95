import NotebookGrading.Policy.Late
import NotebookGrading.Proofs.Double.Order

/-
  What valid late policies keep of a score.

  The steps of a valid policy form a chain of ever longer
  periods and ever smaller fractions. The last step whose
  period is over therefore has the longest period and the
  least fraction of all steps whose periods are over, and
  what is kept falls in steps as time goes by.

  Key definitions include:
    * `LateStep.IsOver`
    * `LatePolicy.Chain`
    * `LatePolicy.IsDeciding`
    * `LatePolicy.IsEarly`
    * `LatePolicy.IsStepFunction`

  Main statements:
    * `LatePolicy.validate_eq_ok_iff`
    * `LatePolicy.Chain.scalingFrom`
    * `LatePolicy.scaling_of_validate`
-/

namespace NotebookGrading

------------------------------------------------------------
-- Periods That Are Over
------------------------------------------------------------

namespace LateStep

/- The period of a step has passed since the deadline. -/
def IsOver
    (elapsed : Int)
    (step : LateStep) : Prop :=
  ∃ period,
    step.milliseconds = .ok period ∧
      period * LatePolicy.nanosPerMillisecond ≤ elapsed

/- The period of a step is at most that of another. -/
def NoLongerThan
    (step other : LateStep) : Prop :=
  ∃ period otherPeriod,
    step.milliseconds = .ok period ∧
      other.milliseconds = .ok otherPeriod ∧
      period ≤ otherPeriod

variable {step : LateStep}
variable {elapsed period : Int}

theorem isOver_iff
    (hPeriod : step.milliseconds = .ok period) :
    step.IsOver elapsed ↔
      period * LatePolicy.nanosPerMillisecond ≤ elapsed := by
  constructor
  · rintro ⟨other, hOther, hLe⟩
    rw [hPeriod] at hOther
    rw [Except.ok.inj hOther]
    exact hLe
  · intro hLe
    exact ⟨period, hPeriod, hLe⟩

/- What is over stays over. -/
theorem IsOver.mono
    {later : Int}
    (h : step.IsOver elapsed)
    (hLater : elapsed ≤ later) :
    step.IsOver later := by
  rcases h with ⟨period, hPeriod, hLe⟩
  exact ⟨period, hPeriod, hLe.trans hLater⟩

theorem isFraction_iff
    {x : Float} :
    isFraction x = true ↔ 0 < x ∧ x < 1 := by
  simp [isFraction]

end LateStep

------------------------------------------------------------
-- Chains Of Steps
------------------------------------------------------------

namespace LatePolicy

/-
  The steps that may follow a bound: each has a longer
  period and a smaller fraction than the one before.
-/
inductive Chain : Bound → LatePolicy → Prop
  | nil (bound : Bound) : Chain bound []
  | cons
      {bound : Bound}
      {step : LateStep}
      {period : Int}
      {rest : LatePolicy}
      (hPeriod : step.milliseconds = .ok period)
      (hLonger : bound.period < period)
      (hFraction : 0 < step.scaling ∧ step.scaling < 1)
      (hSmaller : step.scaling < bound.scaling)
      (hRest :
        Chain ⟨period, step.period, step.scaling⟩ rest) :
      Chain bound (step :: rest)

/- A step passes if it continues the chain. -/
theorem check_eq_ok_iff
    {bound next : Bound}
    {step : LateStep}
    (hBound : Double.IsNumber bound.scaling) :
    bound.check step = .ok next ↔
      ∃ period,
        step.milliseconds = .ok period ∧
        bound.period < period ∧
        (0 < step.scaling ∧ step.scaling < 1) ∧
        step.scaling < bound.scaling ∧
        ⟨period, step.period, step.scaling⟩ = next := by
  unfold Bound.check
  cases hPeriod : step.milliseconds with
  | error e => simp
  | ok period =>
      by_cases hLonger : bound.period < period
      · have hNotLe := Int.not_le.2 hLonger
        by_cases hFraction :
            0 < step.scaling ∧ step.scaling < 1
        · have hIs := LateStep.isFraction_iff.2 hFraction
          by_cases hSmaller : bound.scaling ≤ step.scaling
          · have hNot := Double.not_lt_of_le hSmaller
            simp [hNotLe, hIs, hSmaller, hNot]
          · have hNumber :=
              Double.isNumber_of_lt hFraction.2
            have hLess :=
              hBound.lt_of_not_le hNumber hSmaller
            simp [hLonger, hNotLe, hIs, hSmaller, hLess,
              hFraction]
        · have hNot :
              LateStep.isFraction step.scaling = false := by
            rw [← Bool.not_eq_true, LateStep.isFraction_iff]
            exact hFraction
          simp [hNotLe, hNot, hFraction]
      · simp [Int.not_lt.1 hLonger, hLonger]

/- The validator accepts exactly the chains. -/
theorem validateFrom_eq_ok_iff
    {bound : Bound}
    {policy : LatePolicy}
    (hBound : Double.IsNumber bound.scaling) :
    validateFrom bound policy = .ok () ↔
      Chain bound policy := by
  induction policy generalizing bound with
  | nil => exact ⟨fun _ => .nil bound, fun _ => rfl⟩
  | cons step rest ih =>
      constructor
      · intro h
        unfold validateFrom at h
        cases hCheck : bound.check step with
        | error e => simp [hCheck] at h
        | ok next =>
            rw [hCheck] at h
            rcases (check_eq_ok_iff hBound).1 hCheck with
              ⟨period, hPeriod, hLonger, hFraction,
                hSmaller, rfl⟩
            have hNumber :=
              Double.isNumber_of_lt hFraction.2
            have hIff :=
              @ih ⟨period, step.period, step.scaling⟩ hNumber
            exact
              .cons hPeriod hLonger hFraction hSmaller
                (hIff.1 h)
      · intro h
        cases h with
        | cons hPeriod hLonger hFraction hSmaller hRest =>
            rename_i period
            have hCheck :=
              (check_eq_ok_iff hBound).2
                ⟨period, hPeriod, hLonger, hFraction,
                  hSmaller, rfl⟩
            have hNumber :=
              Double.isNumber_of_lt hFraction.2
            have hIff :=
              @ih ⟨period, step.period, step.scaling⟩ hNumber
            unfold validateFrom
            rw [hCheck]
            exact hIff.2 hRest

theorem validate_eq_ok_iff
    {policy : LatePolicy} :
    policy.validate = .ok () ↔ Chain Bound.first policy :=
  validateFrom_eq_ok_iff ⟨_, rfl⟩

variable {bound : Bound}
variable {policy : LatePolicy}
variable {step : LateStep}

/- Every step of a chain lies beyond its bound. -/
theorem Chain.of_mem
    (h : Chain bound policy)
    (hMem : step ∈ policy) :
    ∃ period,
      step.milliseconds = .ok period ∧
        bound.period < period ∧
        (0 < step.scaling ∧ step.scaling < 1) ∧
        step.scaling < bound.scaling := by
  induction h with
  | nil bound => cases hMem
  | cons hPeriod hLonger hFraction hSmaller hRest ih =>
      rcases List.mem_cons.1 hMem with rfl | hLater
      · exact ⟨_, hPeriod, hLonger, hFraction, hSmaller⟩
      · rcases ih hLater with
          ⟨later, hLaterPeriod, hLaterLonger, hLaterFraction,
            hLaterSmaller⟩
        exact
          ⟨later, hLaterPeriod, hLonger.trans hLaterLonger,
            hLaterFraction,
            Double.lt_trans hLaterSmaller hSmaller⟩

/- While a bound is not over, no step behind it is. -/
theorem Chain.not_isOver
    {elapsed : Int}
    (h : Chain bound policy)
    (hBound : elapsed < bound.period * nanosPerMillisecond)
    (hMem : step ∈ policy) :
    ¬ step.IsOver elapsed := by
  rcases h.of_mem hMem with ⟨period, hPeriod, hLonger, -⟩
  rw [LateStep.isOver_iff hPeriod]
  unfold nanosPerMillisecond at hBound ⊢
  omega

------------------------------------------------------------
-- The Deciding Step
------------------------------------------------------------

/-
  Of all steps whose periods are over, a step with the
  longest period, which also has the least fraction.
-/
structure IsDeciding
    (policy : LatePolicy)
    (elapsed : Int)
    (step : LateStep) : Prop where
  mem : step ∈ policy
  isOver : step.IsOver elapsed
  longest :
    ∀ other ∈ policy,
      other.IsOver elapsed → other.NoLongerThan step
  least :
    ∀ other ∈ policy,
      other.IsOver elapsed → step.scaling ≤ other.scaling

variable {elapsed period : Int}
variable {rest : LatePolicy}

/- A step that is over decides if none behind it is. -/
theorem isDeciding_head
    (hPeriod : step.milliseconds = .ok period)
    (hOver : step.IsOver elapsed)
    (hNumber : Double.IsNumber step.scaling)
    (hRest : ∀ other ∈ rest, ¬ other.IsOver elapsed) :
    IsDeciding (step :: rest) elapsed step where
  mem := List.mem_cons_self
  isOver := hOver
  longest := by
    intro other hMem hOther
    rcases List.mem_cons.1 hMem with rfl | hLater
    · exact ⟨period, period, hPeriod, hPeriod, le_rfl⟩
    · exact absurd hOther (hRest other hLater)
  least := by
    intro other hMem hOther
    rcases List.mem_cons.1 hMem with rfl | hLater
    · exact hNumber.le_refl
    · exact absurd hOther (hRest other hLater)

/- What decides among later steps decides among all. -/
theorem IsDeciding.cons
    {decider : LateStep}
    (h : IsDeciding rest elapsed decider)
    (hPeriod : step.milliseconds = .ok period)
    (hRest :
      Chain ⟨period, step.period, step.scaling⟩ rest) :
    IsDeciding (step :: rest) elapsed decider where
  mem := List.mem_cons_of_mem step h.mem
  isOver := h.isOver
  longest := by
    rcases hRest.of_mem h.mem with
      ⟨later, hLater, hLonger, -, -⟩
    intro other hMem hOther
    rcases List.mem_cons.1 hMem with rfl | hMem
    · exact ⟨period, later, hPeriod, hLater, hLonger.le⟩
    · exact h.longest other hMem hOther
  least := by
    rcases hRest.of_mem h.mem with ⟨later, -, -, -, hSmaller⟩
    intro other hMem hOther
    rcases List.mem_cons.1 hMem with rfl | hMem
    · exact Double.le_of_lt hSmaller
    · exact h.least other hMem hOther

/-
  The steps of a chain are looked at up to the first whose
  period is not over; the last one before it decides.
-/
theorem Chain.scalingFrom
    (h : Chain bound policy)
    (elapsed : Int)
    (current : Float) :
    ((∀ step ∈ policy, ¬ step.IsOver elapsed) ∧
        LatePolicy.scalingFrom elapsed current policy =
          .ok current) ∨
      ∃ step,
        policy.IsDeciding elapsed step ∧
          LatePolicy.scalingFrom elapsed current policy =
            .ok step.scaling := by
  induction h generalizing current with
  | nil bound => exact .inl ⟨by simp, rfl⟩
  | cons hPeriod hLonger hFraction hSmaller hRest ih =>
      rename_i step period rest
      unfold LatePolicy.scalingFrom
      simp only [hPeriod]
      by_cases hOver :
          period * nanosPerMillisecond ≤ elapsed
      · have hIsOver := (LateStep.isOver_iff hPeriod).2 hOver
        right
        simp only [if_pos hOver]
        rcases ih step.scaling with
          ⟨hNone, hKept⟩ | ⟨decider, hDecides, hKept⟩
        · have hNumber := Double.isNumber_of_lt hFraction.2
          exact
            ⟨step,
              isDeciding_head hPeriod hIsOver hNumber hNone,
              hKept⟩
        · exact
            ⟨decider, hDecides.cons hPeriod hRest, hKept⟩
      · left
        refine ⟨?_, if_neg hOver⟩
        intro other hMem
        rcases List.mem_cons.1 hMem with rfl | hLater
        · rw [LateStep.isOver_iff hPeriod]
          exact hOver
        · exact hRest.not_isOver (Int.not_le.1 hOver) hLater

------------------------------------------------------------
-- Scaling As A Step Function
------------------------------------------------------------

/-
  In time, or late by less than the first period of a
  policy.
-/
def IsEarly
    (policy : LatePolicy)
    (elapsed : Int) : Prop :=
  elapsed ≤ 0 ∨
    ∀ first ∈ policy.head?, ¬ first.IsOver elapsed

/- What a student keeps, by the time since the deadline. -/
def studentScaling
    (policy : LatePolicy)
    (elapsed : Int) : Except SettingsError Float :=
  if elapsed ≤ 0 then
    .ok 1
  else
    LatePolicy.scalingFrom elapsed 1 policy

theorem scaling_student
    (policy : LatePolicy)
    (due submitted : Instant) :
    policy.scaling due submitted .student =
      policy.studentScaling
        (submitted.elapsedSince due) := by
  unfold scaling studentScaling
  cases policy with
  | nil => simp [Role.isStaff, LatePolicy.scalingFrom]
  | cons step rest => rfl

/- Early is when no period of a valid policy is over. -/
theorem Chain.isEarly_iff
    (h : Chain Bound.first policy) :
    policy.IsEarly elapsed ↔
      ∀ step ∈ policy, ¬ step.IsOver elapsed := by
  constructor
  · rintro (hInTime | hFirst) step hMem
    · rcases h.of_mem hMem with ⟨period, hPeriod, hLonger, -⟩
      rw [LateStep.isOver_iff hPeriod]
      have hPositive : 0 < period := hLonger
      unfold nanosPerMillisecond
      omega
    · cases h with
      | nil bound => cases hMem
      | cons hPeriod hLonger hFraction hSmaller hRest =>
          have hNot := hFirst _ rfl
          rcases List.mem_cons.1 hMem with rfl | hLater
          · exact hNot
          · rw [LateStep.isOver_iff hPeriod] at hNot
            exact
              hRest.not_isOver (Int.not_le.1 hNot) hLater
  · intro hNone
    right
    intro first hFirst
    exact hNone first (List.mem_of_mem_head? hFirst)

/- Early all is kept, and later what the decider says. -/
theorem Chain.studentScaling
    (h : Chain Bound.first policy)
    (elapsed : Int) :
    (policy.IsEarly elapsed ∧
        policy.studentScaling elapsed = .ok 1) ∨
      ¬ policy.IsEarly elapsed ∧
        ∃ step,
          policy.IsDeciding elapsed step ∧
            policy.studentScaling elapsed =
              .ok step.scaling := by
  by_cases hInTime : elapsed ≤ 0
  · exact .inl ⟨.inl hInTime, if_pos hInTime⟩
  · unfold LatePolicy.studentScaling
    rw [if_neg hInTime, h.isEarly_iff]
    rcases h.scalingFrom elapsed 1 with
      hNone | ⟨step, hDecides, hKept⟩
    · exact .inl hNone
    · right
      refine ⟨?_, step, hDecides, hKept⟩
      intro hNone
      exact hNone step hDecides.mem hDecides.isOver

/-
  A function that is one early and that later follows the
  deciding steps of a policy.
-/
structure IsStepFunction
    (policy : LatePolicy)
    (kept : Int → Float) : Prop where
  early :
    ∀ elapsed, policy.IsEarly elapsed → kept elapsed = 1
  late :
    ∀ elapsed, ¬ policy.IsEarly elapsed →
      ∃ step,
        policy.IsDeciding elapsed step ∧
          kept elapsed = step.scaling

theorem Chain.exists_isStepFunction
    (h : Chain Bound.first policy) :
    ∃ kept,
      policy.IsStepFunction kept ∧
        ∀ elapsed,
          policy.studentScaling elapsed =
            .ok (kept elapsed) := by
  have hKept :
      ∀ elapsed, ∃ kept,
        policy.studentScaling elapsed = .ok kept := by
    intro elapsed
    rcases h.studentScaling elapsed with
      ⟨-, hAll⟩ | ⟨-, step, -, hPart⟩
    · exact ⟨1, hAll⟩
    · exact ⟨step.scaling, hPart⟩
  choose kept hKept using hKept
  refine ⟨kept, ⟨?_, ?_⟩, hKept⟩
  · intro elapsed hIs
    rcases h.studentScaling elapsed with
      ⟨-, hAll⟩ | ⟨hNot, -⟩
    · rw [hKept] at hAll
      exact Except.ok.inj hAll
    · exact absurd hIs hNot
  · intro elapsed hNot
    rcases h.studentScaling elapsed with
      ⟨hIs, -⟩ | ⟨-, step, hDecides, hPart⟩
    · exact absurd hIs hNot
    · rw [hKept] at hPart
      exact ⟨step, hDecides, Except.ok.inj hPart⟩

variable {kept : Int → Float}

theorem IsStepFunction.bounds
    (h : policy.IsStepFunction kept)
    (hChain : Chain Bound.first policy)
    (elapsed : Int) :
    0 < kept elapsed ∧ kept elapsed ≤ 1 := by
  by_cases hIs : policy.IsEarly elapsed
  · rw [h.early elapsed hIs]
    decide
  · rcases h.late elapsed hIs with ⟨step, hDecides, hEq⟩
    rcases hChain.of_mem hDecides.mem with
      ⟨period, -, -, hFraction, -⟩
    rw [hEq]
    exact ⟨hFraction.1, Double.le_of_lt hFraction.2⟩

/- A step that is over stays so, and more may follow. -/
theorem IsStepFunction.antitone
    (h : policy.IsStepFunction kept)
    (hChain : Chain Bound.first policy)
    {elapsed later : Int}
    (hLater : elapsed ≤ later) :
    kept later ≤ kept elapsed := by
  by_cases hIs : policy.IsEarly elapsed
  · rw [h.early elapsed hIs]
    exact (h.bounds hChain later).2
  · rcases h.late elapsed hIs with ⟨step, hDecides, hEq⟩
    have hOver := hDecides.isOver.mono hLater
    have hNot : ¬ policy.IsEarly later := by
      rw [hChain.isEarly_iff]
      intro hNone
      exact hNone step hDecides.mem hOver
    rcases h.late later hNot with
      ⟨laterStep, hLaterDecides, hLaterEq⟩
    rw [hEq, hLaterEq]
    exact hLaterDecides.least step hDecides.mem hOver

/-
  What a student keeps of a score under a valid policy is a
  function of the time since the deadline alone. It is all
  of the score in time and during the first period, and
  otherwise the fraction of the step with the longest
  period that is over, which is the least fraction of all
  steps whose periods are over. It is above zero and at
  most one, and never grows with the delay.
-/
theorem scaling_of_validate
    (hValid : policy.validate = .ok ()) :
    ∃ kept : Int → Float,
      (∀ due submitted : Instant,
        policy.scaling due submitted .student =
          .ok (kept (submitted.elapsedSince due))) ∧
      (∀ elapsed,
        policy.IsEarly elapsed → kept elapsed = 1) ∧
      (∀ elapsed,
        ¬ policy.IsEarly elapsed →
          ∃ step,
            policy.IsDeciding elapsed step ∧
              kept elapsed = step.scaling) ∧
      (∀ elapsed, 0 < kept elapsed ∧ kept elapsed ≤ 1) ∧
      ∀ elapsed later,
        elapsed ≤ later → kept later ≤ kept elapsed := by
  have hChain := validate_eq_ok_iff.1 hValid
  rcases hChain.exists_isStepFunction with
    ⟨kept, hSteps, hKept⟩
  refine ⟨kept, ?_, hSteps.early, hSteps.late, ?_, ?_⟩
  · intro due submitted
    rw [scaling_student, hKept]
  · exact hSteps.bounds hChain
  · intro elapsed later hLater
    exact hSteps.antitone hChain hLater

/-
  Half of a score is kept from one day after the deadline
  on, and a quarter from one week on.
-/
theorem scaling_of_validate_two_steps :
    let policy : LatePolicy :=
      [⟨"P1D", 0.5⟩, ⟨"P1W", 0.25⟩]
    policy.validate = .ok () ∧
      ∃ soon late : Float,
        policy.scaling ⟨0, 0, 0⟩ ⟨2, 0, 0⟩ .student =
          .ok soon ∧
        policy.scaling ⟨0, 0, 0⟩ ⟨9, 0, 0⟩ .student =
          .ok late ∧
        late ≤ soon := by
  intro policy
  have hValid : policy.validate = .ok () := by
    decide +kernel
  rcases scaling_of_validate hValid with
    ⟨kept, hScaling, -, -, -, hFalls⟩
  exact
    ⟨hValid, _, _, hScaling ⟨0, 0, 0⟩ ⟨2, 0, 0⟩,
      hScaling ⟨0, 0, 0⟩ ⟨9, 0, 0⟩,
      hFalls _ _ (by decide)⟩

end LatePolicy

end NotebookGrading
