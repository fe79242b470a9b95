import NotebookGrading.Policy.Submission
import NotebookGrading.Proofs.Double.Products
import NotebookGrading.Proofs.Policy.LateScaling

/-
  Recalculated scores after any history of policies.

  Under a valid policy every submission keeps a fraction
  above zero, so a recalculation that has started does not
  fail half way. A submission always has the score that its
  fraction gives, which is why skipping those whose fraction
  stays is right, and why only the last accepted settings
  count.

  Key definitions include:
    * `Submission.IsScaled`
    * `Submission.recalculateEach`

  Main statements:
    * `Settings.exists_scaling`
    * `Submission.rescaleAll_eq`
    * `Submission.recalculate_eq_ok`
    * `Submission.recalculated_after_history`
-/

namespace NotebookGrading

------------------------------------------------------------
-- Fractions Under Valid Policies
------------------------------------------------------------

/- A student keeps a fraction above zero. -/
theorem LatePolicy.Chain.exists_studentScaling
    {policy : LatePolicy}
    (h : Chain Bound.first policy)
    (elapsed : Int) :
    ∃ kept : Float,
      policy.studentScaling elapsed = .ok kept ∧
        0 < kept := by
  rcases h.studentScaling elapsed with
    ⟨-, hAll⟩ | ⟨-, step, hDecides, hPart⟩
  · exact ⟨1, hAll, by decide⟩
  · rcases h.of_mem hDecides.mem with
      ⟨period, -, -, hFraction, -⟩
    exact ⟨step.scaling, hPart, hFraction.1⟩

/-
  Under a valid policy every submission keeps a fraction
  above zero.
-/
theorem Settings.exists_scaling
    {settings : Settings}
    (hValid : settings.policy.validate = .ok ())
    (role : Role) :
    ∃ kept : Instant → Float,
      ∀ submitted,
        settings.scaling submitted role =
            .ok (kept submitted) ∧
          0 < kept submitted := by
  have hEach :
      ∀ submitted, ∃ kept : Float,
        settings.scaling submitted role = .ok kept ∧
          0 < kept := by
    intro submitted
    unfold Settings.scaling
    cases settings.deadline with
    | none => exact ⟨1, rfl, by decide⟩
    | some due =>
        cases role with
        | student =>
            have hChain :=
              LatePolicy.validate_eq_ok_iff.1 hValid
            simp only [LatePolicy.scaling_student]
            exact hChain.exists_studentScaling _
        | tutor => exact ⟨1, rfl, by decide⟩
        | instructor => exact ⟨1, rfl, by decide⟩
  choose kept hKept using hEach
  exact ⟨kept, hKept⟩

namespace Submission

------------------------------------------------------------
-- Scaled Submissions
------------------------------------------------------------

/- The score is the fraction that is kept of it. -/
def IsScaled
    (submission : Submission) : Prop :=
  submission.score =
    submission.scaling * submission.gradingScore

/- What was submitted and what it was worth. -/
def entry
    (submission : Submission) : Instant × Float :=
  (submission.date, submission.gradingScore)

/- The submission of an entry, before any recalculation. -/
def ofEntry
    (entry : Instant × Float) : Submission :=
  unscaled entry.1 entry.2

/- A submission that keeps a fraction of its score. -/
def keeping
    (submission : Submission)
    (kept : Float) : Submission :=
  { submission with
    scaling := kept
    score := kept * submission.gradingScore }

theorem isScaled_ofEntry
    (entry : Instant × Float) :
    (ofEntry entry).IsScaled :=
  (Double.one_mul entry.2).symm

theorem isScaled_keeping
    (submission : Submission)
    (kept : Float) :
    (submission.keeping kept).IsScaled :=
  rfl

/- Keeping the same fraction again changes nothing. -/
theorem IsScaled.keeping_scaling
    {submission : Submission}
    (h : submission.IsScaled) :
    submission.keeping submission.scaling = submission := by
  have hScore :
      submission.score =
        submission.scaling * submission.gradingScore :=
    h
  unfold keeping
  rw [← hScore]

/- What is kept depends on the entry of a submission only. -/
theorem map_keeping
    (kept : Instant → Float)
    (submissions : List Submission) :
    submissions.map (fun s => s.keeping (kept s.date)) =
      (submissions.map entry).map (fun e =>
        (ofEntry e).keeping (kept e.1)) := by
  rw [List.map_map]
  rfl

------------------------------------------------------------
-- Single Recalculations
------------------------------------------------------------

variable {settings : Settings}
variable {role : Role}
variable {kept : Instant → Float}
variable {submissions : List Submission}

/- Skipping an unchanged fraction makes no difference. -/
theorem IsScaled.rescale_eq
    {submission : Submission}
    (h : submission.IsScaled)
    (hKept :
      settings.scaling submission.date role =
          .ok (kept submission.date) ∧
        0 < kept submission.date) :
    submission.rescale settings role =
      .ok
        (submission.keeping (kept submission.date),
          decide
            (submission.scaling ≠
              kept submission.date)) := by
  unfold rescale
  rw [hKept.1]
  simp only
  by_cases hSame :
      kept submission.date = submission.scaling
  · rw [if_pos ((Double.beq_iff_eq hKept.2).2 hSame),
      hSame, h.keeping_scaling]
    simp
  · have hNe :
        ¬ (kept submission.date == submission.scaling) =
          true := by
      rw [Double.beq_iff_eq hKept.2]
      exact hSame
    rw [if_neg hNe, decide_eq_true (Ne.symm hSame)]
    rfl

/- A recalculation that has started reaches its end. -/
theorem rescaleAll_eq
    (hScaled : ∀ s ∈ submissions, s.IsScaled)
    (hKept :
      ∀ date,
        settings.scaling date role = .ok (kept date) ∧
          0 < kept date) :
    rescaleAll settings role submissions =
      (submissions.map (fun s => s.keeping (kept s.date)),
        .ok
          (submissions.countP (fun s =>
            s.scaling ≠ kept s.date))) := by
  induction submissions with
  | nil => rfl
  | cons submission rest ih =>
      rcases List.forall_mem_cons.1 hScaled with
        ⟨hFirst, hRest⟩
      have hRescale :=
        hFirst.rescale_eq (hKept submission.date)
      unfold rescaleAll
      rw [hRescale, ih hRest]
      simp only [List.map_cons, List.countP_cons]
      rfl

/-
  With a valid policy every submission is given its fraction
  and those whose fraction changes are counted.
-/
theorem recalculate_eq_ok
    (hScaled : ∀ s ∈ submissions, s.IsScaled)
    (hValid : settings.policy.validate = .ok ()) :
    ∃ kept : Instant → Float,
      (∀ date,
        settings.scaling date role = .ok (kept date)) ∧
      recalculate settings role submissions =
        (submissions.map (fun s => s.keeping (kept s.date)),
          .ok
            (submissions.countP (fun s =>
              s.scaling ≠ kept s.date))) := by
  rcases Settings.exists_scaling hValid role with
    ⟨kept, hKept⟩
  refine ⟨kept, fun date => (hKept date).1, ?_⟩
  unfold recalculate
  rw [hValid]
  exact rescaleAll_eq hScaled hKept

theorem recalculate_eq_error
    {e : SettingsError}
    (hInvalid : settings.policy.validate = .error e)
    (role : Role)
    (submissions : List Submission) :
    recalculate settings role submissions =
      (submissions, .error e) := by
  unfold recalculate
  rw [hInvalid]

------------------------------------------------------------
-- Histories Of Recalculations
------------------------------------------------------------

/- Recalculations one after the other. -/
def recalculateEach
    (calls : List (Settings × Role))
    (submissions : List Submission) : List Submission :=
  calls.foldl
    (fun current call =>
      (recalculate call.1 call.2 current).1)
    submissions

/-
  Submissions of given entries whose scores are the
  fractions that they keep.
-/
structure ScaledFrom
    (entries : List (Instant × Float))
    (submissions : List Submission) : Prop where
  isScaled : ∀ s ∈ submissions, s.IsScaled
  map_entry : submissions.map entry = entries

variable {entries : List (Instant × Float)}
variable {calls : List (Settings × Role)}

theorem scaledFrom_ofEntry
    (entries : List (Instant × Float)) :
    ScaledFrom entries (entries.map ofEntry) where
  isScaled := by
    intro s hMem
    rcases List.mem_map.1 hMem with ⟨e, -, rfl⟩
    exact isScaled_ofEntry e
  map_entry := by
    rw [List.map_map]
    exact List.map_id entries

theorem ScaledFrom.map_keeping
    (h : ScaledFrom entries submissions)
    (kept : Instant → Float) :
    ScaledFrom entries
      (submissions.map (fun s => s.keeping (kept s.date)))
    where
  isScaled := by
    intro s hMem
    rcases List.mem_map.1 hMem with ⟨old, -, rfl⟩
    exact isScaled_keeping old _
  map_entry := by
    rw [List.map_map]
    exact h.map_entry

/- One recalculation, whether it is accepted or not. -/
theorem scaledFrom_recalculate
    (h : ScaledFrom entries submissions)
    (settings : Settings)
    (role : Role) :
    ScaledFrom entries
      (recalculate settings role submissions).1 := by
  cases hValid : settings.policy.validate with
  | error e =>
      rw [recalculate_eq_error hValid]
      exact h
  | ok _ =>
      rcases recalculate_eq_ok h.isScaled hValid with
        ⟨kept, -, hOk⟩
      rw [hOk]
      exact h.map_keeping kept

theorem scaledFrom_recalculateEach
    (h : ScaledFrom entries submissions)
    (calls : List (Settings × Role)) :
    ScaledFrom entries
      (recalculateEach calls submissions) := by
  induction calls generalizing submissions with
  | nil => exact h
  | cons call rest ih =>
      exact ih (scaledFrom_recalculate h call.1 call.2)

/- Rejected recalculations leave no trace. -/
theorem recalculateEach_of_rejected
    (hRejected :
      ∀ call ∈ calls,
        call.1.policy.validate ≠ .ok ())
    (submissions : List Submission) :
    recalculateEach calls submissions = submissions := by
  induction calls with
  | nil => rfl
  | cons call rest ih =>
      rcases List.forall_mem_cons.1 hRejected with
        ⟨hFirst, hRest⟩
      cases hValid : call.1.policy.validate with
      | error e =>
          unfold recalculateEach
          rw [List.foldl_cons, recalculate_eq_error hValid]
          exact ih hRest
      | ok _ => exact absurd hValid hFirst

------------------------------------------------------------
-- Accepted Recalculations
------------------------------------------------------------

/-
  What is kept after an accepted recalculation does not
  depend on what was kept before.
-/
theorem recalculate_eq_of_scaledFrom
    (h : ScaledFrom entries submissions)
    (hValid : settings.policy.validate = .ok ()) :
    (recalculate settings role submissions).1 =
      (recalculate settings role
        (entries.map ofEntry)).1 := by
  have hNew := scaledFrom_ofEntry entries
  rcases recalculate_eq_ok h.isScaled hValid with
    ⟨kept, hKept, hOk⟩
  rcases recalculate_eq_ok hNew.isScaled hValid with
    ⟨keptNew, hKeptNew, hOkNew⟩
  have hSame : keptNew = kept := by
    funext date
    have hBoth := (hKeptNew date).symm.trans (hKept date)
    exact Except.ok.inj hBoth
  rw [hOk, hOkNew, hSame]
  simp only [map_keeping, h.map_entry, hNew.map_entry]

/- The fractions that change are counted. -/
theorem countP_zip_keeping
    (kept : Instant → Float)
    (submissions : List Submission) :
    submissions.countP (fun s =>
        s.scaling ≠ kept s.date) =
      (submissions.zip
          (submissions.map (fun s =>
            s.keeping (kept s.date)))).countP
        (fun pair =>
          pair.1.scaling ≠ pair.2.scaling) := by
  induction submissions with
  | nil => rfl
  | cons submission rest ih =>
      simp only [List.map_cons, List.zip_cons_cons,
        List.countP_cons, ih]
      rfl

/- Doing the same once more changes nothing. -/
theorem recalculate_recalculate
    (hScaled : ∀ s ∈ submissions, s.IsScaled)
    (hValid : settings.policy.validate = .ok ()) :
    recalculate settings role
        (recalculate settings role submissions).1 =
      ((recalculate settings role submissions).1,
        .ok 0) := by
  rcases Settings.exists_scaling hValid role with
    ⟨kept, hKept⟩
  have hFirst := rescaleAll_eq hScaled hKept
  have hAfter :
      ∀ s ∈ submissions.map (fun s =>
          s.keeping (kept s.date)),
        s.IsScaled ∧ s.scaling = kept s.date := by
    intro s hMem
    rcases List.mem_map.1 hMem with ⟨old, -, rfl⟩
    exact ⟨isScaled_keeping old _, rfl⟩
  have hSecond :=
    rescaleAll_eq (fun s hMem => (hAfter s hMem).1) hKept
  have hSame :
      (submissions.map (fun s =>
          s.keeping (kept s.date))).map
            (fun s => s.keeping (kept s.date)) =
        submissions.map (fun s =>
          s.keeping (kept s.date)) := by
    rw [List.map_map]
    rfl
  have hNone :
      (submissions.map (fun s =>
          s.keeping (kept s.date))).countP
            (fun s => s.scaling ≠ kept s.date) = 0 := by
    rw [List.countP_eq_zero]
    intro s hMem
    simpa using (hAfter s hMem).2
  unfold recalculate
  rw [hValid]
  simp only [hFirst, hSecond, hSame, hNone]

/-
  A history whose last accepted recalculation is known: only
  this one counts.
-/
theorem recalculateEach_append
    (hValid : settings.policy.validate = .ok ())
    {later : List (Settings × Role)}
    (hLater :
      ∀ call ∈ later,
        call.1.policy.validate ≠ .ok ())
    (entries : List (Instant × Float))
    (calls : List (Settings × Role)) :
    recalculateEach (calls ++ (settings, role) :: later)
        (entries.map ofEntry) =
      (recalculate settings role
        (entries.map ofEntry)).1 := by
  have hBefore :=
    scaledFrom_recalculateEach (scaledFrom_ofEntry entries)
      calls
  have hSplit :
      recalculateEach (calls ++ (settings, role) :: later)
          (entries.map ofEntry) =
        recalculateEach later
          (recalculate settings role
            (recalculateEach calls
              (entries.map ofEntry))).1 := by
    unfold recalculateEach
    rw [List.foldl_append]
    rfl
  rw [hSplit, recalculateEach_of_rejected hLater,
    recalculate_eq_of_scaledFrom hBefore hValid]

/-
  Recalculating the scores of submissions, after any history
  of earlier recalculations. It fails exactly when the late
  policy is not valid, and then changes nothing. The scores
  always are the fractions that are kept. When it succeeds,
  every submission keeps what the settings say and nothing
  of the earlier settings remains, the changed fractions are
  counted, doing it again changes nothing, and it lasts
  until the next recalculation that succeeds.
-/
theorem recalculated_after_history
    (entries : List (Instant × Float))
    (calls : List (Settings × Role))
    (settings : Settings)
    (role : Role) :
    let before :=
      recalculateEach calls (entries.map ofEntry)
    let outcome := recalculate settings role before
    (∀ e,
      outcome.2 = .error e ↔
        settings.policy.validate = .error e) ∧
    (∀ e, outcome.2 = .error e → outcome.1 = before) ∧
    (∀ s ∈ outcome.1,
      s.score = s.scaling * s.gradingScore) ∧
    ∀ count, outcome.2 = .ok count →
      (∀ s ∈ outcome.1,
        settings.scaling s.date role = .ok s.scaling) ∧
      outcome.1.map entry = entries ∧
      count =
        (before.zip outcome.1).countP
          (fun pair =>
            pair.1.scaling ≠ pair.2.scaling) ∧
      recalculate settings role outcome.1 =
        (outcome.1, .ok 0) ∧
      ∀ later : List (Settings × Role),
        (∀ call ∈ later,
          call.1.policy.validate ≠ .ok ()) →
        recalculateEach
            (calls ++ (settings, role) :: later)
            (entries.map ofEntry) =
          (recalculate settings role
            (entries.map ofEntry)).1 := by
  intro before outcome
  have hBefore : ScaledFrom entries before :=
    scaledFrom_recalculateEach (scaledFrom_ofEntry entries)
      calls
  have hAfter : ScaledFrom entries outcome.1 :=
    scaledFrom_recalculate hBefore settings role
  cases hValid : settings.policy.validate with
  | error e =>
      have hOutcome : outcome = (before, .error e) :=
        recalculate_eq_error hValid role before
      refine ⟨?_, ?_, hAfter.isScaled, ?_⟩
      · intro other
        simp [hOutcome]
      · intro other _
        rw [hOutcome]
      · intro count hCount
        rw [hOutcome] at hCount
        cases hCount
  | ok _ =>
      rcases recalculate_eq_ok hBefore.isScaled hValid with
        ⟨kept, hKept, hOk⟩
      have hOutcome : outcome = _ := hOk
      refine ⟨?_, ?_, hAfter.isScaled, ?_⟩
      · intro e
        rw [hOutcome]
        simp
      · intro e hError
        rw [hOutcome] at hError
        cases hError
      · intro count hCount
        rw [hOutcome] at hCount
        refine ⟨?_, hAfter.map_entry, ?_, ?_, ?_⟩
        · intro s hMem
          rw [hOutcome] at hMem
          rcases List.mem_map.1 hMem with ⟨old, -, rfl⟩
          exact hKept old.date
        · rw [← Except.ok.inj hCount, hOutcome]
          exact countP_zip_keeping kept before
        · exact
            recalculate_recalculate hBefore.isScaled hValid
        · intro later hLater
          exact
            recalculateEach_append hValid hLater entries calls

/-
  A submission two days late loses half of its score under
  one policy and has all of it again without one.
-/
theorem recalculated_after_policy_dropped :
    let strict : Settings :=
      { deadline := some ⟨0, 0, 0⟩
        lateSubmission := some [⟨"P1D", 0.5⟩] }
    let relaxed : Settings :=
      { deadline := some ⟨0, 0, 0⟩ }
    let late := ofEntry (⟨2, 0, 0⟩, 10)
    (recalculateEach [(strict, .student)] [late]).map
        Submission.score = [5] ∧
      recalculateEach
          [(strict, .student), (relaxed, .student)] [late] =
        [late] := by
  intro strict relaxed late
  have hOk :
      (recalculate relaxed .student
          (recalculateEach [(strict, .student)]
            [late])).2 = .ok 1 := by
    decide +kernel
  have hHistory :=
    recalculated_after_history [(⟨2, 0, 0⟩, 10)]
      [(strict, .student)] relaxed .student
  rcases hHistory.2.2.2 1 hOk with ⟨-, -, -, -, hLast⟩
  refine ⟨by decide +kernel, ?_⟩
  exact (hLast [] (by simp)).trans (by decide +kernel)

end Submission

end NotebookGrading
