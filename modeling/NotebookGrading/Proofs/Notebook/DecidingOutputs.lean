import NotebookGrading.Pipeline.Stage
import NotebookGrading.Proofs.Gradebook.ExtractedScores
import NotebookGrading.Proofs.Notebook.AwardedPoints

/-
  What decides the score of an executed cell.

  Only grade cells have a score, and it is within the finite
  points of the cell. In a code cell that is no solution,
  the first error, stderr text or result settles the score
  alone: outputs in front of it that are none of these and
  all outputs behind it make no difference. Among results
  that are numbers the award grows with the number.

  Key definitions include:
    * `Output.Decides`
    * `Output.HoldsNumber`
    * `Cell.Awards`
    * `Cell.IsSettledBy`

  Main statements:
    * `Output.clamp_mono`
    * `Cell.scoreOfOutputs_first`
    * `Cell.isSettledBy_verdict`
    * `Cell.score_outcome`
-/

namespace NotebookGrading

open Double (IsNumber)

------------------------------------------------------------
-- Deciding Outputs
------------------------------------------------------------

namespace Output

/- An error, stderr text or a result. -/
def Decides
    (output : Output) : Prop :=
  output.outputType = .error ∨
    output.outputType = .stream ∧
      output.name = some "stderr" ∨
    output.outputType = .executeResult

/- A result whose text is a finite number. -/
structure HoldsNumber
    (output : Output)
    (number : Float) : Prop where
  isResult : output.outputType = .executeResult
  isFinite : number.isFinite = true
  reads :
    ∃ text,
      output.plainText? = some text ∧
        Double.ofText? (Text.trim text) = some number

theorem isDeciding_iff
    {output : Output} :
    output.isDeciding = true ↔ output.Decides := by
  unfold isDeciding Decides
  cases output.outputType with
  | stream => simp
  | displayData => simp
  | executeResult => simp
  | error => simp

------------------------------------------------------------
-- Awards Of Numbers
------------------------------------------------------------

variable {max number : Float}

theorem verdict_of_holdsNumber
    {output : Output}
    (h : output.HoldsNumber number) :
    output.verdict max = clamp max number := by
  rcases h.reads with ⟨text, hText, hNumber⟩
  simp [verdict, h.isResult, partialCredit, hText, hNumber]

/- Errors and stderr text award nothing. -/
theorem verdict_of_ne_executeResult
    {output : Output}
    (h : output.outputType ≠ .executeResult) :
    output.verdict max = 0 := by
  unfold verdict
  split
  · contradiction
  · rfl

/- A number of points that is within bounds is awarded. -/
theorem clamp_of_isBetween
    (hFinite : number.isFinite = true)
    (h : IsBetween max number) :
    clamp max number = number := by
  have hNotAbove := Double.not_lt_of_le h.le_max
  have hNotBelow := Double.not_lt_of_le h.zero_le
  simp [clamp, hFinite, hNotAbove, hNotBelow]

/- More points never award less. -/
theorem clamp_mono
    {more : Float}
    (hMaxFinite : max.isFinite = true)
    (hMax : 0 ≤ max)
    (hFinite : number.isFinite = true)
    (hMoreFinite : more.isFinite = true)
    (hLe : number ≤ more) :
    clamp max number ≤ clamp max more := by
  have hNumber := Double.isNumber_of_isFinite hFinite
  have hBetween := isBetween_clamp hMaxFinite hMax number
  have hMoreBetween := isBetween_clamp hMaxFinite hMax more
  by_cases hAbove : max < more
  · have hAll : clamp max more = max := by
      simp [clamp, hMoreFinite, hAbove]
    rw [hAll]
    exact hBetween.le_max
  · have hNotAbove : ¬ max < number := by
      intro hLt
      exact hAbove (Double.lt_of_lt_of_le hLt hLe)
    by_cases hBelow : number < 0
    · have hNothing : clamp max number = 0 := by
        simp [clamp, hFinite, hNotAbove, hBelow]
      rw [hNothing]
      exact hMoreBetween.zero_le
    · have hZero : 0 ≤ number :=
        Double.isNumber_zero.le_of_not_lt hNumber hBelow
      have hNotBelow : ¬ more < 0 :=
        Double.not_lt_of_le (Double.le_trans hZero hLe)
      simp only [clamp, hFinite, hMoreFinite, hNotAbove,
        hAbove, hBelow, hNotBelow]
      exact hLe

end Output

------------------------------------------------------------
-- The First Deciding Output
------------------------------------------------------------

namespace Cell

/- None of some outputs decides. -/
def Undecided
    (outputs : List Output) : Prop :=
  ∀ output ∈ outputs, ¬ output.Decides

theorem find?_isDeciding_of_undecided
    {outputs : List Output}
    (h : Undecided outputs) :
    outputs.find? Output.isDeciding = none := by
  rw [List.find?_eq_none]
  intro output hMem
  rw [Output.isDeciding_iff]
  exact h output hMem

/- Without a deciding output all points are awarded. -/
theorem scoreOfOutputs_of_undecided
    {outputs : List Output}
    (h : Undecided outputs)
    (max : Float) :
    scoreOfOutputs max outputs = max := by
  rw [scoreOfOutputs, find?_isDeciding_of_undecided h]

/- The first deciding output awards the points alone. -/
theorem scoreOfOutputs_first
    {before : List Output}
    {decider : Output}
    (hBefore : Undecided before)
    (hDecides : decider.Decides)
    (after : List Output)
    (max : Float) :
    scoreOfOutputs max (before ++ decider :: after) =
      decider.verdict max := by
  have hFind :
      (before ++ decider :: after).find?
          Output.isDeciding =
        some decider := by
    rw [List.find?_append,
      find?_isDeciding_of_undecided hBefore,
      List.find?_cons_of_pos
        (Output.isDeciding_iff.2 hDecides)]
    rfl
  rw [scoreOfOutputs, hFind]

------------------------------------------------------------
-- Scores Of Code Cells
------------------------------------------------------------

/- With some outputs a cell gets a number of its points. -/
def Awards
    (cell : Cell)
    (outputs : List Output)
    (points : Float) : Prop :=
  (cell.withOutputs outputs).score =
    .ok ⟨some points, cell.points⟩

/-
  The score of a cell is settled by its first deciding
  output, by what this output awards on its own.
-/
structure IsSettledBy
    (cell : Cell)
    (award : Output → Float) : Prop where
  undecided :
    ∀ outputs,
      Undecided outputs → cell.Awards outputs cell.points
  decided :
    ∀ before decider after,
      Undecided before →
        decider.Decides →
          cell.Awards (before ++ decider :: after)
            (award decider)
  failed :
    ∀ decider,
      decider.outputType ≠ .executeResult →
        award decider = 0
  within :
    ∀ result number,
      result.HoldsNumber number →
        0 ≤ number →
          number ≤ cell.points → award result = number
  monotone :
    ∀ result number other more,
      result.HoldsNumber number →
        other.HoldsNumber more →
          number ≤ more → award result ≤ award other

variable {cell : Cell}

/- A code cell that is no solution awards by its outputs. -/
theorem awards_scoreOfOutputs
    (hGrade : cell.isGrade = true)
    (hSolution : cell.isSolution = false)
    (hCode : cell.cellType = .code)
    (outputs : List Output) :
    cell.Awards outputs
      (scoreOfOutputs cell.points outputs) := by
  have hIsGrade : (cell.withOutputs outputs).isGrade = true :=
    hGrade
  have hNoSolution :
      (cell.withOutputs outputs).isSolution = false :=
    hSolution
  have hIsCode : (cell.withOutputs outputs).cellType = .code :=
    hCode
  have hAuto :
      (cell.withOutputs outputs).autoScore =
        some (scoreOfOutputs cell.points outputs) := by
    simp only [autoScore, hNoSolution, hIsCode]
    rfl
  unfold Awards score
  rw [if_pos hIsGrade, hAuto]
  rfl

theorem isSettledBy_verdict
    (hGrade : cell.isGrade = true)
    (hSolution : cell.isSolution = false)
    (hCode : cell.cellType = .code) :
    cell.IsSettledBy
      (fun output => output.verdict cell.points) := by
  have hAwards :=
    awards_scoreOfOutputs hGrade hSolution hCode
  constructor
  · intro outputs hUndecided
    have hAll := hAwards outputs
    rw [scoreOfOutputs_of_undecided hUndecided] at hAll
    exact hAll
  · intro before decider after hBefore hDecides
    have hFirst := hAwards (before ++ decider :: after)
    rw [scoreOfOutputs_first hBefore hDecides] at hFirst
    exact hFirst
  · intro decider hOther
    exact Output.verdict_of_ne_executeResult hOther
  · intro result number hNumber hZero hMax
    rw [Output.verdict_of_holdsNumber hNumber]
    exact
      Output.clamp_of_isBetween hNumber.isFinite
        ⟨hZero, hMax⟩
  · intro result number other more hNumber hMore hLe
    simp only [Output.verdict_of_holdsNumber hNumber,
      Output.verdict_of_holdsNumber hMore]
    exact
      Output.clamp_mono cell.isFinite_points
        cell.zero_le_points hNumber.isFinite
        hMore.isFinite hLe

/- A cell has the score of its list of outputs. -/
theorem score_withOutputs_outputList
    (cell : Cell) :
    (cell.withOutputs cell.outputList).score =
      cell.score := by
  rfl

end Cell

------------------------------------------------------------
-- Saving Scores
------------------------------------------------------------

/- Scored by their outputs, no cells keep from saving. -/
theorem saveScores_ne_scoring
    (tree : FileTree)
    (notebook : Notebook)
    (key path : String)
    (error : ScoringError) :
    (saveScores Cell.score tree notebook key path).2 ≠
      .error (.scoring error) := by
  unfold saveScores OpenGradebook.transaction
  split
  · simp
  · rename_i opened hOpened
    rcases Recording.cells_score key opened notebook.cells
      with ⟨recorded, hRecorded, -⟩
    simp only [hRecorded]
    split
    · simp
    · simp

theorem Stage.run_saveAutoGrades_ne_scoring
    (tree : FileTree)
    (notebook : Notebook)
    (resources : Resources)
    (error : ScoringError) :
    (Stage.run (.saveAutoGrades Cell.score) tree notebook
        resources).2 ≠
      .error (.scoring error) := by
  change
    (Stage.save Cell.score tree notebook resources).2 ≠
      .error (.scoring error)
  unfold Stage.save
  split
  · simp
  · simp
  · rename_i key path hKey hPath
    have hSaved :=
      saveScores_ne_scoring tree notebook key path error
    split
    · rename_i next cause hError
      rw [hError] at hSaved
      simpa using hSaved
    · simp

/-
  The score of a cell. Only a cell that is no grade cell has
  none, so saving never fails for want of a score. The
  maximum is finite and not negative, and an automatic score
  lies between zero and the maximum. In a code cell that is
  no solution the first deciding output settles it.
-/
theorem Cell.score_outcome
    (cell : Cell) :
    (∀ error,
      cell.score = .error error ↔
        cell.isGrade = false ∧
          error = .notGradeCell cell.gradeId) ∧
      (∀ tree notebook resources error,
        (Stage.run (.saveAutoGrades Cell.score) tree notebook
            resources).2 ≠
          .error (.scoring error)) ∧
      (∀ score,
        cell.score = .ok score →
          score.max = cell.points ∧
            score.max.isFinite = true ∧
            0 ≤ score.max ∧
            ∀ points,
              score.auto = some points →
                0 ≤ points ∧ points ≤ score.max) ∧
      (cell.isGrade = true →
        cell.isSolution = false →
          cell.cellType = .code →
            (cell.withOutputs cell.outputList).score =
                cell.score ∧
              ∃ award, cell.IsSettledBy award) := by
  refine ⟨?_, Stage.run_saveAutoGrades_ne_scoring, ?_, ?_⟩
  · intro error
    unfold score
    cases cell.isGrade with
    | true => simp
    | false => simp [eq_comm]
  · intro score hScore
    unfold Cell.score at hScore
    split at hScore
    · rw [← Except.ok.inj hScore]
      refine
        ⟨rfl, cell.isFinite_points, cell.zero_le_points, ?_⟩
      intro points hPoints
      have hBetween := Cell.isBetween_autoScore hPoints
      exact ⟨hBetween.zero_le, hBetween.le_max⟩
    · cases hScore
  · intro hGrade hSolution hCode
    exact
      ⟨cell.score_withOutputs_outputList, _,
        isSettledBy_verdict hGrade hSolution hCode⟩

end NotebookGrading
