import NotebookGrading.Proofs.Gradebook.ManualEntries
import NotebookGrading.Proofs.Gradebook.ExtractedScores
import NotebookGrading.Proofs.Notebook.AwardedPoints

/-
  Automatic scores in a gradebook are within the points of
  their cells.

  However often notebooks are recorded, with whatever points
  and outputs, and whatever humans enter in between, an
  automatic score belongs to a registered cell and is at
  most what that cell is worth now. A grade without any
  score waits for a human.

  Key definitions include:
    * `Grade.IsAccountedFor`
    * `NotebookRecord.AccountsForGrades`
    * `OpenGradebook.GradingStep`
    * `OpenGradebook.gradeAll`

  Main statements:
    * `NotebookRecord.AccountsForGrades.afterIdentifiedCell`
    * `NotebookRecord.AccountsForGrades.afterCells`
    * `OpenGradebook.AccountsForGrades.operate`
    * `OpenGradebook.isAccountedFor_gradeAll`
-/

namespace NotebookGrading

------------------------------------------------------------
-- Single Grades
------------------------------------------------------------

/-
  An automatic score is between zero and the finite points
  of the cell that is registered for the grade, and without
  any score a human has to decide.
-/
structure Grade.IsAccountedFor
    (registered : Option GradeCell)
    (grade : Grade) : Prop where
  within :
    ∀ score,
      grade.autoScore = some score →
        ∃ cell,
          registered = some cell ∧
            cell.maxScore.isFinite = true ∧
            0 ≤ cell.maxScore ∧
            0 ≤ score ∧
            score ≤ cell.maxScore
  waiting :
    grade.autoScore = none →
      grade.manualScore = none →
        grade.needsManualGrade = true

/- A grade is accounted for by the cell that scored it. -/
theorem Grade.isAccountedFor_scoredBy
    (grade : Grade)
    (id : String)
    (cell : Cell) :
    (grade.scoredBy cell).IsAccountedFor
      (some ⟨id, cell.points, cell.cellType⟩) := by
  constructor
  · intro score hScore
    have hBetween := Cell.isBetween_autoScore hScore
    exact
      ⟨_, rfl, cell.isFinite_points, cell.zero_le_points,
        hBetween.zero_le, hBetween.le_max⟩
  · intro hAuto _
    have hNone : cell.autoScore = none := hAuto
    simp [scoredBy, hNone]

/- A manual score leaves the automatic one as it is. -/
theorem Grade.IsAccountedFor.withManualScore
    {registered : Option GradeCell}
    {grade : Grade}
    (h : grade.IsAccountedFor registered)
    (score : Float) :
    (grade.withManualScore score).IsAccountedFor
      registered := by
  constructor
  · exact h.within
  · intro _ hManual
    cases hManual

------------------------------------------------------------
-- Grades Of A Record
------------------------------------------------------------

namespace NotebookRecord

/-
  Each grade is accounted for by what is registered under
  its id now.
-/
structure AccountsForGrades
    (record : NotebookRecord) : Prop where
  nodup : (record.grades.map Grade.gradeId).Nodup
  isAccountedFor :
    ∀ id grade,
      record.grade? id = some grade →
        grade.IsAccountedFor (record.gradeCells.find? id)

theorem accountsForGrades_new
    (notebookId : String) :
    AccountsForGrades { notebookId := notebookId } := by
  constructor
  · exact List.nodup_nil
  · intro id grade hGrade
    cases hGrade

namespace AccountsForGrades

variable {record : NotebookRecord}

theorem of_mem
    (h : record.AccountsForGrades)
    {grade : Grade}
    (hMem : grade ∈ record.grades) :
    grade.IsAccountedFor
      (record.gradeCells.find? grade.gradeId) := by
  have hGrade : record.grade? grade.gradeId = some grade :=
    find?_key_of_mem Grade.gradeId h.nodup hMem
  exact h.isAccountedFor grade.gradeId grade hGrade

/-
  A grade cell is registered anew before its score is
  replaced. Both have happened once the cell is recorded,
  and grades of other ids keep their registered cells.
-/
theorem afterIdentifiedCell
    (h : record.AccountsForGrades)
    (id : String)
    (cell : Cell) :
    (record.afterIdentifiedCell id
      cell).AccountsForGrades := by
  constructor
  · exact nodup_gradeIds_afterIdentifiedCell id cell h.nodup
  · intro other grade hGrade
    rw [grade?_afterIdentifiedCell] at hGrade
    rw [gradeCells_afterIdentifiedCell]
    by_cases hScored : cell.isGrade
    · rw [if_pos hScored]
      by_cases hId : id = other
      · rw [if_pos ⟨hScored, hId⟩] at hGrade
        rw [← Option.some.inj hGrade, hId,
          Table.find?_insert_self]
        exact Grade.isAccountedFor_scoredBy _ other cell
      · rw [if_neg (fun hBoth => hId hBoth.2)] at hGrade
        rw [Table.find?_insert_ne _ hId]
        exact h.isAccountedFor other grade hGrade
    · rw [if_neg (fun hBoth => hScored hBoth.1)] at hGrade
      rw [if_neg hScored]
      exact h.isAccountedFor other grade hGrade

/- Recorded cells leave every grade accounted for. -/
theorem afterCells
    (h : record.AccountsForGrades)
    (cells : List Cell) :
    (record.afterCells cells).AccountsForGrades :=
  afterCells_induction
    (fun _ id cell hRecord =>
      hRecord.afterIdentifiedCell id cell)
    h cells

/- So does the score of a human, also for an unknown id. -/
theorem setManualScore
    (h : record.AccountsForGrades)
    (id : String)
    (score : Float) :
    (record.setManualScore id score).AccountsForGrades := by
  constructor
  · exact
      nodup_upsert Grade.gradeId id
        (fun old => old.withManualScore score)
        (Grade.withManualScore { gradeId := id } score)
        (fun _ hId => hId) rfl h.nodup
  · intro other grade hGrade
    rw [grade?_setManualScore] at hGrade
    by_cases hId : id = other
    · rw [if_pos hId] at hGrade
      rw [← Option.some.inj hGrade]
      cases hOld : record.grade? other with
      | none =>
          simp only [gradeOf, hOld, Option.getD_none]
          constructor
          · intro automatic hAuto
            cases hAuto
          · intro _ hManual
            cases hManual
      | some old =>
          simp only [gradeOf, hOld, Option.getD_some]
          exact
            (h.isAccountedFor other old hOld).withManualScore
              score
    · rw [if_neg hId] at hGrade
      exact h.isAccountedFor other grade hGrade

theorem setManualComment
    (h : record.AccountsForGrades)
    (id text : String) :
    (record.setManualComment id text).AccountsForGrades :=
  ⟨h.nodup, h.isAccountedFor⟩

end AccountsForGrades

end NotebookRecord

------------------------------------------------------------
-- Steps Of Grading
------------------------------------------------------------

namespace OpenGradebook

/-
  What grading does to a gradebook: it records the cells of
  a notebook, scored by their outputs, and enters what a
  human decides.
-/
inductive GradingStep
  | record
      (notebookId : String)
      (cells : List Cell)
  | enterScore
      (notebookId gradeId : String)
      (score : Float)
  | enterComment
      (notebookId gradeId text : String)

def GradingStep.operation :
    GradingStep → Operation
  | .record notebookId cells =>
      .record Cell.score notebookId cells
  | .enterScore notebookId gradeId score =>
      .change notebookId (.setManualScore gradeId score)
  | .enterComment notebookId gradeId text =>
      .change notebookId (.setManualComment gradeId text)

/- Grade step by step. -/
def gradeAll
    (opened : OpenGradebook)
    (steps : List GradingStep) : OpenGradebook :=
  steps.foldl
    (fun opened step => opened.operate step.operation)
    opened

/- Every notebook accounts for its grades. -/
def AccountsForGrades
    (opened : OpenGradebook) : Prop :=
  ∀ notebookId,
    (opened.book.notebook notebookId).AccountsForGrades

theorem accountsForGrades_empty
    (path : String)
    (changed : Bool) :
    AccountsForGrades ⟨path, .empty, changed⟩ := by
  intro notebookId
  exact
    NotebookRecord.accountsForGrades_new notebookId

namespace AccountsForGrades

variable {opened : OpenGradebook}

theorem change
    (h : opened.AccountsForGrades)
    {notebookId : String}
    {change : NotebookRecord.Change}
    (hChange :
      ((opened.book.notebook notebookId).apply
        change).AccountsForGrades) :
    (opened.change notebookId change).AccountsForGrades := by
  intro other
  unfold OpenGradebook.change
  rw [opened.book.notebook_apply]
  by_cases hId : notebookId = other
  · rw [if_pos hId]
    exact hChange
  · rw [if_neg hId]
    exact h other

/- Scored by their outputs, cells are always recorded. -/
theorem record
    (h : opened.AccountsForGrades)
    (notebookId : String)
    (cells : List Cell) :
    (opened.operate
      (.record Cell.score notebookId
        cells)).AccountsForGrades := by
  rcases Recording.cells_score notebookId opened cells with
    ⟨next, hCells, hUpdated⟩
  simp only [OpenGradebook.operate, hCells]
  intro other
  by_cases hId : notebookId = other
  · rw [← hId, hUpdated.notebook_eq]
    exact (h notebookId).afterCells cells
  · have hKept := hUpdated.notebook?_ne other hId
    unfold Gradebook.notebook
    rw [hKept]
    exact h other

/- One step leaves every grade accounted for. -/
theorem operate
    (h : opened.AccountsForGrades)
    (step : GradingStep) :
    (opened.operate step.operation).AccountsForGrades := by
  cases step with
  | record notebookId cells =>
      exact h.record notebookId cells
  | enterScore notebookId gradeId score =>
      exact
        h.change ((h notebookId).setManualScore gradeId score)
  | enterComment notebookId gradeId text =>
      exact
        h.change ((h notebookId).setManualComment gradeId text)

theorem gradeAll
    (h : opened.AccountsForGrades)
    (steps : List GradingStep) :
    (opened.gradeAll steps).AccountsForGrades := by
  induction steps generalizing opened with
  | nil => exact h
  | cons step rest ih => exact ih (h.operate step)

end AccountsForGrades

/-
  In a gradebook that grew from an empty one by grading, an
  automatic score belongs to a registered cell, is not
  negative and at most the finite points of that cell, and
  a grade without any score needs a human.
-/
theorem isAccountedFor_gradeAll
    (path : String)
    (changed : Bool)
    (steps : List GradingStep)
    {notebookId : String}
    {record : NotebookRecord}
    (hRecord :
      (gradeAll ⟨path, .empty, changed⟩ steps).book.notebook?
        notebookId = some record)
    {grade : Grade}
    (hGrade : grade ∈ record.grades) :
    grade.IsAccountedFor
      (record.gradeCells.find? grade.gradeId) := by
  have hAll :=
    (accountsForGrades_empty path changed).gradeAll steps
      notebookId
  rw [Gradebook.notebook, hRecord] at hAll
  exact hAll.of_mem hGrade

/-
  Recorded again with a repeated id, a cell is worth less
  than its earlier score, which is replaced.
-/
theorem isAccountedFor_gradeAll_repeated :
    let cell (points : Float) : Cell :=
      { cellType := .code,
        metadata :=
          { grading :=
              some
                { gradeId := some "q",
                  grade := some true,
                  points := some points } } }
    let steps : List GradingStep :=
      [.record "n" [cell 2],
       .enterComment "n" "q" "good",
       .record "n" [cell 2, cell 1]]
    let grade : Grade :=
      { gradeId := "q", autoScore := some 1 }
    ∃ record,
      (gradeAll ⟨"g.json", .empty, false⟩
          steps).book.notebook? "n" = some record ∧
        record.grades = [grade] ∧
        grade.IsAccountedFor
          (record.gradeCells.find? "q") := by
  intro cell steps grade
  have hSome :
      ((gradeAll ⟨"g.json", .empty, false⟩
        steps).book.notebook? "n").map (·.grades) =
          some [grade] := by
    decide +kernel
  rcases Option.map_eq_some_iff.1 hSome with
    ⟨record, hRecord, hGrades⟩
  have hMem : grade ∈ record.grades := by
    rw [hGrades]
    exact List.mem_singleton.2 rfl
  exact
    ⟨record, hRecord, hGrades,
      isAccountedFor_gradeAll "g.json" false steps hRecord
        hMem⟩

end OpenGradebook

end NotebookGrading
