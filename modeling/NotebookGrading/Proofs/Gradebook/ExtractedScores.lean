import NotebookGrading.Proofs.Gradebook.RecordedParts
import NotebookGrading.Proofs.Notebook.GradeIds

/-
  Recording with any extractor of scores.

  The extractor decides whether recording succeeds, which it
  does when every grade cell with an id gets a score, and it
  decides the grades. All else in the record of a notebook
  is as if the cells were scored by their outputs. Scored by
  these, cells are always recorded.

  Key definitions include:
    * `ScoreExtractor.ScoresAll`
    * `Cell.gradeRevisionBy?`
    * `NotebookRecord.afterCellsBy`

  Main statements:
    * `Recording.exists_cells_iff`
    * `Recording.updated_of_cells`
    * `Recording.cells_score`
-/

namespace NotebookGrading

------------------------------------------------------------
-- Grades With Extracted Scores
------------------------------------------------------------

/- All cells that are scored under an id get a score. -/
def ScoreExtractor.ScoresAll
    (extractor : ScoreExtractor)
    (cells : List Cell) : Prop :=
  ∀ cell ∈ cells,
    cell.scoredId?.isSome →
      ∃ score, extractor cell = .ok score

/- A grade with an automatic score. -/
def Grade.withScore
    (grade : Grade)
    (score : Score) : Grade :=
  { grade with
    autoScore := score.auto
    needsManualGrade :=
      grade.manualScore.isSome || score.auto.isNone }

/- A grade with a score, if one could be extracted. -/
def Grade.extracted
    (grade : Grade) :
    Except ScoringError Score → Grade
  | .error _ => grade
  | .ok score => grade.withScore score

theorem Grade.gradeId_extracted
    (grade : Grade)
    (result : Except ScoringError Score) :
    (grade.extracted result).gradeId = grade.gradeId := by
  cases result with
  | error e => rfl
  | ok score => rfl

/- What a grade cell does to the grades. -/
def Cell.gradeRevisionBy?
    (extractor : ScoreExtractor)
    (cell : Cell) : Option (Revision Grade) :=
  cell.underId cell.isGrade
    (fun id =>
      ⟨id, fun grade => grade.extracted (extractor cell)⟩)

------------------------------------------------------------
-- Records With Other Grades
------------------------------------------------------------

namespace NotebookRecord

/- A record with other grades. -/
def withGrades
    (record : NotebookRecord)
    (grades : List Grade) : NotebookRecord :=
  { record with grades := grades }

/- The record after cells, with grades as extracted. -/
def afterCellsBy
    (extractor : ScoreExtractor)
    (record : NotebookRecord)
    (cells : List Cell) : NotebookRecord :=
  (record.afterCells cells).withGrades
    (Revision.applyAll Grade.gradeId Grade.fresh
      record.grades
      (cells.filterMap (Cell.gradeRevisionBy? extractor)))

variable (record : NotebookRecord)
variable (grades : List Grade)
variable (id : String)
variable (cell : Cell)

/- A comment does not look at the grades. -/
theorem afterCommentCell_withGrades :
    (record.withGrades grades).afterCommentCell id cell =
      (record.afterCommentCell id cell).withGrades
        grades := by
  unfold afterCommentCell withCommentCell
  split <;> split <;> rfl

/- An extracted score revises one of the grades. -/
theorem addGrade_withScore
    (score : Score) :
    (record.withGrades grades).addGrade
        (((record.withGrades grades).gradeOf id).withScore
          score) =
      record.withGrades
        (Revision.apply Grade.gradeId Grade.fresh grades
          ⟨id, fun grade => grade.withScore score⟩) := by
  have hGrades :=
    @grades_addGrade (record.withGrades grades) id
      (fun grade => grade.withScore score) (fun _ => rfl)
      (fun grade => by simp [Grade.update, Grade.withScore])
  exact congrArg record.withGrades hGrades

end NotebookRecord

------------------------------------------------------------
-- Recording Acts On The Record
------------------------------------------------------------

namespace Recording

variable {extractor : ScoreExtractor}
variable {notebookId id : String}
variable {opened before next : OpenGradebook}
variable {record : NotebookRecord}
variable {grades : List Grade}
variable {cell : Cell}
variable {cells : List Cell}

theorem gradeCell_updated
    {score : Score}
    (h :
      Updated notebookId opened (record.withGrades grades)
        before)
    (hScore : extractor cell = .ok score) :
    ∃ next,
      gradeCell extractor notebookId id cell before =
        .ok next ∧
      Updated notebookId opened
        ((record.afterGradeCell id cell).withGrades
          (Revision.apply Grade.gradeId Grade.fresh grades
            ⟨id, fun grade => grade.withScore score⟩))
        next := by
  let registered :=
    record.registerGradeCell ⟨id, cell.points, cell.cellType⟩
  have hRegistered :
      Updated notebookId opened
        (registered.withGrades grades) _ :=
    h.change
      (.registerGradeCell ⟨id, cell.points, cell.cellType⟩)
  have hFound := hRegistered.findGrade_eq id
  have hAdded :
      Updated notebookId opened
        ((registered.withGrades grades).addGrade
          (((registered.withGrades grades).gradeOf
            id).withScore score)) _ :=
    hRegistered.change
      (.addGrade
        (((registered.withGrades grades).gradeOf
          id).withScore score))
  -- The grade that was found is put back with its score.
  rw [NotebookRecord.addGrade_withScore] at hAdded
  refine ⟨_, ?_, hAdded⟩
  simp only [gradeCell, hScore, hFound]
  rfl

/- The grade part of a cell with an id. -/
theorem gradePart_updated
    (id : String)
    (h :
      Updated notebookId opened (record.withGrades grades)
        before)
    (hScores :
      cell.isGrade → ∃ score, extractor cell = .ok score) :
    ∃ graded,
      (if cell.isGrade then
        gradeCell extractor notebookId id cell before
      else
        .ok before) = .ok graded ∧
      Updated notebookId opened
        ((if cell.isGrade then
          record.afterGradeCell id cell
        else
          record).withGrades
            (if cell.isGrade then
              Revision.apply Grade.gradeId Grade.fresh
                grades
                ⟨id, fun grade =>
                  grade.extracted (extractor cell)⟩
            else
              grades)) graded := by
  by_cases hGrade : cell.isGrade
  · rcases hScores hGrade with ⟨score, hScore⟩
    simp only [hGrade, if_true, hScore]
    exact gradeCell_updated h hScore
  · simp only [hGrade]
    exact ⟨before, rfl, h⟩

theorem identifiedCell_updated
    (id : String)
    (h :
      Updated notebookId opened (record.withGrades grades)
        before)
    (hScores :
      cell.isGrade → ∃ score, extractor cell = .ok score) :
    ∃ next,
      identifiedCell extractor notebookId id cell before =
        .ok next ∧
      Updated notebookId opened
        ((record.afterIdentifiedCell id cell).withGrades
          (if cell.isGrade then
            Revision.apply Grade.gradeId Grade.fresh grades
              ⟨id, fun grade =>
                grade.extracted (extractor cell)⟩
          else
            grades)) next := by
  rcases gradePart_updated id h hScores with
    ⟨graded, hEq, hUpdated⟩
  rcases identifiedCell_of_graded hEq hUpdated with
    ⟨next, hNext, hLast⟩
  refine ⟨next, hNext, ?_⟩
  rw [NotebookRecord.afterCommentCell_withGrades] at hLast
  unfold NotebookRecord.afterIdentifiedCell
  cases hComment : needsComment cell with
  | true =>
      rw [hComment] at hLast
      exact hLast
  | false =>
      rw [hComment] at hLast
      exact hLast

/- A cell whose score can be extracted is recorded. -/
theorem cell_updated
    (h :
      Updated notebookId opened (record.withGrades grades)
        before)
    (hScores :
      cell.scoredId?.isSome →
        ∃ score, extractor cell = .ok score) :
    ∃ next,
      Recording.cell extractor notebookId cell before =
        .ok next ∧
      Updated notebookId opened
        ((record.afterCell cell).withGrades
          (Revision.applyAll Grade.gradeId Grade.fresh
            grades
            (cell.gradeRevisionBy? extractor).toList))
        next := by
  unfold Cell.scoredId? at hScores
  unfold Recording.cell NotebookRecord.afterCell
    Cell.gradeRevisionBy? Cell.underId
  cases hId : cell.gradeId with
  | none => exact ⟨before, rfl, by simpa [Revision.applyAll]⟩
  | some id =>
      have hOwn :
          cell.isGrade →
            ∃ score, extractor cell = .ok score := by
        intro hGrade
        apply hScores
        simp [hGrade, hId]
      rcases identifiedCell_updated id h hOwn with
        ⟨next, hNext, hUpdated⟩
      refine ⟨next, hNext, ?_⟩
      by_cases hGrade : cell.isGrade
      · simpa [hGrade, Revision.applyAll] using hUpdated
      · simpa [hGrade, Revision.applyAll] using hUpdated

/-
  Cells whose scores can be extracted are recorded, one
  after the other.
-/
theorem cells_updated_from
    (h :
      Updated notebookId opened (record.withGrades grades)
        before)
    (hScores : extractor.ScoresAll cells) :
    ∃ next,
      Recording.cells extractor notebookId cells before =
        .ok next ∧
      Updated notebookId opened
        ((record.afterCells cells).withGrades
          (Revision.applyAll Grade.gradeId Grade.fresh
            grades
            (cells.filterMap
              (Cell.gradeRevisionBy? extractor))))
        next := by
  induction cells generalizing before record grades with
  | nil => exact ⟨before, rfl, h⟩
  | cons cell rest ih =>
      rcases cell_updated h
          (hScores cell List.mem_cons_self) with
        ⟨recorded, hCell, hRecorded⟩
      have hRest : extractor.ScoresAll rest :=
        fun other hMem =>
          hScores other (List.mem_cons_of_mem cell hMem)
      rcases ih hRecorded hRest with ⟨next, hNext, hUpdated⟩
      refine ⟨next, ?_, ?_⟩
      · simp [Recording.cells, hCell, hNext]
      · rw [List.filterMap_cons]
        cases hRevision :
            cell.gradeRevisionBy? extractor with
        | none =>
            rw [hRevision] at hUpdated
            exact hUpdated
        | some revision =>
            rw [hRevision] at hUpdated
            exact hUpdated

/- A cell that could be recorded has its score. -/
theorem exists_score_of_cell
    (h :
      Recording.cell extractor notebookId cell opened =
        .ok next)
    (hScored : cell.scoredId?.isSome) :
    ∃ score, extractor cell = .ok score := by
  cases hScore : extractor cell with
  | ok score => exact ⟨score, rfl⟩
  | error e =>
      unfold Cell.scoredId? at hScored
      unfold Recording.cell at h
      cases hId : cell.gradeId with
      | none => simp [hId] at hScored
      | some id =>
          have hGrade : cell.isGrade := by
            by_contra hNot
            simp [hNot] at hScored
          simp [hId, identifiedCell, gradeCell, hGrade,
            hScore] at h

theorem scoresAll_of_cells
    (h :
      Recording.cells extractor notebookId cells opened =
        .ok next) :
    extractor.ScoresAll cells := by
  induction cells generalizing opened with
  | nil => simp [ScoreExtractor.ScoresAll]
  | cons cell rest ih =>
      unfold Recording.cells at h
      cases hCell :
          Recording.cell extractor notebookId cell
            opened with
      | error e => simp [hCell] at h
      | ok recorded =>
          simp only [hCell] at h
          intro other hMem
          rcases List.mem_cons.1 hMem with rfl | hRest
          · exact exists_score_of_cell hCell
          · exact ih h other hRest

/-
  Recording the cells of a notebook succeeds just when all
  scores can be extracted.
-/
theorem exists_cells_iff :
    (∃ next,
      Recording.cells extractor notebookId cells opened =
        .ok next) ↔
      extractor.ScoresAll cells := by
  constructor
  · rintro ⟨next, hNext⟩
    exact scoresAll_of_cells hNext
  · intro hScores
    rcases
        cells_updated_from
          (Updated.refl notebookId opened) hScores with
      ⟨next, hNext, -⟩
    exact ⟨next, hNext⟩

/-
  Recording brings the record of the notebook up to date
  and leaves the other notebooks alone.
-/
theorem updated_of_cells
    (h :
      Recording.cells extractor notebookId cells opened =
        .ok next) :
    Updated notebookId opened
      ((opened.book.notebook notebookId).afterCellsBy
        extractor cells) next := by
  rcases
      cells_updated_from (Updated.refl notebookId opened)
        (scoresAll_of_cells h) with
    ⟨recorded, hRecorded, hUpdated⟩
  rw [h] at hRecorded
  rw [Except.ok.inj hRecorded]
  exact hUpdated

------------------------------------------------------------
-- Scores From Outputs
------------------------------------------------------------

/- Every grade cell has a score from its outputs. -/
theorem scoresAll_score
    (cells : List Cell) :
    ScoreExtractor.ScoresAll Cell.score cells := by
  intro cell hMem hScored
  have hGrade : cell.isGrade := by
    unfold Cell.scoredId? at hScored
    by_contra hNot
    simp [hNot] at hScored
  exact ⟨_, by rw [Cell.score, if_pos hGrade]⟩

/- Scores from outputs are those of the record after cells. -/
theorem afterCellsBy_score
    (record : NotebookRecord)
    (cells : List Cell) :
    record.afterCellsBy Cell.score cells =
      record.afterCells cells := by
  have hRevision :
      Cell.gradeRevisionBy? Cell.score =
        Cell.gradeRevision? := by
    funext cell
    unfold Cell.gradeRevisionBy? Cell.gradeRevision?
      Cell.underId Cell.score
    split
    · rfl
    · rfl
  unfold NotebookRecord.afterCellsBy
  rw [hRevision, ← record.grades_afterCells]
  rfl

/-
  Recording the cells of a notebook by their outputs always
  succeeds. It brings the record of the notebook up to date
  and leaves the other notebooks alone.
-/
theorem cells_score
    (notebookId : String)
    (opened : OpenGradebook)
    (cells : List Cell) :
    ∃ next,
      Recording.cells Cell.score notebookId cells opened =
        .ok next ∧
      Updated notebookId opened
        ((opened.book.notebook notebookId).afterCells cells)
        next := by
  rcases exists_cells_iff.2 (scoresAll_score cells) with
    ⟨next, hNext⟩
  refine ⟨next, hNext, ?_⟩
  rw [← afterCellsBy_score]
  exact updated_of_cells hNext

end Recording

end NotebookGrading
