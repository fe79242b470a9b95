import NotebookGrading.Proofs.Gradebook.Recording

/-
  The record of a notebook after a recorded cell.

  A grade cell is registered and gets its automatic score,
  a solution or task cell is registered and gets its
  automatic comment. Everything about other ids is as
  before.

  Main statements:
    * `NotebookRecord.gradeCells_afterIdentifiedCell`
    * `NotebookRecord.solutionCells_afterIdentifiedCell`
    * `NotebookRecord.taskCells_afterIdentifiedCell`
    * `NotebookRecord.grade?_afterIdentifiedCell`
    * `NotebookRecord.comment?_afterIdentifiedCell`
    * `NotebookRecord.nodup_gradeIds_afterIdentifiedCell`
-/

namespace NotebookGrading

------------------------------------------------------------
-- Entries Recorded Again
------------------------------------------------------------

/- An entry that is put back keeps its manual part. -/
@[simp]
theorem Grade.update_scoredBy
    (grade : Grade)
    (cell : Cell) :
    grade.update (grade.scoredBy cell) =
      grade.scoredBy cell := by
  simp [update, scoredBy]

@[simp]
theorem Comment.update_writtenBy
    (comment : Comment)
    (cell : Cell) :
    comment.update (comment.writtenBy cell) =
      comment.writtenBy cell := by
  simp [update, writtenBy]

@[simp]
theorem Grade.gradeId_scoredBy
    (grade : Grade)
    (cell : Cell) :
    (grade.scoredBy cell).gradeId = grade.gradeId :=
  rfl

@[simp]
theorem Comment.gradeId_writtenBy
    (comment : Comment)
    (cell : Cell) :
    (comment.writtenBy cell).gradeId = comment.gradeId :=
  rfl

namespace NotebookRecord

variable (record : NotebookRecord)
variable (id : String)
variable (cell : Cell)

------------------------------------------------------------
-- Grade Cells
------------------------------------------------------------

/- Registering a grade cell leaves the grades. -/
@[simp]
theorem gradeOf_registerGradeCell
    (registered : GradeCell)
    (gradeId : String) :
    (record.registerGradeCell registered).gradeOf gradeId =
      record.gradeOf gradeId :=
  rfl

@[simp]
theorem gradeCells_afterGradeCell :
    (record.afterGradeCell id cell).gradeCells =
      record.gradeCells.insert id
        ⟨id, cell.points, cell.cellType⟩ :=
  rfl

@[simp]
theorem solutionCells_afterGradeCell :
    (record.afterGradeCell id cell).solutionCells =
      record.solutionCells :=
  rfl

@[simp]
theorem taskCells_afterGradeCell :
    (record.afterGradeCell id cell).taskCells =
      record.taskCells :=
  rfl

@[simp]
theorem comments_afterGradeCell :
    (record.afterGradeCell id cell).comments =
      record.comments :=
  rfl

@[simp]
theorem comment?_afterGradeCell
    (other : String) :
    (record.afterGradeCell id cell).comment? other =
      record.comment? other :=
  rfl

@[simp]
theorem commentOf_afterGradeCell
    (other : String) :
    (record.afterGradeCell id cell).commentOf other =
      record.commentOf other :=
  rfl

theorem grade?_afterGradeCell
    (other : String) :
    (record.afterGradeCell id cell).grade? other =
      if id = other then
        some ((record.gradeOf other).scoredBy cell)
      else
        record.grade? other := by
  unfold afterGradeCell
  simp only [gradeOf_registerGradeCell]
  rw [grade?_addGrade]
  by_cases hId : id = other
  · subst hId
    rw [if_pos (by simp), if_pos rfl]
    change
      some
        (((record.grade? id).map
          (fun old =>
            old.update
              ((record.gradeOf id).scoredBy cell))).getD
                ((record.gradeOf id).scoredBy cell)) = _
    cases hGrade : record.grade? id with
    | none => rfl
    | some grade =>
        have hOf : record.gradeOf id = grade := by
          simp [gradeOf, hGrade]
        simp [hOf]
  · rw [if_neg (by simpa using hId), if_neg hId]
    rfl

/- No grade id is given twice. -/
theorem nodup_gradeIds_afterGradeCell
    {record : NotebookRecord}
    (h : (record.grades.map Grade.gradeId).Nodup) :
    ((record.afterGradeCell id cell).grades.map
      Grade.gradeId).Nodup :=
  nodup_gradeIds_addGrade (record.registerGradeCell
    ⟨id, cell.points, cell.cellType⟩) _ h

------------------------------------------------------------
-- Solution And Task Cells
------------------------------------------------------------

@[simp]
theorem gradeCells_withCommentCell :
    (record.withCommentCell id cell).gradeCells =
      record.gradeCells := by
  unfold withCommentCell
  split <;> split <;> rfl

@[simp]
theorem grades_withCommentCell :
    (record.withCommentCell id cell).grades =
      record.grades := by
  unfold withCommentCell
  split <;> split <;> rfl

@[simp]
theorem comments_withCommentCell :
    (record.withCommentCell id cell).comments =
      record.comments := by
  unfold withCommentCell
  split <;> split <;> rfl

theorem solutionCells_withCommentCell :
    (record.withCommentCell id cell).solutionCells =
      if cell.isSolution then
        record.solutionCells.insert id ⟨id, cell.cellType⟩
      else
        record.solutionCells := by
  unfold withCommentCell
  split <;> split <;> rfl

theorem taskCells_withCommentCell :
    (record.withCommentCell id cell).taskCells =
      if cell.isTask then
        record.taskCells.insert id
          ⟨id, cell.points, cell.cellType⟩
      else
        record.taskCells := by
  unfold withCommentCell
  split <;> split <;> rfl

@[simp]
theorem commentOf_withCommentCell
    (gradeId : String) :
    (record.withCommentCell id cell).commentOf gradeId =
      record.commentOf gradeId := by
  simp [commentOf, comment?]

@[simp]
theorem gradeCells_afterCommentCell :
    (record.afterCommentCell id cell).gradeCells =
      record.gradeCells :=
  gradeCells_withCommentCell record id cell

@[simp]
theorem grades_afterCommentCell :
    (record.afterCommentCell id cell).grades =
      record.grades :=
  grades_withCommentCell record id cell

theorem solutionCells_afterCommentCell :
    (record.afterCommentCell id cell).solutionCells =
      if cell.isSolution then
        record.solutionCells.insert id ⟨id, cell.cellType⟩
      else
        record.solutionCells :=
  solutionCells_withCommentCell record id cell

theorem taskCells_afterCommentCell :
    (record.afterCommentCell id cell).taskCells =
      if cell.isTask then
        record.taskCells.insert id
          ⟨id, cell.points, cell.cellType⟩
      else
        record.taskCells :=
  taskCells_withCommentCell record id cell

theorem comment?_afterCommentCell
    (other : String) :
    (record.afterCommentCell id cell).comment? other =
      if id = other then
        some ((record.commentOf other).writtenBy cell)
      else
        record.comment? other := by
  have hBefore :
      ∀ key,
        (record.withCommentCell id cell).comment? key =
          record.comment? key := by
    intro key
    simp [comment?]
  unfold afterCommentCell
  simp only [commentOf_withCommentCell]
  rw [comment?_addComment]
  by_cases hId : id = other
  · subst hId
    rw [if_pos (by simp), if_pos rfl, hBefore]
    cases hComment : record.comment? id with
    | none => rfl
    | some comment =>
        have hOf : record.commentOf id = comment := by
          simp [commentOf, hComment]
        simp [hOf]
  · rw [if_neg (by simpa using hId), if_neg hId, hBefore]

------------------------------------------------------------
-- Cells With An Id
------------------------------------------------------------

/- A solution always calls for a comment. -/
theorem gradeCells_afterIdentifiedCell :
    (record.afterIdentifiedCell id cell).gradeCells =
      if cell.isGrade then
        record.gradeCells.insert id
          ⟨id, cell.points, cell.cellType⟩
      else
        record.gradeCells := by
  unfold afterIdentifiedCell
  by_cases hGrade : cell.isGrade <;>
    by_cases hComment : Recording.needsComment cell <;>
      simp [hGrade, hComment]

theorem solutionCells_afterIdentifiedCell :
    (record.afterIdentifiedCell id cell).solutionCells =
      if cell.isSolution then
        record.solutionCells.insert id ⟨id, cell.cellType⟩
      else
        record.solutionCells := by
  unfold afterIdentifiedCell
  by_cases hGrade : cell.isGrade <;>
    by_cases hSolution : cell.isSolution <;>
      by_cases hTask : cell.isTask <;>
        simp [hGrade, hSolution, hTask,
          Recording.needsComment,
          solutionCells_afterCommentCell]

theorem taskCells_afterIdentifiedCell :
    (record.afterIdentifiedCell id cell).taskCells =
      if cell.isTask then
        record.taskCells.insert id
          ⟨id, cell.points, cell.cellType⟩
      else
        record.taskCells := by
  unfold afterIdentifiedCell
  by_cases hGrade : cell.isGrade <;>
    by_cases hSolution : cell.isSolution <;>
      by_cases hTask : cell.isTask <;>
        simp [hGrade, hSolution, hTask,
          Recording.needsComment,
          taskCells_afterCommentCell]

/- Only scoring changes the grades. -/
theorem grades_afterIdentifiedCell :
    (record.afterIdentifiedCell id cell).grades =
      if cell.isGrade then
        (record.afterGradeCell id cell).grades
      else
        record.grades := by
  unfold afterIdentifiedCell
  by_cases hGrade : cell.isGrade <;>
    by_cases hComment : Recording.needsComment cell <;>
      simp [hGrade, hComment]

theorem grade?_afterIdentifiedCell
    (other : String) :
    (record.afterIdentifiedCell id cell).grade? other =
      if cell.isGrade ∧ id = other then
        some ((record.gradeOf other).scoredBy cell)
      else
        record.grade? other := by
  have hScored := record.grade?_afterGradeCell id cell other
  unfold grade? at hScored ⊢
  rw [grades_afterIdentifiedCell]
  by_cases hGrade : cell.isGrade
  · simp only [hGrade, if_true, true_and]
    exact hScored
  · simp [hGrade]

theorem comment?_afterIdentifiedCell
    (other : String) :
    (record.afterIdentifiedCell id cell).comment? other =
      if Recording.needsComment cell ∧ id = other then
        some ((record.commentOf other).writtenBy cell)
      else
        record.comment? other := by
  unfold afterIdentifiedCell
  by_cases hGrade : cell.isGrade <;>
    by_cases hComment : Recording.needsComment cell <;>
      simp [hGrade, hComment, comment?_afterCommentCell]

theorem nodup_gradeIds_afterIdentifiedCell
    {record : NotebookRecord}
    (h : (record.grades.map Grade.gradeId).Nodup) :
    ((record.afterIdentifiedCell id cell).grades.map
      Grade.gradeId).Nodup := by
  rw [grades_afterIdentifiedCell]
  by_cases hGrade : cell.isGrade
  · rw [if_pos hGrade]
    exact nodup_gradeIds_afterGradeCell id cell h
  · rw [if_neg hGrade]
    exact h

end NotebookRecord

end NotebookGrading
