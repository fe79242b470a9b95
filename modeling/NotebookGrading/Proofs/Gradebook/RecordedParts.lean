import NotebookGrading.Proofs.Gradebook.RecordedCells
import NotebookGrading.Proofs.Gradebook.Revisions
import NotebookGrading.Proofs.Tables

/-
  The record of a notebook after its cells, part by part.

  The cells of one role make up what is stored in one table
  or revised in one list, in their order, and no part of the
  record looks at another. The maximum is that of the tables
  once a cell with points has been registered. So recording
  the same cells twice is recording them once, also when
  several cells have the same id.

  Key definitions include:
    * `Cell.underId`
    * `Cell.registeredGrade?`, `Cell.registeredTask?`
    * `Cell.gradeRevision?`, `Cell.commentRevision?`

  Main statements:
    * `NotebookRecord.gradeCells_afterCells`
    * `NotebookRecord.taskCells_afterCells`
    * `NotebookRecord.maxScore_afterCells`
    * `NotebookRecord.grades_afterCells`
    * `NotebookRecord.comments_afterCells`
    * `NotebookRecord.afterCells_afterCells`
-/

namespace NotebookGrading

------------------------------------------------------------
-- What A Cell Contributes
------------------------------------------------------------

namespace Cell

/- Something that a cell with a role has under its id. -/
def underId
    {α : Type}
    (cell : Cell)
    (role : Bool)
    (make : String → α) : Option α :=
  if role then cell.gradeId.map make else none

theorem underId_eq_some_iff
    {α : Type}
    {cell : Cell}
    {role : Bool}
    {make : String → α}
    {value : α} :
    cell.underId role make = some value ↔
      role = true ∧
        ∃ id, cell.gradeId = some id ∧ make id = value := by
  unfold underId
  cases role with
  | true => simp
  | false => simp

theorem underId_eq_none_iff
    {α : Type}
    {cell : Cell}
    {role : Bool}
    {make : String → α} :
    cell.underId role make = none ↔
      (role = true → cell.gradeId = none) := by
  unfold underId
  cases role with
  | true => simp
  | false => simp

/- The entry of a grade cell. -/
def registeredGrade?
    (cell : Cell) : Option (String × GradeCell) :=
  cell.underId cell.isGrade
    (fun id => (id, ⟨id, cell.points, cell.cellType⟩))

/- The entry of a solution cell. -/
def registeredSolution?
    (cell : Cell) : Option (String × SolutionCell) :=
  cell.underId cell.isSolution
    (fun id => (id, ⟨id, cell.cellType⟩))

/- The entry of a task cell. -/
def registeredTask?
    (cell : Cell) : Option (String × TaskCell) :=
  cell.underId cell.isTask
    (fun id => (id, ⟨id, cell.points, cell.cellType⟩))

/- What a grade cell does to the grades. -/
def gradeRevision?
    (cell : Cell) : Option (Revision Grade) :=
  cell.underId cell.isGrade
    (fun id => ⟨id, fun grade => grade.scoredBy cell⟩)

/- What a solution or task cell does to the comments. -/
def commentRevision?
    (cell : Cell) : Option (Revision Comment) :=
  cell.underId (Recording.needsComment cell)
    (fun id => ⟨id, fun comment => comment.writtenBy cell⟩)

/- The id of a cell whose points count. -/
def pointsId?
    (cell : Cell) : Option String :=
  cell.underId (cell.isGrade || cell.isTask)
    (fun id => id)

end Cell

------------------------------------------------------------
-- Single Cells
------------------------------------------------------------

/- A grade and a comment without any entries. -/
def Grade.fresh
    (gradeId : String) : Grade :=
  { gradeId := gradeId }

def Comment.fresh
    (gradeId : String) : Comment :=
  { gradeId := gradeId }

namespace NotebookRecord

variable (record : NotebookRecord)
variable (id : String)
variable (cell : Cell)

/- A changed grade that is recorded is a revised one. -/
theorem grades_addGrade
    {change : Grade → Grade}
    (hKey :
      ∀ grade, (change grade).gradeId = grade.gradeId)
    (hManual :
      ∀ grade, grade.update (change grade) = change grade) :
    (record.addGrade (change (record.gradeOf id))).grades =
      Revision.apply Grade.gradeId Grade.fresh record.grades
        ⟨id, change⟩ := by
  unfold addGrade
  simp only [hKey, gradeId_gradeOf]
  apply upsert_congr
  · intro grade hFirst
    have hFound : record.grade? id = some grade := hFirst
    have hOf : record.gradeOf id = grade := by
      rw [gradeOf, hFound]
      rfl
    rw [hOf, hManual]
  · intro hNone
    have hMissing : record.grade? id = none := hNone
    have hOf : record.gradeOf id = Grade.fresh id := by
      rw [gradeOf, hMissing]
      rfl
    rw [hOf]

/- Scoring a cell revises one grade. -/
theorem grades_afterGradeCell :
    (record.afterGradeCell id cell).grades =
      Revision.apply Grade.gradeId Grade.fresh record.grades
        ⟨id, fun grade => grade.scoredBy cell⟩ :=
  grades_addGrade
    (record.registerGradeCell
      ⟨id, cell.points, cell.cellType⟩) id
    (fun grade => grade.gradeId_scoredBy cell)
    (fun grade => grade.update_scoredBy cell)

/- Commenting on a cell revises one comment. -/
theorem comments_afterCommentCell :
    (record.afterCommentCell id cell).comments =
      Revision.apply Comment.gradeId Comment.fresh
        record.comments
        ⟨id, fun comment => comment.writtenBy cell⟩ := by
  unfold afterCommentCell addComment
  simp only [comments_withCommentCell,
    commentOf_withCommentCell, Comment.gradeId_writtenBy,
    gradeId_commentOf]
  apply upsert_congr
  · intro comment hFirst
    have hOf : record.commentOf id = comment := by
      rw [commentOf, comment?, hFirst]
      rfl
    rw [hOf, Comment.update_writtenBy]
  · intro hNone
    have hOf : record.commentOf id = Comment.fresh id := by
      rw [commentOf, comment?, hNone]
      rfl
    rw [hOf]

theorem comments_afterIdentifiedCell :
    (record.afterIdentifiedCell id cell).comments =
      if Recording.needsComment cell then
        (record.afterCommentCell id cell).comments
      else
        record.comments := by
  unfold afterIdentifiedCell
  by_cases hGrade : cell.isGrade
  · by_cases hComment : Recording.needsComment cell
    · simp [hGrade, hComment, comments_afterCommentCell]
    · simp [hGrade, hComment]
  · simp only [hGrade]
    split
    · rfl
    · rfl

/- A cell contributes in one role to a part of the record. -/
theorem part_afterCell
    {α β : Type}
    {part : NotebookRecord → α}
    {step : α → β → α}
    {role : Bool}
    {make : String → β}
    (hCell :
      ∀ id,
        part (record.afterIdentifiedCell id cell) =
          if role then
            step (part record) (make id)
          else
            part record) :
    part (record.afterCell cell) =
      (cell.underId role make).toList.foldl step
        (part record) := by
  unfold afterCell Cell.underId
  cases cell.gradeId with
  | none => simp
  | some id =>
      simp only [hCell]
      split
      · rfl
      · rfl

theorem gradeCells_afterCell :
    (record.afterCell cell).gradeCells =
      record.gradeCells.insertAll
        cell.registeredGrade?.toList :=
  record.part_afterCell cell
    (fun id => record.gradeCells_afterIdentifiedCell id cell)

theorem solutionCells_afterCell :
    (record.afterCell cell).solutionCells =
      record.solutionCells.insertAll
        cell.registeredSolution?.toList :=
  record.part_afterCell cell
    (fun id =>
      record.solutionCells_afterIdentifiedCell id cell)

theorem taskCells_afterCell :
    (record.afterCell cell).taskCells =
      record.taskCells.insertAll
        cell.registeredTask?.toList :=
  record.part_afterCell cell
    (fun id => record.taskCells_afterIdentifiedCell id cell)

theorem grades_afterCell :
    (record.afterCell cell).grades =
      Revision.applyAll Grade.gradeId Grade.fresh
        record.grades cell.gradeRevision?.toList := by
  apply part_afterCell
  intro id
  rw [grades_afterIdentifiedCell, grades_afterGradeCell]

theorem comments_afterCell :
    (record.afterCell cell).comments =
      Revision.applyAll Comment.gradeId Comment.fresh
        record.comments cell.commentRevision?.toList := by
  apply part_afterCell
  intro id
  rw [comments_afterIdentifiedCell,
    comments_afterCommentCell]

@[simp]
theorem notebookId_afterCommentCell :
    (record.afterCommentCell id cell).notebookId =
      record.notebookId := by
  unfold afterCommentCell withCommentCell
  split <;> split <;> rfl

@[simp]
theorem notebookId_afterCell :
    (record.afterCell cell).notebookId =
      record.notebookId := by
  unfold afterCell afterIdentifiedCell
  cases cell.gradeId with
  | none => rfl
  | some id =>
      simp only
      split
      · rw [notebookId_afterCommentCell]
        split
        · rfl
        · rfl
      · split
        · rfl
        · rfl

theorem maxScore_afterCommentCell :
    (record.afterCommentCell id cell).maxScore =
      if cell.isTask then
        (record.afterCommentCell id cell).registeredPoints
      else
        record.maxScore := by
  unfold afterCommentCell withCommentCell
  split <;> split <;> rfl

/- Without a task no points are registered. -/
theorem registeredPoints_afterCommentCell
    (h : cell.isTask = false) :
    (record.afterCommentCell id cell).registeredPoints =
      record.registeredPoints := by
  unfold registeredPoints
  rw [gradeCells_afterCommentCell,
    taskCells_afterCommentCell, h]
  rfl

theorem maxScore_afterIdentifiedCell :
    (record.afterIdentifiedCell id cell).maxScore =
      if cell.isGrade || cell.isTask then
        (record.afterIdentifiedCell id cell).registeredPoints
      else
        record.maxScore := by
  unfold afterIdentifiedCell
  by_cases hComment : Recording.needsComment cell
  · simp only [hComment, if_true]
    rw [maxScore_afterCommentCell]
    by_cases hTask : cell.isTask
    · simp [hTask]
    · rw [Bool.not_eq_true] at hTask
      rw [registeredPoints_afterCommentCell _ _ _ hTask,
        hTask]
      by_cases hGrade : cell.isGrade
      · simp only [hGrade, if_true]
        rfl
      · simp [hGrade]
  · have hTask : cell.isTask = false := by
      unfold Recording.needsComment at hComment
      grind
    simp only [hComment, hTask]
    by_cases hGrade : cell.isGrade
    · simp only [hGrade, if_true]
      rfl
    · simp [hGrade]

/- Registering points brings the maximum up to date. -/
theorem maxScore_afterCell :
    (record.afterCell cell).maxScore =
      if cell.pointsId?.isSome then
        (record.afterCell cell).registeredPoints
      else
        record.maxScore := by
  unfold afterCell Cell.pointsId? Cell.underId
  cases cell.gradeId with
  | none => simp
  | some id =>
      simp only [maxScore_afterIdentifiedCell]
      split
      · rfl
      · rfl

------------------------------------------------------------
-- Cells In Order
------------------------------------------------------------

/-
  A part of the record to which each cell contributes at
  most one thing holds the contributions in order.
-/
theorem part_afterCells
    {α β : Type}
    {part : NotebookRecord → α}
    {step : α → β → α}
    {contribution? : Cell → Option β}
    (hCell :
      ∀ record cell,
        part (afterCell record cell) =
          (contribution? cell).toList.foldl step
            (part record))
    (record : NotebookRecord)
    (cells : List Cell) :
    part (record.afterCells cells) =
      (cells.filterMap contribution?).foldl step
        (part record) := by
  induction cells generalizing record with
  | nil => rfl
  | cons cell rest ih =>
      refine (ih (record.afterCell cell)).trans ?_
      rw [hCell, List.filterMap_cons]
      cases contribution? cell with
      | none => rfl
      | some value => rfl

variable (cells : List Cell)

theorem gradeCells_afterCells :
    (record.afterCells cells).gradeCells =
      record.gradeCells.insertAll
        (cells.filterMap Cell.registeredGrade?) :=
  part_afterCells gradeCells_afterCell record cells

theorem solutionCells_afterCells :
    (record.afterCells cells).solutionCells =
      record.solutionCells.insertAll
        (cells.filterMap Cell.registeredSolution?) :=
  part_afterCells solutionCells_afterCell record cells

theorem taskCells_afterCells :
    (record.afterCells cells).taskCells =
      record.taskCells.insertAll
        (cells.filterMap Cell.registeredTask?) :=
  part_afterCells taskCells_afterCell record cells

theorem grades_afterCells :
    (record.afterCells cells).grades =
      Revision.applyAll Grade.gradeId Grade.fresh
        record.grades
        (cells.filterMap Cell.gradeRevision?) :=
  part_afterCells grades_afterCell record cells

theorem comments_afterCells :
    (record.afterCells cells).comments =
      Revision.applyAll Comment.gradeId Comment.fresh
        record.comments
        (cells.filterMap Cell.commentRevision?) :=
  part_afterCells comments_afterCell record cells

@[simp]
theorem notebookId_afterCells :
    (record.afterCells cells).notebookId =
      record.notebookId := by
  induction cells generalizing record with
  | nil => rfl
  | cons cell rest ih =>
      exact
        (ih (record.afterCell cell)).trans
          (record.notebookId_afterCell cell)

/- A cell without points leaves the registered points. -/
theorem registeredPoints_afterCell
    (h : cell.pointsId? = none) :
    (record.afterCell cell).registeredPoints =
      record.registeredPoints := by
  have hEntries :
      cell.registeredGrade? = none ∧
        cell.registeredTask? = none := by
    unfold Cell.pointsId? at h
    unfold Cell.registeredGrade? Cell.registeredTask?
    simp only [Cell.underId_eq_none_iff, Bool.or_eq_true]
      at h ⊢
    exact ⟨fun hGrade => h (.inl hGrade),
      fun hTask => h (.inr hTask)⟩
  unfold registeredPoints
  rw [gradeCells_afterCell, taskCells_afterCell,
    hEntries.1, hEntries.2]
  rfl

/-
  The maximum is the sum of the registered points once a
  cell with points is among the cells.
-/
theorem maxScore_afterCells :
    (record.afterCells cells).maxScore =
      if cells.any (·.pointsId?.isSome) then
        (record.afterCells cells).registeredPoints
      else
        record.maxScore := by
  induction cells using List.reverseRecOn with
  | nil => rfl
  | append_singleton front last ih =>
      have hSplit :
          record.afterCells (front ++ [last]) =
            (record.afterCells front).afterCell last := by
        simp [afterCells]
      rw [hSplit, maxScore_afterCell]
      cases hPoints : last.pointsId? with
      | some id => simp [hPoints]
      | none =>
          rw [registeredPoints_afterCell _ _ hPoints, ih]
          simp [hPoints]

------------------------------------------------------------
-- Cells Recorded Again
------------------------------------------------------------

/- What cells do to entries keeps the keys of these. -/
theorem keepKeys_underId
    {α : Type}
    {key : α → String}
    {fresh : String → α}
    {change : Cell → α → α}
    (role : Cell → Bool)
    (hFresh : ∀ id, key (fresh id) = id)
    (hKey :
      ∀ cell value, key (change cell value) = key value) :
    Revision.KeepKeys key fresh
      (cells.filterMap
        (fun cell =>
          cell.underId (role cell)
            (fun id => ⟨id, change cell⟩))) where
  key_fresh := hFresh
  key_change := by
    intro revision hMem value
    rcases List.mem_filterMap.1 hMem with
      ⟨cell, -, hRevision⟩
    rcases Cell.underId_eq_some_iff.1 hRevision with
      ⟨-, id, -, rfl⟩
    exact hKey cell value

/-
  Cells that write the same fields make up for each other
  where they have the same id.
-/
theorem overwrite_underId
    {α : Type}
    {key : α → String}
    {fresh : String → α}
    {change : Cell → α → α}
    (role : Cell → Bool)
    (hFresh : ∀ id, key (fresh id) = id)
    (hKey : ∀ cell value, key (change cell value) = key value)
    (hOver :
      ∀ first second value,
        change second (change first value) =
          change second value) :
    Revision.Overwrite key fresh
      (cells.filterMap
        (fun cell =>
          cell.underId (role cell)
            (fun id => ⟨id, change cell⟩))) where
  key_fresh := hFresh
  key_change :=
    (keepKeys_underId cells role hFresh hKey).key_change
  overwrites := by
    intro earlier hEarlier later hLater _ value
    rcases List.mem_filterMap.1 hEarlier with
      ⟨first, -, hFirst⟩
    rcases List.mem_filterMap.1 hLater with
      ⟨second, -, hSecond⟩
    rcases Cell.underId_eq_some_iff.1 hFirst with
      ⟨-, id, -, rfl⟩
    rcases Cell.underId_eq_some_iff.1 hSecond with
      ⟨-, other, -, rfl⟩
    exact hOver first second value

/- The last score of a grade is the one that counts. -/
theorem overwrite_gradeRevisions :
    Revision.Overwrite Grade.gradeId Grade.fresh
      (cells.filterMap Cell.gradeRevision?) :=
  overwrite_underId cells Cell.isGrade (fun _ => rfl)
    (fun _ _ => rfl) (fun _ _ _ => rfl)

/- The last automatic comment is the one that counts. -/
theorem overwrite_commentRevisions :
    Revision.Overwrite Comment.gradeId Comment.fresh
      (cells.filterMap Cell.commentRevision?) :=
  overwrite_underId cells Recording.needsComment
    (fun _ => rfl) (fun _ _ => rfl) (fun _ _ _ => rfl)

/- Records with the same parts are equal. -/
theorem ext_parts
    {first second : NotebookRecord}
    (hId : first.notebookId = second.notebookId)
    (hMax : first.maxScore = second.maxScore)
    (hGradeCells : first.gradeCells = second.gradeCells)
    (hSolutionCells :
      first.solutionCells = second.solutionCells)
    (hTaskCells : first.taskCells = second.taskCells)
    (hGrades : first.grades = second.grades)
    (hComments : first.comments = second.comments) :
    first = second := by
  cases first
  cases second
  simp only [mk.injEq]
  exact
    ⟨hId, hMax, hGradeCells, hSolutionCells, hTaskCells,
      hGrades, hComments⟩

/-
  Recording the same cells once more changes nothing,
  whatever the record held before them.
-/
theorem afterCells_afterCells :
    (record.afterCells cells).afterCells cells =
      record.afterCells cells := by
  have hGradeCells :
      ((record.afterCells cells).afterCells
        cells).gradeCells =
        (record.afterCells cells).gradeCells := by
    simp [gradeCells_afterCells]
  have hTaskCells :
      ((record.afterCells cells).afterCells
        cells).taskCells =
        (record.afterCells cells).taskCells := by
    simp [taskCells_afterCells]
  have hMax :
      ((record.afterCells cells).afterCells
        cells).maxScore =
        (record.afterCells cells).maxScore := by
    rw [maxScore_afterCells (record.afterCells cells)]
    split
    · rename_i hPoints
      rw [maxScore_afterCells record, if_pos hPoints]
      unfold registeredPoints
      rw [hGradeCells, hTaskCells]
    · rfl
  apply ext_parts _ hMax hGradeCells _ hTaskCells
  · rw [grades_afterCells, grades_afterCells]
    exact
      (overwrite_gradeRevisions cells).applyAll_applyAll
        record.grades
  · rw [comments_afterCells, comments_afterCells]
    exact
      (overwrite_commentRevisions cells).applyAll_applyAll
        record.comments
  · simp
  · simp [solutionCells_afterCells]

end NotebookRecord

end NotebookGrading
