import NotebookGrading.Gradebook.Recording
import NotebookGrading.Proofs.Gradebook.Entries

/-
  What recording a notebook does to a gradebook.

  Recording is a row of automatic changes of one notebook,
  whatever scores the cells. Each of them acts on the record
  of the notebook alone.

  Key definitions include:
    * `NotebookRecord.Change.IsAutomatic`
    * `OpenGradebook.changes`
    * `NotebookRecord.afterCell`
    * `NotebookRecord.afterCells`
    * `Recording.Updated`

  Main statements:
    * `NotebookRecord.afterCells_induction`
    * `Recording.cells_automatic`
    * `Recording.identifiedCell_of_graded`
-/

namespace NotebookGrading

------------------------------------------------------------
-- Automatic Changes
------------------------------------------------------------

/- The changes that automatic grading makes. -/
def NotebookRecord.Change.IsAutomatic :
    NotebookRecord.Change → Prop
  | .setManualScore _ _ => False
  | .setManualComment _ _ => False
  | _ => True

namespace OpenGradebook

/- Record changes about a notebook in turn. -/
def changes
    (opened : OpenGradebook)
    (notebookId : String)
    (changes : List NotebookRecord.Change) :
    OpenGradebook :=
  changes.foldl
    (fun opened change => opened.change notebookId change)
    opened

theorem changes_append
    (opened : OpenGradebook)
    (notebookId : String)
    (first second : List NotebookRecord.Change) :
    opened.changes notebookId (first ++ second) =
      (opened.changes notebookId first).changes
        notebookId second :=
  List.foldl_append

end OpenGradebook

namespace Recording

variable {extractor : ScoreExtractor}
variable {notebookId id : String}
variable {opened next : OpenGradebook}

/-
  A later state of an open gradebook that automatic changes
  of one notebook lead to.
-/
def Automatic
    (notebookId : String)
    (opened next : OpenGradebook) : Prop :=
  ∃ changes : List NotebookRecord.Change,
    (∀ change ∈ changes, change.IsAutomatic) ∧
      next = opened.changes notebookId changes

theorem Automatic.refl
    (notebookId : String)
    (opened : OpenGradebook) :
    Automatic notebookId opened opened :=
  ⟨[], by simp, rfl⟩

theorem Automatic.trans
    {between : OpenGradebook}
    (hFirst : Automatic notebookId opened between)
    (hSecond : Automatic notebookId between next) :
    Automatic notebookId opened next := by
  rcases hFirst with ⟨first, hFirst, rfl⟩
  rcases hSecond with ⟨second, hSecond, rfl⟩
  refine ⟨first ++ second, ?_, ?_⟩
  · intro change hMem
    rcases List.mem_append.1 hMem with hMem | hMem
    · exact hFirst change hMem
    · exact hSecond change hMem
  · rw [OpenGradebook.changes_append]

theorem Automatic.single
    {change : NotebookRecord.Change}
    (h : change.IsAutomatic) :
    Automatic notebookId opened
      (opened.change notebookId change) :=
  ⟨[change], by simpa using h, rfl⟩

theorem gradeCell_automatic
    {cell : Cell}
    (h :
      gradeCell extractor notebookId id cell opened =
        .ok next) :
    Automatic notebookId opened next := by
  unfold gradeCell at h
  cases hScore : extractor cell with
  | error e => simp [hScore] at h
  | ok score =>
      simp only [hScore, Except.ok.injEq] at h
      rw [← h]
      have hRegistered :
          Automatic notebookId opened
            (opened.change notebookId
              (.registerGradeCell
                ⟨id, cell.points, cell.cellType⟩)) :=
        Automatic.single trivial
      exact hRegistered.trans (Automatic.single trivial)

theorem taskCell_automatic
    (cell : Cell) :
    Automatic notebookId opened
      (taskCell notebookId id cell opened) := by
  unfold taskCell
  split
  · exact Automatic.single trivial
  · exact Automatic.refl notebookId opened

theorem solutionCell_automatic
    (cell : Cell) :
    Automatic notebookId opened
      (solutionCell notebookId id cell opened) := by
  unfold solutionCell
  split
  · exact Automatic.single trivial
  · exact Automatic.refl notebookId opened

theorem commentCell_automatic
    (cell : Cell) :
    Automatic notebookId opened
      (commentCell notebookId id cell opened) :=
  ((taskCell_automatic cell).trans
    (solutionCell_automatic cell)).trans
      (Automatic.single trivial)

theorem identifiedCell_automatic
    {cell : Cell}
    (h :
      identifiedCell extractor notebookId id cell opened =
        .ok next) :
    Automatic notebookId opened next := by
  unfold identifiedCell at h
  by_cases hGrade : cell.isGrade
  · cases hGraded :
        gradeCell extractor notebookId id cell opened with
    | error e => simp [hGrade, hGraded] at h
    | ok graded =>
        have hFirst := gradeCell_automatic hGraded
        simp only [hGrade, if_true, hGraded,
          Except.ok.injEq] at h
        rw [← h]
        split
        · exact hFirst.trans (commentCell_automatic cell)
        · exact hFirst
  · simp only [hGrade] at h
    rw [← Except.ok.inj h]
    split
    · exact commentCell_automatic cell
    · exact Automatic.refl notebookId opened

theorem cell_automatic
    {cell : Cell}
    (h :
      Recording.cell extractor notebookId cell opened =
        .ok next) :
    Automatic notebookId opened next := by
  unfold Recording.cell at h
  cases hId : cell.gradeId with
  | none =>
      simp only [hId, Except.ok.injEq] at h
      rw [← h]
      exact Automatic.refl notebookId opened
  | some id =>
      simp only [hId] at h
      exact identifiedCell_automatic h

/-
  Recording cells is a row of automatic changes of their
  notebook.
-/
theorem cells_automatic
    {cells : List Cell}
    (h :
      Recording.cells extractor notebookId cells opened =
        .ok next) :
    Automatic notebookId opened next := by
  induction cells generalizing opened with
  | nil =>
      rw [← Except.ok.inj h]
      exact Automatic.refl notebookId opened
  | cons cell rest ih =>
      unfold Recording.cells at h
      cases hCell :
          Recording.cell extractor notebookId cell
            opened with
      | error e => simp [hCell] at h
      | ok recorded =>
          simp only [hCell] at h
          exact (cell_automatic hCell).trans (ih h)

end Recording

------------------------------------------------------------
-- Records After Cells
------------------------------------------------------------

/- A grade with the automatic score of a cell. -/
def Grade.scoredBy
    (grade : Grade)
    (cell : Cell) : Grade :=
  { grade with
    autoScore := cell.autoScore
    needsManualGrade :=
      grade.manualScore.isSome || cell.autoScore.isNone }

/- A comment with the automatic part of a cell. -/
def Comment.writtenBy
    (comment : Comment)
    (cell : Cell) : Comment :=
  { comment with autoComment := Recording.autoComment cell }

namespace NotebookRecord

/- The record after a grade cell with an id. -/
def afterGradeCell
    (record : NotebookRecord)
    (id : String)
    (cell : Cell) : NotebookRecord :=
  let registered :=
    record.registerGradeCell ⟨id, cell.points, cell.cellType⟩
  registered.addGrade
    ((registered.gradeOf id).scoredBy cell)

/- The record with a solution or task cell registered. -/
def withCommentCell
    (record : NotebookRecord)
    (id : String)
    (cell : Cell) : NotebookRecord :=
  let withTask :=
    if cell.isTask then
      record.registerTaskCell ⟨id, cell.points, cell.cellType⟩
    else
      record
  if cell.isSolution then
    withTask.registerSolutionCell ⟨id, cell.cellType⟩
  else
    withTask

/- The record after a solution or task cell with an id. -/
def afterCommentCell
    (record : NotebookRecord)
    (id : String)
    (cell : Cell) : NotebookRecord :=
  let registered := record.withCommentCell id cell
  registered.addComment
    ((registered.commentOf id).writtenBy cell)

/- The record after a cell with an id. -/
def afterIdentifiedCell
    (record : NotebookRecord)
    (id : String)
    (cell : Cell) : NotebookRecord :=
  let graded :=
    if cell.isGrade then
      record.afterGradeCell id cell
    else
      record
  if Recording.needsComment cell then
    graded.afterCommentCell id cell
  else
    graded

/- The record after a cell that is scored by its outputs. -/
def afterCell
    (record : NotebookRecord)
    (cell : Cell) : NotebookRecord :=
  match cell.gradeId with
  | none => record
  | some id => record.afterIdentifiedCell id cell

/- The record after cells that are scored by their outputs. -/
def afterCells
    (record : NotebookRecord)
    (cells : List Cell) : NotebookRecord :=
  cells.foldl afterCell record

/- What every cell with an id keeps is kept by all cells. -/
theorem afterCells_induction
    {P : NotebookRecord → Prop}
    (hCell :
      ∀ record id cell,
        P record → P (record.afterIdentifiedCell id cell))
    {record : NotebookRecord}
    (h : P record)
    (cells : List Cell) :
    P (record.afterCells cells) := by
  induction cells generalizing record with
  | nil => exact h
  | cons cell rest ih =>
      apply ih
      unfold afterCell
      cases cell.gradeId with
      | none => exact h
      | some id => exact hCell record id cell h

end NotebookRecord

------------------------------------------------------------
-- Recording Acts On The Record
------------------------------------------------------------

namespace Recording

variable {notebookId id : String}

/-
  A state of an open gradebook in which the record of one
  notebook has become the given one, and nothing else has
  changed.
-/
structure Updated
    (notebookId : String)
    (opened : OpenGradebook)
    (record : NotebookRecord)
    (next : OpenGradebook) : Prop where
  path_eq : next.path = opened.path
  notebook_eq : next.book.notebook notebookId = record
  notebook?_ne :
    ∀ other, notebookId ≠ other →
      next.book.notebook? other = opened.book.notebook? other

theorem Updated.refl
    (notebookId : String)
    (opened : OpenGradebook) :
    Updated notebookId opened
      (opened.book.notebook notebookId) opened :=
  ⟨rfl, rfl, fun _ _ => rfl⟩

theorem Updated.change
    {opened next : OpenGradebook}
    {record : NotebookRecord}
    (h : Updated notebookId opened record next)
    (change : NotebookRecord.Change) :
    Updated notebookId opened (record.apply change)
      (next.change notebookId change) := by
  refine ⟨h.path_eq, ?_, ?_⟩
  · rw [← h.notebook_eq]
    exact (next.book.notebook_apply notebookId notebookId
      change).trans (if_pos rfl)
  · intro other hNe
    rw [← h.notebook?_ne other hNe]
    exact next.book.notebook?_apply_ne hNe change

theorem Updated.findGrade_eq
    {opened next : OpenGradebook}
    {record : NotebookRecord}
    (h : Updated notebookId opened record next)
    (id : String) :
    next.book.findGrade notebookId id =
      record.gradeOf id := by
  rw [next.book.findGrade_eq, h.notebook_eq]

theorem Updated.findComment_eq
    {opened next : OpenGradebook}
    {record : NotebookRecord}
    (h : Updated notebookId opened record next)
    (id : String) :
    next.book.findComment notebookId id =
      record.commentOf id := by
  rw [next.book.findComment_eq, h.notebook_eq]

theorem taskCell_updated
    {opened before : OpenGradebook}
    {record : NotebookRecord}
    (h : Updated notebookId opened record before)
    (id : String)
    (cell : Cell) :
    Updated notebookId opened
      (if cell.isTask then
        record.registerTaskCell
          ⟨id, cell.points, cell.cellType⟩
      else
        record)
      (taskCell notebookId id cell before) := by
  unfold taskCell
  by_cases hTask : cell.isTask
  · simp only [hTask, if_true]
    exact h.change
      (.registerTaskCell ⟨id, cell.points, cell.cellType⟩)
  · simp only [hTask]
    exact h

theorem withCommentCell_updated
    {opened before : OpenGradebook}
    {record : NotebookRecord}
    (h : Updated notebookId opened record before)
    (id : String)
    (cell : Cell) :
    Updated notebookId opened
      (record.withCommentCell id cell)
      (solutionCell notebookId id cell
        (taskCell notebookId id cell before)) := by
  have hTask := taskCell_updated h id cell
  unfold solutionCell NotebookRecord.withCommentCell
  by_cases hSolution : cell.isSolution
  · simp only [hSolution, if_true]
    exact hTask.change
      (.registerSolutionCell ⟨id, cell.cellType⟩)
  · simp only [hSolution]
    exact hTask

theorem commentCell_updated
    {opened before : OpenGradebook}
    {record : NotebookRecord}
    (h : Updated notebookId opened record before)
    (cell : Cell) :
    Updated notebookId opened
      (record.afterCommentCell id cell)
      (commentCell notebookId id cell before) := by
  have hRegistered := withCommentCell_updated h id cell
  have hFound := hRegistered.findComment_eq id
  have hAdded :=
    hRegistered.change
      (.addComment
        (((record.withCommentCell id cell).commentOf
          id).writtenBy cell))
  simp only [commentCell, hFound]
  exact hAdded

/- Behind the grade part a comment is all that is left. -/
theorem identifiedCell_of_graded
    {extractor : ScoreExtractor}
    {opened before graded : OpenGradebook}
    {record : NotebookRecord}
    {cell : Cell}
    (hGraded :
      (if cell.isGrade then
        gradeCell extractor notebookId id cell before
      else
        .ok before) = .ok graded)
    (h : Updated notebookId opened record graded) :
    ∃ next,
      identifiedCell extractor notebookId id cell before =
        .ok next ∧
      Updated notebookId opened
        (if needsComment cell then
          record.afterCommentCell id cell
        else
          record) next := by
  simp only [identifiedCell, hGraded]
  refine ⟨_, rfl, ?_⟩
  by_cases hComment : needsComment cell
  · simp only [hComment, if_true]
    exact commentCell_updated h cell
  · simp only [hComment]
    exact h

end Recording

end NotebookGrading
