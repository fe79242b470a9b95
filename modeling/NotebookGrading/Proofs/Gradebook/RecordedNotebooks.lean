import NotebookGrading.Proofs.Gradebook.ExtractedScores
import NotebookGrading.Proofs.Gradebook.Histories

/-
  The exact effect of recording a notebook.

  A cell acts on what a record holds about the id of the
  cell and on nothing else. Where no two recorded cells have
  the same id, every id is therefore acted on by one cell at
  most, starting from what the record held at first.

  Key definitions include:
    * `Cell.recordedId?`
    * `NotebookRecord.Holding`
    * `Recording.IsGraded`
    * `Recording.IsCommentedOn`
    * `Recording.KeepsOtherIds`

  Main statements:
    * `NotebookRecord.holding_afterCell`
    * `NotebookRecord.holding_afterCells_of_mem`
    * `NotebookRecord.holding_afterCells_of_not_mem`
    * `Recording.cells_exact`
-/

namespace NotebookGrading

------------------------------------------------------------
-- Recorded Cells
------------------------------------------------------------

/- The id under which something is recorded for a cell. -/
def Cell.recordedId?
    (cell : Cell) : Option String :=
  if cell.isGrade || Recording.needsComment cell then
    cell.gradeId
  else
    none

namespace NotebookRecord

/- All that a record holds about one id. -/
structure Holding where
  gradeCell : Option GradeCell
  solutionCell : Option SolutionCell
  taskCell : Option TaskCell
  grade : Option Grade
  comment : Option Comment

def holding
    (record : NotebookRecord)
    (id : String) : Holding :=
  ⟨record.gradeCells.find? id, record.solutionCells.find? id,
    record.taskCells.find? id, record.grade? id,
    record.comment? id⟩

/- What is held about the id of a cell after the cell. -/
def Holding.afterCell
    (held : Holding)
    (id : String)
    (cell : Cell) : Holding where
  gradeCell :=
    if cell.isGrade then
      some ⟨id, cell.points, cell.cellType⟩
    else
      held.gradeCell
  solutionCell :=
    if cell.isSolution then
      some ⟨id, cell.cellType⟩
    else
      held.solutionCell
  taskCell :=
    if cell.isTask then
      some ⟨id, cell.points, cell.cellType⟩
    else
      held.taskCell
  grade :=
    if cell.isGrade then
      some
        ((held.grade.getD { gradeId := id }).scoredBy cell)
    else
      held.grade
  comment :=
    if Recording.needsComment cell then
      some
        ((held.comment.getD { gradeId := id }).writtenBy
          cell)
    else
      held.comment

variable {record : NotebookRecord}
variable {id : String}
variable {cell : Cell}

/- A registered cell is looked up under its own id only. -/
theorem find?_registered
    {α : Type}
    (table : Table α)
    (registers : Bool)
    (id other : String)
    (value : α) :
    (if registers then table.insert id value
      else table).find? other =
      if id = other then
        if registers then some value else table.find? other
      else
        table.find? other := by
  by_cases hId : id = other
  · subst hId
    cases registers <;> simp
  · cases registers <;> simp [hId, Table.find?_insert_ne]

/- A cell acts on what is held about its own id only. -/
theorem holding_afterIdentifiedCell
    (record : NotebookRecord)
    (id : String)
    (cell : Cell)
    (other : String) :
    (record.afterIdentifiedCell id cell).holding other =
      if id = other then
        (record.holding other).afterCell id cell
      else
        record.holding other := by
  simp only [holding, gradeCells_afterIdentifiedCell,
    solutionCells_afterIdentifiedCell,
    taskCells_afterIdentifiedCell,
    grade?_afterIdentifiedCell,
    comment?_afterIdentifiedCell, find?_registered]
  by_cases hId : id = other
  · subst hId
    simp [Holding.afterCell, gradeOf, commentOf]
  · simp [hId]

/- A cell without a role leaves everything as it is. -/
theorem Holding.afterCell_of_no_role
    (held : Holding)
    (id : String)
    (hGrade : cell.isGrade = false)
    (hComment : Recording.needsComment cell = false) :
    held.afterCell id cell = held := by
  have hBoth :
      cell.isSolution = false ∧ cell.isTask = false := by
    simpa [Recording.needsComment] using hComment
  simp [Holding.afterCell, hGrade, hComment, hBoth]

theorem holding_afterCell
    (record : NotebookRecord)
    (cell : Cell)
    (id : String) :
    (record.afterCell cell).holding id =
      if cell.recordedId? = some id then
        (record.holding id).afterCell id cell
      else
        record.holding id := by
  unfold afterCell Cell.recordedId?
  cases hId : cell.gradeId with
  | none => simp
  | some own =>
      simp only [holding_afterIdentifiedCell]
      by_cases hRole :
          (cell.isGrade ||
            Recording.needsComment cell) = true
      · rw [if_pos hRole]
        by_cases hOwn : own = id
        · subst hOwn
          simp
        · simp [hOwn]
      · rw [if_neg hRole]
        rw [Bool.not_eq_true, Bool.or_eq_false_iff] at hRole
        simp [Holding.afterCell_of_no_role _ own hRole.1
          hRole.2]

/- Ids that no cell is recorded under are left alone. -/
theorem holding_afterCells_of_not_mem
    (record : NotebookRecord)
    {cells : List Cell}
    (hId : id ∉ cells.filterMap Cell.recordedId?) :
    (record.afterCells cells).holding id =
      record.holding id := by
  induction cells generalizing record with
  | nil => rfl
  | cons cell rest ih =>
      have hCell : cell.recordedId? ≠ some id := by
        intro hEq
        exact hId
          (List.mem_filterMap.2
            ⟨cell, List.mem_cons_self, hEq⟩)
      have hRest : id ∉ rest.filterMap Cell.recordedId? := by
        intro hMem
        rcases List.mem_filterMap.1 hMem with
          ⟨other, hOther, hEq⟩
        exact hId
          (List.mem_filterMap.2
            ⟨other, List.mem_cons_of_mem cell hOther, hEq⟩)
      have hStep := record.holding_afterCell cell id
      rw [if_neg hCell] at hStep
      rw [← hStep]
      exact ih (record.afterCell cell) hRest

/-
  Where recorded ids differ, the cell of an id acts on what
  the record held about the id before all cells.
-/
theorem holding_afterCells_of_mem
    (record : NotebookRecord)
    {cells : List Cell}
    (hNodup : (cells.filterMap Cell.recordedId?).Nodup)
    (hMem : cell ∈ cells)
    (hId : cell.recordedId? = some id) :
    (record.afterCells cells).holding id =
      (record.holding id).afterCell id cell := by
  rcases List.append_of_mem hMem with
    ⟨before, after, rfl⟩
  rw [List.filterMap_append,
    List.filterMap_cons_some hId, List.nodup_append,
    List.nodup_cons] at hNodup
  rcases hNodup with ⟨-, ⟨hAfter, -⟩, hDifferent⟩
  have hBefore : id ∉ before.filterMap Cell.recordedId? := by
    intro hBefore
    exact hDifferent id hBefore id List.mem_cons_self rfl
  have hSplit :
      record.afterCells (before ++ cell :: after) =
        ((record.afterCells before).afterCell
          cell).afterCells after := by
    simp [afterCells]
  rw [hSplit, holding_afterCells_of_not_mem _ hAfter,
    holding_afterCell, if_pos hId,
    holding_afterCells_of_not_mem _ hBefore]

------------------------------------------------------------
-- Entries Of Other Ids
------------------------------------------------------------

/- Scoring a cell leaves the grades of other ids. -/
theorem filter_grades_afterIdentifiedCell
    (record : NotebookRecord)
    (cell : Cell)
    (keep : String → Bool)
    (hKeep : cell.isGrade → keep id = false) :
    (record.afterIdentifiedCell id cell).grades.filter
        (fun grade => keep grade.gradeId) =
      record.grades.filter
        (fun grade => keep grade.gradeId) := by
  rw [grades_afterIdentifiedCell]
  by_cases hGrade : cell.isGrade
  · rw [if_pos hGrade]
    let registered :=
      record.registerGradeCell
        ⟨id, cell.points, cell.cellType⟩
    exact
      registered.filter_grades_apply
        (.addGrade ((registered.gradeOf id).scoredBy cell))
        keep (by simpa [Change.gradeId] using hKeep hGrade)
  · rw [if_neg hGrade]

theorem filter_comments_afterCommentCell
    (record : NotebookRecord)
    (cell : Cell)
    (keep : String → Bool)
    (hKeep : keep id = false) :
    (record.afterCommentCell id cell).comments.filter
        (fun comment => keep comment.gradeId) =
      record.comments.filter
        (fun comment => keep comment.gradeId) := by
  let registered := record.withCommentCell id cell
  have hFilter :=
    registered.filter_comments_apply
      (.addComment
        ((registered.commentOf id).writtenBy cell))
      keep (by simpa [Change.gradeId] using hKeep)
  rw [record.comments_withCommentCell id cell] at hFilter
  exact hFilter

/- Commenting on a cell leaves the comments of other ids. -/
theorem filter_comments_afterIdentifiedCell
    (record : NotebookRecord)
    (cell : Cell)
    (keep : String → Bool)
    (hKeep : Recording.needsComment cell → keep id = false) :
    (record.afterIdentifiedCell id cell).comments.filter
        (fun comment => keep comment.gradeId) =
      record.comments.filter
        (fun comment => keep comment.gradeId) := by
  have hGraded :
      (if cell.isGrade then record.afterGradeCell id cell
        else record).comments = record.comments := by
    split <;> rfl
  unfold afterIdentifiedCell
  by_cases hComment : Recording.needsComment cell
  · simp only [hComment, if_true]
    rw [filter_comments_afterCommentCell _ _ _
      (hKeep hComment), hGraded]
  · simp only [hComment]
    exact congrArg (List.filter _) hGraded

/- Cells leave the entries of the ids they do not have. -/
theorem filter_entries_afterCells
    (record : NotebookRecord)
    {cells : List Cell}
    {keep : String → Bool}
    (hKeep :
      ∀ id ∈ cells.filterMap Cell.recordedId?,
        keep id = false) :
    (record.afterCells cells).grades.filter
        (fun grade => keep grade.gradeId) =
        record.grades.filter
          (fun grade => keep grade.gradeId) ∧
      (record.afterCells cells).comments.filter
        (fun comment => keep comment.gradeId) =
        record.comments.filter
          (fun comment => keep comment.gradeId) := by
  induction cells generalizing record with
  | nil => exact ⟨rfl, rfl⟩
  | cons cell rest ih =>
      have hCell :
          ∀ id, cell.recordedId? = some id →
            keep id = false := by
        intro id hId
        exact hKeep id
          (List.mem_filterMap.2
            ⟨cell, List.mem_cons_self, hId⟩)
      have hRest :
          ∀ id ∈ rest.filterMap Cell.recordedId?,
            keep id = false := by
        intro id hMem
        rcases List.mem_filterMap.1 hMem with
          ⟨other, hOther, hId⟩
        exact hKeep id
          (List.mem_filterMap.2
            ⟨other, List.mem_cons_of_mem cell hOther, hId⟩)
      rcases ih (record.afterCell cell) hRest with
        ⟨hGrades, hComments⟩
      refine ⟨hGrades.trans ?_, hComments.trans ?_⟩
      · unfold afterCell
        cases hId : cell.gradeId with
        | none => rfl
        | some id =>
            apply filter_grades_afterIdentifiedCell
            intro hGrade
            exact hCell id (by simp [Cell.recordedId?, hGrade, hId])
      · unfold afterCell
        cases hId : cell.gradeId with
        | none => rfl
        | some id =>
            apply filter_comments_afterIdentifiedCell
            intro hComment
            exact hCell id (by simp [Cell.recordedId?, hComment, hId])

end NotebookRecord

------------------------------------------------------------
-- What A Recorded Notebook Leaves Behind
------------------------------------------------------------

namespace Recording

/-
  A grade cell is registered and scored, and waits for a
  human after an entry of a human or without a score.
-/
structure IsGraded
    (notebookId id : String)
    (cell : Cell)
    (before after : Gradebook) : Prop where
  registered :
    (after.notebook notebookId).gradeCells.find? id =
      some ⟨id, cell.points, cell.cellType⟩
  scored :
    ∃ score,
      Cell.score cell = .ok score ∧
        (after.findGrade notebookId id).autoScore =
          score.auto
  manualScore_eq :
    (after.findGrade notebookId id).manualScore =
      (before.findGrade notebookId id).manualScore
  needsManualGrade_iff :
    (after.findGrade notebookId id).needsManualGrade =
        true ↔
      (after.findGrade notebookId id).manualScore ≠ none ∨
        (after.findGrade notebookId id).autoScore = none

/- A solution or task cell is registered and commented on. -/
structure IsCommentedOn
    (notebookId id : String)
    (cell : Cell)
    (before after : Gradebook) : Prop where
  solution :
    cell.isSolution →
      (after.notebook notebookId).solutionCells.find? id =
        some ⟨id, cell.cellType⟩
  task :
    cell.isTask →
      (after.notebook notebookId).taskCells.find? id =
        some ⟨id, cell.points, cell.cellType⟩
  manualComment_eq :
    (after.findComment notebookId id).manualComment =
      (before.findComment notebookId id).manualComment
  autoComment_eq :
    (after.findComment notebookId id).autoComment =
      if cell.isTask = false ∧
          cell.storedChecksum = some cell.checksum then
        some "No response."
      else
        none

/-
  All other notebooks are as before, and in the notebook
  everything about ids other than the given ones.
-/
structure KeepsOtherIds
    (notebookId : String)
    (ids : List String)
    (before after : Gradebook) : Prop where
  notebooks :
    ∀ other, notebookId ≠ other →
      after.notebook? other = before.notebook? other
  gradeCells :
    ∀ id, id ∉ ids →
      (after.notebook notebookId).gradeCells.find? id =
        (before.notebook notebookId).gradeCells.find? id
  solutionCells :
    ∀ id, id ∉ ids →
      (after.notebook notebookId).solutionCells.find? id =
        (before.notebook notebookId).solutionCells.find? id
  taskCells :
    ∀ id, id ∉ ids →
      (after.notebook notebookId).taskCells.find? id =
        (before.notebook notebookId).taskCells.find? id
  grades :
    (after.notebook notebookId).grades.filter
        (fun grade => grade.gradeId ∉ ids) =
      (before.notebook notebookId).grades.filter
        (fun grade => grade.gradeId ∉ ids)
  comments :
    (after.notebook notebookId).comments.filter
        (fun comment => comment.gradeId ∉ ids) =
      (before.notebook notebookId).comments.filter
        (fun comment => comment.gradeId ∉ ids)

variable {notebookId id : String}
variable {cell : Cell}
variable {opened next : OpenGradebook}

/- A grade that is held is the one that is found. -/
theorem findGrade_of_holding
    {book : Gradebook}
    {grade : Grade}
    (h :
      ((book.notebook notebookId).holding id).grade =
        some grade) :
    book.findGrade notebookId id = grade := by
  have hGrade :
      (book.notebook notebookId).grade? id = some grade := h
  rw [book.findGrade_eq, NotebookRecord.gradeOf, hGrade]
  rfl

theorem findComment_of_holding
    {book : Gradebook}
    {comment : Comment}
    (h :
      ((book.notebook notebookId).holding id).comment =
        some comment) :
    book.findComment notebookId id = comment := by
  have hComment :
      (book.notebook notebookId).comment? id =
        some comment := h
  rw [book.findComment_eq, NotebookRecord.commentOf,
    hComment]
  rfl

------------------------------------------------------------
-- Cells Of A Notebook
------------------------------------------------------------

variable {cells : List Cell}

/- The cell of an id acts on what was held about it. -/
theorem Updated.holding_of_mem
    (h :
      Updated notebookId opened
        ((opened.book.notebook notebookId).afterCells cells)
        next)
    (hNodup : (cells.filterMap Cell.recordedId?).Nodup)
    (hMem : cell ∈ cells)
    (hId : cell.recordedId? = some id) :
    (next.book.notebook notebookId).holding id =
      ((opened.book.notebook notebookId).holding
        id).afterCell id cell := by
  rw [h.notebook_eq]
  exact
    NotebookRecord.holding_afterCells_of_mem _ hNodup hMem
      hId

theorem Updated.holding_of_not_mem
    (h :
      Updated notebookId opened
        ((opened.book.notebook notebookId).afterCells cells)
        next)
    (hId : id ∉ cells.filterMap Cell.recordedId?) :
    (next.book.notebook notebookId).holding id =
      (opened.book.notebook notebookId).holding id := by
  rw [h.notebook_eq]
  exact NotebookRecord.holding_afterCells_of_not_mem _ hId

/- A grade cell acts on the grade that was there before. -/
theorem isGraded_of_holding
    {before after : Gradebook}
    (h :
      (after.notebook notebookId).holding id =
        ((before.notebook notebookId).holding id).afterCell
          id cell)
    (hGrade : cell.isGrade) :
    IsGraded notebookId id cell before after := by
  have hRegistered :=
    congrArg NotebookRecord.Holding.gradeCell h
  have hHeld := congrArg NotebookRecord.Holding.grade h
  simp only [NotebookRecord.Holding.afterCell, hGrade,
    if_true] at hRegistered hHeld
  have hFound := findGrade_of_holding hHeld
  have hScore :
      Cell.score cell =
        .ok ⟨cell.autoScore, cell.points⟩ := by
    simp [Cell.score, hGrade]
  refine ⟨hRegistered, ⟨_, hScore, ?_⟩, ?_, ?_⟩
  · rw [hFound]
    rfl
  · rw [hFound, before.findGrade_eq]
    rfl
  · rw [hFound]
    simp [Grade.scoredBy, Option.isSome_iff_ne_none]

/- An automatic comment marks what was left untouched. -/
theorem autoComment_eq
    (cell : Cell) :
    autoComment cell =
      if cell.isTask = false ∧
          cell.storedChecksum = some cell.checksum then
        some "No response."
      else
        none := by
  unfold autoComment Cell.isUnchanged noResponse
  cases cell.storedChecksum <;> cases cell.isTask <;> simp

/- A solution or task cell acts on the earlier comment. -/
theorem isCommentedOn_of_holding
    {before after : Gradebook}
    (h :
      (after.notebook notebookId).holding id =
        ((before.notebook notebookId).holding id).afterCell
          id cell)
    (hComment : needsComment cell) :
    IsCommentedOn notebookId id cell before after := by
  have hSolutionCell :=
    congrArg NotebookRecord.Holding.solutionCell h
  have hTaskCell :=
    congrArg NotebookRecord.Holding.taskCell h
  have hHeld := congrArg NotebookRecord.Holding.comment h
  simp only [NotebookRecord.Holding.afterCell, hComment,
    if_true] at hSolutionCell hTaskCell hHeld
  have hFound := findComment_of_holding hHeld
  refine ⟨?_, ?_, ?_, ?_⟩
  · intro hSolution
    exact hSolutionCell.trans (if_pos hSolution)
  · intro hTask
    exact hTaskCell.trans (if_pos hTask)
  · rw [hFound, before.findComment_eq]
    rfl
  · rw [hFound, ← autoComment_eq]
    rfl

/- Recording cells keeps what is not about their ids. -/
theorem Updated.keepsOtherIds
    (h :
      Updated notebookId opened
        ((opened.book.notebook notebookId).afterCells cells)
        next) :
    KeepsOtherIds notebookId
      (cells.filterMap Cell.recordedId?) opened.book
      next.book := by
  let ids := cells.filterMap Cell.recordedId?
  have hEntries :=
    @NotebookRecord.filter_entries_afterCells
      (opened.book.notebook notebookId) cells
      (fun id => id ∉ ids) (by simp [ids])
  rw [← h.notebook_eq] at hEntries
  refine
    ⟨h.notebook?_ne, ?_, ?_, ?_, hEntries.1, hEntries.2⟩
  · intro id hId
    exact
      congrArg NotebookRecord.Holding.gradeCell
        (h.holding_of_not_mem hId)
  · intro id hId
    exact
      congrArg NotebookRecord.Holding.solutionCell
        (h.holding_of_not_mem hId)
  · intro id hId
    exact
      congrArg NotebookRecord.Holding.taskCell
        (h.holding_of_not_mem hId)

/- Cells without an id could as well be left out. -/
theorem cells_identified
    (extractor : ScoreExtractor)
    (notebookId : String)
    (cells : List Cell)
    (opened : OpenGradebook) :
    Recording.cells extractor notebookId
        (cells.filter (fun cell => cell.gradeId.isSome))
        opened =
      Recording.cells extractor notebookId cells opened := by
  induction cells generalizing opened with
  | nil => rfl
  | cons cell rest ih =>
      cases hId : cell.gradeId with
      | none =>
          rw [List.filter_cons_of_neg (by simp [hId]), ih]
          simp [Recording.cells, Recording.cell, hId]
      | some id =>
          rw [List.filter_cons_of_pos (by simp [hId])]
          unfold Recording.cells
          cases Recording.cell extractor notebookId cell
            opened with
          | error e => rfl
          | ok recorded => exact ih recorded

/-
  What recording the cells of a notebook by their outputs
  does, where no id is given to two cells that are recorded:
  every grade, solution and task cell with an id is
  registered, its entries get their automatic part and keep
  their manual one, and nothing else changes. Cells without
  an id make no difference.
-/
theorem cells_exact
    (notebook : Notebook)
    (notebookId : String)
    (opened : OpenGradebook)
    (hIds :
      (notebook.cells.filterMap Cell.recordedId?).Nodup) :
    ∃ next,
      Recording.cells Cell.score notebookId notebook.cells
        opened = .ok next ∧
      (∀ cell ∈ notebook.cells,
        ∀ id, cell.gradeId = some id →
          (cell.isGrade →
            IsGraded notebookId id cell opened.book
              next.book) ∧
          (cell.isSolution ∨ cell.isTask →
            IsCommentedOn notebookId id cell opened.book
              next.book)) ∧
      KeepsOtherIds notebookId
        (notebook.cells.filterMap Cell.recordedId?)
        opened.book next.book ∧
      Recording.cells Cell.score notebookId
        (notebook.cells.filter
          (fun cell => cell.gradeId.isSome)) opened =
        .ok next := by
  rcases cells_score notebookId opened notebook.cells with
    ⟨next, hNext, hUpdated⟩
  refine ⟨next, hNext, ?_, hUpdated.keepsOtherIds, ?_⟩
  · intro cell hMem id hId
    constructor
    · intro hGrade
      have hRecorded : cell.recordedId? = some id := by
        simp [Cell.recordedId?, hGrade, hId]
      exact
        isGraded_of_holding
          (hUpdated.holding_of_mem hIds hMem hRecorded)
          hGrade
    · intro hRole
      have hComment : needsComment cell := by
        simpa [needsComment] using hRole
      have hRecorded : cell.recordedId? = some id := by
        simp [Cell.recordedId?, hComment, hId]
      exact
        isCommentedOn_of_holding
          (hUpdated.holding_of_mem hIds hMem hRecorded)
          hComment
  · rw [cells_identified]
    exact hNext

/- A cell with some roles under an id. -/
def roleCell
    (id : String)
    (grade solution task : Bool) : Cell where
  cellType := .code
  metadata :=
    { grading :=
        some
          { gradeId := some id
            grade := some grade
            solution := some solution
            task := some task } }

/-
  A graded solution and a task with ids of their own are
  recorded without taking back an earlier manual score.
-/
theorem cells_exact_manual :
    let solution := roleCell "a" true true false
    let task := roleCell "b" false false true
    let opened : OpenGradebook :=
      OpenGradebook.change ⟨"g.json", .empty, false⟩ "n"
        (.setManualScore "a" 2)
    ([solution, task].filterMap Cell.recordedId?).Nodup ∧
      ∃ next,
        Recording.cells Cell.score "n" [solution, task]
          opened = .ok next ∧
        (next.book.findGrade "n" "a").manualScore = some 2 ∧
        (next.book.findGrade "n" "a").needsManualGrade =
          true := by
  intro solution task opened
  have hIds :
      ([solution, task].filterMap
        Cell.recordedId?).Nodup := by
    change ["a", "b"].Nodup
    decide
  rcases
      cells_exact (Notebook.ofCells [solution, task]) "n"
        opened hIds with
    ⟨next, hNext, hCells, -⟩
  have hGraded :=
    (hCells solution List.mem_cons_self "a" rfl).1 rfl
  have hManual :
      (next.book.findGrade "n" "a").manualScore = some 2 :=
    hGraded.manualScore_eq
  refine ⟨hIds, next, hNext, hManual, ?_⟩
  exact
    hGraded.needsManualGrade_iff.2 (.inl (by simp [hManual]))

end Recording

end NotebookGrading
