import NotebookGrading.Proofs.Pipeline.Runs

/-
  Locks and limits do not influence what is recorded.

  They leave type, source and grading metadata of every
  cell, and nothing else decides what is registered for it,
  its comment and its points. Only its score looks at the
  outputs, which limits change. So of two runs that differ
  in locks and limits both fail or both succeed, and they
  record the same but for the grades.

  Key definitions include:
    * `Cell.SameContent`
    * `NotebookRecord.withoutGrades`

  Main statements:
    * `Configuration.sameContent_prepared`
    * `NotebookRecord.withoutGrades_afterCells_eq`
    * `Gradebook.withoutGrades_afterCells_eq`
    * `Pipeline.run_autograde_presentation`
-/

namespace NotebookGrading

------------------------------------------------------------
-- Cells With The Same Content
------------------------------------------------------------

namespace Cell

/- Cells that differ at most in outputs and front end. -/
structure SameContent
    (first second : Cell) : Prop where
  cellType_eq : first.cellType = second.cellType
  source_eq : first.source = second.source
  grading_eq : first.grading = second.grading

namespace SameContent

variable {first second : Cell}

theorem flag_eq
    (h : SameContent first second)
    (pick : Grading → Option Bool) :
    first.flag pick = second.flag pick := by
  simp [flag, h.grading_eq]

theorem isGrade_eq
    (h : SameContent first second) :
    first.isGrade = second.isGrade :=
  h.flag_eq Grading.grade

theorem isSolution_eq
    (h : SameContent first second) :
    first.isSolution = second.isSolution :=
  h.flag_eq Grading.solution

theorem isTask_eq
    (h : SameContent first second) :
    first.isTask = second.isTask :=
  h.flag_eq Grading.task

theorem needsComment_eq
    (h : SameContent first second) :
    Recording.needsComment first =
      Recording.needsComment second := by
  simp [Recording.needsComment, h.isSolution_eq, h.isTask_eq]

theorem gradeId_eq
    (h : SameContent first second) :
    first.gradeId = second.gradeId := by
  simp [gradeId, h.grading_eq]

theorem givenPoints_eq
    (h : SameContent first second) :
    first.givenPoints = second.givenPoints := by
  simp [givenPoints, h.grading_eq]

theorem points_eq
    (h : SameContent first second) :
    first.points = second.points := by
  simp [points, h.givenPoints_eq]

/- The checksum is one of the content. -/
theorem isUnchanged_eq
    (h : SameContent first second) :
    first.isUnchanged = second.isUnchanged := by
  have hStored :
      first.storedChecksum = second.storedChecksum := by
    simp [storedChecksum, h.grading_eq]
  have hPoints : first.pointsText = second.pointsText := by
    unfold pointsText
    rw [h.isGrade_eq, h.givenPoints_eq]
  have hText : first.checksumText = second.checksumText := by
    unfold checksumText isLocked
    rw [h.source_eq, h.cellType_eq, h.isGrade_eq,
      h.isSolution_eq, h.flag_eq, h.gradeId_eq, hPoints]
  unfold isUnchanged checksum
  rw [hStored, hText]

theorem underId_eq
    {α : Type}
    (h : SameContent first second)
    (role : Bool)
    (make : String → α) :
    first.underId role make = second.underId role make := by
  simp [underId, h.gradeId_eq]

theorem registeredGrade?_eq
    (h : SameContent first second) :
    first.registeredGrade? = second.registeredGrade? := by
  simp [registeredGrade?, h.isGrade_eq, h.points_eq,
    h.cellType_eq, h.underId_eq]

theorem registeredSolution?_eq
    (h : SameContent first second) :
    first.registeredSolution? = second.registeredSolution? := by
  simp [registeredSolution?, h.isSolution_eq, h.cellType_eq,
    h.underId_eq]

theorem registeredTask?_eq
    (h : SameContent first second) :
    first.registeredTask? = second.registeredTask? := by
  simp [registeredTask?, h.isTask_eq, h.points_eq,
    h.cellType_eq, h.underId_eq]

theorem pointsId?_eq
    (h : SameContent first second) :
    first.pointsId? = second.pointsId? := by
  simp [pointsId?, h.isGrade_eq, h.isTask_eq, h.underId_eq]

theorem recordedId?_eq
    (h : SameContent first second) :
    first.recordedId? = second.recordedId? := by
  unfold recordedId?
  rw [h.isGrade_eq, h.needsComment_eq, h.gradeId_eq]

theorem commentRevision?_eq
    (h : SameContent first second) :
    first.commentRevision? = second.commentRevision? := by
  have hComment :
      Recording.autoComment first =
        Recording.autoComment second := by
    unfold Recording.autoComment
    rw [h.isUnchanged_eq, h.isTask_eq]
  simp [commentRevision?, h.needsComment_eq, h.underId_eq,
    Comment.writtenBy, hComment]

/- With the same outputs the scores are the same. -/
theorem gradeRevision?_eq
    (h : SameContent first second)
    (hOutputs : first.outputs = second.outputs) :
    first.gradeRevision? = second.gradeRevision? := by
  have hScore : first.autoScore = second.autoScore := by
    unfold autoScore outputList
    rw [h.isSolution_eq, h.isUnchanged_eq, h.cellType_eq,
      h.points_eq, hOutputs]
  simp [gradeRevision?, h.isGrade_eq, h.underId_eq,
    Grade.scoredBy, hScore]

end SameContent

end Cell

------------------------------------------------------------
-- Locked And Limited Cells
------------------------------------------------------------

namespace Configuration

theorem cellType_prepared
    (configuration : Configuration)
    (cell : Cell) :
    (configuration.prepared cell).cellType =
      cell.cellType := by
  unfold prepared Cell.limitOutput Cell.lock
  split
  · rfl
  · split
    · rfl
    · rfl

theorem source_prepared
    (configuration : Configuration)
    (cell : Cell) :
    (configuration.prepared cell).source = cell.source := by
  unfold prepared Cell.limitOutput Cell.lock
  split
  · rfl
  · split
    · rfl
    · rfl

/- The outputs of a cell are those within the limits. -/
theorem outputs_prepared
    (configuration : Configuration)
    (cell : Cell) :
    (configuration.prepared cell).outputs =
      match configuration.limits with
      | none => cell.outputs
      | some limits => (cell.limitOutput limits).outputs := by
  unfold prepared
  cases configuration.limits with
  | none => rfl
  | some limits =>
      by_cases hCode : cell.cellType = .code
      · simp [Cell.limitOutput, Cell.lock, hCode]
      · simp [Cell.limitOutput, Cell.lock, hCode]

/- Locks and limits keep the content of cells. -/
theorem sameContent_prepared
    (configuration other : Configuration)
    (cell : Cell) :
    Cell.SameContent (configuration.prepared cell)
      (other.prepared cell) where
  cellType_eq := by simp only [cellType_prepared]
  source_eq := by simp only [source_prepared]
  grading_eq := by simp only [grading_prepared]

end Configuration

------------------------------------------------------------
-- Records
------------------------------------------------------------

/- Cells that contribute the same in other forms. -/
theorem Cell.filterMap_map_congr
    {α : Type}
    {contribution? : Cell → Option α}
    {first second : Cell → Cell}
    (h :
      ∀ cell,
        contribution? (first cell) =
          contribution? (second cell))
    (cells : List Cell) :
    (cells.map first).filterMap contribution? =
      (cells.map second).filterMap contribution? := by
  simp only [List.filterMap_map, Function.comp_def, h]

/- All that is recorded about a notebook but the grades. -/
def NotebookRecord.withoutGrades
    (record : NotebookRecord) : NotebookRecord :=
  { record with grades := [] }

section SameContent

variable {first second : Cell → Cell}
variable
  (h : ∀ cell, Cell.SameContent (first cell) (second cell))
variable (cells : List Cell)

include h

theorem Cell.anyRecorded_map_eq :
    Cell.anyRecorded (cells.map first) =
      Cell.anyRecorded (cells.map second) := by
  simp [Cell.anyRecorded, Function.comp_def,
    (h _).recordedId?_eq]

/- What is recorded but for grades rests on the content. -/
theorem NotebookRecord.withoutGrades_afterCells_eq
    (record : NotebookRecord) :
    (record.afterCells (cells.map first)).withoutGrades =
      (record.afterCells
        (cells.map second)).withoutGrades := by
  have hGradeCells :
      (record.afterCells (cells.map first)).gradeCells =
        (record.afterCells
          (cells.map second)).gradeCells := by
    rw [gradeCells_afterCells, gradeCells_afterCells,
      Cell.filterMap_map_congr
        (fun cell => (h cell).registeredGrade?_eq)]
  have hTaskCells :
      (record.afterCells (cells.map first)).taskCells =
        (record.afterCells
          (cells.map second)).taskCells := by
    rw [taskCells_afterCells, taskCells_afterCells,
      Cell.filterMap_map_congr
        (fun cell => (h cell).registeredTask?_eq)]
  apply ext_parts
  · simp [withoutGrades]
  · have hPoints :
        (cells.map first).any (·.pointsId?.isSome) =
          (cells.map second).any (·.pointsId?.isSome) := by
      simp [Function.comp_def, (h _).pointsId?_eq]
    simp only [withoutGrades, maxScore_afterCells,
      registeredPoints, hGradeCells, hTaskCells, hPoints]
  · exact hGradeCells
  · simp only [withoutGrades, solutionCells_afterCells]
    rw [Cell.filterMap_map_congr
      (fun cell => (h cell).registeredSolution?_eq)]
  · exact hTaskCells
  · rfl
  · simp only [withoutGrades, comments_afterCells]
    rw [Cell.filterMap_map_congr
      (fun cell => (h cell).commentRevision?_eq)]

/- With the same outputs the grades are the same as well. -/
theorem NotebookRecord.afterCells_eq_of_outputs
    (hOutputs :
      ∀ cell, (first cell).outputs = (second cell).outputs)
    (record : NotebookRecord) :
    record.afterCells (cells.map first) =
      record.afterCells (cells.map second) := by
  have hRest := withoutGrades_afterCells_eq h cells record
  have hGrades :
      (record.afterCells (cells.map first)).grades =
        (record.afterCells (cells.map second)).grades := by
    rw [grades_afterCells, grades_afterCells,
      Cell.filterMap_map_congr
        (fun cell =>
          (h cell).gradeRevision?_eq (hOutputs cell))]
  unfold withoutGrades at hRest
  simp only [mk.injEq] at hRest
  exact
    ext_parts hRest.1 hRest.2.1 hRest.2.2.1 hRest.2.2.2.1
      hRest.2.2.2.2.1 hGrades hRest.2.2.2.2.2.2

/- In all notebooks the same is recorded but for grades. -/
theorem Gradebook.withoutGrades_afterCells_eq
    (book : Gradebook)
    (notebookId id : String) :
    ((book.afterCells notebookId
        (cells.map first)).notebook? id).map
        NotebookRecord.withoutGrades =
      ((book.afterCells notebookId
        (cells.map second)).notebook? id).map
        NotebookRecord.withoutGrades := by
  rw [notebook?_afterCells, notebook?_afterCells,
    Cell.anyRecorded_map_eq h cells]
  split
  · simp only [Option.map_some,
      NotebookRecord.withoutGrades_afterCells_eq h cells]
  · rfl

theorem Gradebook.afterCells_eq_of_outputs
    (hOutputs :
      ∀ cell, (first cell).outputs = (second cell).outputs)
    (book : Gradebook)
    (notebookId : String) :
    book.afterCells notebookId (cells.map first) =
      book.afterCells notebookId (cells.map second) := by
  unfold afterCells
  rw [Cell.anyRecorded_map_eq h cells,
    NotebookRecord.afterCells_eq_of_outputs h cells hOutputs]

end SameContent

------------------------------------------------------------
-- Two Runs
------------------------------------------------------------

namespace Pipeline

variable {tree next : FileTree}
variable {notebook graded : Notebook}
variable {resources : Resources}
variable {header footer : Option String}
variable {locks otherLocks : LockSwitches}
variable {limits otherLimits : Option OutputLimits}

/-
  A run that succeeds does so with other locks and limits,
  and records the same but for the grades.
-/
theorem exists_run_with_other_presentation
    (otherLocks : LockSwitches)
    (otherLimits : Option OutputLimits)
    (h :
      run tree notebook resources
          (autograde ⟨header, footer, locks, limits⟩) =
        (next, .ok graded)) :
    ∃ last other key opened committed otherCommitted,
      run tree notebook resources
          (autograde
            ⟨header, footer, otherLocks, otherLimits⟩) =
        (last, .ok other) ∧
      Saves tree next resources graded.cells key opened
        committed ∧
      Saves tree last resources other.cells key opened
        otherCommitted ∧
      (∀ id,
        (committed.book.notebook? id).map
            NotebookRecord.withoutGrades =
          (otherCommitted.book.notebook? id).map
            NotebookRecord.withoutGrades) ∧
      (limits = otherLimits →
        committed.book = otherCommitted.book) := by
  rcases run_autograde_eq_ok_iff.1 h with
    ⟨included, key, opened, committed, hIncluded, hGraded,
      hSaves⟩
  let configuration : Configuration :=
    ⟨header, footer, locks, limits⟩
  let otherConfiguration : Configuration :=
    ⟨header, footer, otherLocks, otherLimits⟩
  let other := otherConfiguration.prepareAll included
  have hSame :=
    configuration.sameContent_prepared otherConfiguration
  have hAny :
      Cell.anyRecorded graded.cells =
        Cell.anyRecorded other.cells := by
    rw [hGraded]
    exact Cell.anyRecorded_map_eq hSame included.cells
  have hCommitted := hSaves.committed_eq_afterCells
  have hResult :
      (committed.commit tree).2 =
        ((opened.afterCells key other.cells).commit
          tree).2 := by
    rw [hCommitted]
    apply OpenGradebook.result_commit_congr
    · rfl
    · simp only [OpenGradebook.afterCells, hAny]
  rw [hSaves.committed_eq] at hResult
  have hOther :
      Saves tree
        ((opened.afterCells key other.cells).commit tree).1
        resources other.cells key opened
        (opened.afterCells key other.cells) :=
    ⟨hSaves.key_eq, hSaves.path_eq, hSaves.opened_eq,
      Recording.cells_of_openAt hSaves.opened_eq key
        other.cells,
      Prod.ext rfl hResult.symm⟩
  refine
    ⟨_, other, key, opened, committed, _,
      run_autograde_eq_ok_iff.2
        ⟨included, key, opened, _, hIncluded, rfl, hOther⟩,
      hSaves, hOther, ?_, ?_⟩
  · intro id
    rw [hCommitted, hGraded]
    exact
      Gradebook.withoutGrades_afterCells_eq hSame
        included.cells opened.book key id
  · intro hLimits
    rw [hCommitted, hGraded]
    apply
      Gradebook.afterCells_eq_of_outputs hSame included.cells
    intro cell
    simp only [Configuration.outputs_prepared, configuration,
      otherConfiguration, hLimits]

/-
  Whatever the locks and limits of two runs are, both fail
  or both succeed. If they succeed, the committed gradebooks
  hold the same registered cells, maximum and comments of
  every notebook, and with the same limits the same grades.
-/
theorem run_autograde_presentation
    (tree : FileTree)
    (notebook : Notebook)
    (resources : Resources)
    (header footer : Option String)
    (locks otherLocks : LockSwitches)
    (limits otherLimits : Option OutputLimits) :
    let first :=
      run tree notebook resources
        (autograde ⟨header, footer, locks, limits⟩)
    let second :=
      run tree notebook resources
        (autograde ⟨header, footer, otherLocks, otherLimits⟩)
    (∃ error otherError,
      first.2 = .error error ∧
        second.2 = .error otherError) ∨
    ∃ graded other key opened committed otherCommitted,
      first.2 = .ok graded ∧
      second.2 = .ok other ∧
      Saves tree first.1 resources graded.cells key opened
        committed ∧
      Saves tree second.1 resources other.cells key opened
        otherCommitted ∧
      (∀ id,
        (committed.book.notebook? id).map
            NotebookRecord.withoutGrades =
          (otherCommitted.book.notebook? id).map
            NotebookRecord.withoutGrades) ∧
      (limits = otherLimits →
        committed.book = otherCommitted.book) := by
  intro first second
  rcases hFirst : first with ⟨next, error | graded⟩
  · left
    rcases hSecond : second with ⟨last, otherError | other⟩
    · exact ⟨error, otherError, rfl, rfl⟩
    · rcases
        exists_run_with_other_presentation locks limits
          hSecond with
        ⟨again, graded, -, -, -, -, hGraded, -⟩
      have hBoth := hGraded.symm.trans hFirst
      cases (Prod.mk.inj hBoth).2
  · right
    rcases
        exists_run_with_other_presentation otherLocks
          otherLimits hFirst with
      ⟨last, other, key, opened, committed, otherCommitted,
        hSecond, hSaves⟩
    have hEq : second = (last, .ok other) := hSecond
    rw [hEq]
    exact
      ⟨graded, other, key, opened, committed, otherCommitted,
        rfl, rfl, hSaves⟩

end Pipeline

end NotebookGrading
