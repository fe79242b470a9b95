import NotebookGrading.Gradebook.Automatic
import NotebookGrading.Proofs.Gradebook.RecordedBooks

/-
  What the check for full automation lets through.

  The check looks at the ids of registered cells, and the
  scorer at the cells themselves. They agree on code cells.
  A grade cell that holds no code passes the check and
  still waits for a human.

  Key definitions include:
    * `NotebookRecord.Unassisted`

  Main statements:
    * `NotebookRecord.checkAutomatic_eq_ok_iff`
    * `Gradebook.checkAutomatic_of_notebook?_eq_none`
    * `NotebookRecord.Unassisted.afterCells`
    * `Recording.accepted_needs_no_human_iff`
    * `Recording.accepted_markdown_needs_human`
-/

namespace NotebookGrading

------------------------------------------------------------
-- The Check
------------------------------------------------------------

namespace NotebookRecord

theorem mem_manualGradeCells
    {record : NotebookRecord}
    {id : String} :
    id ∈ record.manualGradeCells ↔
      record.gradeCells.contains id ∧
        record.solutionCells.contains id := by
  rw [manualGradeCells, List.mem_filter,
    Table.mem_keys_iff]

theorem pairwise_manualGradeCells
    (record : NotebookRecord) :
    record.manualGradeCells.Pairwise
      (fun first second => first < second) :=
  record.gradeCells.pairwise_keys.filter _

/-
  A notebook passes without tasks and without cells that
  are both graded and written by the student.
-/
theorem checkAutomatic_eq_ok_iff
    {record : NotebookRecord} :
    record.checkAutomatic = .ok () ↔
      (∀ id, record.taskCells.find? id = none) ∧
        ∀ id, record.gradeCells.contains id →
          record.solutionCells.find? id = none := by
  have hManual :
      record.manualGradeCells.isEmpty ↔
        ∀ id, record.gradeCells.contains id →
          record.solutionCells.find? id = none := by
    rw [List.isEmpty_iff, List.eq_nil_iff_forall_not_mem]
    simp [mem_manualGradeCells, Table.contains]
  rw [← Table.isEmpty_iff, ← hManual, checkAutomatic]
  cases record.taskCells.isEmpty <;>
    cases record.manualGradeCells.isEmpty <;> simp

/- Tasks are reported first. -/
theorem checkAutomatic_eq_taskCells_iff
    {record : NotebookRecord} :
    record.checkAutomatic =
        .error (.taskCells record.notebookId) ↔
      ¬ record.taskCells.isEmpty := by
  unfold checkAutomatic
  cases record.taskCells.isEmpty with
  | false => simp
  | true => cases record.manualGradeCells.isEmpty <;> simp

/- Without tasks the ids of two roles are reported. -/
theorem checkAutomatic_of_isEmpty
    {record : NotebookRecord}
    (h : record.taskCells.isEmpty) :
    record.checkAutomatic =
      if record.manualGradeCells = [] then
        .ok ()
      else
        .error
          (.manualGradeCells record.notebookId
            record.manualGradeCells) := by
  unfold checkAutomatic
  rw [h]
  cases record.manualGradeCells with
  | nil => rfl
  | cons id rest => rfl

end NotebookRecord

namespace Gradebook

theorem firstConflict_eq_ok_iff
    {records : List NotebookRecord} :
    firstConflict records = .ok () ↔
      ∀ record ∈ records, record.checkAutomatic = .ok () := by
  induction records with
  | nil => simp [firstConflict]
  | cons record rest ih =>
      cases hCheck : record.checkAutomatic with
      | error e => simp [firstConflict, hCheck]
      | ok value => simp [firstConflict, hCheck, ih]

/- An accepted gradebook has only accepted records. -/
theorem checkAutomatic_notebook
    {book : Gradebook}
    (h : book.checkAutomatic = .ok ())
    (notebookId : String) :
    (book.notebook notebookId).checkAutomatic = .ok () := by
  rw [notebook]
  cases hFind : book.notebook? notebookId with
  | none => rfl
  | some record =>
      have hMem : record ∈ book.notebooks.values :=
        Table.mem_values_iff.2 ⟨notebookId, hFind⟩
      exact firstConflict_eq_ok_iff.1 h record hMem

/- With one notebook the check is that of its record. -/
theorem checkAutomatic_of_notebook?_eq_none
    {book : Gradebook}
    {notebookId : String}
    (hOthers :
      ∀ id, notebookId ≠ id → book.notebook? id = none) :
    book.checkAutomatic =
      (book.notebook notebookId).checkAutomatic := by
  rw [notebook]
  cases hFind : book.notebook? notebookId with
  | none =>
      have hEmpty : book = Gradebook.empty := by
        apply ext_notebook?
        intro id
        by_cases hId : notebookId = id
        · rw [← hId, hFind]
          rfl
        · rw [hOthers id hId]
          rfl
      rw [hEmpty]
      rfl
  | some record =>
      have hSingle :
          book =
            ⟨Table.empty.insert notebookId record⟩ := by
        apply ext_notebook?
        intro id
        by_cases hId : notebookId = id
        · rw [← hId, hFind]
          simp [notebook?]
        · rw [hOthers id hId]
          simp [notebook?, Table.find?_insert_ne, hId]
      rw [hSingle]
      change firstConflict [record] = record.checkAutomatic
      cases hCheck : record.checkAutomatic with
      | error e => simp [firstConflict, hCheck]
      | ok value => simp [firstConflict, hCheck]

end Gradebook

------------------------------------------------------------
-- Scores Without A Human
------------------------------------------------------------

/- Cells that are no solutions need a human if not code. -/
theorem Cell.autoScore_eq_none_iff
    {cell : Cell}
    (hSolution : cell.isSolution = false) :
    cell.autoScore = none ↔ cell.cellType ≠ .code := by
  by_cases hCode : cell.cellType = .code <;>
    simp [autoScore, hSolution, hCode]

namespace NotebookRecord

/-
  A grade that no human has touched, next to its registered
  cells. It waits for a human when the grade cell holds no
  code, unless the id is also that of a solution.
-/
def GradedAlone
    (solution : Option SolutionCell)
    (registered : GradeCell)
    (grade : Grade) : Prop :=
  grade.manualScore = none ∧
    (solution = none →
      (grade.needsManualGrade = true ↔
        registered.cellType ≠ .code))

/-
  Grade cells and grades stand side by side, each grade
  made by automatic grading alone.
-/
structure Unassisted
    (record : NotebookRecord) : Prop where
  nodup_gradeIds : (record.grades.map Grade.gradeId).Nodup
  graded :
    ∀ id,
      Option.Rel
        (GradedAlone (record.solutionCells.find? id))
        (record.gradeCells.find? id) (record.grade? id)

theorem unassisted_new
    (notebookId : String) :
    Unassisted { notebookId := notebookId } :=
  ⟨List.nodup_nil, fun _ => Option.Rel.none⟩

variable {record : NotebookRecord}

theorem Unassisted.manualScore_gradeOf
    (h : record.Unassisted)
    (id : String) :
    (record.gradeOf id).manualScore = none := by
  have hGraded := h.graded id
  rw [gradeOf]
  cases hGrade : record.grade? id with
  | none => rfl
  | some grade =>
      rw [hGrade] at hGraded
      generalize record.gradeCells.find? id = registered
        at hGraded
      cases hGraded with
      | some hAlone => exact hAlone.1

/- A grade cell is scored as its type says. -/
theorem Unassisted.scoredBy
    (h : record.Unassisted)
    (id : String)
    {cell : Cell}
    {solution : Option SolutionCell}
    (hSolution : cell.isSolution → solution ≠ none) :
    GradedAlone solution ⟨id, cell.points, cell.cellType⟩
      ((record.gradeOf id).scoredBy cell) := by
  have hManual := h.manualScore_gradeOf id
  refine ⟨hManual, ?_⟩
  intro hNone
  have hNot : cell.isSolution = false := by
    rw [← Bool.not_eq_true]
    exact fun hIs => hSolution hIs hNone
  rw [← Cell.autoScore_eq_none_iff hNot]
  simp [Grade.scoredBy, hManual]

/- A cell that becomes a solution is no longer looked at. -/
theorem graded_of_solution
    {old new : Option SolutionCell}
    {registered : Option GradeCell}
    {grade : Option Grade}
    (h : Option.Rel (GradedAlone old) registered grade)
    (hNew : new = none → old = none) :
    Option.Rel (GradedAlone new) registered grade := by
  cases h with
  | none => exact Option.Rel.none
  | some hAlone =>
      refine Option.Rel.some ⟨hAlone.1, ?_⟩
      intro hNone
      exact hAlone.2 (hNew hNone)

/- A recorded cell keeps grades and grade cells together. -/
theorem Unassisted.afterIdentifiedCell
    (h : record.Unassisted)
    (id : String)
    (cell : Cell) :
    (record.afterIdentifiedCell id cell).Unassisted := by
  refine
    ⟨nodup_gradeIds_afterIdentifiedCell id cell
      h.nodup_gradeIds, ?_⟩
  intro other
  rw [gradeCells_afterIdentifiedCell,
    solutionCells_afterIdentifiedCell,
    grade?_afterIdentifiedCell]
  by_cases hId : id = other
  · subst hId
    by_cases hGrade : cell.isGrade
    · simp only [hGrade, if_true, true_and,
        Table.find?_insert_self]
      apply Option.Rel.some
      apply h.scoredBy
      intro hSolution
      simp [hSolution]
    · simp only [hGrade]
      apply graded_of_solution (h.graded id)
      by_cases hSolution : cell.isSolution <;>
        simp [hSolution]
  · have hCells :
        (if cell.isGrade then
          record.gradeCells.insert id
            ⟨id, cell.points, cell.cellType⟩
        else
          record.gradeCells).find? other =
          record.gradeCells.find? other := by
      split
      · exact Table.find?_insert_ne _ hId _
      · rfl
    have hSolutions :
        (if cell.isSolution then
          record.solutionCells.insert id ⟨id, cell.cellType⟩
        else
          record.solutionCells).find? other =
          record.solutionCells.find? other := by
      split
      · exact Table.find?_insert_ne _ hId _
      · rfl
    rw [hCells, hSolutions, if_neg (fun hBoth => hId hBoth.2)]
    exact h.graded other

theorem Unassisted.afterCells
    (h : record.Unassisted)
    (cells : List Cell) :
    (record.afterCells cells).Unassisted :=
  afterCells_induction
    (fun _ id cell hRecord =>
      hRecord.afterIdentifiedCell id cell)
    h cells

/-
  Where no solution is graded, the grades that wait for a
  human are those of the cells that hold no code.
-/
theorem Unassisted.needsManualGrade_eq_false_iff
    (h : record.Unassisted)
    (hSolution :
      ∀ id, record.gradeCells.contains id →
        record.solutionCells.find? id = none) :
    record.needsManualGrade = false ↔
      ∀ registered ∈ record.gradeCells.values,
        registered.cellType = .code := by
  rw [needsManualGrade, List.any_eq_false]
  constructor
  · intro hNone registered hMem
    rcases Table.mem_values_iff.1 hMem with ⟨id, hFind⟩
    have hGraded := h.graded id
    have hId := hSolution id (by simp [Table.contains, hFind])
    rw [hFind, hId] at hGraded
    cases hGrade : record.grade? id with
    | none =>
        rw [hGrade] at hGraded
        cases hGraded
    | some grade =>
        rw [hGrade] at hGraded
        cases hGraded with
        | some hAlone =>
            have hNeeds :=
              hNone grade (List.mem_of_find?_eq_some hGrade)
            rw [hAlone.2 rfl] at hNeeds
            exact Classical.not_not.1 hNeeds
  · intro hCode grade hMem hNeeds
    have hGrade :
        record.grade? grade.gradeId = some grade :=
      find?_key_of_mem Grade.gradeId h.nodup_gradeIds hMem
    have hGraded := h.graded grade.gradeId
    rw [hGrade] at hGraded
    cases hFind : record.gradeCells.find? grade.gradeId with
    | none =>
        rw [hFind] at hGraded
        cases hGraded
    | some registered =>
        rw [hFind,
          hSolution grade.gradeId
            (by simp [Table.contains, hFind])] at hGraded
        cases hGraded with
        | some hAlone =>
            have hMemCells :=
              Table.mem_values_iff.2
                ⟨grade.gradeId, hFind⟩
            exact hAlone.2 rfl |>.1 hNeeds
              (hCode registered hMemCells)

end NotebookRecord

------------------------------------------------------------
-- Recordings That Pass The Check
------------------------------------------------------------

namespace Recording

/-
  After a notebook is recorded in a new gradebook that
  passes the check, no grade waits for a human if and only
  if every registered grade cell holds code.
-/
theorem accepted_needs_no_human_iff
    (notebook : Notebook)
    (notebookId : String)
    (opened : OpenGradebook)
    {next : OpenGradebook}
    (hNew : opened.book = Gradebook.empty)
    (hRecorded :
      Recording.cells Cell.score notebookId notebook.cells
        opened = .ok next)
    (hAccepted : next.book.checkAutomatic = .ok ()) :
    (next.book.notebook notebookId).needsManualGrade =
        false ↔
      ∀ registered ∈
          (next.book.notebook notebookId).gradeCells.values,
        registered.cellType = .code := by
  have hRecord :
      next.book.notebook notebookId =
        NotebookRecord.afterCells
          { notebookId := notebookId } notebook.cells := by
    rcases cells_score notebookId opened notebook.cells with
      ⟨recorded, hCells, hUpdated⟩
    rw [hRecorded] at hCells
    rw [Except.ok.inj hCells, hUpdated.notebook_eq, hNew]
    rfl
  have hUnassisted :
      (next.book.notebook notebookId).Unassisted := by
    rw [hRecord]
    exact
      (NotebookRecord.unassisted_new notebookId).afterCells
        notebook.cells
  have hCheck :=
    Gradebook.checkAutomatic_notebook hAccepted notebookId
  exact
    hUnassisted.needsManualGrade_eq_false_iff
      (NotebookRecord.checkAutomatic_eq_ok_iff.1 hCheck).2

/- A graded cell of a type, worth one point. -/
def gradedCell
    (cellType : CellType) : Cell where
  cellType := cellType
  metadata :=
    { grading :=
        some
          { gradeId := some "a"
            grade := some true
            points := some 1 } }

/- One code cell passes, and nothing waits for a human. -/
theorem accepted_code_needs_no_human :
    ∃ next,
      Recording.cells Cell.score "k" [gradedCell .code]
        ⟨"gradebook.json", Gradebook.empty, false⟩ =
          .ok next ∧
      next.book.checkAutomatic = .ok () ∧
      (next.book.notebook "k").needsManualGrade = false := by
  refine ⟨_, rfl, rfl, ?_⟩
  have hExact :=
    accepted_needs_no_human_iff
      (Notebook.ofCells [gradedCell .code]) "k"
      ⟨"gradebook.json", Gradebook.empty, false⟩ rfl rfl rfl
  refine hExact.2 ?_
  intro registered hMem
  rw [List.mem_singleton.1 hMem]
  rfl

/- One markdown cell passes, but waits for a human. -/
theorem accepted_markdown_needs_human :
    ∃ next,
      Recording.cells Cell.score "k" [gradedCell .markdown]
        ⟨"gradebook.json", Gradebook.empty, false⟩ =
          .ok next ∧
      next.book.checkAutomatic = .ok () ∧
      (next.book.notebook "k").needsManualGrade = true :=
  ⟨_, rfl, rfl, rfl⟩

end Recording

end NotebookGrading
