import NotebookGrading.Proofs.Gradebook.Documents
import NotebookGrading.Proofs.Gradebook.Recording
import NotebookGrading.Proofs.Json.Reads

/-
  The doubles of a gradebook are finite, with one exception.

  Those of a gradebook that was read are finite, and what a
  notebook records about its cells is finite as well. The
  maximum of a record is a sum of finite points, which may
  overflow.

  Key definitions include:
    * `NotebookRecord.EntriesFinite`
    * `Gradebook.IsFinite`

  Main statements:
    * `Gradebook.isFinite_ofText?`
    * `NotebookRecord.EntriesFinite.afterCells`
-/

namespace NotebookGrading

open Json (Document Reads)

------------------------------------------------------------
-- Finite Entries
------------------------------------------------------------

/- Whether all doubles but the maximum are finite. -/
structure NotebookRecord.EntriesFinite
    (record : NotebookRecord) : Prop where
  gradeCells :
    ∀ cell ∈ record.gradeCells.values,
      cell.maxScore.isFinite = true
  taskCells :
    ∀ cell ∈ record.taskCells.values,
      cell.maxScore.isFinite = true
  grades :
    ∀ grade ∈ record.grades,
      ∀ x ∈ grade.doubles, x.isFinite = true

theorem NotebookRecord.EntriesFinite.doubles
    {record : NotebookRecord}
    (h : record.EntriesFinite)
    (hMax : record.maxScore.isFinite = true) :
    ∀ x ∈ record.doubles, x.isFinite = true := by
  intro x hMem
  unfold NotebookRecord.doubles at hMem
  rcases List.mem_cons.1 hMem with hHead | hRest
  · rw [hHead]
    exact hMax
  · rcases List.mem_append.1 hRest with hCells | hGrades
    · rcases List.mem_append.1 hCells with hGrade | hTask
      · rcases List.mem_map.1 hGrade with ⟨cell, hCell, hX⟩
        rw [← hX]
        exact h.gradeCells cell hCell
      · rcases List.mem_map.1 hTask with ⟨cell, hCell, hX⟩
        rw [← hX]
        exact h.taskCells cell hCell
    · rcases List.mem_flatMap.1 hGrades with
        ⟨grade, hGrade, hX⟩
      exact h.grades grade hGrade x hX

theorem NotebookRecord.entriesFinite_new
    (notebookId : String) :
    EntriesFinite { notebookId := notebookId } where
  gradeCells := fun _ hMem => by cases hMem
  taskCells := fun _ hMem => by cases hMem
  grades := fun _ hMem => by cases hMem

/- Whether all doubles of a gradebook are finite. -/
def Gradebook.IsFinite
    (book : Gradebook) : Prop :=
  ∀ record ∈ book.notebooks.values,
    record.EntriesFinite ∧
      record.maxScore.isFinite = true

theorem Gradebook.isFinite_empty :
    Gradebook.empty.IsFinite :=
  fun _ hMem => by cases hMem

/- Also a new record holds finite doubles only. -/
theorem Gradebook.IsFinite.notebook
    {book : Gradebook}
    (h : book.IsFinite)
    (key : String) :
    (book.notebook key).EntriesFinite ∧
      (book.notebook key).maxScore.isFinite = true := by
  cases hFind : book.notebook? key with
  | none =>
      simp only [Gradebook.notebook, hFind,
        Option.getD_none]
      exact ⟨NotebookRecord.entriesFinite_new key,
        by decide +kernel⟩
  | some record =>
      simp only [Gradebook.notebook, hFind,
        Option.getD_some]
      exact h record (Table.mem_values_iff.2 ⟨key, hFind⟩)

------------------------------------------------------------
-- Gradebooks That Were Read
------------------------------------------------------------

theorem Grade.mem_doubles
    {grade : Grade}
    {x : Float} :
    x ∈ grade.doubles ↔
      x ∈ grade.autoScore ∨ x ∈ grade.manualScore := by
  simp [doubles]

theorem Grade.reads_ofDocument? :
    Reads Grade.ofDocument?
      (fun grade =>
        ∀ x ∈ grade.doubles, x.isFinite = true) := by
  intro document grade hDocument h x hMem
  have hOptional :=
    Json.reads_optional? Json.reads_float?
  simp only [Grade.ofDocument?, Option.bind_eq_bind,
    Option.bind_eq_some_iff] at h
  rcases h with
    ⟨record, hRecord, gradeId, -, autoScore, hAuto,
      manualScore, hManual, needs, -, hGrade⟩
  have hDeclared :=
    Json.Record.numbersFinite_declared hDocument hRecord
  injection hGrade with hGrade
  rw [← hGrade] at hMem
  rcases Grade.mem_doubles.1 hMem with hScore | hScore
  · exact Json.Record.reads_defaulted? hDeclared hOptional
      (fun _ hNone => by cases hNone) hAuto x hScore
  · exact Json.Record.reads_defaulted? hDeclared hOptional
      (fun _ hNone => by cases hNone) hManual x hScore

theorem GradeCell.reads_ofDocument? :
    Reads GradeCell.ofDocument?
      (fun cell => cell.maxScore.isFinite = true) := by
  intro document cell hDocument h
  simp only [GradeCell.ofDocument?, Option.bind_eq_bind,
    Option.bind_eq_some_iff] at h
  rcases h with
    ⟨record, hRecord, name, -, maxScore, hMax, cellType, -,
      hCell⟩
  have hDeclared :=
    Json.Record.numbersFinite_declared hDocument hRecord
  have hFinite :=
    Json.Record.reads_required? hDeclared
      Json.reads_float? hMax
  injection hCell with hCell
  rw [← hCell]
  exact hFinite

theorem TaskCell.reads_ofDocument? :
    Reads TaskCell.ofDocument?
      (fun cell => cell.maxScore.isFinite = true) := by
  intro document cell hDocument h
  simp only [TaskCell.ofDocument?, Option.bind_eq_bind,
    Option.bind_eq_some_iff] at h
  rcases h with
    ⟨record, hRecord, name, -, maxScore, hMax, cellType, -,
      hCell⟩
  have hDeclared :=
    Json.Record.numbersFinite_declared hDocument hRecord
  have hFinite :=
    Json.Record.reads_required? hDeclared
      Json.reads_float? hMax
  injection hCell with hCell
  rw [← hCell]
  exact hFinite

theorem NotebookRecord.reads_ofDocument? :
    Reads NotebookRecord.ofDocument?
      (fun record =>
        record.EntriesFinite ∧
          record.maxScore.isFinite = true) := by
  intro document notebook hDocument h
  simp only [NotebookRecord.ofDocument?,
    Option.bind_eq_bind, Option.bind_eq_some_iff] at h
  rcases h with
    ⟨record, hRecord, notebookId, -, maxScore, hMax,
      gradeCells, hGradeCells, solutionCells, -, taskCells,
      hTaskCells, grades, hGrades, comments, -, hNotebook⟩
  have hDeclared :=
    Json.Record.numbersFinite_declared hDocument hRecord
  have hFinite :=
    Json.Record.reads_defaulted? hDeclared
      Json.reads_float? (by decide +kernel) hMax
  injection hNotebook with hNotebook
  rw [← hNotebook]
  refine ⟨⟨?_, ?_, ?_⟩, hFinite⟩
  · exact Json.Record.reads_defaulted? hDeclared
      (Json.reads_table? GradeCell.reads_ofDocument?)
      (fun _ hMem => by cases hMem) hGradeCells
  · exact Json.Record.reads_defaulted? hDeclared
      (Json.reads_table? TaskCell.reads_ofDocument?)
      (fun _ hMem => by cases hMem) hTaskCells
  · exact Json.Record.reads_defaulted? hDeclared
      (Json.reads_list? Grade.reads_ofDocument?)
      (fun _ hMem => by cases hMem) hGrades

/- A gradebook that was read holds finite doubles only. -/
theorem Gradebook.isFinite_ofText?
    {text : String}
    {book : Gradebook}
    (h : ofText? text = some book) :
    book.IsFinite := by
  rcases Option.bind_eq_some_iff.1 h with
    ⟨document, hRead, hBook⟩
  simp only [Gradebook.ofDocument?, Option.bind_eq_bind,
    Option.bind_eq_some_iff] at hBook
  rcases hBook with
    ⟨record, hRecord, notebooks, hNotebooks, hEq⟩
  have hDeclared :=
    Json.Record.numbersFinite_declared
      (Document.numbersFinite_read? hRead) hRecord
  have hAll :
      ∀ notebook ∈ notebooks.values,
        notebook.EntriesFinite ∧
          notebook.maxScore.isFinite = true :=
    Json.Record.reads_defaulted? hDeclared
      (Json.reads_table? NotebookRecord.reads_ofDocument?)
      (fun _ hMem => by cases hMem) hNotebooks
  injection hEq with hEq
  rw [← hEq]
  exact hAll

------------------------------------------------------------
-- Points And Scores
------------------------------------------------------------

theorem Cell.isFinite_points
    (cell : Cell) :
    cell.points.isFinite = true := by
  unfold points
  split
  · decide +kernel
  · split
    · rename_i hPoints
      exact (Bool.and_eq_true_iff.1 hPoints).1
    · decide +kernel

theorem Output.isFinite_clamp
    {max : Float}
    (hMax : max.isFinite = true)
    (value : Float) :
    (clamp max value).isFinite = true := by
  unfold clamp
  split
  · decide +kernel
  · rename_i hValue
    split
    · exact hMax
    · split
      · decide +kernel
      · simpa using hValue

theorem Output.isFinite_verdict
    {max : Float}
    (hMax : max.isFinite = true)
    (output : Output) :
    (output.verdict max).isFinite = true := by
  unfold verdict partialCredit
  split
  · split
    · exact hMax
    · exact isFinite_clamp hMax _
  · decide +kernel

theorem Cell.isFinite_autoScore
    {cell : Cell}
    {score : Float}
    (h : score ∈ cell.autoScore) :
    score.isFinite = true := by
  unfold autoScore at h
  split at h
  · split at h
    · injection h with h
      rw [← h]
      decide +kernel
    · cases h
  · split at h
    · cases h
    · injection h with h
      rw [← h]
      unfold scoreOfOutputs
      split
      · exact cell.isFinite_points
      · exact Output.isFinite_verdict cell.isFinite_points _

------------------------------------------------------------
-- Records After Cells
------------------------------------------------------------

theorem Grade.isFinite_update
    {old new : Grade}
    (hOld : ∀ x ∈ old.doubles, x.isFinite = true)
    (hNew : ∀ x ∈ new.doubles, x.isFinite = true) :
    ∀ x ∈ (old.update new).doubles, x.isFinite = true := by
  intro x hMem
  rcases mem_doubles.1 hMem with hAuto | hManual
  · exact hNew x (mem_doubles.2 (.inl hAuto))
  · rcases Option.or_eq_some_iff.1 hManual with
      hKept | ⟨-, hEntered⟩
    · exact hOld x (mem_doubles.2 (.inr hKept))
    · exact hNew x (mem_doubles.2 (.inr hEntered))

namespace NotebookRecord

namespace EntriesFinite

variable {record : NotebookRecord}

theorem registerGradeCell
    {cell : GradeCell}
    (h : record.EntriesFinite)
    (hCell : cell.maxScore.isFinite = true) :
    (record.registerGradeCell cell).EntriesFinite := by
  refine ⟨?_, h.taskCells, h.grades⟩
  intro other hMem
  rcases Table.mem_values_insert hMem with hNew | hOld
  · rw [hNew]
    exact hCell
  · exact h.gradeCells other hOld

theorem registerTaskCell
    {cell : TaskCell}
    (h : record.EntriesFinite)
    (hCell : cell.maxScore.isFinite = true) :
    (record.registerTaskCell cell).EntriesFinite := by
  refine ⟨h.gradeCells, ?_, h.grades⟩
  intro other hMem
  rcases Table.mem_values_insert hMem with hNew | hOld
  · rw [hNew]
    exact hCell
  · exact h.taskCells other hOld

theorem addGrade
    {grade : Grade}
    (h : record.EntriesFinite)
    (hGrade : ∀ x ∈ grade.doubles, x.isFinite = true) :
    (record.addGrade grade).EntriesFinite := by
  refine ⟨h.gradeCells, h.taskCells, ?_⟩
  intro other hMem
  rcases mem_upsert _ _ _ _ hMem with
    hNew | hOld | ⟨old, hOld, hEq⟩
  · rw [hNew]
    exact hGrade
  · exact h.grades other hOld
  · rw [← hEq]
    exact Grade.isFinite_update (h.grades old hOld) hGrade

theorem gradeOf
    (h : record.EntriesFinite)
    (id : String) :
    ∀ x ∈ (record.gradeOf id).doubles,
      x.isFinite = true := by
  cases hGrade : record.grade? id with
  | none =>
      intro x hMem
      simp [NotebookRecord.gradeOf, hGrade,
        Grade.doubles] at hMem
  | some grade =>
      have hMem : grade ∈ record.grades :=
        List.mem_of_find?_eq_some hGrade
      simp only [NotebookRecord.gradeOf, hGrade,
        Option.getD_some]
      exact h.grades grade hMem

theorem afterGradeCell
    (h : record.EntriesFinite)
    (id : String)
    (cell : Cell) :
    (record.afterGradeCell id cell).EntriesFinite := by
  have hRegistered :
      (record.registerGradeCell
        ⟨id, cell.points, cell.cellType⟩).EntriesFinite :=
    h.registerGradeCell cell.isFinite_points
  apply hRegistered.addGrade
  intro x hMem
  rcases Grade.mem_doubles.1 hMem with hAuto | hManual
  · exact Cell.isFinite_autoScore hAuto
  · exact hRegistered.gradeOf id x
      (Grade.mem_doubles.2 (.inr hManual))

theorem registerSolutionCell
    (h : record.EntriesFinite)
    (cell : SolutionCell) :
    (record.registerSolutionCell cell).EntriesFinite :=
  ⟨h.gradeCells, h.taskCells, h.grades⟩

theorem withCommentCell
    (h : record.EntriesFinite)
    (id : String)
    (cell : Cell) :
    (record.withCommentCell id cell).EntriesFinite := by
  have hTask :
      EntriesFinite
        (if cell.isTask then
          record.registerTaskCell
            ⟨id, cell.points, cell.cellType⟩
        else
          record) := by
    split
    · exact h.registerTaskCell cell.isFinite_points
    · exact h
  simp only [NotebookRecord.withCommentCell]
  by_cases hSolution : cell.isSolution = true
  · rw [if_pos hSolution]
    exact hTask.registerSolutionCell _
  · rw [if_neg hSolution]
    exact hTask

theorem afterCommentCell
    (h : record.EntriesFinite)
    (id : String)
    (cell : Cell) :
    (record.afterCommentCell id cell).EntriesFinite := by
  have hRegistered := h.withCommentCell id cell
  exact ⟨hRegistered.gradeCells, hRegistered.taskCells,
    hRegistered.grades⟩

theorem afterIdentifiedCell
    (h : record.EntriesFinite)
    (id : String)
    (cell : Cell) :
    (record.afterIdentifiedCell id cell).EntriesFinite := by
  have hGraded :
      EntriesFinite
        (if cell.isGrade then
          record.afterGradeCell id cell
        else
          record) := by
    split
    · exact h.afterGradeCell id cell
    · exact h
  simp only [NotebookRecord.afterIdentifiedCell]
  by_cases hComment : Recording.needsComment cell = true
  · rw [if_pos hComment]
    exact hGraded.afterCommentCell id cell
  · rw [if_neg hComment]
    exact hGraded

/- Whatever is recorded about cells is finite. -/
theorem afterCells
    (h : record.EntriesFinite)
    (cells : List Cell) :
    (record.afterCells cells).EntriesFinite :=
  afterCells_induction
    (fun _ id cell hRecord =>
      hRecord.afterIdentifiedCell id cell)
    h cells

end EntriesFinite

end NotebookRecord

end NotebookGrading
