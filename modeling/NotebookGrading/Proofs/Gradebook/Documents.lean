import NotebookGrading.Gradebook.Document
import NotebookGrading.Proofs.Json.Reader
import NotebookGrading.Proofs.Json.Records

/-
  Gradebooks read back from their documents and texts.

  A document has no spelling for a double that is not
  finite, so a gradebook is read back if all its doubles
  are finite. A total that is not finite makes the whole
  gradebook unreadable.

  Key definitions include:
    * `Gradebook.doubles`

  Main statements:
    * `Gradebook.ofDocument?_toDocument`
    * `Gradebook.ofDocument?_toDocument_eq_none`
    * `Gradebook.read?_toText`
-/

namespace NotebookGrading

open Json (Document)

------------------------------------------------------------
-- Doubles
------------------------------------------------------------

def Grade.doubles
    (grade : Grade) : List Float :=
  grade.autoScore.toList ++ grade.manualScore.toList

def NotebookRecord.doubles
    (record : NotebookRecord) : List Float :=
  record.maxScore ::
    (record.gradeCells.values.map (·.maxScore) ++
      record.taskCells.values.map (·.maxScore) ++
      record.grades.flatMap Grade.doubles)

def Gradebook.doubles
    (book : Gradebook) : List Float :=
  book.notebooks.values.flatMap NotebookRecord.doubles

------------------------------------------------------------
-- Grades, Comments And Cells
------------------------------------------------------------

open Json.Record Json.Document in
theorem Grade.ofDocument?_toDocument
    {grade : Grade}
    (h : ∀ x ∈ grade.doubles, x.isFinite) :
    ofDocument? grade.toDocument = some grade := by
  have hAuto :
      optional? float? (ofOption ofFloat grade.autoScore) =
        some grade.autoScore := by
    apply optional?_ofOption_ofFloat
    intro x hMem
    exact h x (by simp [doubles, Option.mem_def.1 hMem])
  have hManual :
      optional? float? (ofOption ofFloat grade.manualScore) =
        some grade.manualScore := by
    apply optional?_ofOption_ofFloat
    intro x hMem
    exact h x (by simp [doubles, Option.mem_def.1 hMem])
  -- The members are read one by one, on an opaque record.
  have hMembers :
      ∃ record,
        record? memberNames grade.toDocument =
            some record ∧
          record.required? "grade_id" text? =
            some grade.gradeId ∧
          record.defaulted? "auto_score" none
              (optional? float?) =
            some grade.autoScore ∧
          record.defaulted? "manual_score" none
              (optional? float?) =
            some grade.manualScore ∧
          record.defaulted? "needs_manual_grade" false
              bool? =
            some grade.needsManualGrade := by
    refine ⟨_, record?_ofMembers (by simp [memberNames])
      (by simp), ?_, ?_, ?_, ?_⟩
    · simp [required?, find?, Entries.find?]
    · simp [defaulted?, find?, Entries.find?, hAuto]
    · simp [defaulted?, find?, Entries.find?, hManual]
    · simp [defaulted?, find?, Entries.find?]
  rcases hMembers with
    ⟨record, hRecord, hId, hAutoScore, hManualScore, hNeeds⟩
  unfold ofDocument?
  simp only [hRecord, hId, hAutoScore, hManualScore, hNeeds,
    Option.bind_eq_bind, Option.bind_some]

open Json.Record Json.Document in
theorem Comment.ofDocument?_toDocument
    (comment : Comment) :
    ofDocument? comment.toDocument = some comment := by
  unfold ofDocument? toDocument
  rw [record?_ofMembers (by simp [memberNames])
    (by simp)]
  simp [required?, defaulted?, find?, Entries.find?,
    optional?_ofOption_ofText]

theorem CellType.choice?_name
    (cellType : CellType) :
    Json.Document.choice? CellType.ofName?
        (Json.Document.ofText cellType.name) =
      some cellType := by
  cases cellType <;> rfl

open Json.Record Json.Document in
theorem GradeCell.ofDocument?_toDocument
    {cell : GradeCell}
    (h : cell.maxScore.isFinite) :
    ofDocument? cell.toDocument = some cell := by
  unfold ofDocument? toDocument
  rw [record?_ofMembers (by simp [memberNames])
    (by simp)]
  simp [required?, find?, Entries.find?, cellType?,
    float?_ofFloat, h, CellType.choice?_name]

open Json.Record Json.Document in
theorem SolutionCell.ofDocument?_toDocument
    (cell : SolutionCell) :
    ofDocument? cell.toDocument = some cell := by
  unfold ofDocument? toDocument
  rw [record?_ofMembers (by simp [memberNames])
    (by simp)]
  simp [required?, find?, Entries.find?, cellType?,
    CellType.choice?_name]

open Json.Record Json.Document in
theorem TaskCell.ofDocument?_toDocument
    {cell : TaskCell}
    (h : cell.maxScore.isFinite) :
    ofDocument? cell.toDocument = some cell := by
  unfold ofDocument? toDocument
  rw [record?_ofMembers (by simp [memberNames])
    (by simp)]
  simp [required?, find?, Entries.find?, cellType?,
    float?_ofFloat, h, CellType.choice?_name]

------------------------------------------------------------
-- Records
------------------------------------------------------------

namespace NotebookRecord

open Json.Record Json.Document

variable {record : NotebookRecord}

theorem table?_gradeCells
    (h : ∀ x ∈ record.doubles, x.isFinite) :
    table? GradeCell.ofDocument?
        (record.gradeCells.toDocument
          GradeCell.toDocument) =
      some record.gradeCells := by
  apply table?_entryMembers
  intro cell hMem
  apply GradeCell.ofDocument?_toDocument
  apply h
  simp only [doubles, List.mem_cons, List.mem_append,
    List.mem_map]
  exact Or.inr (Or.inl (Or.inl ⟨cell, hMem, rfl⟩))

theorem table?_solutionCells
    (record : NotebookRecord) :
    table? SolutionCell.ofDocument?
        (record.solutionCells.toDocument
          SolutionCell.toDocument) =
      some record.solutionCells := by
  apply table?_entryMembers
  intro cell _
  exact SolutionCell.ofDocument?_toDocument cell

theorem table?_taskCells
    (h : ∀ x ∈ record.doubles, x.isFinite) :
    table? TaskCell.ofDocument?
        (record.taskCells.toDocument TaskCell.toDocument) =
      some record.taskCells := by
  apply table?_entryMembers
  intro cell hMem
  apply TaskCell.ofDocument?_toDocument
  apply h
  simp only [doubles, List.mem_cons, List.mem_append,
    List.mem_map]
  exact Or.inr (Or.inl (Or.inr ⟨cell, hMem, rfl⟩))

theorem list?_grades
    (h : ∀ x ∈ record.doubles, x.isFinite) :
    list? Grade.ofDocument?
        (ofList Grade.toDocument record.grades) =
      some record.grades := by
  apply list?_ofList
  intro grade hMem
  apply Grade.ofDocument?_toDocument
  intro x hDouble
  apply h
  simp only [doubles, List.mem_cons, List.mem_append,
    List.mem_flatMap]
  exact Or.inr (Or.inr ⟨grade, hMem, hDouble⟩)

theorem list?_comments
    (record : NotebookRecord) :
    list? Comment.ofDocument?
        (ofList Comment.toDocument record.comments) =
      some record.comments := by
  apply list?_ofList
  intro comment _
  exact Comment.ofDocument?_toDocument comment

theorem ofDocument?_toDocument
    (h : ∀ x ∈ record.doubles, x.isFinite) :
    ofDocument? record.toDocument = some record := by
  have hMax : record.maxScore.isFinite := by
    apply h
    simp [doubles]
  unfold ofDocument? toDocument
  rw [record?_ofMembers (by simp [memberNames])
    (by simp)]
  simp [required?, defaulted?, find?, Entries.find?,
    float?_ofFloat, hMax, table?_gradeCells h,
    table?_solutionCells record, table?_taskCells h,
    list?_grades h, list?_comments record]

/- A total that is not finite makes a record unreadable. -/
theorem ofDocument?_toDocument_eq_none
    (h : record.maxScore.isFinite = false) :
    ofDocument? record.toDocument = none := by
  unfold ofDocument? toDocument
  rw [record?_ofMembers (by simp [memberNames])
    (by simp)]
  simp [required?, defaulted?, find?, Entries.find?,
    float?_ofFloat, h]

end NotebookRecord

------------------------------------------------------------
-- Gradebooks
------------------------------------------------------------

namespace Gradebook

open Json.Record Json.Document

variable {book : Gradebook}

theorem record?_toDocument
    (book : Gradebook) :
    record? memberNames book.toDocument =
      some
        ⟨[("notebooks",
            book.notebooks.toDocument
              NotebookRecord.toDocument)], [], false⟩ :=
  record?_ofMembers (by simp [memberNames]) (by simp)

/- A gradebook of finite doubles is read back. -/
theorem ofDocument?_toDocument
    (h : ∀ x ∈ book.doubles, x.isFinite) :
    ofDocument? book.toDocument = some book := by
  have hNotebooks :
      table? NotebookRecord.ofDocument?
          (book.notebooks.toDocument
            NotebookRecord.toDocument) =
        some book.notebooks := by
    apply table?_entryMembers
    intro record hMem
    apply NotebookRecord.ofDocument?_toDocument
    intro x hDouble
    exact h x (List.mem_flatMap.2 ⟨record, hMem, hDouble⟩)
  unfold ofDocument?
  rw [record?_toDocument]
  simp [defaulted?, find?, Entries.find?, hNotebooks]

/- A total that is not finite spoils the whole gradebook. -/
theorem ofDocument?_toDocument_eq_none
    {record : NotebookRecord}
    (hMem : record ∈ book.notebooks.values)
    (h : record.maxScore.isFinite = false) :
    ofDocument? book.toDocument = none := by
  have hNotebooks :
      table? NotebookRecord.ofDocument?
          (book.notebooks.toDocument
            NotebookRecord.toDocument) = none :=
    table?_entryMembers_eq_none hMem
      (NotebookRecord.ofDocument?_toDocument_eq_none h)
  unfold ofDocument?
  rw [record?_toDocument]
  simp [defaulted?, find?, Entries.find?, hNotebooks]

end Gradebook

------------------------------------------------------------
-- Texts
------------------------------------------------------------

open Json.Document in
theorem Grade.readsBack_toDocument
    {grade : Grade}
    (h : DoublesReadBack grade.doubles) :
    grade.toDocument.ReadsBack := by
  have hAuto :
      (ofOption ofFloat grade.autoScore).ReadsBack := by
    apply readsBack_ofOption
    intro x hMem
    exact readsBack_ofFloat
      (h x (by simp [doubles, Option.mem_def.1 hMem]))
  have hManual :
      (ofOption ofFloat grade.manualScore).ReadsBack := by
    apply readsBack_ofOption
    intro x hMem
    exact readsBack_ofFloat
      (h x (by simp [doubles, Option.mem_def.1 hMem]))
  apply readsBack_ofMembers
  simp only [List.forall_mem_cons, List.not_mem_nil,
    false_implies, implies_true, and_true]
  exact ⟨readsBack_ofText _, hAuto, hManual, trivial⟩

open Json.Document in
theorem Comment.readsBack_toDocument
    (comment : Comment) :
    comment.toDocument.ReadsBack := by
  apply readsBack_ofMembers
  simp only [List.forall_mem_cons, List.not_mem_nil,
    false_implies, implies_true, and_true]
  exact
    ⟨readsBack_ofText _,
      readsBack_ofOption (fun _ _ => readsBack_ofText _),
      readsBack_ofOption (fun _ _ => readsBack_ofText _)⟩

open Json.Document in
theorem GradeCell.readsBack_toDocument
    {cell : GradeCell}
    (h :
      cell.maxScore.isFinite →
        (Json.Number.real cell.maxScore).ReadsBack) :
    cell.toDocument.ReadsBack := by
  apply readsBack_ofMembers
  simp only [List.forall_mem_cons, List.not_mem_nil,
    false_implies, implies_true, and_true]
  exact
    ⟨readsBack_ofText _, readsBack_ofFloat h,
      readsBack_ofText _⟩

open Json.Document in
theorem SolutionCell.readsBack_toDocument
    (cell : SolutionCell) :
    cell.toDocument.ReadsBack := by
  apply readsBack_ofMembers
  simp only [List.forall_mem_cons, List.not_mem_nil,
    false_implies, implies_true, and_true]
  exact ⟨readsBack_ofText _, readsBack_ofText _⟩

open Json.Document in
theorem TaskCell.readsBack_toDocument
    {cell : TaskCell}
    (h :
      cell.maxScore.isFinite →
        (Json.Number.real cell.maxScore).ReadsBack) :
    cell.toDocument.ReadsBack := by
  apply readsBack_ofMembers
  simp only [List.forall_mem_cons, List.not_mem_nil,
    false_implies, implies_true, and_true]
  exact
    ⟨readsBack_ofText _, readsBack_ofFloat h,
      readsBack_ofText _⟩

open Json.Document in
theorem NotebookRecord.readsBack_toDocument
    {record : NotebookRecord}
    (h : DoublesReadBack record.doubles) :
    record.toDocument.ReadsBack := by
  have hGradeCells :
      (record.gradeCells.toDocument
        GradeCell.toDocument).ReadsBack := by
    apply readsBack_entryMembers
    intro cell hMem
    apply GradeCell.readsBack_toDocument
    apply h
    simp only [doubles, List.mem_cons, List.mem_append,
      List.mem_map]
    exact Or.inr (Or.inl (Or.inl ⟨cell, hMem, rfl⟩))
  have hSolutionCells :
      (record.solutionCells.toDocument
        SolutionCell.toDocument).ReadsBack := by
    apply readsBack_entryMembers
    intro cell _
    exact cell.readsBack_toDocument
  have hTaskCells :
      (record.taskCells.toDocument
        TaskCell.toDocument).ReadsBack := by
    apply readsBack_entryMembers
    intro cell hMem
    apply TaskCell.readsBack_toDocument
    apply h
    simp only [doubles, List.mem_cons, List.mem_append,
      List.mem_map]
    exact Or.inr (Or.inl (Or.inr ⟨cell, hMem, rfl⟩))
  have hGrades :
      (ofList Grade.toDocument
        record.grades).ReadsBack := by
    apply readsBack_ofList
    intro grade hMem
    apply Grade.readsBack_toDocument
    apply h.subset
    intro x hDouble
    simp only [doubles, List.mem_cons, List.mem_append,
      List.mem_flatMap]
    exact Or.inr (Or.inr ⟨grade, hMem, hDouble⟩)
  have hComments :
      (ofList Comment.toDocument
        record.comments).ReadsBack := by
    apply readsBack_ofList
    intro comment _
    exact comment.readsBack_toDocument
  have hMax : (ofFloat record.maxScore).ReadsBack :=
    readsBack_ofFloat
      (h record.maxScore List.mem_cons_self)
  apply readsBack_ofMembers
  simp only [List.forall_mem_cons, List.not_mem_nil,
    false_implies, implies_true, and_true]
  exact
    ⟨readsBack_ofText _, hMax, hGradeCells, hSolutionCells,
      hTaskCells, hGrades, hComments⟩

namespace Gradebook

open Json.Document

variable {book : Gradebook}

theorem readsBack_toDocument
    (h : DoublesReadBack book.doubles) :
    book.toDocument.ReadsBack := by
  have hNotebooks :
      (book.notebooks.toDocument
        NotebookRecord.toDocument).ReadsBack := by
    apply readsBack_entryMembers
    intro record hMem
    apply NotebookRecord.readsBack_toDocument
    apply h.subset
    intro x hDouble
    exact List.mem_flatMap.2 ⟨record, hMem, hDouble⟩
  apply readsBack_ofMembers
  simpa using hNotebooks

/- The text of a gradebook spells its document. -/
theorem read?_toText
    (h : DoublesReadBack book.doubles) :
    Json.Document.read? book.toText =
      some book.toDocument :=
  read?_indented (readsBack_toDocument h)

end Gradebook

end NotebookGrading
