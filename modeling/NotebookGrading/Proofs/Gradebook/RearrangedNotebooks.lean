import NotebookGrading.Proofs.Gradebook.ExtractedScores
import NotebookGrading.Proofs.Gradebook.SeparateNotebooks

/-
  Recording the cells of a notebook in another order.

  Where no two recorded cells have the same id, each of them
  stores entries of its own and revises entries of its own,
  so any order of the cells leads to the same registered
  cells, the same maximum, and the same grade and comment
  for every id. Only the entries that are new, which go
  behind those that were there, stand in the order of their
  cells.

  Key definitions include:
    * `NotebookRecord.SameButForOrder`
    * `Gradebook.SameButForOrder`

  Main statements:
    * `Cell.nodup_contributions`
    * `NotebookRecord.afterCellsBy_perm`
    * `Recording.cells_rearranged`
-/

namespace NotebookGrading

------------------------------------------------------------
-- Contributions Of Different Cells
------------------------------------------------------------

/- A role in which something is recorded for a cell. -/
def Cell.IsRecordedRole
    (role : Cell → Bool) : Prop :=
  ∀ cell : Cell,
    role cell = true →
      cell.isGrade || Recording.needsComment cell

theorem Cell.isRecordedRole_isGrade :
    IsRecordedRole isGrade := by
  intro cell hGrade
  simp [hGrade]

theorem Cell.isRecordedRole_isSolution :
    IsRecordedRole isSolution := by
  intro cell hSolution
  simp [Recording.needsComment, hSolution]

theorem Cell.isRecordedRole_isTask :
    IsRecordedRole isTask := by
  intro cell hTask
  simp [Recording.needsComment, hTask]

theorem Cell.isRecordedRole_needsComment :
    IsRecordedRole Recording.needsComment := by
  intro cell hComment
  simp [hComment]

section Contributions

variable {α : Type}
variable {role : Cell → Bool}
variable {first second : List Cell}

/- What cells contribute in a role has ids of its own. -/
theorem Cell.nodup_contributions
    {make : Cell → String → α}
    {idOf : α → String}
    (hRole : IsRecordedRole role)
    (hOwn : ∀ cell id, idOf (make cell id) = id)
    (hIds : (first.filterMap recordedId?).Nodup) :
    ((first.filterMap
      (fun cell =>
        cell.underId (role cell) (make cell))).map
          idOf).Nodup := by
  have hSublist :
      ((first.filterMap
        (fun cell =>
          cell.underId (role cell) (make cell))).map
            idOf).Sublist
        (first.filterMap recordedId?) := by
    clear hIds
    induction first with
    | nil => exact List.Sublist.refl []
    | cons cell rest ih =>
        cases hCell :
            cell.underId (role cell) (make cell) with
        | none =>
            rw [List.filterMap_cons]
            simp only [hCell]
            refine ih.trans ?_
            exact
              (List.sublist_cons_self cell rest).filterMap _
        | some value =>
            rcases underId_eq_some_iff.1 hCell with
              ⟨hHas, id, hId, rfl⟩
            have hRecorded : cell.recordedId? = some id := by
              rw [recordedId?, if_pos (hRole cell hHas), hId]
            rw [List.filterMap_cons_some hRecorded,
              List.filterMap_cons]
            simp only [hCell, List.map_cons, hOwn]
            exact ih.cons_cons id
  exact hIds.sublist hSublist

/- Entries of cells can be stored in any order. -/
theorem Table.insertAll_cells_perm
    {make : Cell → String → String × α}
    (hRole : Cell.IsRecordedRole role)
    (hOwn : ∀ cell id, (make cell id).1 = id)
    (hPerm : first.Perm second)
    (hIds : (first.filterMap Cell.recordedId?).Nodup)
    (table : Table α) :
    table.insertAll
        (first.filterMap
          (fun cell =>
            cell.underId (role cell) (make cell))) =
      table.insertAll
        (second.filterMap
          (fun cell =>
            cell.underId (role cell) (make cell))) :=
  table.insertAll_perm (hPerm.filterMap _)
    (Cell.nodup_contributions hRole hOwn hIds)

/- Entries can be revised by cells in any order. -/
theorem Revision.sameBehind_cells
    {key : α → String}
    {fresh : String → α}
    {change : Cell → α → α}
    (hRole : Cell.IsRecordedRole role)
    (hFresh : ∀ id, key (fresh id) = id)
    (hKey :
      ∀ cell value, key (change cell value) = key value)
    (hPerm : first.Perm second)
    (hIds : (first.filterMap Cell.recordedId?).Nodup)
    (values : List α) :
    SameBehind key values
      (applyAll key fresh values
        (first.filterMap
          (fun cell =>
            cell.underId (role cell)
              (fun id => ⟨id, change cell⟩))))
      (applyAll key fresh values
        (second.filterMap
          (fun cell =>
            cell.underId (role cell)
              (fun id => ⟨id, change cell⟩)))) := by
  have hKeep :=
    NotebookRecord.keepKeys_underId first role hFresh hKey
  exact
    hKeep.sameBehind (hPerm.filterMap _)
      (Cell.nodup_contributions hRole (fun _ _ => rfl) hIds)
      values

end Contributions

------------------------------------------------------------
-- Records
------------------------------------------------------------

namespace NotebookRecord

/-
  Two records that come from an earlier one and are equal
  up to the order of the new entries.
-/
structure SameButForOrder
    (before first second : NotebookRecord) : Prop where
  notebookId_eq : first.notebookId = second.notebookId
  maxScore_eq : first.maxScore = second.maxScore
  gradeCells_eq : first.gradeCells = second.gradeCells
  solutionCells_eq :
    first.solutionCells = second.solutionCells
  taskCells_eq : first.taskCells = second.taskCells
  grade?_eq : ∀ id, first.grade? id = second.grade? id
  comment?_eq :
    ∀ id, first.comment? id = second.comment? id
  grades_behind :
    Revision.SameBehind Grade.gradeId before.grades
      first.grades second.grades
  comments_behind :
    Revision.SameBehind Comment.gradeId before.comments
      first.comments second.comments

theorem SameButForOrder.refl
    (record : NotebookRecord) :
    SameButForOrder record record record :=
  ⟨rfl, rfl, rfl, rfl, rfl, fun _ => rfl, fun _ => rfl,
    Revision.SameBehind.refl record.grades,
    Revision.SameBehind.refl record.comments⟩

variable {extractor : ScoreExtractor}
variable {first second : List Cell}

/- The maximum is the same in any order of the cells. -/
theorem maxScore_afterCells_perm
    {record : NotebookRecord}
    (hPerm : first.Perm second)
    (hGradeCells :
      (record.afterCells first).gradeCells =
        (record.afterCells second).gradeCells)
    (hTaskCells :
      (record.afterCells first).taskCells =
        (record.afterCells second).taskCells) :
    (record.afterCells first).maxScore =
      (record.afterCells second).maxScore := by
  have hPoints :
      (record.afterCells first).registeredPoints =
        (record.afterCells second).registeredPoints := by
    unfold registeredPoints
    rw [hGradeCells, hTaskCells]
  rw [maxScore_afterCells, maxScore_afterCells, hPoints,
    hPerm.any_eq]

/-
  Cells with ids of their own bring a record up to date in
  any order.
-/
theorem afterCellsBy_perm
    (record : NotebookRecord)
    (hPerm : first.Perm second)
    (hIds : (first.filterMap Cell.recordedId?).Nodup) :
    SameButForOrder record
      (record.afterCellsBy extractor first)
      (record.afterCellsBy extractor second) := by
  have hGradeCells :
      (record.afterCells first).gradeCells =
        (record.afterCells second).gradeCells := by
    rw [gradeCells_afterCells, gradeCells_afterCells]
    exact
      Table.insertAll_cells_perm Cell.isRecordedRole_isGrade
        (fun _ _ => rfl) hPerm hIds record.gradeCells
  have hSolutionCells :
      (record.afterCells first).solutionCells =
        (record.afterCells second).solutionCells := by
    rw [solutionCells_afterCells, solutionCells_afterCells]
    exact
      Table.insertAll_cells_perm
        Cell.isRecordedRole_isSolution (fun _ _ => rfl)
        hPerm hIds record.solutionCells
  have hTaskCells :
      (record.afterCells first).taskCells =
        (record.afterCells second).taskCells := by
    rw [taskCells_afterCells, taskCells_afterCells]
    exact
      Table.insertAll_cells_perm Cell.isRecordedRole_isTask
        (fun _ _ => rfl) hPerm hIds record.taskCells
  have hGrades :
      Revision.SameBehind Grade.gradeId record.grades
        (record.afterCellsBy extractor first).grades
        (record.afterCellsBy extractor second).grades :=
    Revision.sameBehind_cells Cell.isRecordedRole_isGrade
      (fun _ => rfl)
      (fun _ grade => grade.gradeId_extracted _) hPerm hIds
      record.grades
  have hComments :
      Revision.SameBehind Comment.gradeId record.comments
        (record.afterCells first).comments
        (record.afterCells second).comments := by
    rw [comments_afterCells, comments_afterCells]
    refine
      Revision.sameBehind_cells
        Cell.isRecordedRole_needsComment ?_ ?_ hPerm hIds
        record.comments
    · intro id
      rfl
    · intro cell comment
      rfl
  have hNotebookId :
      (record.afterCells first).notebookId =
        (record.afterCells second).notebookId := by
    rw [notebookId_afterCells, notebookId_afterCells]
  exact
    ⟨hNotebookId,
      maxScore_afterCells_perm hPerm hGradeCells hTaskCells,
      hGradeCells, hSolutionCells, hTaskCells,
      hGrades.find?_eq, hComments.find?_eq, hGrades,
      hComments⟩

end NotebookRecord

------------------------------------------------------------
-- Gradebooks
------------------------------------------------------------

/-
  Two gradebooks that come from an earlier one and are equal
  up to the order of the new entries of one notebook.
-/
structure Gradebook.SameButForOrder
    (key : String)
    (before first second : Gradebook) : Prop where
  others_eq :
    ∀ id, key ≠ id →
      first.notebook? id = before.notebook? id ∧
        second.notebook? id = before.notebook? id
  record_rel :
    Option.Rel
      (NotebookRecord.SameButForOrder (before.notebook key))
      (first.notebook? key) (second.notebook? key)

/- A gradebook that was left as it is. -/
theorem Gradebook.SameButForOrder.refl
    (key : String)
    (book : Gradebook) :
    SameButForOrder key book book book := by
  refine ⟨fun _ _ => ⟨rfl, rfl⟩, ?_⟩
  rw [Gradebook.notebook]
  cases book.notebook? key with
  | none => exact Option.Rel.none
  | some record =>
      exact
        Option.Rel.some
          (NotebookRecord.SameButForOrder.refl record)

namespace Recording

variable {extractor : ScoreExtractor}
variable {key path : String}
variable {book : Gradebook}
variable {first second : List Cell}

/- Whether scores are extracted hangs on no order. -/
theorem scoresAll_perm
    (hPerm : first.Perm second)
    (h : extractor.ScoresAll first) :
    extractor.ScoresAll second :=
  fun cell hMem => h cell (hPerm.symm.subset hMem)

/- Nor does whether anything is recorded. -/
theorem anyRecorded_perm
    (hPerm : first.Perm second) :
    Cell.anyRecorded first = Cell.anyRecorded second :=
  hPerm.any_eq

/-
  Cells with ids of their own, recorded in two orders in a
  gradebook that has not changed.
-/
theorem sameButForOrder_of_cells
    {next other : OpenGradebook}
    (hPerm : first.Perm second)
    (hIds : (first.filterMap Cell.recordedId?).Nodup)
    (hFirst :
      Recording.cells extractor key first
        ⟨path, book, false⟩ = .ok next)
    (hSecond :
      Recording.cells extractor key second
        ⟨path, book, false⟩ = .ok other) :
    Gradebook.SameButForOrder key book next.book
      other.book := by
  have hNext :=
    notebook?_of_updated hFirst (updated_of_cells hFirst) rfl
  have hOther :=
    notebook?_of_updated hSecond (updated_of_cells hSecond)
      rfl
  rw [← anyRecorded_perm hPerm] at hOther
  by_cases hAny : Cell.anyRecorded first
  · simp only [hAny, true_and] at hNext hOther
    constructor
    · intro id hId
      rw [hNext, hOther, if_neg hId, if_neg hId]
      exact ⟨rfl, rfl⟩
    · rw [hNext, hOther, if_pos rfl, if_pos rfl]
      exact
        Option.Rel.some
          ((book.notebook key).afterCellsBy_perm hPerm hIds)
  · -- Nothing is recorded, and the gradebook stays.
    simp only [hAny] at hNext hOther
    rw [Gradebook.ext_notebook? hNext,
      Gradebook.ext_notebook? hOther]
    exact Gradebook.SameButForOrder.refl key book

/- A run that saved scores could take another order. -/
theorem exists_scoresSaved_perm
    {tree next : FileTree}
    {notebook rearranged : Notebook}
    {before after : Gradebook}
    (hPerm : notebook.cells.Perm rearranged.cells)
    (h :
      ScoresSaved extractor path tree notebook key before
        after next) :
    ∃ other reached,
      ScoresSaved extractor path tree rearranged key before
        other reached := by
  rcases scoresSaved_iff.1 h with
    ⟨changed, hOpened, hRecorded, hCommit⟩
  have hScores :=
    scoresAll_perm hPerm (scoresAll_of_cells hRecorded)
  have hSucceeds :
      ∃ next,
        Recording.cells extractor key rearranged.cells
          ⟨path, before, false⟩ = .ok next :=
    exists_cells_iff.2 hScores
  rcases hSucceeds with
    ⟨⟨otherPath, other, otherChanged⟩, hOther⟩
  have hUpdated := updated_of_cells hOther
  have hPath : otherPath = path := hUpdated.path_eq
  have hChanged : otherChanged = changed := by
    have hFirst := changed_cells hRecorded
    have hSecond := changed_cells hOther
    rw [← anyRecorded_perm hPerm] at hSecond
    exact hSecond.trans hFirst.symm
  rw [hPath, hChanged] at hOther
  -- Whether a commit succeeds hangs on no content.
  rcases
      @OpenGradebook.exists_commit_congr _ _ _
        ⟨path, other, changed⟩ hCommit rfl rfl with
    ⟨reached, hReached⟩
  exact
    ⟨other, reached,
      scoresSaved_iff.2
        ⟨changed, hOpened, hOther, hReached⟩⟩

/-
  The order of the cells of a notebook does not influence
  what is recorded, where no two recorded cells have the
  same id, whatever the gradebook held before. Recording
  succeeds in every order or in none, and registered cells,
  maximum, and the grade and the comment of every id are the
  same. Only the new grades and comments, behind those that
  were there, may stand in another order. The same is true
  of runs that open and store the gradebook: if one succeeds
  then so does the other.
-/
theorem cells_rearranged
    (extractor : ScoreExtractor)
    (key : String)
    {notebook rearranged : Notebook}
    (hPerm : notebook.cells.Perm rearranged.cells)
    (hIds :
      (notebook.cells.filterMap Cell.recordedId?).Nodup) :
    (∀ path book,
      ((∃ next,
        Recording.cells extractor key notebook.cells
          ⟨path, book, false⟩ = .ok next) ↔
        ∃ other,
          Recording.cells extractor key rearranged.cells
            ⟨path, book, false⟩ = .ok other) ∧
        ∀ next other,
          Recording.cells extractor key notebook.cells
              ⟨path, book, false⟩ = .ok next →
            Recording.cells extractor key rearranged.cells
              ⟨path, book, false⟩ = .ok other →
            Gradebook.SameButForOrder key book next.book
              other.book) ∧
      ∀ path tree before after next,
        ScoresSaved extractor path tree notebook key before
            after next →
          ∃ other reached,
            ScoresSaved extractor path tree rearranged key
                before other reached ∧
              Gradebook.SameButForOrder key before after
                other := by
  constructor
  · intro path book
    constructor
    · rw [exists_cells_iff, exists_cells_iff]
      exact
        ⟨scoresAll_perm hPerm, scoresAll_perm hPerm.symm⟩
    · intro next other hNext hOther
      exact sameButForOrder_of_cells hPerm hIds hNext hOther
  · intro path tree before after next hSaved
    rcases exists_scoresSaved_perm hPerm hSaved with
      ⟨other, reached, hOther⟩
    rcases hSaved.recorded_eq with ⟨_, hFirst⟩
    rcases hOther.recorded_eq with ⟨_, hSecond⟩
    exact
      ⟨other, reached, hOther,
        sameButForOrder_of_cells hPerm hIds hFirst hSecond⟩

/-
  A solution and a task in two orders, in a gradebook with a
  manual score: new comments change places, the rest stays.
-/
theorem cells_rearranged_solution_task :
    let solution := roleCell "a" true true false
    let task := roleCell "b" false false true
    let notebook := Notebook.ofCells [solution, task]
    let rearranged := Notebook.ofCells [task, solution]
    let book : Gradebook :=
      Gradebook.empty.apply "n" (.setManualScore "a" 2)
    notebook.cells.Perm rearranged.cells ∧
      (notebook.cells.filterMap Cell.recordedId?).Nodup ∧
      ∃ next other,
        Recording.cells Cell.score "n" notebook.cells
            ⟨"g.json", book, false⟩ = .ok next ∧
          Recording.cells Cell.score "n" rearranged.cells
            ⟨"g.json", book, false⟩ = .ok other ∧
          Gradebook.SameButForOrder "n" book next.book
            other.book ∧
          (next.book.notebook "n").comments ≠
            (other.book.notebook "n").comments := by
  intro solution task notebook rearranged book
  have hPerm : notebook.cells.Perm rearranged.cells :=
    List.Perm.swap task solution []
  have hIds :
      (notebook.cells.filterMap
        Cell.recordedId?).Nodup := by
    change ["a", "b"].Nodup
    decide
  refine ⟨hPerm, hIds, _, _, rfl, rfl, ?_, ?_⟩
  · exact
      ((cells_rearranged Cell.score "n" hPerm hIds).1
        "g.json" book).2 _ _ rfl rfl
  · intro hSame
    have hOrder :=
      congrArg (List.map Comment.gradeId) hSame
    change ["a", "b"] = ["b", "a"] at hOrder
    exact absurd hOrder (by decide)

end Recording

end NotebookGrading
