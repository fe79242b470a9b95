import NotebookGrading.Proofs.Gradebook.Automation
import NotebookGrading.Proofs.Gradebook.ExtractedScores
import NotebookGrading.Proofs.Gradebook.SeparateNotebooks
import NotebookGrading.Proofs.Pipeline.RegisteredPoints

/-
  Which cells keep a notebook from full automation.

  The check sees only the tables of registered cells. When a
  notebook is recorded for the first time, a role has an id
  in its table just when one of the cells has that role and
  that id. So the check reports a task if there is one with
  an id, and else lists, in ascending order, the ids of
  grade cells that are also ids of solutions, whether of the
  same cell or of two different ones.

  Key definitions include:
    * `NotebookRecord.newAfterCells`

  Main statements:
    * `Cell.contains_entries_iff`
    * `NotebookRecord.isEmpty_taskCells_new`
    * `NotebookRecord.mem_manualGradeCells_new`
    * `ScoresSaved.checkAutomatic_outcome`
-/

namespace NotebookGrading

variable {extractor : ScoreExtractor}
variable {cells : List Cell}
variable {key id : String}

------------------------------------------------------------
-- Registered Ids
------------------------------------------------------------

/- The entries of a role make up a table of its ids. -/
theorem Cell.contains_entries_iff
    {α : Type}
    {role : Cell → Bool}
    {make : Cell → String → α} :
    (Table.empty.insertAll
      (cells.filterMap (fun cell =>
        cell.underId (role cell)
          (fun own => (own, make cell own))))).contains id ↔
      HasRole role id cells := by
  rw [← mem_entries_iff]
  exact Table.contains_ofList_iff

namespace NotebookRecord

/- A record in which only the cells have been recorded. -/
def newAfterCells
    (extractor : ScoreExtractor)
    (key : String)
    (cells : List Cell) : NotebookRecord :=
  afterCellsBy extractor { notebookId := key } cells

theorem contains_gradeCells_new :
    (newAfterCells extractor key cells).gradeCells.contains
        id ↔
      Cell.HasRole Cell.isGrade id cells := by
  have hTable :
      (newAfterCells extractor key cells).gradeCells =
        Table.empty.insertAll
          (cells.filterMap Cell.registeredGrade?) :=
    gradeCells_afterCells _ cells
  rw [hTable]
  exact Cell.contains_entries_iff

theorem contains_solutionCells_new :
    (newAfterCells extractor key
        cells).solutionCells.contains id ↔
      Cell.HasRole Cell.isSolution id cells := by
  have hTable :
      (newAfterCells extractor key cells).solutionCells =
        Table.empty.insertAll
          (cells.filterMap Cell.registeredSolution?) :=
    solutionCells_afterCells _ cells
  rw [hTable]
  exact Cell.contains_entries_iff

theorem contains_taskCells_new :
    (newAfterCells extractor key cells).taskCells.contains
        id ↔
      Cell.HasRole Cell.isTask id cells := by
  have hTable :
      (newAfterCells extractor key cells).taskCells =
        Table.empty.insertAll
          (cells.filterMap Cell.registeredTask?) :=
    taskCells_afterCells _ cells
  rw [hTable]
  exact Cell.contains_entries_iff

/- There are no tasks without a task cell with an id. -/
theorem isEmpty_taskCells_new :
    (newAfterCells extractor key cells).taskCells.isEmpty ↔
      ¬ ∃ id, Cell.HasRole Cell.isTask id cells := by
  rw [Table.isEmpty_iff, not_exists]
  apply forall_congr'
  intro id
  rw [← contains_taskCells_new, Table.contains,
    Option.not_isSome_iff_eq_none]

/- A human is needed for ids of two roles. -/
theorem mem_manualGradeCells_new :
    id ∈ (newAfterCells extractor key
        cells).manualGradeCells ↔
      Cell.HasRole Cell.isGrade id cells ∧
        Cell.HasRole Cell.isSolution id cells := by
  rw [mem_manualGradeCells, contains_gradeCells_new,
    contains_solutionCells_new]

theorem notebookId_new :
    (newAfterCells extractor key cells).notebookId = key :=
  notebookId_afterCells { notebookId := key } cells

end NotebookRecord

------------------------------------------------------------
-- Saved Notebooks
------------------------------------------------------------

variable {path : String}
variable {tree next : FileTree}
variable {notebook : Notebook}
variable {before after : Gradebook}

/- A first run is judged by the cells of its notebook. -/
theorem ScoresSaved.checkAutomatic_new
    (h :
      ScoresSaved extractor path tree notebook key before
        after next)
    (hNew : before = Gradebook.empty) :
    after.checkAutomatic =
      (NotebookRecord.newAfterCells extractor key
        notebook.cells).checkAutomatic := by
  rcases h.recorded_eq with ⟨changed, hRecorded⟩
  have hUpdated := Recording.updated_of_cells hRecorded
  have hOthers :
      ∀ id, key ≠ id → after.notebook? id = none := by
    intro id hId
    rw [h.notebook?_eq hId, hNew]
    rfl
  have hRecord :
      after.notebook key =
        NotebookRecord.newAfterCells extractor key
          notebook.cells := by
    rw [hUpdated.notebook_eq, hNew]
    rfl
  rw [Gradebook.checkAutomatic_of_notebook?_eq_none hOthers,
    hRecord]

/-
  The check for full automation sees exactly the cells that
  are in the way, when the scores of a notebook have been
  saved in an empty gradebook. It reports a task just when
  there is a task cell with an id. Otherwise it reports, in
  ascending order and once each, the ids of grade cells that
  are also ids of solution cells, and accepts the notebook
  when there are none.
-/
theorem ScoresSaved.checkAutomatic_outcome
    (h :
      ScoresSaved extractor path tree notebook key before
        after next)
    (hNew : before = Gradebook.empty) :
    (after.checkAutomatic = .error (.taskCells key) ↔
        ∃ id,
          Cell.HasRole Cell.isTask id notebook.cells) ∧
      ((¬ ∃ id,
          Cell.HasRole Cell.isTask id notebook.cells) →
        ∃ ids : List String,
          ids.Pairwise (fun first second => first < second) ∧
          (∀ id,
            id ∈ ids ↔
              Cell.HasRole Cell.isGrade id notebook.cells ∧
                Cell.HasRole Cell.isSolution id
                  notebook.cells) ∧
          after.checkAutomatic =
            if ids = [] then
              .ok ()
            else
              .error (.manualGradeCells key ids)) := by
  let record :=
    NotebookRecord.newAfterCells extractor key notebook.cells
  have hId : record.notebookId = key :=
    NotebookRecord.notebookId_new
  have hTasks :
      record.taskCells.isEmpty ↔
        ¬ ∃ id,
          Cell.HasRole Cell.isTask id notebook.cells :=
    NotebookRecord.isEmpty_taskCells_new
  rw [h.checkAutomatic_new hNew]
  constructor
  · have hTask :
        record.checkAutomatic =
            .error (.taskCells record.notebookId) ↔
          ¬ record.taskCells.isEmpty :=
      NotebookRecord.checkAutomatic_eq_taskCells_iff
    rw [hId, hTasks, Classical.not_not] at hTask
    exact hTask
  · intro hNone
    have hCheck :=
      NotebookRecord.checkAutomatic_of_isEmpty
        (hTasks.2 hNone)
    rw [hId] at hCheck
    exact
      ⟨record.manualGradeCells,
        record.pairwise_manualGradeCells,
        fun _ => NotebookRecord.mem_manualGradeCells_new,
        hCheck⟩

/-
  Of three cells one is graded and a solution, and the other
  two have one role each under a common id.
-/
theorem ScoresSaved.checkAutomatic_outcome_two_ids :
    let notebook :=
      Notebook.ofCells
        [Recording.roleCell "b" true false false,
          Recording.roleCell "a" true true false,
          Recording.roleCell "b" false true false]
    ∃ after next,
      ScoresSaved Cell.score "/srv/g.json" FileTree.empty notebook
          "k" Gradebook.empty after next ∧
        after.checkAutomatic =
          .error (.manualGradeCells "k" ["a", "b"]) := by
  intro notebook
  rcases
      @exists_scoresSaved_new Cell.score notebook "k" rfl
    with ⟨after, next, hSaved⟩
  have hNoTask :
      ¬ ∃ id, Cell.HasRole Cell.isTask id notebook.cells := by
    simp [notebook, Notebook.ofCells, Cell.HasRole,
      Recording.roleCell, Cell.isTask, Cell.flag,
      Cell.grading]
  rcases (hSaved.checkAutomatic_outcome rfl).2 hNoTask with
    ⟨ids, hAscending, hIds, hCheck⟩
  have hRoles :
      ∀ id,
        Cell.HasRole Cell.isGrade id notebook.cells ∧
            Cell.HasRole Cell.isSolution id notebook.cells ↔
          id = "a" ∨ id = "b" := by
    intro id
    simp only [notebook, Notebook.ofCells, Cell.HasRole,
      List.exists_mem_cons_iff]
    simp [Recording.roleCell, Cell.isGrade, Cell.isSolution,
      Cell.gradeId, Cell.flag, Cell.grading]
    grind
  have hSame : ids = ["a", "b"] := by
    apply hAscending.eq_of_mem_iff (by decide)
    intro id
    rw [hIds, hRoles]
    simp
  rw [hSame] at hCheck
  exact ⟨after, next, hSaved, hCheck⟩

end NotebookGrading
