import NotebookGrading.Proofs.Pipeline.Runs

/-
  The points that make up the maximum of a notebook.

  A run that grades a notebook for the first time registers
  its grade cells and its tasks in two tables, whose sums
  are added. The ids of grade cells are unique, so each has
  an entry of its own. Nothing keeps a task from having the
  id of a grade cell, or a cell from being both, and such an
  id is counted in both sums.

  Key definitions include:
    * `Cell.HasRole`

  Main statements:
    * `Cell.nodup_gradeEntries`
    * `Pipeline.registered_autograde`
-/

namespace NotebookGrading

------------------------------------------------------------
-- Entries And Their Ids
------------------------------------------------------------

namespace Cell

/- Some of the cells have a role under an id. -/
def HasRole
    (role : Cell → Bool)
    (id : String)
    (cells : List Cell) : Prop :=
  ∃ cell ∈ cells,
    role cell = true ∧ cell.gradeId = some id

instance
    (role : Cell → Bool)
    (id : String)
    (cells : List Cell) :
    Decidable (HasRole role id cells) :=
  inferInstanceAs
    (Decidable
      (∃ cell ∈ cells,
        role cell = true ∧ cell.gradeId = some id))

/- The ids of the entries of one role. -/
theorem mem_entries_iff
    {α : Type}
    {role : Cell → Bool}
    {make : Cell → String → α}
    {cells : List Cell}
    {id : String} :
    id ∈
        (cells.filterMap (fun cell =>
          cell.underId (role cell)
            (fun own => (own, make cell own)))).map
          Prod.fst ↔
      HasRole role id cells := by
  simp only [List.mem_map, List.mem_filterMap,
    underId_eq_some_iff]
  constructor
  · rintro ⟨entry, ⟨cell, hMem, hRole, own, hOwn, rfl⟩, rfl⟩
    exact ⟨cell, hMem, hRole, hOwn⟩
  · rintro ⟨cell, hMem, hRole, hOwn⟩
    exact ⟨_, ⟨cell, hMem, hRole, id, hOwn, rfl⟩, rfl⟩

theorem mem_gradeEntries_iff
    {cells : List Cell}
    {id : String} :
    id ∈ (cells.filterMap registeredGrade?).map Prod.fst ↔
      HasRole isGrade id cells :=
  mem_entries_iff

theorem mem_taskEntries_iff
    {cells : List Cell}
    {id : String} :
    id ∈ (cells.filterMap registeredTask?).map Prod.fst ↔
      HasRole isTask id cells :=
  mem_entries_iff

/- Grade cells are graded units, so their ids differ. -/
theorem nodup_gradeEntries
    {cells : List Cell}
    (hUnique : (unitIds cells).Nodup) :
    ((cells.filterMap registeredGrade?).map
      Prod.fst).Nodup := by
  induction cells with
  | nil => simp
  | cons cell rest ih =>
      rcases nodup_unitIds_cons.1 hUnique with ⟨hOwn, hRest⟩
      cases hEntry : cell.registeredGrade? with
      | none =>
          rw [List.filterMap_cons_none hEntry]
          exact ih hRest
      | some entry =>
          rw [List.filterMap_cons_some hEntry, List.map_cons,
            List.nodup_cons]
          refine ⟨?_, ih hRest⟩
          rcases underId_eq_some_iff.1 hEntry with
            ⟨hGrade, id, hId, rfl⟩
          rw [mem_gradeEntries_iff]
          rintro ⟨other, hMem, hOtherGrade, hOtherId⟩
          have hUnit : cell.uniqueId? = some id :=
            uniqueId?_of_scoredId?
              (by simp [scoredId?, hGrade, hId])
          have hOtherUnit : other.uniqueId? = some id :=
            uniqueId?_of_scoredId?
              (by simp [scoredId?, hOtherGrade, hOtherId])
          exact
            hOwn id hUnit
              (List.mem_filterMap.2
                ⟨other, hMem, hOtherUnit⟩)

end Cell

------------------------------------------------------------
-- First Runs
------------------------------------------------------------

namespace Pipeline

variable {tree next : FileTree}
variable {notebook graded : Notebook}
variable {resources : Resources}
variable {locks : LockSwitches}
variable {limits : Option OutputLimits}

/- Saving scores brings the record up to date. -/
theorem Saves.notebook_committed
    {cells : List Cell}
    {key : String}
    {opened committed : OpenGradebook}
    (h :
      Saves tree next resources cells key opened
        committed) :
    committed.book.notebook key =
      (opened.book.notebook key).afterCells cells := by
  rcases Recording.cells_score key opened cells with
    ⟨recorded, hRecorded, hUpdated⟩
  rw [h.recorded_eq] at hRecorded
  rw [Except.ok.inj hRecorded]
  exact hUpdated.notebook_eq

/- Without header and footer ids are unique in the end. -/
theorem nodup_unitIds_autograde
    (h :
      run tree notebook resources
          (autograde ⟨none, none, locks, limits⟩) =
        (next, .ok graded)) :
    (Cell.unitIds graded.cells).Nodup := by
  rw [cells_autograde_bare h,
    Cell.unitIds_map (Configuration.grading_prepared _)]
  exact Cell.nodup_unitIds_clearRepeated [] notebook.cells

/-
  What a first run registers. The tables hold the entries of
  the grade cells, each its own, and of the tasks, of which
  the last with an id counts. An id stands in both tables
  exactly when a grade cell and a task have it, which may be
  the same cell; otherwise its points enter the maximum
  through one of the two sums.
-/
theorem registered_autograde
    (h :
      run tree notebook resources
          (autograde ⟨none, none, locks, limits⟩) =
        (next, .ok graded)) :
    ∃ key opened committed,
      Saves tree next resources graded.cells key opened
        committed ∧
      (opened.book.notebook? key = none →
        let record := committed.book.notebook key
        (∀ id,
          record.gradeCells.contains id ∧
              record.taskCells.contains id ↔
            Cell.HasRole Cell.isGrade id graded.cells ∧
              Cell.HasRole Cell.isTask id graded.cells) ∧
        (∀ cell ∈ graded.cells, ∀ id,
          cell.isGrade → cell.gradeId = some id →
            record.gradeCells.find? id =
              some ⟨id, cell.points, cell.cellType⟩) ∧
        record.gradeCells =
          Table.ofList
            (graded.cells.filterMap Cell.registeredGrade?) ∧
        record.taskCells =
          Table.ofList
            (graded.cells.filterMap Cell.registeredTask?) ∧
        record.maxScore =
          if graded.cells.any (·.pointsId?.isSome) then
            record.registeredPoints
          else
            0) := by
  rcases run_autograde_eq_ok_iff.1 h with
    ⟨included, key, opened, committed, -, -, hSaves⟩
  refine ⟨key, opened, committed, hSaves, ?_⟩
  intro hNew record
  have hRecord :
      record =
        NotebookRecord.afterCells { notebookId := key }
          graded.cells := by
    simp only [record]
    rw [hSaves.notebook_committed, Gradebook.notebook, hNew]
    rfl
  have hGradeCells :
      record.gradeCells =
        Table.ofList
          (graded.cells.filterMap Cell.registeredGrade?) := by
    rw [hRecord, NotebookRecord.gradeCells_afterCells]
    rfl
  have hTaskCells :
      record.taskCells =
        Table.ofList
          (graded.cells.filterMap Cell.registeredTask?) := by
    rw [hRecord, NotebookRecord.taskCells_afterCells]
    rfl
  refine ⟨?_, ?_, hGradeCells, hTaskCells, ?_⟩
  · intro id
    rw [hGradeCells, hTaskCells, Table.contains_ofList_iff,
      Table.contains_ofList_iff, Cell.mem_gradeEntries_iff,
      Cell.mem_taskEntries_iff]
  · intro cell hMem id hGrade hId
    have hNodup :=
      Cell.nodup_gradeEntries (nodup_unitIds_autograde h)
    have hEntry :
        (id, ⟨id, cell.points, cell.cellType⟩) ∈
          graded.cells.filterMap Cell.registeredGrade? :=
      List.mem_filterMap.2
        ⟨cell, hMem,
          Cell.underId_eq_some_iff.2
            ⟨hGrade, id, hId, rfl⟩⟩
    rw [hGradeCells, Table.find?_ofList,
      Entries.find?_reverse hNodup]
    exact Entries.find?_of_mem_of_nodup hNodup hEntry
  · rw [hRecord, NotebookRecord.maxScore_afterCells]

/- A code cell with points and some roles under an id. -/
def pointsCell
    (id : String)
    (grade task : Bool)
    (points : Float) : Cell where
  cellType := .code
  metadata :=
    { grading :=
        some
          { gradeId := some id
            grade := some grade
            task := some task
            points := some points } }

/- The run that grades cells for the first time. -/
def gradeFirst
    (cells : List Cell) :
    FileTree × Except StageError Notebook :=
  run FileTree.empty (Notebook.ofCells cells)
    ⟨some "k", some "g.json"⟩ (autograde {})

/-
  A grade cell and a task with ids of their own are counted
  once each.
-/
theorem registered_autograde_apart :
    let cells :=
      [pointsCell "a" true false 1, pointsCell "b" false true 2]
    ∃ next graded opened committed,
      gradeFirst cells = (next, .ok graded) ∧
      Saves FileTree.empty next ⟨some "k", some "g.json"⟩
        graded.cells "k" opened committed ∧
      opened.book.notebook? "k" = none ∧
      (committed.book.notebook "k").gradeCells.find? "a" =
        some ⟨"a", 1, .code⟩ ∧
      ¬ ((committed.book.notebook
            "k").gradeCells.contains "b" ∧
          (committed.book.notebook
            "k").taskCells.contains "b") ∧
      (committed.book.notebook "k").maxScore = 3 := by
  intro cells
  have hOk : (gradeFirst cells).2.toBool := by
    decide +kernel
  rcases exists_of_toBool hOk with ⟨next, graded, hRun⟩
  have hCells := cells_autograde_bare hRun
  rcases registered_autograde hRun with
    ⟨key, opened, committed, hSaves, hFirst⟩
  rcases hSaves.eq_of_openAt openAt_empty with ⟨rfl, rfl⟩
  rcases hFirst rfl with
    ⟨hBoth, -, hGradeCells, hTaskCells, hMax⟩
  refine
    ⟨next, graded, _, committed, hRun, hSaves, rfl, ?_, ?_,
      ?_⟩
  · rw [hGradeCells, hCells]
    decide +kernel
  · rw [hBoth, hCells]
    decide +kernel
  · rw [hMax]
    unfold NotebookRecord.registeredPoints
    rw [hGradeCells, hTaskCells, hCells]
    decide +kernel

/-
  A cell that is a grade cell and a task is registered as
  both, and its point is counted twice.
-/
theorem registered_autograde_twice :
    ∃ next graded opened committed,
      gradeFirst [pointsCell "a" true true 1] =
        (next, .ok graded) ∧
      Saves FileTree.empty next ⟨some "k", some "g.json"⟩
        graded.cells "k" opened committed ∧
      opened.book.notebook? "k" = none ∧
      (committed.book.notebook "k").gradeCells.contains
        "a" ∧
      (committed.book.notebook "k").taskCells.contains
        "a" ∧
      (committed.book.notebook "k").maxScore = 2 := by
  have hOk :
      (gradeFirst
        [pointsCell "a" true true 1]).2.toBool := by
    decide +kernel
  rcases exists_of_toBool hOk with ⟨next, graded, hRun⟩
  rcases run_autograde_eq_ok_iff.1 hRun with
    ⟨included, key, opened, committed, -, -, hSaves⟩
  rcases hSaves.eq_of_openAt openAt_empty with ⟨rfl, rfl⟩
  have hRecord :
      committed.book.notebook "k" =
        NotebookRecord.afterCells { notebookId := "k" }
          graded.cells :=
    hSaves.notebook_committed
  refine
    ⟨next, graded, _, committed, hRun, hSaves, rfl, ?_⟩
  rw [hRecord, cells_autograde_bare hRun]
  decide +kernel

end Pipeline

end NotebookGrading
