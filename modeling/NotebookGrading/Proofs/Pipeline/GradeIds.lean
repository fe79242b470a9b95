import NotebookGrading.Proofs.Notebook.Documents
import NotebookGrading.Proofs.Notebook.GradeIds
import NotebookGrading.Proofs.Pipeline.SavedScores

/-
  The grade ids of a graded notebook.

  Repeated ids are cleared in the submission before header
  and footer are put around it, so the ids of the submission
  are unique and those of the whole notebook need not be.
  No later stage changes an id.

  Key definitions include:
    * `Configuration.prepared`

  Main statements:
    * `Pipeline.cells_autograde`
    * `Pipeline.gradeIds_autograde`
-/

namespace NotebookGrading

open Cell (unitIds unitIds_append unitIds_map)

------------------------------------------------------------
-- Cells Before The Scores Are Saved
------------------------------------------------------------

/- A cell as it is when the scores are saved. -/
def Configuration.prepared
    (configuration : Configuration)
    (cell : Cell) : Cell :=
  match configuration.limits with
  | none => cell.lock configuration.locks
  | some limits =>
      (cell.lock configuration.locks).limitOutput limits

theorem Configuration.grading_prepared
    (configuration : Configuration)
    (cell : Cell) :
    (configuration.prepared cell).grading =
      cell.grading := by
  unfold prepared
  split <;> simp

/- What putting header and footer around cells returns. -/
theorem Inclusion.apply_eq_ok
    {inclusion : Inclusion}
    {tree : FileTree}
    {notebook included : Notebook}
    (h : inclusion.apply tree notebook = .ok included) :
    ∃ before after,
      load tree "header" inclusion.header = .ok before ∧
      load tree "footer" inclusion.footer = .ok after ∧
      included.cells =
        before ++ notebook.cells ++ after := by
  unfold apply at h
  split at h
  · cases h
  · rename_i before hBefore
    split at h
    · cases h
    · rename_i after hAfter
      refine ⟨before, after, hBefore, hAfter, ?_⟩
      rw [← Except.ok.inj h]

/- The notebook whose scores are saved is returned. -/
theorem Stage.eq_of_save_eq_ok
    {extractor : ScoreExtractor}
    {tree next : FileTree}
    {notebook graded : Notebook}
    {resources : Resources}
    (h :
      save extractor tree notebook resources =
        (next, .ok graded)) :
    graded = notebook := by
  unfold save at h
  split at h
  · cases (Prod.mk.inj h).2
  · cases (Prod.mk.inj h).2
  · split at h
    · cases (Prod.mk.inj h).2
    · exact (Except.ok.inj (Prod.mk.inj h).2).symm

------------------------------------------------------------
-- Runs
------------------------------------------------------------

namespace Pipeline

variable {tree next : FileTree}
variable {notebook graded : Notebook}
variable {resources : Resources}
variable {configuration : Configuration}

/- A run succeeds when its first stage and its rest do. -/
theorem run_cons_eq_ok
    {stage : Stage}
    {rest : Pipeline}
    (h :
      run tree notebook resources (stage :: rest) =
        (next, .ok graded)) :
    ∃ between reached,
      stage.run tree notebook resources =
        (between, .ok reached) ∧
      run between reached resources rest =
        (next, .ok graded) := by
  rw [run] at h
  split at h
  · cases (Prod.mk.inj h).2
  · rename_i between reached hStage
    exact ⟨between, reached, hStage, h⟩

/- Saving scores at the end changes no cell. -/
theorem eq_of_run_saveAutoGrades
    {extractor : ScoreExtractor}
    (h :
      run tree notebook resources
          [.saveAutoGrades extractor] =
        (next, .ok graded)) :
    graded = notebook := by
  rcases run_cons_eq_ok h with
    ⟨between, reached, hSave, hEnd⟩
  rw [← Except.ok.inj (Prod.mk.inj hEnd).2]
  exact Stage.eq_of_save_eq_ok hSave

/- What the stages behind the inclusion do to the cells. -/
theorem cells_locked_and_limited
    (h :
      run tree notebook resources
          (.lockCells configuration.locks ::
            ((configuration.limits.map
                Stage.limitOutput).toList ++
              [.saveAutoGrades Cell.score])) =
        (next, .ok graded)) :
    graded.cells =
      notebook.cells.map configuration.prepared := by
  rcases run_cons_eq_ok h with
    ⟨between, locked, hLocked, hRest⟩
  rw [← Except.ok.inj (Prod.mk.inj hLocked).2] at hRest
  cases hLimits : configuration.limits with
  | none =>
      rw [hLimits] at hRest
      rw [eq_of_run_saveAutoGrades hRest]
      simp [Notebook.lock, Configuration.prepared, hLimits]
  | some limits =>
      rw [hLimits] at hRest
      rcases run_cons_eq_ok hRest with
        ⟨later, limited, hLimited, hSave⟩
      rw [← Except.ok.inj (Prod.mk.inj hLimited).2] at hSave
      rw [eq_of_run_saveAutoGrades hSave]
      simp [Notebook.limitOutput, Notebook.lock,
        Configuration.prepared, hLimits]

/- The cells of the notebook that a graded run returns. -/
theorem cells_autograde
    (h :
      run tree notebook resources
          (autograde configuration) =
        (next, .ok graded)) :
    ∃ before after,
      Inclusion.load tree "header" configuration.header =
        .ok before ∧
      Inclusion.load tree "footer" configuration.footer =
        .ok after ∧
      graded.cells =
        (before ++ notebook.withoutDuplicates.cells ++
          after).map configuration.prepared := by
  rcases run_cons_eq_ok h with
    ⟨first, cleared, hCleared, hRest⟩
  rcases Prod.mk.inj hCleared with ⟨hTree, hNotebook⟩
  rw [← hTree, ← Except.ok.inj hNotebook] at hRest
  rcases run_cons_eq_ok hRest with
    ⟨second, included, hIncluded, hLast⟩
  rcases Inclusion.apply_eq_ok (Prod.mk.inj hIncluded).2
    with ⟨before, after, hBefore, hAfter, hCells⟩
  refine ⟨before, after, hBefore, hAfter, ?_⟩
  rw [cells_locked_and_limited hLast, hCells]

------------------------------------------------------------
-- Ids
------------------------------------------------------------

/-
  The ids around the submission decide whether the ids of
  the whole are unique.
-/
theorem nodup_unitIds_around
    (before after : List Cell)
    (notebook : Notebook) :
    (unitIds
        (before ++ notebook.withoutDuplicates.cells ++
          after)).Nodup ↔
      (unitIds (before ++ after)).Nodup ∧
        ∀ id ∈ unitIds (before ++ after),
          id ∉ unitIds notebook.cells := by
  have hOwn :
      (unitIds notebook.withoutDuplicates.cells).Nodup :=
    Cell.nodup_unitIds_clearRepeated [] notebook.cells
  have hMem :
      ∀ id, id ∈ unitIds notebook.withoutDuplicates.cells ↔
        id ∈ unitIds notebook.cells := by
    intro id
    exact
      Cell.mem_unitIds_clearRepeated.trans (by simp)
  simp only [unitIds_append, List.nodup_append',
    List.disjoint_left, List.mem_append, hMem, hOwn]
  grind

/-
  The ids of the graded units in a graded notebook, which
  consists of the header, the submission and the footer,
  cell by cell. No two graded units of the submission have
  the same id. In the whole notebook the ids are unique just
  when header and footer repeat no id among themselves and
  have none of the submission, so always without header and
  footer. The scores that are saved last are those of this
  notebook, and where its ids are unique, no more than one
  cell is scored under an id.
-/
theorem gradeIds_autograde
    (h :
      run tree notebook resources
          (autograde configuration) =
        (next, .ok graded)) :
    ∃ before after,
      Inclusion.load tree "header" configuration.header =
        .ok before ∧
      Inclusion.load tree "footer" configuration.footer =
        .ok after ∧
      graded.cells =
        (before ++ notebook.withoutDuplicates.cells ++
          after).map configuration.prepared ∧
      (unitIds
        (notebook.withoutDuplicates.cells.map
          configuration.prepared)).Nodup ∧
      ((unitIds graded.cells).Nodup ↔
        (unitIds (before ++ after)).Nodup ∧
          ∀ id ∈ unitIds (before ++ after),
            id ∉ unitIds notebook.cells) ∧
      (configuration.header = none →
        configuration.footer = none →
          (unitIds graded.cells).Nodup) ∧
      ((unitIds graded.cells).Nodup →
        ∀ id,
          (graded.cells.filter
            (fun cell =>
              cell.scoredId? = some id)).length ≤ 1) ∧
      ∃ key path,
        resources.uniqueKey = some key ∧
        resources.gradebookPath = some path ∧
        saveScores Cell.score tree graded key path =
          (next, .ok ()) := by
  rcases cells_autograde h with
    ⟨before, after, hBefore, hAfter, hCells⟩
  have hIff :
      (unitIds graded.cells).Nodup ↔
        (unitIds (before ++ after)).Nodup ∧
          ∀ id ∈ unitIds (before ++ after),
            id ∉ unitIds notebook.cells := by
    rw [hCells, unitIds_map configuration.grading_prepared]
    exact nodup_unitIds_around before after notebook
  refine
    ⟨before, after, hBefore, hAfter, hCells, ?_, hIff, ?_,
      ?_, ?_⟩
  · rw [unitIds_map configuration.grading_prepared]
    exact Cell.nodup_unitIds_clearRepeated [] notebook.cells
  · intro hHeader hFooter
    rw [hHeader] at hBefore
    rw [hFooter] at hAfter
    rw [hIff, ← Except.ok.inj hBefore,
      ← Except.ok.inj hAfter]
    simp
  · intro hUnique id
    exact Cell.length_filter_scoredId? hUnique id
  · exact
      (savesLast_autograde configuration tree notebook
        resources).succeeded next graded h

/- A cell that is graded under an id. -/
def gradedUnder
    (id : String) : Cell where
  cellType := .code
  metadata :=
    { grading :=
        some { gradeId := some id, grade := some true } }

/- Files with a header whose only cell is graded. -/
def filesWithHeader
    (id : String) : FileTree :=
  FileTree.empty.put
    (FileTree.empty.working.child "header.ipynb")
    (.file
      (Notebook.ofCells [gradedUnder id]).toText.toUTF8
      true)

/- A run on a submission, with the header of the files. -/
def runWithHeader
    (tree : FileTree)
    (cells : List Cell) :
    FileTree × Except StageError Notebook :=
  run tree (Notebook.ofCells cells)
    ⟨some "n", some "g.json"⟩
    (autograde { header := some "header.ipynb" })

/- The header is read from its file. -/
theorem load_header
    (id : String) :
    Inclusion.load (filesWithHeader id) "header"
        (some "header.ipynb") = .ok [gradedUnder id] := by
  have hCell :
      (gradedUnder id).IsReadable
        (Json.nestingLimit - 1 - 1) := by
    refine
      ⟨Json.isCarried_empty CellMetadata.memberNames _, ?_,
        Json.isCarried_empty Cell.memberNames _⟩
    intro outputs hSome
    cases hSome
  have hReadable :
      (Notebook.ofCells [gradedUnder id]).IsReadable := by
    constructor
    · intro cell hMem
      rw [List.mem_singleton.1 hMem]
      exact hCell
    · intro value hMem
      cases hMem
  have hDoubles :
      (Notebook.ofCells
        [gradedUnder id]).toDocument.doubles = [] := by
    rfl
  have hBack :
      Notebook.ofText?
          (Notebook.ofCells [gradedUnder id]).toText =
        some (Notebook.ofCells [gradedUnder id]) :=
    Notebook.ofText?_toText hReadable
      (by simp [hDoubles, DoublesReadBack])
  have hText :
      (filesWithHeader id).readText "header.ipynb" =
        .ok (Notebook.ofCells [gradedUnder id]).toText :=
    FileTree.readText_of_read rfl
  simp only [Inclusion.load, Notebook.readAt, hText, hBack]
  rfl

/- With the header all that is left is to save the scores. -/
theorem runWithHeader_eq
    (id : String)
    (cells : List Cell) :
    runWithHeader (filesWithHeader id) cells =
      run (filesWithHeader id)
        (Notebook.ofCells
          ((gradedUnder id ::
            Cell.clearRepeated [] cells).map
              (Cell.lock {})))
        ⟨some "n", some "g.json"⟩
        [.saveAutoGrades Cell.score] := by
  have hFooter :
      Inclusion.load (filesWithHeader id) "footer" none =
        .ok [] := by
    rfl
  simp [runWithHeader, autograde, run, Stage.run,
    Inclusion.apply, load_header, hFooter,
    Notebook.withoutDuplicates, Notebook.lock,
    Notebook.ofCells]

/-
  A header with an id of its own keeps the ids unique, also
  when the submission repeats one.
-/
theorem gradeIds_autograde_own_header :
    let cells := [gradedUnder "a", gradedUnder "a"]
    ∃ next graded,
      runWithHeader (filesWithHeader "b") cells =
        (next, .ok graded) ∧
      (unitIds graded.cells).Nodup := by
  intro cells
  have hOk :
      (runWithHeader (filesWithHeader "b")
        cells).2.toBool := by
    rw [runWithHeader_eq]
    decide +kernel
  rcases hRun :
      runWithHeader (filesWithHeader "b") cells with
    ⟨next, error | graded⟩
  · rw [hRun] at hOk
    cases hOk
  · rcases gradeIds_autograde hRun with
      ⟨before, after, hBefore, hAfter, -, -, hIff, -⟩
    have hHeader : before = [gradedUnder "b"] :=
      Except.ok.inj (hBefore.symm.trans (load_header "b"))
    refine ⟨next, graded, rfl, hIff.2 ?_⟩
    rw [← Except.ok.inj hAfter, hHeader]
    decide +kernel

/-
  A header with an id of the submission makes that id occur
  twice, and both cells are scored under it.
-/
theorem gradeIds_autograde_repeated :
    ∃ next graded,
      runWithHeader (filesWithHeader "a")
          [gradedUnder "a"] = (next, .ok graded) ∧
      ¬ (unitIds graded.cells).Nodup ∧
      (graded.cells.filter
        (fun cell =>
          cell.scoredId? = some "a")).length = 2 := by
  have hIds :
      (runWithHeader (filesWithHeader "a")
          [gradedUnder "a"]).2.toOption.map
            (fun graded =>
              (unitIds graded.cells,
                (graded.cells.filter
                  (fun cell =>
                    cell.scoredId? = some "a")).length)) =
        some (["a", "a"], 2) := by
    rw [runWithHeader_eq]
    decide +kernel
  rcases hRun :
      runWithHeader (filesWithHeader "a")
        [gradedUnder "a"] with
    ⟨next, error | graded⟩
  · rw [hRun] at hIds
    cases hIds
  · rw [hRun] at hIds
    rcases Prod.mk.inj (Option.some.inj hIds) with
      ⟨hTwice, hLength⟩
    refine ⟨next, graded, rfl, ?_, hLength⟩
    rw [hTwice]
    decide

end Pipeline

end NotebookGrading
