import NotebookGrading.Proofs.Notebook.SettledCells
import NotebookGrading.Proofs.Pipeline.Runs

/-
  Grading a notebook that was graded before.

  Without header and footer, the notebook that a run returns
  is one that every stage leaves as it is. If the committed
  gradebook can be opened again, a second run on it succeeds,
  returns the same notebook and commits the same gradebook,
  whatever the gradebook held before the first.

  Key definitions include:
    * `Pipeline.wordyCell`
    * `Pipeline.gradeWordy`

  Main statements:
    * `Configuration.prepared_prepared`
    * `Configuration.withoutDuplicates_prepareAll`
    * `Pipeline.run_autograde_again`
-/

namespace NotebookGrading

------------------------------------------------------------
-- Notebooks That Stay
------------------------------------------------------------

namespace Configuration

/- A cell is locked and limited once and for all. -/
theorem prepared_prepared
    (configuration : Configuration)
    (cell : Cell) :
    configuration.prepared (configuration.prepared cell) =
      configuration.prepared cell := by
  unfold prepared
  cases configuration.limits with
  | none => exact cell.lock_lock configuration.locks
  | some limits =>
      simp only [Cell.lock_limitOutput, Cell.lock_lock,
        Cell.limitOutput_limitOutput]

theorem prepareAll_prepareAll
    (configuration : Configuration)
    (notebook : Notebook) :
    configuration.prepareAll
        (configuration.prepareAll notebook) =
      configuration.prepareAll notebook := by
  simp [prepareAll, Function.comp_def, prepared_prepared]

/- Ids that were made unique stay on their cells. -/
theorem withoutDuplicates_prepareAll
    (configuration : Configuration)
    (notebook : Notebook) :
    (configuration.prepareAll
        notebook.withoutDuplicates).withoutDuplicates =
      configuration.prepareAll
        notebook.withoutDuplicates := by
  have hIds :=
    Cell.unitIds_map configuration.grading_prepared
      notebook.withoutDuplicates.cells
  have hUnique :
      (Cell.unitIds
        (notebook.withoutDuplicates.cells.map
          configuration.prepared)).Nodup := by
    rw [hIds]
    exact Cell.nodup_unitIds_clearRepeated [] notebook.cells
  have hSame :
      Cell.clearRepeated []
          (notebook.withoutDuplicates.cells.map
            configuration.prepared) =
        notebook.withoutDuplicates.cells.map
          configuration.prepared :=
    Cell.clearRepeated_of_nodup hUnique (by simp)
  unfold prepareAll
  conv_lhs => rw [Notebook.withoutDuplicates]
  simp only [hSame]

end Configuration

/- Nothing is put around a notebook. -/
theorem Inclusion.apply_nothing
    (tree : FileTree)
    (notebook : Notebook) :
    Inclusion.apply ⟨none, none⟩ tree notebook =
      .ok notebook := by
  simp [Inclusion.apply, Inclusion.load]

------------------------------------------------------------
-- Second Runs
------------------------------------------------------------

namespace Pipeline

open OpenGradebook (openAt)

/-
  Scores that were saved can be saved again in the committed
  gradebook if it opens, and are there already.
-/
theorem Saves.again
    {tree next : FileTree}
    {resources : Resources}
    {cells : List Cell}
    {key : String}
    {opened committed : OpenGradebook}
    (h :
      Saves tree next resources cells key opened committed)
    (hReopen :
      openAt next opened.path =
        .ok ⟨opened.path, committed.book, false⟩) :
    ∃ last recommitted,
      Saves next last resources cells key
        ⟨opened.path, committed.book, false⟩ recommitted ∧
      recommitted.book = committed.book := by
  have hCommitted := h.committed_eq_afterCells
  have hChanged : opened.changed = false := by
    rw [OpenGradebook.eq_of_openAt h.opened_eq]
  have hCommit := h.committed_eq
  rw [hCommitted] at hCommit
  let recommitted : OpenGradebook :=
    OpenGradebook.afterCells
      ⟨opened.path, committed.book, false⟩ key cells
  have hPath :
      recommitted.path = (opened.afterCells key cells).path :=
    rfl
  have hChange :
      recommitted.changed = true →
        (opened.afterCells key cells).changed = true := by
    simp [recommitted, OpenGradebook.afterCells, hChanged]
  rcases OpenGradebook.commit_again hCommit hPath hChange with
    ⟨last, hAgain⟩
  refine
    ⟨last, recommitted,
      ⟨h.key_eq, h.path_eq, hReopen,
        Recording.cells_of_openAt hReopen key cells, hAgain⟩,
      ?_⟩
  change
    committed.book.afterCells key cells = committed.book
  rw [hCommitted]
  exact opened.book.afterCells_afterCells key cells

variable {tree next : FileTree}
variable {notebook graded : Notebook}
variable {resources : Resources}
variable {locks : LockSwitches}
variable {limits : Option OutputLimits}

/-
  Regrading is a fixed point: a second run on the notebook
  that the first has returned, with the same resources, as
  no stage changes them, returns it again and commits a
  gradebook equal to the one after the first run.
-/
theorem run_autograde_again
    (h :
      run tree notebook resources
          (autograde ⟨none, none, locks, limits⟩) =
        (next, .ok graded)) :
    ∃ key opened committed,
      Saves tree next resources graded.cells key opened
        committed ∧
      (openAt next opened.path =
          .ok ⟨opened.path, committed.book, false⟩ →
        ∃ last recommitted,
          run next graded resources
              (autograde ⟨none, none, locks, limits⟩) =
            (last, .ok graded) ∧
          Saves next last resources graded.cells key
            ⟨opened.path, committed.book, false⟩
            recommitted ∧
          recommitted.book = committed.book) := by
  rcases run_autograde_eq_ok_iff.1 h with
    ⟨included, key, opened, committed, hIncluded, hGraded,
      hSaves⟩
  have hSubmission :
      notebook.withoutDuplicates = included := by
    rw [Configuration.inclusion, Inclusion.apply_nothing]
      at hIncluded
    exact Except.ok.inj hIncluded
  refine ⟨key, opened, committed, hSaves, ?_⟩
  intro hReopen
  rcases hSaves.again hReopen with
    ⟨last, recommitted, hAgain, hBook⟩
  refine ⟨last, recommitted, ?_, hAgain, hBook⟩
  apply run_autograde_eq_ok_iff.2
  refine
    ⟨graded, key, ⟨opened.path, committed.book, false⟩,
      recommitted, ?_, ?_, hAgain⟩
  · rw [Configuration.inclusion, Inclusion.apply_nothing,
      hGraded, ← hSubmission,
      Configuration.withoutDuplicates_prepareAll]
  · rw [hGraded, Configuration.prepareAll_prepareAll]

/- A cell whose output goes beyond one line. -/
def wordyCell
    (id : String) : Cell :=
  Cell.withOutputs
    { cellType := .code
      metadata :=
        { grading :=
            some
              { gradeId := some id
                grade := some true
                points := some 1 } } }
    [Output.stream "stdout" "first\nsecond"]

/- The run that grades a notebook with two such cells. -/
def gradeWordy
    (tree : FileTree)
    (notebook : Notebook) :
    FileTree × Except StageError Notebook :=
  run tree notebook ⟨some "k", some "g.json"⟩
    (autograde
      ⟨none, none, {}, some { maxLines := some 1 }⟩)

/-
  Two cells with one id and with output beyond the limit are
  graded twice, starting from an empty working directory.
-/
theorem run_autograde_again_wordy :
    let cells := [wordyCell "a", wordyCell "a"]
    ∃ next graded last,
      gradeWordy FileTree.empty (Notebook.ofCells cells) =
        (next, .ok graded) ∧
      gradeWordy next graded = (last, .ok graded) := by
  intro cells
  have hOk :
      (gradeWordy FileTree.empty
        (Notebook.ofCells cells)).2.toBool := by
    decide +kernel
  rcases exists_of_toBool hOk with ⟨next, graded, hRun⟩
  rcases run_autograde_again hRun with
    ⟨key, opened, committed, hSaves, hAgain⟩
  rcases hSaves.eq_of_openAt openAt_empty with ⟨rfl, rfl⟩
  have hRecorded := hSaves.recorded_eq
  have hEvaluated :
      (Recording.cells Cell.score "k" graded.cells
          ⟨"g.json", Gradebook.empty, false⟩).map
        (fun recorded =>
          (decide
              (DoublesReadBack recorded.book.doubles),
            (recorded.book.notebook
              "k").maxScore.isFinite)) =
        .ok (true, true) := by
    rw [cells_autograde_bare hRun]
    decide +kernel
  rw [hRecorded] at hEvaluated
  injection hEvaluated with hEvaluated
  injection hEvaluated with hReadBack hFinite
  have hReopen :=
    openAt_of_commit hSaves.opened_eq hRecorded
      hSaves.committed_eq (of_decide_eq_true hReadBack)
  rw [hFinite, if_pos rfl] at hReopen
  rcases hAgain hReopen with ⟨last, -, hLast, -⟩
  exact ⟨next, graded, last, hRun, hLast⟩

end Pipeline

end NotebookGrading
