import NotebookGrading.Proofs.Gradebook.RecordedBooks
import NotebookGrading.Proofs.Gradebook.Reopening
import NotebookGrading.Proofs.Pipeline.GradeIds

/-
  When the pipeline that grades a submission succeeds.

  A run succeeds exactly when header and footer can be put
  around the submission and the scores of all cells can be
  saved. Locks and limits have no part in this but for what
  they do to the cells.

  Key definitions include:
    * `Configuration.prepareAll`
    * `Pipeline.Saves`

  Main statements:
    * `Stage.save_eq_ok_iff`
    * `Pipeline.run_autograde`
    * `Pipeline.run_autograde_eq_ok_iff`
    * `Pipeline.cells_autograde_bare`
-/

namespace NotebookGrading

------------------------------------------------------------
-- Saving Scores
------------------------------------------------------------

/-
  The scores of some cells are saved: the gradebook that is
  named by the resources is opened, the cells are recorded
  in it under the key of the notebook, and it is committed.
-/
structure Pipeline.Saves
    (tree next : FileTree)
    (resources : Resources)
    (cells : List Cell)
    (key : String)
    (opened committed : OpenGradebook) : Prop where
  key_eq : resources.uniqueKey = some key
  path_eq : resources.gradebookPath = some opened.path
  opened_eq :
    OpenGradebook.openAt tree opened.path = .ok opened
  recorded_eq :
    Recording.cells Cell.score key cells opened =
      .ok committed
  committed_eq : committed.commit tree = (next, .ok ())

/- A gradebook that was opened is the stored one. -/
theorem Recording.cells_of_openAt
    {tree : FileTree}
    {path : String}
    {opened : OpenGradebook}
    (hOpen : OpenGradebook.openAt tree path = .ok opened)
    (key : String)
    (cells : List Cell) :
    Recording.cells Cell.score key cells opened =
      .ok (opened.afterCells key cells) := by
  rw [OpenGradebook.eq_of_openAt hOpen]
  exact cells_score_eq key path opened.book cells

theorem Pipeline.Saves.committed_eq_afterCells
    {tree next : FileTree}
    {resources : Resources}
    {cells : List Cell}
    {key : String}
    {opened committed : OpenGradebook}
    (h :
      Saves tree next resources cells key opened
        committed) :
    committed = opened.afterCells key cells := by
  have hCells :=
    Recording.cells_of_openAt h.opened_eq key cells
  rw [h.recorded_eq] at hCells
  exact Except.ok.inj hCells

/- Key and opened gradebook are those of the resources. -/
theorem Pipeline.Saves.eq_of_openAt
    {tree next : FileTree}
    {cells : List Cell}
    {key given path : String}
    {opened first committed : OpenGradebook}
    (h :
      Saves tree next ⟨some given, some path⟩ cells key
        opened committed)
    (hOpen : OpenGradebook.openAt tree path = .ok first) :
    key = given ∧ opened = first := by
  have hOpened := h.opened_eq
  rw [← Option.some.inj h.path_eq, hOpen] at hOpened
  exact
    ⟨(Option.some.inj h.key_eq).symm,
      (Except.ok.inj hOpened).symm⟩

/- Without a file the gradebook is empty. -/
theorem Pipeline.openAt_empty :
    OpenGradebook.openAt FileTree.empty "g.json" =
      .ok ⟨"g.json", Gradebook.empty, false⟩ :=
  rfl

namespace Stage

variable {tree next : FileTree}
variable {notebook graded : Notebook}
variable {resources : Resources}

/- The stage succeeds exactly when the scores are saved. -/
theorem save_eq_ok_iff :
    save Cell.score tree notebook resources =
        (next, .ok graded) ↔
      graded = notebook ∧
        ∃ key opened committed,
          Pipeline.Saves tree next resources notebook.cells
            key opened committed := by
  constructor
  · intro h
    refine ⟨eq_of_save_eq_ok h, ?_⟩
    unfold save at h
    split at h
    · cases (Prod.mk.inj h).2
    · cases (Prod.mk.inj h).2
    · rename_i key path hKey hPath
      split at h
      · cases (Prod.mk.inj h).2
      · rename_i saved hSaved
        rw [(Prod.mk.inj h).1] at hSaved
        rcases saveScores_eq_ok hSaved with
          ⟨opened, committed, hOpen, hCells, hCommit⟩
        have hOpened := OpenGradebook.eq_of_openAt hOpen
        refine ⟨key, opened, committed, hKey, ?_, ?_, hCells,
          hCommit⟩
        · rw [hPath, hOpened]
        · rw [hOpened] at hOpen ⊢
          exact hOpen
  · rintro ⟨rfl, key, opened, committed, hSaves⟩
    have hSaved :
        saveScores Cell.score tree graded key opened.path =
          (next, .ok ()) := by
      unfold saveScores OpenGradebook.transaction
      simp only [hSaves.opened_eq, hSaves.recorded_eq,
        hSaves.committed_eq]
    unfold save
    simp only [hSaves.key_eq, hSaves.path_eq, hSaved]

end Stage

------------------------------------------------------------
-- Runs
------------------------------------------------------------

/- A notebook as it is when its scores are saved. -/
def Configuration.prepareAll
    (configuration : Configuration)
    (notebook : Notebook) : Notebook :=
  { notebook with
    cells := notebook.cells.map configuration.prepared }

/- The header and the footer of a configuration. -/
def Configuration.inclusion
    (configuration : Configuration) : Inclusion :=
  ⟨configuration.header, configuration.footer⟩

namespace Pipeline

variable {tree next : FileTree}
variable {notebook graded : Notebook}
variable {resources : Resources}

/- What the stages of a run come to. -/
theorem run_autograde
    (configuration : Configuration)
    (tree : FileTree)
    (notebook : Notebook)
    (resources : Resources) :
    run tree notebook resources (autograde configuration) =
      match
        configuration.inclusion.apply tree
          notebook.withoutDuplicates
      with
      | .error e =>
          (tree, .error (.inStage "IncludeHeaderFooter" e))
      | .ok included =>
          run tree (configuration.prepareAll included)
            resources [.saveAutoGrades Cell.score] := by
  simp only [autograde, List.cons_append, List.nil_append,
    run, Stage.run, Configuration.inclusion]
  split
  · rename_i reached e hError
    rw [(Prod.mk.inj hError).2, (Prod.mk.inj hError).1]
    rfl
  · rename_i reached included hIncluded
    rw [(Prod.mk.inj hIncluded).2, (Prod.mk.inj hIncluded).1]
    unfold Configuration.prepareAll
    cases hLimits : configuration.limits with
    | none =>
        have hPrepared :
            configuration.prepared =
              Cell.lock configuration.locks := by
          funext cell
          simp [Configuration.prepared, hLimits]
        simp [run, Stage.run, Notebook.lock, hPrepared]
    | some limits =>
        have hPrepared :
            configuration.prepared =
              fun cell =>
                (cell.lock configuration.locks).limitOutput
                  limits := by
          funext cell
          simp [Configuration.prepared, hLimits]
        simp [run, Stage.run, Notebook.lock,
          Notebook.limitOutput, hPrepared,
          Function.comp_def]

/-
  A run succeeds exactly when the inclusion does and the
  scores of the notebook that it returns are saved.
-/
theorem run_autograde_eq_ok_iff
    {configuration : Configuration} :
    run tree notebook resources (autograde configuration) =
        (next, .ok graded) ↔
      ∃ included key opened committed,
        configuration.inclusion.apply tree
            notebook.withoutDuplicates = .ok included ∧
        graded = configuration.prepareAll included ∧
        Saves tree next resources graded.cells key opened
          committed := by
  rw [run_autograde]
  cases hInclusion :
      configuration.inclusion.apply tree
        notebook.withoutDuplicates with
  | error e =>
      constructor
      · intro h
        cases (Prod.mk.inj h).2
      · rintro ⟨included, key, opened, committed, hOk, -⟩
        cases hOk
  | ok included =>
      constructor
      · intro h
        rcases run_cons_eq_ok h with
          ⟨between, reached, hSave, hEnd⟩
        rcases Prod.mk.inj hEnd with ⟨hTree, hReached⟩
        rw [hTree, Except.ok.inj hReached] at hSave
        rcases Stage.save_eq_ok_iff.1 hSave with
          ⟨hGraded, key, opened, committed, hSaves⟩
        rw [← hGraded] at hSaves
        exact
          ⟨included, key, opened, committed, rfl, hGraded,
            hSaves⟩
      · rintro
          ⟨other, key, opened, committed, hOk, hGraded,
            hSaves⟩
        rw [← Except.ok.inj hOk] at hGraded
        rw [hGraded] at hSaves
        have hSave :=
          Stage.save_eq_ok_iff.2
            ⟨hGraded, key, opened, committed, hSaves⟩
        simp only [run, Stage.run, hSave]

/- A run that is seen to succeed returns a notebook. -/
theorem exists_of_toBool
    {outcome : FileTree × Except StageError Notebook}
    (h : outcome.2.toBool) :
    ∃ next graded, outcome = (next, .ok graded) := by
  rcases outcome with ⟨next, error | graded⟩
  · cases h
  · exact ⟨next, graded, rfl⟩

/- Without header and footer the cells are the notebook's. -/
theorem cells_autograde_bare
    {locks : LockSwitches}
    {limits : Option OutputLimits}
    (h :
      run tree notebook resources
          (autograde ⟨none, none, locks, limits⟩) =
        (next, .ok graded)) :
    graded.cells =
      notebook.withoutDuplicates.cells.map
        (Configuration.prepared
          ⟨none, none, locks, limits⟩) := by
  rcases cells_autograde h with
    ⟨before, after, hBefore, hAfter, hCells⟩
  cases hBefore
  cases hAfter
  rw [hCells, List.nil_append, List.append_nil]

end Pipeline

end NotebookGrading
