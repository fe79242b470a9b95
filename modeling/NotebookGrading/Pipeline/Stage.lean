import NotebookGrading.Gradebook.Recording
import NotebookGrading.Notebook.Duplicates
import NotebookGrading.Notebook.Locking
import NotebookGrading.Notebook.MarkScheme
import NotebookGrading.Notebook.OutputLimit
import NotebookGrading.Notebook.Store

/-
  Stages: single steps from notebook to notebook.

  A stage gets a notebook, the resources of the run and the
  files. Only saving scores changes files, and no stage
  changes the resources.

  Key definitions include:
    * `Resources`
    * `Inclusion`
    * `Stage`
    * `StageError`
    * `Stage.name`
    * `Stage.run`
-/

namespace NotebookGrading

------------------------------------------------------------
-- Resources And Errors
------------------------------------------------------------

/-
  The id of the notebook that is graded, and the path of
  the gradebook.
-/
structure Resources where
  uniqueKey : Option String := none
  gradebookPath : Option String := none
deriving DecidableEq, Repr

/- The notebooks put in front of and behind a notebook. -/
structure Inclusion where
  header : Option String := none
  footer : Option String := none
deriving DecidableEq, Repr

inductive StageError
  | missingResource (stage key : String)
  | inclusion (kind path : String) (cause : NotebookError)
  | markScheme (cell : Nat) (fault : MarkSchemeFault)
  | scoring (cause : ScoringError)
  | gradebook (cause : GradebookError)
  | inStage (name : String) (cause : StageError)
deriving Repr

def StageError.message : StageError → String
  | .missingResource name key =>
      name ++ " requires the `" ++ key ++ "` resource"
  | .inclusion kind path _ =>
      "Could not include " ++ kind ++ " notebook " ++ path
  | .markScheme cell fault =>
      "Mark scheme error in cell " ++ toString cell ++
        ": " ++ fault.message
  | .scoring cause => cause.message
  | .gradebook cause => cause.message
  | .inStage name _ => "Stage " ++ name ++ " failed"

------------------------------------------------------------
-- Inclusion
------------------------------------------------------------

namespace Inclusion

/- The cells of an included notebook, none without one. -/
def load
    (tree : FileTree)
    (kind : String) :
    Option String → Except StageError (List Cell)
  | none => .ok []
  | some path =>
      match Notebook.readAt tree path with
      | .error cause =>
          .error (.inclusion kind path cause)
      | .ok notebook => .ok notebook.cells

/- A notebook between its header and its footer. -/
def apply
    (inclusion : Inclusion)
    (tree : FileTree)
    (notebook : Notebook) : Except StageError Notebook :=
  match load tree "header" inclusion.header with
  | .error e => .error e
  | .ok before =>
      match load tree "footer" inclusion.footer with
      | .error e => .error e
      | .ok after =>
          .ok
            { notebook with
              cells := before ++ notebook.cells ++ after }

end Inclusion

------------------------------------------------------------
-- Saving Scores
------------------------------------------------------------

/- Record a notebook in the gradebook at a path. -/
def saveScores
    (extractor : ScoreExtractor)
    (tree : FileTree)
    (notebook : Notebook)
    (uniqueKey path : String) :
    FileTree × Except StageError Unit :=
  OpenGradebook.transaction tree path StageError.gradebook
    (fun opened =>
      match Recording.cells extractor uniqueKey
          notebook.cells opened with
      | .error e => .error (.scoring e)
      | .ok recorded => .ok (recorded, ()))

------------------------------------------------------------
-- Stages
------------------------------------------------------------

inductive Stage
  | deduplicateIds
  | includeHeaderFooter (inclusion : Inclusion)
  | lockCells (switches : LockSwitches)
  | limitOutput (limits : OutputLimits)
  | clearMarkScheme (scheme : MarkScheme)
  | saveAutoGrades (extractor : ScoreExtractor)

namespace Stage

def name : Stage → String
  | .deduplicateIds => "DeduplicateIds"
  | .includeHeaderFooter _ => "IncludeHeaderFooter"
  | .lockCells _ => "LockCells"
  | .limitOutput _ => "LimitOutput"
  | .clearMarkScheme _ => "ClearMarkScheme"
  | .saveAutoGrades _ => "SaveAutoGrades"

/- Save the scores of a notebook, given its resources. -/
def save
    (extractor : ScoreExtractor)
    (tree : FileTree)
    (notebook : Notebook)
    (resources : Resources) :
    FileTree × Except StageError Notebook :=
  match resources.uniqueKey, resources.gradebookPath with
  | none, _ =>
      (tree,
        .error
          (.missingResource "SaveAutoGrades" "unique_key"))
  | some _, none =>
      (tree,
        .error
          (.missingResource "SaveAutoGrades"
            "output_json_path"))
  | some key, some path =>
      match saveScores extractor tree notebook key path with
      | (next, .error e) => (next, .error e)
      | (next, .ok ()) => (next, .ok notebook)

/- Run a stage on a notebook. -/
def run
    (stage : Stage)
    (tree : FileTree)
    (notebook : Notebook)
    (resources : Resources) :
    FileTree × Except StageError Notebook :=
  match stage with
  | .deduplicateIds =>
      (tree, .ok notebook.withoutDuplicates)
  | .includeHeaderFooter inclusion =>
      (tree, inclusion.apply tree notebook)
  | .lockCells switches =>
      (tree, .ok (notebook.lock switches))
  | .limitOutput limits =>
      (tree, .ok (notebook.limitOutput limits))
  | .clearMarkScheme scheme =>
      (tree,
        match scheme.clear notebook with
        | .ok cleared => .ok cleared
        | .error (cell, fault) =>
            .error (.markScheme cell fault))
  | .saveAutoGrades extractor =>
      save extractor tree notebook resources

end Stage

end NotebookGrading
