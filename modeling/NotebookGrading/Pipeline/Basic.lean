import NotebookGrading.Pipeline.Configuration
import NotebookGrading.Pipeline.Stage

/-
  Pipelines: stages run one after the other.

  A pipeline stops at the first stage that fails and names
  it in its error.

  Key definitions include:
    * `Pipeline`
    * `Pipeline.autograde`
    * `Pipeline.stageNames`
    * `Pipeline.run`
-/

namespace NotebookGrading

abbrev Pipeline :=
  List Stage

namespace Pipeline

/-
  The pipeline that grades a submission: repeated ids are
  cleared, header and footer are added, cells are locked,
  outputs are limited on request, and scores are saved.
-/
def autograde
    (configuration : Configuration) : Pipeline :=
  [.deduplicateIds,
   .includeHeaderFooter
     ⟨configuration.header, configuration.footer⟩,
   .lockCells configuration.locks] ++
    (configuration.limits.map Stage.limitOutput).toList ++
    [.saveAutoGrades Cell.score]

def stageNames
    (pipeline : Pipeline) : List String :=
  pipeline.map Stage.name

/- Run the stages up to the first that fails. -/
def run
    (tree : FileTree)
    (notebook : Notebook)
    (resources : Resources) :
    Pipeline → FileTree × Except StageError Notebook
  | [] => (tree, .ok notebook)
  | stage :: rest =>
      match stage.run tree notebook resources with
      | (next, .error e) =>
          (next, .error (.inStage stage.name e))
      | (next, .ok result) => run next result resources rest

end Pipeline

end NotebookGrading
