import NotebookGrading.Gradebook.Basic
import NotebookGrading.Policy.Settings

/-
  Whether an assignment can be graded without a human.

  Tasks are always graded by hand, and cells that are both
  graded and written by the student may need a human.

  Key definitions include:
    * `AutomationConflict`
    * `NotebookRecord.checkAutomatic`
    * `Gradebook.checkAutomatic`
    * `Gradebook.checkFor`
-/

namespace NotebookGrading

------------------------------------------------------------
-- Conflicts
------------------------------------------------------------

inductive AutomationConflict
  | taskCells (notebook : String)
  | manualGradeCells
      (notebook : String) (cells : List String)
deriving DecidableEq, Repr

def AutomationConflict.message :
    AutomationConflict → String
  | .taskCells notebook =>
      "Fully autograded notebook " ++ notebook ++
        " cannot contain task cells"
  | .manualGradeCells notebook cells =>
      "Fully autograded notebook " ++ notebook ++
        " cannot contain manually graded cells (" ++
        String.intercalate ", " cells ++ ")"

------------------------------------------------------------
-- Checks
------------------------------------------------------------

/- The ids of cells that are graded and written by hand. -/
def NotebookRecord.manualGradeCells
    (record : NotebookRecord) : List String :=
  record.gradeCells.keys.filter
    record.solutionCells.contains

/- Check that a notebook needs no human. -/
def NotebookRecord.checkAutomatic
    (record : NotebookRecord) :
    Except AutomationConflict Unit :=
  if !record.taskCells.isEmpty then
    .error (.taskCells record.notebookId)
  else if !record.manualGradeCells.isEmpty then
    .error
      (.manualGradeCells record.notebookId
        record.manualGradeCells)
  else
    .ok ()

namespace Gradebook

/- The first conflict among some records. -/
def firstConflict :
    List NotebookRecord → Except AutomationConflict Unit
  | [] => .ok ()
  | record :: rest =>
      match record.checkAutomatic with
      | .error e => .error e
      | .ok () => firstConflict rest

/- Check that no notebook needs a human. -/
def checkAutomatic
    (book : Gradebook) : Except AutomationConflict Unit :=
  firstConflict book.notebooks.values

/- Only full automation restricts the cells. -/
def checkFor
    (book : Gradebook)
    (automation : Automation) :
    Except AutomationConflict Unit :=
  if automation = .fullAuto then
    book.checkAutomatic
  else
    .ok ()

end Gradebook

end NotebookGrading
