import NotebookGrading.Gradebook.Store
import NotebookGrading.Notebook.Scoring

/-
  Recording the automatic scores and comments of a
  notebook.

  Every grade cell with an id is registered and scored, and
  every solution or task cell with an id is registered and
  commented on. A solution that is still as it was released
  gets an automatic comment. Scores and comments entered by
  a human are kept.

  Key definitions include:
    * `Recording.gradeCell`
    * `Recording.commentCell`
    * `Recording.cell`
    * `Recording.cells`
-/

namespace NotebookGrading

namespace Recording

/- The comment on a solution that was left untouched. -/
def noResponse : String :=
  "No response."

------------------------------------------------------------
-- Single Cells
------------------------------------------------------------

/- Register and score a grade cell. -/
def gradeCell
    (extractor : ScoreExtractor)
    (notebookId id : String)
    (cell : Cell)
    (opened : OpenGradebook) :
    Except ScoringError OpenGradebook :=
  let registered :=
    opened.change notebookId
      (.registerGradeCell
        ⟨id, cell.points, cell.cellType⟩)
  match extractor cell with
  | .error e => .error e
  | .ok score =>
      let grade := registered.book.findGrade notebookId id
      .ok
        (registered.change notebookId
          (.addGrade
            { grade with
              autoScore := score.auto
              needsManualGrade :=
                grade.manualScore.isSome ||
                  score.auto.isNone }))

/- Register a task cell. -/
def taskCell
    (notebookId id : String)
    (cell : Cell)
    (opened : OpenGradebook) : OpenGradebook :=
  if cell.isTask then
    opened.change notebookId
      (.registerTaskCell ⟨id, cell.points, cell.cellType⟩)
  else
    opened

/- Register a solution cell. -/
def solutionCell
    (notebookId id : String)
    (cell : Cell)
    (opened : OpenGradebook) : OpenGradebook :=
  if cell.isSolution then
    opened.change notebookId
      (.registerSolutionCell ⟨id, cell.cellType⟩)
  else
    opened

/- The automatic comment on a solution or task cell. -/
def autoComment
    (cell : Cell) : Option String :=
  if cell.isUnchanged && !cell.isTask then
    some noResponse
  else
    none

/- Register a solution or task cell and comment on it. -/
def commentCell
    (notebookId id : String)
    (cell : Cell)
    (opened : OpenGradebook) : OpenGradebook :=
  let registered :=
    solutionCell notebookId id cell
      (taskCell notebookId id cell opened)
  let comment := registered.book.findComment notebookId id
  registered.change notebookId
    (.addComment
      { comment with autoComment := autoComment cell })

------------------------------------------------------------
-- Cells In Order
------------------------------------------------------------

/- Whether something has to be recorded for a cell. -/
def needsComment
    (cell : Cell) : Bool :=
  cell.isSolution || cell.isTask

/- Record what a cell with an id calls for. -/
def identifiedCell
    (extractor : ScoreExtractor)
    (notebookId id : String)
    (cell : Cell)
    (opened : OpenGradebook) :
    Except ScoringError OpenGradebook :=
  let graded :=
    if cell.isGrade then
      gradeCell extractor notebookId id cell opened
    else
      .ok opened
  match graded with
  | .error e => .error e
  | .ok opened =>
      .ok
        (if needsComment cell then
          commentCell notebookId id cell opened
        else
          opened)

/-
  Record a cell. A cell without an id is skipped, even when
  it could be graded.
-/
def cell
    (extractor : ScoreExtractor)
    (notebookId : String)
    (cell : Cell)
    (opened : OpenGradebook) :
    Except ScoringError OpenGradebook :=
  match cell.gradeId with
  | none => .ok opened
  | some id =>
      identifiedCell extractor notebookId id cell opened

/- Record cells in order, up to the first that fails. -/
def cells
    (extractor : ScoreExtractor)
    (notebookId : String) :
    List Cell → OpenGradebook →
      Except ScoringError OpenGradebook
  | [], opened => .ok opened
  | c :: rest, opened =>
      match cell extractor notebookId c opened with
      | .error e => .error e
      | .ok next => cells extractor notebookId rest next

end Recording

end NotebookGrading
