import NotebookGrading.Gradebook.Entry

/-
  Gradebooks: what is recorded about the notebooks of an
  assignment.

  For each notebook a record holds its registered cells
  with the points they are worth, and its grades and
  comments in the order in which they were first made.

  Key definitions include:
    * `NotebookRecord`
    * `Gradebook`
    * `NotebookRecord.Change`
    * `Gradebook.apply`
    * `Gradebook.findGrade`
    * `Gradebook.findComment`
-/

namespace NotebookGrading

/- The sum of some scores, from the left. -/
def sumScores
    (scores : List Float) : Float :=
  scores.foldl (· + ·) (-0.0)

------------------------------------------------------------
-- Records Of Notebooks
------------------------------------------------------------

structure NotebookRecord where
  notebookId : String
  maxScore : Float := 0
  gradeCells : Table GradeCell := Table.empty
  solutionCells : Table SolutionCell := Table.empty
  taskCells : Table TaskCell := Table.empty
  grades : List Grade := []
  comments : List Comment := []
deriving DecidableEq

namespace NotebookRecord

/- The points of all grade and task cells. -/
def registeredPoints
    (record : NotebookRecord) : Float :=
  sumScores (record.gradeCells.values.map (·.maxScore)) +
    sumScores (record.taskCells.values.map (·.maxScore))

/- Bring the maximum in line with the registered cells. -/
def refreshMaxScore
    (record : NotebookRecord) : NotebookRecord :=
  { record with maxScore := record.registeredPoints }

def grade?
    (record : NotebookRecord)
    (gradeId : String) : Option Grade :=
  record.grades.find? (fun g => g.gradeId == gradeId)

def comment?
    (record : NotebookRecord)
    (gradeId : String) : Option Comment :=
  record.comments.find? (fun c => c.gradeId == gradeId)

/- The sum of the scores that count. -/
def score
    (record : NotebookRecord) : Float :=
  sumScores (record.grades.map Grade.score)

/- Whether a grade still waits for a human. -/
def needsManualGrade
    (record : NotebookRecord) : Bool :=
  record.grades.any (·.needsManualGrade)

------------------------------------------------------------
-- Changes
------------------------------------------------------------

/- What can be recorded about a notebook. -/
inductive Change
  | addGrade (grade : Grade)
  | addComment (comment : Comment)
  | setManualScore (gradeId : String) (score : Float)
  | setManualComment (gradeId : String) (text : String)
  | registerGradeCell (cell : GradeCell)
  | registerSolutionCell (cell : SolutionCell)
  | registerTaskCell (cell : TaskCell)

/- Record a grade; an earlier manual score stays. -/
def addGrade
    (record : NotebookRecord)
    (grade : Grade) : NotebookRecord :=
  { record with
    grades :=
      upsert Grade.gradeId grade.gradeId
        (fun old => old.update grade) grade record.grades }

/- Record a comment; an earlier manual part stays. -/
def addComment
    (record : NotebookRecord)
    (comment : Comment) : NotebookRecord :=
  { record with
    comments :=
      upsert Comment.gradeId comment.gradeId
        (fun old => old.update comment) comment
        record.comments }

/- Enter the score of a human. -/
def setManualScore
    (record : NotebookRecord)
    (gradeId : String)
    (score : Float) : NotebookRecord :=
  { record with
    grades :=
      upsert Grade.gradeId gradeId
        (fun old => old.withManualScore score)
        (Grade.withManualScore { gradeId := gradeId } score)
        record.grades }

/- Enter the comment of a human. -/
def setManualComment
    (record : NotebookRecord)
    (gradeId text : String) : NotebookRecord :=
  { record with
    comments :=
      upsert Comment.gradeId gradeId
        (fun old => old.withManualComment text)
        (Comment.withManualComment
          { gradeId := gradeId } text)
        record.comments }

/- Register a grade cell under its name. -/
def registerGradeCell
    (record : NotebookRecord)
    (cell : GradeCell) : NotebookRecord :=
  refreshMaxScore
    { record with
      gradeCells := record.gradeCells.insert cell.name cell }

/- Register a solution cell under its name. -/
def registerSolutionCell
    (record : NotebookRecord)
    (cell : SolutionCell) : NotebookRecord :=
  { record with
    solutionCells :=
      record.solutionCells.insert cell.name cell }

/- Register a task cell under its name. -/
def registerTaskCell
    (record : NotebookRecord)
    (cell : TaskCell) : NotebookRecord :=
  refreshMaxScore
    { record with
      taskCells := record.taskCells.insert cell.name cell }

def apply
    (record : NotebookRecord) :
    Change → NotebookRecord
  | .addGrade grade => record.addGrade grade
  | .addComment comment => record.addComment comment
  | .setManualScore gradeId score =>
      record.setManualScore gradeId score
  | .setManualComment gradeId text =>
      record.setManualComment gradeId text
  | .registerGradeCell cell => record.registerGradeCell cell
  | .registerSolutionCell cell =>
      record.registerSolutionCell cell
  | .registerTaskCell cell => record.registerTaskCell cell

end NotebookRecord

------------------------------------------------------------
-- Gradebooks
------------------------------------------------------------

/- The records of an assignment by notebook id. -/
structure Gradebook where
  notebooks : Table NotebookRecord := Table.empty
deriving DecidableEq

namespace Gradebook

def empty : Gradebook :=
  {}

def maxScore
    (book : Gradebook) : Float :=
  sumScores (book.notebooks.values.map (·.maxScore))

def score
    (book : Gradebook) : Float :=
  sumScores
    (book.notebooks.values.map NotebookRecord.score)

/- The record of a notebook that has been graded before. -/
def notebook?
    (book : Gradebook)
    (notebookId : String) : Option NotebookRecord :=
  book.notebooks.find? notebookId

/- The score of one notebook. -/
def totalScore?
    (book : Gradebook)
    (notebookId : String) : Option Float :=
  (book.notebook? notebookId).map NotebookRecord.score

/- The record of a notebook, or a new one. -/
def notebook
    (book : Gradebook)
    (notebookId : String) : NotebookRecord :=
  (book.notebook? notebookId).getD
    { notebookId := notebookId }

/- Record a change about a notebook. -/
def apply
    (book : Gradebook)
    (notebookId : String)
    (change : NotebookRecord.Change) : Gradebook :=
  { notebooks :=
      book.notebooks.insert notebookId
        ((book.notebook notebookId).apply change) }

/- The grade of a cell, or a new one. -/
def findGrade
    (book : Gradebook)
    (notebookId gradeId : String) : Grade :=
  ((book.notebook? notebookId).bind
    (·.grade? gradeId)).getD { gradeId := gradeId }

/- The comment on a cell, or a new one. -/
def findComment
    (book : Gradebook)
    (notebookId gradeId : String) : Comment :=
  ((book.notebook? notebookId).bind
    (·.comment? gradeId)).getD { gradeId := gradeId }

end Gradebook

end NotebookGrading
