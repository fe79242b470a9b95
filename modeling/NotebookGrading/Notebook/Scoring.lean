import NotebookGrading.Double.Text
import NotebookGrading.Notebook.Checksum
import NotebookGrading.Text.Blank
import NotebookGrading.Text.Quoted

/-
  Automatic scores of executed cells.

  A grade cell that is also a solution scores zero while it
  is untouched and otherwise waits for a human, as does a
  grade cell that holds no code. The score of any other
  code cell is decided by its first output that is an
  error, stderr text or a result: an error or stderr text
  scores zero, a result that is a number gives that many
  points within bounds, and any other result full points.

  Key definitions include:
    * `ScoringError`
    * `Score`
    * `ScoreExtractor`
    * `Output.isDeciding`
    * `Output.verdict`
    * `Cell.score`
-/

namespace NotebookGrading

------------------------------------------------------------
-- Scores And Errors
------------------------------------------------------------

/- A cell that is no grade cell has no score. -/
inductive ScoringError
  | notGradeCell (gradeId : Option String)
deriving DecidableEq, Repr

def ScoringError.message : ScoringError → String
  | .notGradeCell gradeId =>
      "Cell " ++ Text.quoteOption gradeId ++
        " is not a grade cell"

/-
  The automatic score of a cell and the most it can reach.
  Without an automatic score a human has to decide.
-/
structure Score where
  auto : Option Float
  max : Float
deriving DecidableEq

abbrev ScoreExtractor :=
  Cell → Except ScoringError Score

------------------------------------------------------------
-- Deciding Outputs
------------------------------------------------------------

namespace Output

/- Whether the score of a cell rests on the output. -/
def isDeciding
    (output : Output) : Bool :=
  match output.outputType with
  | .error => true
  | .stream => output.name == some "stderr"
  | .executeResult => true
  | .displayData => false

/- A number of points brought between zero and a maximum. -/
def clamp
    (max value : Float) : Float :=
  if !value.isFinite then 0
  else if max < value then max
  else if value < 0 then 0
  else value

/- The points that a result awards. -/
def partialCredit
    (max : Float)
    (text : Option String) : Float :=
  match text.bind (fun t => Double.ofText? (Text.trim t)) with
  | none => max
  | some value => clamp max value

/- The points that a deciding output awards. -/
def verdict
    (max : Float)
    (output : Output) : Float :=
  match output.outputType with
  | .executeResult => partialCredit max output.plainText?
  | _ => 0

end Output

------------------------------------------------------------
-- Scores Of Cells
------------------------------------------------------------

namespace Cell

/- The points that the outputs of a code cell award. -/
def scoreOfOutputs
    (max : Float)
    (outputs : List Output) : Float :=
  match outputs.find? Output.isDeciding with
  | none => max
  | some output => output.verdict max

/- The automatic score of a grade cell. -/
def autoScore
    (cell : Cell) : Option Float :=
  if cell.isSolution then
    if cell.isUnchanged then some 0 else none
  else if cell.cellType ≠ .code then
    none
  else
    some (scoreOfOutputs cell.points cell.outputList)

/- The score of a cell by its recorded outputs. -/
def score : ScoreExtractor :=
  fun cell =>
    if cell.isGrade then
      .ok ⟨cell.autoScore, cell.points⟩
    else
      .error (.notGradeCell cell.gradeId)

end Cell

end NotebookGrading
