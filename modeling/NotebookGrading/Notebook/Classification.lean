import NotebookGrading.Notebook.Basic

/-
  What the grading metadata says about a cell.

  A flag that is absent counts as not set. Points that are
  absent, negative or not finite count as zero.

  Key definitions include:
    * `Cell.isGrade`
    * `Cell.isSolution`
    * `Cell.isLocked`
    * `Cell.isTask`
    * `Cell.isGradedUnit`
    * `Cell.gradeId`
    * `Cell.points`
    * `Cell.storedChecksum`
-/

namespace NotebookGrading

namespace Cell

------------------------------------------------------------
-- Flags
------------------------------------------------------------

def grading
    (cell : Cell) : Option Grading :=
  cell.metadata.grading

/- A flag of the grading metadata. -/
def flag
    (cell : Cell)
    (pick : Grading → Option Bool) : Bool :=
  (cell.grading.bind pick).getD false

/- The output of the cell is scored. -/
def isGrade
    (cell : Cell) : Bool :=
  cell.flag Grading.grade

/- The content of the cell is the student's. -/
def isSolution
    (cell : Cell) : Bool :=
  cell.flag Grading.solution

/- The author marked the cell as read-only. -/
def isLocked
    (cell : Cell) : Bool :=
  cell.flag Grading.locked

/- The cell is a task that is graded by hand. -/
def isTask
    (cell : Cell) : Bool :=
  cell.flag Grading.task

/- The cells whose grade ids must differ. -/
def isGradedUnit
    (cell : Cell) : Bool :=
  cell.isGrade || cell.isSolution || cell.isLocked

------------------------------------------------------------
-- Values
------------------------------------------------------------

def gradeId
    (cell : Cell) : Option String :=
  cell.grading.bind Grading.gradeId

/- The points as they are given. -/
def givenPoints
    (cell : Cell) : Option Float :=
  cell.grading.bind Grading.points

/- The points the cell is worth. -/
def points
    (cell : Cell) : Float :=
  match cell.givenPoints with
  | none => 0
  | some p =>
      if p.isFinite && 0 < p then p else 0

/- The checksum that the author's tools recorded. -/
def storedChecksum
    (cell : Cell) : Option String :=
  cell.grading.bind Grading.checksum

end Cell

end NotebookGrading
