import NotebookGrading.Digest.MD5
import NotebookGrading.Double.Style
import NotebookGrading.Notebook.Classification

/-
  Checksums of the graded content of a cell.

  The checksum text is the source, the cell type, the
  grade, solution and locked flags, the grade id and, for
  grade cells, the points. The checksum is its MD5 digest.
  A cell is unchanged while its stored checksum is the one
  of its present content.

  Key definitions include:
    * `Cell.checksumText`
    * `Cell.checksum`
    * `Cell.stamp`
    * `Cell.isUnchanged`
    * `Notebook.stamp`
-/

namespace NotebookGrading

namespace Cell

------------------------------------------------------------
-- Checksum Texts
------------------------------------------------------------

/- A flag as a word. -/
def flagWord : Bool → String
  | true => "True"
  | false => "False"

/- The points as they take part in the checksum. -/
def pointsText
    (cell : Cell) : String :=
  if cell.isGrade then
    Double.checksum (cell.givenPoints.getD 0)
  else
    ""

/- The text that defines the graded content of a cell. -/
def checksumText
    (cell : Cell) : String :=
  cell.source ++ cell.cellType.name ++
    flagWord cell.isGrade ++ flagWord cell.isSolution ++
    flagWord cell.isLocked ++ cell.gradeId.getD "" ++
    cell.pointsText

------------------------------------------------------------
-- Checksums
------------------------------------------------------------

def checksum
    (cell : Cell) : String :=
  MD5.hexOfText cell.checksumText

/-
  Record the present checksum. A cell without grading
  metadata stays as it is.
-/
def stamp
    (cell : Cell) : Cell :=
  match cell.grading with
  | none => cell
  | some grading =>
      cell.withGrading
        { grading with checksum := some cell.checksum }

/- Whether the content is still the one that was stamped. -/
def isUnchanged
    (cell : Cell) : Bool :=
  match cell.storedChecksum with
  | none => false
  | some stored => stored == cell.checksum

end Cell

/- Stamp every cell of a notebook. -/
def Notebook.stamp
    (notebook : Notebook) : Notebook :=
  { notebook with cells := notebook.cells.map Cell.stamp }

end NotebookGrading
