import NotebookGrading.Notebook.Classification

/-
  Repeated grade ids.

  Of all graded units with one id the first keeps its
  grading metadata; the later ones become plain cells.

  Key definitions include:
    * `Cell.uniqueId?`
    * `Cell.withoutGrading`
    * `Notebook.withoutDuplicates`
-/

namespace NotebookGrading

namespace Cell

/- The id that no other graded unit may have. -/
def uniqueId?
    (cell : Cell) : Option String :=
  if cell.isGradedUnit then cell.gradeId else none

/- A cell without its grading metadata. -/
def withoutGrading
    (cell : Cell) : Cell :=
  { cell with
    metadata := { cell.metadata with grading := none } }

/- Clear the cells whose id was seen before. -/
def clearRepeated :
    List String → List Cell → List Cell
  | _, [] => []
  | seen, cell :: rest =>
      match cell.uniqueId? with
      | none => cell :: clearRepeated seen rest
      | some id =>
          if id ∈ seen then
            cell.withoutGrading :: clearRepeated seen rest
          else
            cell :: clearRepeated (id :: seen) rest

end Cell

/- A notebook in which every graded unit has its own id. -/
def Notebook.withoutDuplicates
    (notebook : Notebook) : Notebook :=
  { notebook with
    cells := Cell.clearRepeated [] notebook.cells }

end NotebookGrading
