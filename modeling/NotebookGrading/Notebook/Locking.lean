import NotebookGrading.Notebook.Classification

/-
  Locking of cells against deletion and editing.

  One rule applies to a cell, the first that fits. Cells
  that the student writes stay editable; grade cells and
  read-only cells are neither deletable nor editable; all
  other cells are locked only on request.

  Key definitions include:
    * `LockSwitches`
    * `Lock`
    * `LockSwitches.rule`
    * `Cell.lock`
    * `Notebook.lock`
-/

namespace NotebookGrading

------------------------------------------------------------
-- Rules
------------------------------------------------------------

/- Which kinds of cells are locked. -/
structure LockSwitches where
  solutionCells : Bool := true
  gradeCells : Bool := true
  readonlyCells : Bool := true
  allCells : Bool := false
deriving DecidableEq, Repr

/- What is forbidden on a cell. -/
inductive Lock
  | nothing
  | deleting
  | deletingAndEditing
deriving DecidableEq, Repr

namespace LockSwitches

/- The rule for a cell with the given flags. -/
def rule
    (switches : LockSwitches)
    (solution grade locked : Bool) : Lock :=
  if (switches.solutionCells || switches.gradeCells) &&
      solution && grade then
    .deleting
  else if switches.solutionCells && solution then
    .deleting
  else if switches.gradeCells && grade then
    .deletingAndEditing
  else if switches.readonlyCells && locked then
    .deletingAndEditing
  else if switches.allCells then
    .deletingAndEditing
  else
    .nothing

end LockSwitches

------------------------------------------------------------
-- Locked Cells
------------------------------------------------------------

/- Metadata with the front end's flags for a lock. -/
def Lock.apply
    (lock : Lock)
    (metadata : CellMetadata) : CellMetadata :=
  match lock with
  | .nothing => metadata
  | .deleting => { metadata with deletable := some false }
  | .deletingAndEditing =>
      { metadata with
        deletable := some false
        editable := some false }

def Cell.lock
    (switches : LockSwitches)
    (cell : Cell) : Cell :=
  { cell with
    metadata :=
      (switches.rule cell.isSolution cell.isGrade
        cell.isLocked).apply cell.metadata }

def Notebook.lock
    (switches : LockSwitches)
    (notebook : Notebook) : Notebook :=
  { notebook with
    cells := notebook.cells.map (Cell.lock switches) }

end NotebookGrading
