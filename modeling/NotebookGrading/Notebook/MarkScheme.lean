import NotebookGrading.Notebook.Classification
import NotebookGrading.Text.Lines

/-
  Mark scheme regions, which students must not see.

  A region begins at a line that contains one text and ends
  at the next line that contains another; both lines belong
  to it. An ending line outside of any region is dropped
  too. Regions belong into task cells.

  Key definitions include:
    * `MarkScheme`
    * `MarkSchemeFault`
    * `MarkScheme.scan`
    * `MarkScheme.clearCell`
    * `MarkScheme.clear`
-/

namespace NotebookGrading

------------------------------------------------------------
-- Delimiters And Faults
------------------------------------------------------------

/-
  The texts that begin and end a region, and whether
  regions are refused outside of task cells.
-/
structure MarkScheme where
  begins : String := "BEGIN MARK SCHEME"
  ends : String := "END MARK SCHEME"
  enforced : Bool := true
deriving DecidableEq, Repr

inductive MarkSchemeFault
  | nested
  | unfinished
  | misplaced
deriving DecidableEq, Repr

def MarkSchemeFault.message : MarkSchemeFault → String
  | .nested => "nested begin mark scheme statements"
  | .unfinished => "no end mark scheme statement found"
  | .misplaced =>
      "mark scheme region found outside a manually " ++
        "graded task cell"

namespace MarkScheme

def isBegin
    (scheme : MarkScheme)
    (line : String) : Bool :=
  Text.contains line scheme.begins

/- A line that contains both texts begins a region. -/
def isEnd
    (scheme : MarkScheme)
    (line : String) : Bool :=
  !scheme.isBegin line && Text.contains line scheme.ends

------------------------------------------------------------
-- Lines Outside Of Regions
------------------------------------------------------------

/- The lines outside of regions, after the given state. -/
def scan
    (scheme : MarkScheme) :
    Bool → List String →
      Except MarkSchemeFault (List String)
  | inRegion, [] =>
      if inRegion then .error .unfinished else .ok []
  | inRegion, line :: rest =>
      if scheme.isBegin line then
        if inRegion then
          .error .nested
        else
          scan scheme true rest
      else if scheme.isEnd line then
        scan scheme false rest
      else
        match scan scheme inRegion rest with
        | .error fault => .error fault
        | .ok kept =>
            .ok (if inRegion then kept else line :: kept)

/- Whether a line begins a region. -/
def hasRegion
    (scheme : MarkScheme)
    (lines : List String) : Bool :=
  lines.any scheme.isBegin

/- A cell without its regions. -/
def clearCell
    (scheme : MarkScheme)
    (cell : Cell) : Except MarkSchemeFault Cell :=
  let lines := Text.lines cell.source
  match scheme.scan false lines with
  | .error fault => .error fault
  | .ok kept =>
      if scheme.hasRegion lines && !cell.isTask &&
          scheme.enforced then
        .error .misplaced
      else
        .ok { cell with source := Text.ofLines kept }

------------------------------------------------------------
-- Notebooks
------------------------------------------------------------

/- The first fault, with the position of its cell. -/
def clearCells
    (scheme : MarkScheme) :
    Nat → List Cell →
      Except (Nat × MarkSchemeFault) (List Cell)
  | _, [] => .ok []
  | index, cell :: rest =>
      match scheme.clearCell cell with
      | .error fault => .error (index, fault)
      | .ok cleared =>
          match clearCells scheme (index + 1) rest with
          | .error e => .error e
          | .ok others => .ok (cleared :: others)

/- The key of the toolbar shown while writing regions. -/
def toolbarKey : String :=
  "celltoolbar"

/- A notebook without regions and without the toolbar. -/
def clear
    (scheme : MarkScheme)
    (notebook : Notebook) :
    Except (Nat × MarkSchemeFault) Notebook :=
  match scheme.clearCells 0 notebook.cells with
  | .error e => .error e
  | .ok cells =>
      .ok
        { notebook with
          cells := cells
          metadata := notebook.metadata.erase toolbarKey }

end MarkScheme

end NotebookGrading
