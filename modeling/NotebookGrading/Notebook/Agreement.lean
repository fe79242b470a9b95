import NotebookGrading.Notebook.Basic

/-
  Agreement of notebooks.

  Two notebooks agree when all their parts are equal and
  all their numbers are equal as numbers: the two zeros
  agree, and points that are not a number agree with
  nothing, not even with themselves.

  Key definitions include:
    * `Grading.agrees`
    * `Cell.agrees`
    * `Notebook.agrees`
-/

namespace NotebookGrading

------------------------------------------------------------
-- Parts
------------------------------------------------------------

/- Whether two values are both absent or agree. -/
def optionAgrees
    {α : Type}
    (agrees : α → α → Bool) :
    Option α → Option α → Bool
  | none, none => true
  | some a, some b => agrees a b
  | _, _ => false

/- Whether two lists agree part by part. -/
def listAgrees
    {α : Type}
    (agrees : α → α → Bool) :
    List α → List α → Bool
  | [], [] => true
  | a :: as, b :: bs => agrees a b && listAgrees agrees as bs
  | _, _ => false

def Grading.agrees
    (a b : Grading) : Bool :=
  a.gradeId == b.gradeId &&
    a.grade == b.grade &&
    a.solution == b.solution &&
    a.locked == b.locked &&
    a.task == b.task &&
    a.checksum == b.checksum &&
    optionAgrees (fun x y => x == y) a.points b.points &&
    a.schemaVersion == b.schemaVersion &&
    a.cellType == b.cellType

def CellMetadata.agrees
    (a b : CellMetadata) : Bool :=
  optionAgrees Grading.agrees a.grading b.grading &&
    a.deletable == b.deletable &&
    a.editable == b.editable &&
    Json.sameTable a.extra b.extra

def Output.agrees
    (a b : Output) : Bool :=
  a.outputType == b.outputType &&
    a.name == b.name &&
    a.text == b.text &&
    optionAgrees Json.sameTable a.data b.data &&
    a.traceback == b.traceback &&
    Json.sameTable a.extra b.extra

def Cell.agrees
    (a b : Cell) : Bool :=
  a.cellType == b.cellType &&
    a.id == b.id &&
    a.source == b.source &&
    a.metadata.agrees b.metadata &&
    optionAgrees (listAgrees Output.agrees)
      a.outputs b.outputs &&
    Json.sameTable a.extra b.extra

------------------------------------------------------------
-- Notebooks
------------------------------------------------------------

def Notebook.agrees
    (a b : Notebook) : Bool :=
  listAgrees Cell.agrees a.cells b.cells &&
    Json.sameTable a.metadata b.metadata &&
    a.format == b.format &&
    a.formatMinor == b.formatMinor

end NotebookGrading
