import NotebookGrading.Json.Writer
import NotebookGrading.Notebook.Basic

/-
  Documents of notebooks.

  Members stand in the order of their declaration and
  absent ones are left out; whatever was carried along
  follows in ascending order of its keys.

  Key definitions include:
    * `Grading.toDocument`
    * `CellMetadata.toDocument`
    * `Output.toDocument`
    * `Cell.toDocument`
    * `Notebook.toDocument`
    * `Notebook.toText`
-/

namespace NotebookGrading

open Json (Document)

------------------------------------------------------------
-- Metadata
------------------------------------------------------------

def CellType.toDocument
    (cellType : CellType) : Document :=
  .ofText cellType.name

def Grading.toDocument
    (grading : Grading) : Document :=
  .ofMembers
    (Document.optionalMember "grade_id"
        Document.ofText grading.gradeId ++
      Document.optionalMember "grade"
        Document.bool grading.grade ++
      Document.optionalMember "solution"
        Document.bool grading.solution ++
      Document.optionalMember "locked"
        Document.bool grading.locked ++
      Document.optionalMember "task"
        Document.bool grading.task ++
      Document.optionalMember "checksum"
        Document.ofText grading.checksum ++
      Document.optionalMember "points"
        Document.ofFloat grading.points ++
      Document.optionalMember "schema_version"
        (fun n => .ofInt n.toNat) grading.schemaVersion ++
      Document.optionalMember "cell_type"
        CellType.toDocument grading.cellType)

def CellMetadata.toDocument
    (metadata : CellMetadata) : Document :=
  .ofMembers
    (Document.optionalMember "nbgrader"
        Grading.toDocument metadata.grading ++
      Document.optionalMember "deletable"
        Document.bool metadata.deletable ++
      Document.optionalMember "editable"
        Document.bool metadata.editable ++
      Json.tableMembers metadata.extra)

------------------------------------------------------------
-- Outputs And Cells
------------------------------------------------------------

def Output.toDocument
    (output : Output) : Document :=
  .ofMembers
    (("output_type", .ofText output.outputType.name) ::
      Document.optionalMember "name"
        Document.ofText output.name ++
      Document.optionalMember "text"
        Document.ofText output.text ++
      Document.optionalMember "data"
        Json.tableDocument output.data ++
      Document.optionalMember "traceback"
        (Document.ofList Document.ofText)
        output.traceback ++
      Json.tableMembers output.extra)

def Cell.toDocument
    (cell : Cell) : Document :=
  .ofMembers
    (("cell_type", cell.cellType.toDocument) ::
      Document.optionalMember "id"
        Document.ofText cell.id ++
      ("source", .ofText cell.source) ::
      ("metadata", cell.metadata.toDocument) ::
      Document.optionalMember "outputs"
        (Document.ofList Output.toDocument)
        cell.outputs ++
      Json.tableMembers cell.extra)

------------------------------------------------------------
-- Notebooks
------------------------------------------------------------

def Notebook.toDocument
    (notebook : Notebook) : Document :=
  .ofMembers
    [("cells",
        .ofList Cell.toDocument notebook.cells),
     ("metadata", Json.tableDocument notebook.metadata),
     ("nbformat", .ofInt notebook.format.toNat),
     ("nbformat_minor",
        .ofInt notebook.formatMinor.toNat)]

/- The text in which a notebook is stored. -/
def Notebook.toText
    (notebook : Notebook) : String :=
  notebook.toDocument.indented

end NotebookGrading
