import NotebookGrading.Json.Reader
import NotebookGrading.Json.Record
import NotebookGrading.Notebook.Basic
import NotebookGrading.Text.Blank

/-
  Notebooks from their documents.

  A text that spans several lines may be stored whole or as
  a list of lines. Grading metadata and the front end's
  flags are read leniently: a value of the wrong kind is
  taken as absent. Everything else of the wrong kind makes
  the notebook unreadable.

  Each reader takes the number of containers that may stand
  inside one another in its document, itself included.

  Key definitions include:
    * `Notebook.ofDocument?`
    * `Notebook.ofText?`
    * `Cell.ofDocument?`
    * `Output.ofDocument?`
    * `Output.listOfText?`
    * `Grading.ofValue?`
-/

namespace NotebookGrading

open Json (Document)

------------------------------------------------------------
-- Leaves
------------------------------------------------------------

namespace Json

/- A text given whole or as a list of its lines. -/
def Document.multiline? : Document → Option String
  | .string text => text
  | .array lines =>
      (lines.mapM Document.text?).map String.join
  | _ => none

/- A whole number of 32 bits. -/
def Document.word? (document : Document) : Option UInt32 :=
  (document.whole? 0 4294967295).map (fun n =>
    UInt32.ofNat n.toNat)

def text? : Json → Option String
  | .string text => some text
  | _ => none

def bool? : Json → Option Bool
  | .bool value => some value
  | _ => none

def word? : Json → Option UInt32
  | .number (.whole value) =>
      if 0 ≤ value && value ≤ 4294967295 then
        some (UInt32.ofNat value.toNat)
      else
        none
  | _ => none

/- Points: a number, or a text that spells one. -/
def points? : Json → Option Float
  | .number value => some value.toFloat
  | .string text => Double.ofText? (Text.trim text)
  | _ => none

/- A cell type, by name or as an object's only key. -/
def cellType? : Json → Option CellType
  | .string name => CellType.ofName? name
  | .object [(name, .null)] => CellType.ofName? name
  | _ => none

end Json

------------------------------------------------------------
-- Grading Metadata
------------------------------------------------------------

namespace Grading

/- The member names in the order of their declaration. -/
def memberNames : List String :=
  ["grade_id", "grade", "solution", "locked", "task",
   "checksum", "points", "schema_version", "cell_type"]

/- Grading metadata from its members by name. -/
def ofMembers
    (find? : String → Option Json) : Grading where
  gradeId := (find? "grade_id").bind Json.text?
  grade := (find? "grade").bind Json.bool?
  solution := (find? "solution").bind Json.bool?
  locked := (find? "locked").bind Json.bool?
  task := (find? "task").bind Json.bool?
  checksum := (find? "checksum").bind Json.text?
  points := (find? "points").bind Json.points?
  schemaVersion := (find? "schema_version").bind Json.word?
  cellType := (find? "cell_type").bind Json.cellType?

/-
  Grading metadata from an object, or from an array with
  the members in their order. Other values hold none.
-/
def ofValue? : Json → Option Grading
  | .object members =>
      some (ofMembers (fun name =>
        Entries.find? name members))
  | .array items =>
      if items.length ≤ memberNames.length then
        some (ofMembers (fun name =>
          Entries.find? name (memberNames.zip items)))
      else
        none
  | _ => none

end Grading

namespace CellMetadata

def memberNames : List String :=
  ["nbgrader", "deletable", "editable"]

def ofDocument?
    (depth : Nat)
    (document : Document) : Option CellMetadata := do
  let record ← document.objectRecord? memberNames
  let inner := depth - 1
  let grading ← record.defaulted? "nbgrader" none
    (Document.lenient? inner Grading.ofValue?)
  let deletable ← record.defaulted? "deletable" none
    (Document.lenient? inner Json.bool?)
  let editable ← record.defaulted? "editable" none
    (Document.lenient? inner Json.bool?)
  let extra ← record.extra? inner
  some ⟨grading, deletable, editable, extra⟩

end CellMetadata

------------------------------------------------------------
-- Outputs And Cells
------------------------------------------------------------

namespace Output

def memberNames : List String :=
  ["output_type", "name", "text", "data", "traceback"]

def ofDocument?
    (depth : Nat)
    (document : Document) : Option Output := do
  let record ← document.objectRecord? memberNames
  let inner := depth - 1
  let outputType ← record.required? "output_type"
    (Document.choice? OutputType.ofName?)
  let name ← record.defaulted? "name" none
    (Document.optional? Document.text?)
  let text ← record.defaulted? "text" none
    (Document.optional? Document.multiline?)
  let data ← record.defaulted? "data" none
    (Document.optional?
      (Document.table? (Document.value? (inner - 1))))
  let traceback ← record.defaulted? "traceback" none
    (Document.optional? (Document.list? Document.text?))
  let extra ← record.extra? inner
  some ⟨outputType, name, text, data, traceback, extra⟩

/- A list of outputs, or null for none. -/
def listOfDocument?
    (depth : Nat) :
    Document → Option (Option (List Output)) :=
  Document.optional?
    (Document.list? (ofDocument? (depth - 1)))

/- The outputs that a text of their own spells. -/
def listOfText?
    (text : String) : Option (Option (List Output)) :=
  (Document.read? text).bind
    (listOfDocument? Json.nestingLimit)

end Output

namespace Cell

def memberNames : List String :=
  ["cell_type", "id", "source", "metadata", "outputs"]

def ofDocument?
    (depth : Nat)
    (document : Document) : Option Cell := do
  let record ← document.objectRecord? memberNames
  let inner := depth - 1
  let cellType ← record.required? "cell_type"
    (Document.choice? CellType.ofName?)
  let id ← record.defaulted? "id" none
    (Document.optional? Document.text?)
  let source ← record.defaulted? "source" ""
    Document.multiline?
  let metadata ← record.defaulted? "metadata" {}
    (CellMetadata.ofDocument? inner)
  let outputs ← record.defaulted? "outputs" none
    (Output.listOfDocument? inner)
  let extra ← record.extra? inner
  some ⟨cellType, id, source, metadata, outputs, extra⟩

end Cell

------------------------------------------------------------
-- Notebooks
------------------------------------------------------------

namespace Notebook

def memberNames : List String :=
  ["cells", "metadata", "nbformat", "nbformat_minor"]

/- The notebook that a document holds. -/
def ofDocument?
    (document : Document) : Option Notebook := do
  let record ← document.record? memberNames
  let inner := Json.nestingLimit - 1
  let cells ← record.defaulted? "cells" []
    (Document.list? (Cell.ofDocument? (inner - 1)))
  let metadata ← record.defaulted? "metadata" Table.empty
    (Document.table? (Document.value? (inner - 1)))
  let format ← record.defaulted? "nbformat" formatVersion
    Document.word?
  let formatMinor ← record.defaulted? "nbformat_minor"
    formatMinorVersion Document.word?
  some ⟨cells, metadata, format, formatMinor⟩

/- The notebook that a text spells. -/
def ofText?
    (text : String) : Option Notebook :=
  (Document.read? text).bind ofDocument?

end Notebook

end NotebookGrading
