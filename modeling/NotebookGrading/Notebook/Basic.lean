import NotebookGrading.Json.Value

/-
  Notebooks: a sequence of cells with metadata.

  Only the parts that grading looks at have fields of their
  own; everything else a cell, its metadata or an output
  holds is carried along in a table.

  Key definitions include:
    * `CellType`
    * `Grading`
    * `CellMetadata`
    * `OutputType`
    * `Output`
    * `Cell`
    * `Notebook`
-/

namespace NotebookGrading

------------------------------------------------------------
-- Kinds Of Cells
------------------------------------------------------------

inductive CellType
  | code
  | markdown
  | raw
deriving DecidableEq, Repr, Inhabited

namespace CellType

def name : CellType → String
  | .code => "code"
  | .markdown => "markdown"
  | .raw => "raw"

def ofName? : String → Option CellType
  | "code" => some .code
  | "markdown" => some .markdown
  | "raw" => some .raw
  | _ => none

end CellType

------------------------------------------------------------
-- Cell Metadata
------------------------------------------------------------

/-
  What the author of an assignment says about a cell: its
  id, its roles, the checksum of its released content and
  the points it is worth.
-/
structure Grading where
  gradeId : Option String := none
  grade : Option Bool := none
  solution : Option Bool := none
  locked : Option Bool := none
  task : Option Bool := none
  checksum : Option String := none
  points : Option Float := none
  schemaVersion : Option UInt32 := none
  cellType : Option CellType := none
deriving DecidableEq

/- Grading metadata, the front end's flags, and the rest. -/
structure CellMetadata where
  grading : Option Grading := none
  deletable : Option Bool := none
  editable : Option Bool := none
  extra : Table Json := Table.empty

namespace CellMetadata

/- Whether the metadata holds no keys at all. -/
def isEmpty
    (metadata : CellMetadata) : Bool :=
  metadata.grading.isNone &&
    metadata.deletable.isNone &&
    metadata.editable.isNone &&
    metadata.extra.isEmpty

end CellMetadata

------------------------------------------------------------
-- Outputs
------------------------------------------------------------

inductive OutputType
  | stream
  | displayData
  | executeResult
  | error
deriving DecidableEq, Repr

namespace OutputType

def name : OutputType → String
  | .stream => "stream"
  | .displayData => "display_data"
  | .executeResult => "execute_result"
  | .error => "error"

def ofName? : String → Option OutputType
  | "stream" => some .stream
  | "display_data" => some .displayData
  | "execute_result" => some .executeResult
  | "error" => some .error
  | _ => none

end OutputType

/-
  A recorded output: a stream with its name and text, a
  bundle of representations by media type, or an error with
  its traceback.
-/
structure Output where
  outputType : OutputType
  name : Option String := none
  text : Option String := none
  data : Option (Table Json) := none
  traceback : Option (List String) := none
  extra : Table Json := Table.empty

namespace Output

/- Text written to a named stream. -/
def stream
    (name text : String) : Output where
  outputType := .stream
  name := some name
  text := some text

/- A result whose plain representation is given. -/
def executeResult
    (text : String) : Output where
  outputType := .executeResult
  data := some
    (Table.empty.insert "text/plain" (.string text))
  extra :=
    (Table.empty.insert "metadata" (.object [])).insert
      "execution_count" .null

/- An error with its name, its value and its traceback. -/
def error
    (errorName errorValue : String)
    (traceback : List String) : Output where
  outputType := .error
  traceback := some traceback
  extra :=
    (Table.empty.insert "ename" (.string errorName)).insert
      "evalue" (.string errorValue)

/- The text that a value holds, if it is a text. -/
def textOf? : Json → Option String
  | .string text => some text
  | _ => none

/-
  The plain representation of an output. Its lines may be
  stored one by one; lines that are not texts are skipped.
-/
def plainText?
    (output : Output) : Option String := do
  let data ← output.data
  match ← data.find? "text/plain" with
  | .string text => some text
  | .array lines =>
      some (String.join (lines.filterMap textOf?))
  | _ => none

end Output

------------------------------------------------------------
-- Cells
------------------------------------------------------------

structure Cell where
  cellType : CellType
  id : Option String := none
  source : String := ""
  metadata : CellMetadata := {}
  outputs : Option (List Output) := none
  extra : Table Json := Table.empty

namespace Cell

/-
  A new cell. A code cell starts with no outputs and
  without an execution count.
-/
def ofType
    (cellType : CellType)
    (source : String) : Cell :=
  match cellType with
  | .code =>
      { cellType := .code
        source := source
        outputs := some []
        extra :=
          Table.empty.insert "execution_count" .null }
  | other =>
      { cellType := other
        source := source }

def code
    (source : String) : Cell :=
  ofType .code source

def markdown
    (source : String) : Cell :=
  ofType .markdown source

/- Attach grading metadata. -/
def withGrading
    (cell : Cell)
    (grading : Grading) : Cell :=
  { cell with
    metadata :=
      { cell.metadata with grading := some grading } }

/- Replace the outputs. -/
def withOutputs
    (cell : Cell)
    (outputs : List Output) : Cell :=
  { cell with outputs := some outputs }

/- The outputs; a cell without a list of them has none. -/
def outputList
    (cell : Cell) : List Output :=
  cell.outputs.getD []

end Cell

------------------------------------------------------------
-- Notebooks
------------------------------------------------------------

/- The format version that new notebooks carry. -/
def formatVersion : UInt32 :=
  4

def formatMinorVersion : UInt32 :=
  5

structure Notebook where
  cells : List Cell := []
  metadata : Table Json := Table.empty
  format : UInt32 := formatVersion
  formatMinor : UInt32 := formatMinorVersion

namespace Notebook

/- A notebook with the given cells and no metadata. -/
def ofCells
    (cells : List Cell) : Notebook :=
  { cells := cells }

instance : Inhabited Notebook :=
  ⟨ofCells []⟩

end Notebook

end NotebookGrading
