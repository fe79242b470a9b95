import NotebookGrading.Notebook.Reader
import NotebookGrading.Notebook.Writer
import NotebookGrading.Storage.FileTree

/-
  Notebooks in files.

  Key definitions include:
    * `NotebookError`
    * `Notebook.ofText`
    * `Notebook.readAt`
    * `Notebook.writeAt`
-/

namespace NotebookGrading

------------------------------------------------------------
-- Errors
------------------------------------------------------------

/- Why a notebook cannot be read or written. -/
inductive NotebookError
  | malformed
  | unreadable (path : String) (cause : FileError)
  | invalid (path : String)
  | unwritable (path : String) (cause : FileError)
deriving DecidableEq, Repr

namespace NotebookError

/- What was being done, from the outermost task inwards. -/
def context : NotebookError → List String
  | .malformed => ["Could not parse notebook JSON"]
  | .unreadable path _ =>
      ["Could not read notebook " ++ path]
  | .invalid path =>
      ["Invalid notebook " ++ path,
       "Could not parse notebook JSON"]
  | .unwritable path _ =>
      ["Could not write notebook " ++ path]

/- The file operation that failed, if it was one. -/
def fileError? : NotebookError → Option FileError
  | .malformed => none
  | .unreadable _ cause => some cause
  | .invalid _ => none
  | .unwritable _ cause => some cause

end NotebookError

------------------------------------------------------------
-- Reading And Writing
------------------------------------------------------------

namespace Notebook

def ofText
    (text : String) : Except NotebookError Notebook :=
  match ofText? text with
  | none => .error .malformed
  | some notebook => .ok notebook

/- The notebook stored at a path. -/
def readAt
    (tree : FileTree)
    (path : String) : Except NotebookError Notebook :=
  match tree.readText path with
  | .error cause => .error (.unreadable path cause)
  | .ok text =>
      match ofText? text with
      | none => .error (.invalid path)
      | some notebook => .ok notebook

/- Store a notebook at a path. -/
def writeAt
    (notebook : Notebook)
    (tree : FileTree)
    (path : String) :
    FileTree × Except NotebookError Unit :=
  match tree.write path notebook.toText.toUTF8 with
  | (next, none) => (next, .ok ())
  | (next, some cause) =>
      (next, .error (.unwritable path cause))

end Notebook

end NotebookGrading
