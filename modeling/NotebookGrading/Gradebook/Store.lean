import NotebookGrading.Gradebook.Document
import NotebookGrading.Storage.Replacement
import NotebookGrading.Text.Blank

/-
  Gradebooks in files.

  An open gradebook keeps its changes to itself until it is
  committed, which replaces the file as a whole. Closing it
  in any other way changes nothing. A file that is missing
  or holds nothing but white space is an empty gradebook.

  Key definitions include:
    * `GradebookError`
    * `OpenGradebook`
    * `OpenGradebook.openAt`
    * `OpenGradebook.change`
    * `OpenGradebook.commit`
    * `OpenGradebook.transaction`
-/

namespace NotebookGrading

------------------------------------------------------------
-- Errors
------------------------------------------------------------

/- Why a gradebook cannot be opened or written. -/
inductive GradebookError
  | inaccessible (path : String) (cause : FileError)
  | corrupt (path : String)
deriving DecidableEq, Repr

def GradebookError.message : GradebookError → String
  | .inaccessible path _ =>
      "Could not access gradebook " ++ path
  | .corrupt path => "Gradebook " ++ path ++ " is corrupt"

------------------------------------------------------------
-- Open Gradebooks
------------------------------------------------------------

/-
  A gradebook, the path it is stored at, and whether it was
  changed since it was opened.
-/
structure OpenGradebook where
  path : String
  book : Gradebook
  changed : Bool

namespace OpenGradebook

/- The gradebook that the text of a file holds. -/
def bookOfText
    (path text : String) :
    Except GradebookError Gradebook :=
  if Text.trimChars text.toList = [] then
    .ok Gradebook.empty
  else
    match Gradebook.ofText? text with
    | none => .error (.corrupt path)
    | some book => .ok book

/- The gradebook stored at a path. -/
def stored
    (tree : FileTree)
    (path : String) : Except GradebookError Gradebook :=
  match tree.readText path with
  | .ok text => bookOfText path text
  | .error .notFound => .ok Gradebook.empty
  | .error cause => .error (.inaccessible path cause)

/- Open the gradebook at a path. -/
def openAt
    (tree : FileTree)
    (path : String) : Except GradebookError OpenGradebook :=
  match stored tree path with
  | .error e => .error e
  | .ok book => .ok ⟨path, book, false⟩

/- Record a change about a notebook. -/
def change
    (opened : OpenGradebook)
    (notebookId : String)
    (change : NotebookRecord.Change) : OpenGradebook :=
  { opened with
    book := opened.book.apply notebookId change
    changed := true }

/- The file operations that store a gradebook. -/
def commitRun
    (opened : OpenGradebook)
    (tree : FileTree) : FileRun :=
  if !opened.changed && tree.exists? opened.path then
    FileRun.start tree
  else
    Replacement.run tree opened.path
      opened.book.toText.toUTF8

/-
  Store a gradebook. One without changes is stored only if
  its file does not exist.
-/
def commit
    (opened : OpenGradebook)
    (tree : FileTree) :
    FileTree × Except GradebookError Unit :=
  let run := opened.commitRun tree
  (run.tree,
    match run.failure with
    | none => .ok ()
    | some failure =>
        .error (.inaccessible failure.path failure.error))

/-
  Open a gradebook, work on it, and store it if the work
  succeeds.
-/
def transaction
    {α ε : Type}
    (tree : FileTree)
    (path : String)
    (wrap : GradebookError → ε)
    (work : OpenGradebook → Except ε (OpenGradebook × α)) :
    FileTree × Except ε α :=
  match openAt tree path with
  | .error e => (tree, .error (wrap e))
  | .ok opened =>
      match work opened with
      | .error e => (tree, .error e)
      | .ok (worked, value) =>
          match worked.commit tree with
          | (next, .ok ()) => (next, .ok value)
          | (next, .error e) => (next, .error (wrap e))

end OpenGradebook

end NotebookGrading
