import NotebookGrading.Storage.FileTree

/-
  Replacing a file as a whole.

  The new content goes into a temporary file beside the
  target, which is then renamed over it, so the target
  always holds its old or its new content. If the renaming
  fails, the temporary file is removed; what a failed write
  has left of it stays. The temporary file gets a name that
  nothing has yet.

  Key definitions include:
    * `FileOperation`
    * `FileRun`
    * `Replacement.temporaryPath`
    * `Replacement.run`
-/

namespace NotebookGrading

------------------------------------------------------------
-- Runs Of File Operations
------------------------------------------------------------

inductive FileOperation
  | createDirectories (path : String)
  | write (path : String) (content : ByteArray)
  | rename (source target : String)
  | remove (path : String)

def FileOperation.apply
    (operation : FileOperation)
    (tree : FileTree) : FileTree.Outcome :=
  match operation with
  | .createDirectories path => tree.createDirectories path
  | .write path content => tree.write path content
  | .rename source target => tree.rename source target
  | .remove path => tree.remove path

/- A failure and the path it is blamed on. -/
structure FileFailure where
  path : String
  error : FileError
deriving DecidableEq, Repr

/-
  The trees that operations have passed through, the tree
  they have reached, and the failure that ended them.
-/
structure FileRun where
  passed : List FileTree
  tree : FileTree
  failure : Option FileFailure

namespace FileRun

def start
    (tree : FileTree) : FileRun :=
  ⟨[], tree, none⟩

/- Apply an operation unless the run has failed. -/
def perform
    (run : FileRun)
    (blamed : String)
    (operation : FileOperation) : FileRun :=
  match run.failure with
  | some _ => run
  | none =>
      let (next, error) := operation.apply run.tree
      ⟨run.passed ++ [run.tree], next,
        error.map (fun e => ⟨blamed, e⟩)⟩

/- Apply an operation to a failed run, come what may. -/
def cleanUp
    (run : FileRun)
    (operation : FileOperation) : FileRun :=
  match run.failure with
  | none => run
  | some _ =>
      { run with
        passed := run.passed ++ [run.tree]
        tree := (operation.apply run.tree).1 }

end FileRun

------------------------------------------------------------
-- Temporary Files
------------------------------------------------------------

namespace Replacement

/- A token of 36 digits. -/
def token
    (n : Nat) : String :=
  let digits := Nat.toDigits 10 n
  String.ofList
    (List.replicate (36 - digits.length) '0' ++ digits)

/- A hidden file name made from a name and a token. -/
def temporaryName
    (name : String)
    (n : Nat) : String :=
  "." ++ name ++ "." ++ token n ++ ".tmp"

/- The path of a temporary file beside a target. -/
def candidate
    (target : String)
    (n : Nat) : String :=
  Path.withFileName target
    (temporaryName
      ((Path.fileName? target).getD "gradebook.json") n)

/-
  The names of all entries, of the directories that paths
  start from, and of the target itself.
-/
def takenNames
    (tree : FileTree)
    (target : String) : List String :=
  tree.nodes.flatMap (fun entry => entry.1.names) ++
    tree.working.names ++ Path.names target

/- Whether the name of a path is not taken. -/
def isUnused
    (tree : FileTree)
    (target path : String) : Bool :=
  match Path.fileName? path with
  | none => false
  | some name => !(takenNames tree target).contains name

/-
  A temporary path whose name is not taken. There are more
  candidates than taken names.
-/
def temporaryPath
    (tree : FileTree)
    (target : String) : String :=
  let taken := takenNames tree target
  ((List.range (taken.length + 1)).map
    (candidate target)).find? (isUnused tree target)
      |>.getD (candidate target 0)

------------------------------------------------------------
-- Replacement
------------------------------------------------------------

/- Create the directory of a target. -/
def prepare
    (tree : FileTree)
    (target : String) : FileRun :=
  match Path.parent? target with
  | none => FileRun.start tree
  | some parent =>
      if parent = "" then
        FileRun.start tree
      else
        (FileRun.start tree).perform parent
          (.createDirectories parent)

/- Write the temporary file and rename it. -/
def run
    (tree : FileTree)
    (target : String)
    (content : ByteArray) : FileRun :=
  let prepared := prepare tree target
  let temporary := temporaryPath prepared.tree target
  let written :=
    prepared.perform temporary (.write temporary content)
  match written.failure with
  | some _ => written
  | none =>
      (written.perform target
        (.rename temporary target)).cleanUp
          (.remove temporary)

end Replacement

end NotebookGrading
