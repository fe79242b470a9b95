import NotebookGrading.Text.Lines

/-
  Paths, as texts with names separated by slashes.

  Empty names and names that are a single dot say nothing
  about where a path leads, except that a dot in front is
  kept. The parent of a path is its text up to the last
  name, without such idle names at its end. A path that
  starts with a slash is absolute, and the slash alone is
  the path of the root.

  Key definitions include:
    * `Path.names`
    * `Path.isAbsolute`
    * `Path.parent?`
    * `Path.fileName?`
    * `Path.withFileName`
-/

namespace NotebookGrading

namespace Path

------------------------------------------------------------
-- Names
------------------------------------------------------------

/- All parts of a path between its slashes. -/
def pieces
    (path : String) : List String :=
  Text.parts '/' path

/- A name that leads nowhere else. -/
def isIdle
    (name : String) : Bool :=
  name = "" || name = "."

/- The names that lead somewhere. -/
def names
    (path : String) : List String :=
  (pieces path).filter (fun name => !isIdle name)

/- Whether a path can only lead to a directory. -/
def endsInDirectory
    (path : String) : Bool :=
  match (pieces path).getLast? with
  | none => true
  | some name => isIdle name || name = ".."

def isAbsolute
    (path : String) : Bool :=
  path.toList.head? = some '/'

/-
  A beginning of a path, which is the root if the path is
  absolute and nothing is left before its first slash.
-/
def orRoot
    (path beginning : String) : String :=
  if beginning = "" && isAbsolute path then
    "/"
  else
    beginning

------------------------------------------------------------
-- Parents And File Names
------------------------------------------------------------

/-
  Pieces in reverse without the idle ones at the end of the
  path. A dot in front of the path is no idle piece.
-/
def dropIdle : List String → List String
  | [] => []
  | [first] => if first = "" then [] else [first]
  | last :: rest =>
      if isIdle last then dropIdle rest else last :: rest

/- The pieces of a path in reverse, up to its last name. -/
def reversedPieces
    (path : String) : List String :=
  dropIdle (pieces path).reverse

/- A path without its last name. -/
def parent?
    (path : String) : Option String :=
  match reversedPieces path with
  | [] => none
  | _ :: rest =>
      some
        (orRoot path
          (Text.ofParts '/' (dropIdle rest).reverse))

/- The last name, if it names an entry of its parent. -/
def fileName?
    (path : String) : Option String :=
  match reversedPieces path with
  | [] => none
  | last :: _ =>
      if last = "." || last = ".." then none else some last

/- A name inside a directory. -/
def join
    (directory name : String) : String :=
  if directory = "" then name
  else if directory.toList.getLast? = some '/' then
    directory ++ name
  else
    directory ++ "/" ++ name

/-
  The path of another entry next to a path. A path that
  names no entry is taken as the directory.
-/
def withFileName
    (path name : String) : String :=
  match fileName? path with
  | some _ => join ((parent? path).getD "") name
  | none => join path name

end Path

end NotebookGrading
