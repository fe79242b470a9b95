import NotebookGrading.Storage.Path

/-
  File trees: files and directories in their surroundings.

  A location is the row of names that leads from the root to
  an entry. Paths start from the root or from the working
  directory, which is always there, as are those it lies in.
  Following a path needs a directory at every name but the
  last, and a path with a slash at its end leads to
  directories only.

  A file may be there without the permission to read it. The
  surroundings also decide which operations cannot be
  carried out, for want of a permission or of space. Writing
  a file may then break off halfway. A file that is there
  can always be removed.

  Key definitions include:
    * `Location`
    * `Node`
    * `Disruption`
    * `Surroundings`
    * `FileTree`
    * `FileError`
    * `FileTree.locate`
    * `FileTree.readText`
    * `FileTree.write`
    * `FileTree.createDirectories`
    * `FileTree.rename`
    * `FileTree.remove`
    * `FileTree.listing`
-/

namespace NotebookGrading

------------------------------------------------------------
-- Locations
------------------------------------------------------------

/- The names from the root down to an entry. -/
structure Location where
  names : List String
deriving DecidableEq, Repr

namespace Location

def root : Location :=
  ⟨[]⟩

/- Where the name of an entry leads from a directory. -/
def child
    (location : Location)
    (name : String) : Location :=
  ⟨location.names ++ [name]⟩

/-
  The directory that an entry lies in. The root lies in
  itself.
-/
def parent
    (location : Location) : Location :=
  ⟨location.names.dropLast⟩

/- Whether a location is another or one that it lies in. -/
def encloses
    (location other : Location) : Bool :=
  location.names.isPrefixOf other.names

end Location

------------------------------------------------------------
-- Trees
------------------------------------------------------------

/-
  A file with its bytes, which it may be forbidden to read,
  or a directory.
-/
inductive Node
  | file (content : ByteArray) (readable : Bool)
  | directory

/-
  What becomes of a write that cannot be carried out: no
  file is touched, or a number of bytes is written.
-/
inductive Disruption
  | refused
  | brokenOff (written : Nat)
deriving DecidableEq, Repr

/-
  The directory that relative paths start from, and what is
  not carried out at which paths.
-/
structure Surroundings where
  working : Location
  refusesDirectory : String → Bool
  refusesMove : String → String → Bool
  disruption? : String → Option Disruption

/- Surroundings that let everything be carried out. -/
def Surroundings.permissive
    (working : Location) : Surroundings where
  working := working
  refusesDirectory := fun _ => false
  refusesMove := fun _ _ => false
  disruption? := fun _ => none

structure FileTree where
  nodes : List (Location × Node)
  surroundings : Surroundings

/- Why a file operation fails. -/
inductive FileError
  | notFound
  | notDirectory
  | isDirectory
  | alreadyExists
  | invalidName
  | invalidText
  | unreadable
  | refused
  | disrupted
deriving DecidableEq, Repr

namespace FileTree

/- The tree of an empty working directory. -/
def empty : FileTree :=
  ⟨[], .permissive ⟨["home", "course"]⟩⟩

/- The directory that relative paths start from. -/
def working
    (tree : FileTree) : Location :=
  tree.surroundings.working

/- The entry at a location of a list of entries. -/
def findNode?
    (location : Location) :
    List (Location × Node) → Option Node
  | [] => none
  | (l, node) :: rest =>
      if l = location then
        some node
      else
        findNode? location rest

/-
  The entry at a location. The working directory and those
  it lies in are always there.
-/
def node?
    (tree : FileTree)
    (location : Location) : Option Node :=
  if location.encloses tree.working then
    some .directory
  else
    findNode? location tree.nodes

/- Forget the entry at a location. -/
def erase
    (tree : FileTree)
    (location : Location) : FileTree :=
  { tree with
    nodes :=
      tree.nodes.filter (fun entry => entry.1 ≠ location) }

/- Put an entry at a location. -/
def put
    (tree : FileTree)
    (location : Location)
    (node : Node) : FileTree :=
  { tree with
    nodes := (location, node) :: (tree.erase location).nodes }

------------------------------------------------------------
-- Following Paths
------------------------------------------------------------

/- The most bytes of a name and of a path. -/
def nameLimit : Nat :=
  255

def pathLimit : Nat :=
  4095

/- Go from a directory to one of its entries. -/
def enter
    (tree : FileTree)
    (location : Location)
    (name : String) : Except FileError Location :=
  match tree.node? location with
  | none => .error .notFound
  | some (.file _ _) => .error .notDirectory
  | some .directory =>
      if name.utf8ByteSize > nameLimit then
        .error .invalidName
      else if name = ".." then
        .ok location.parent
      else
        .ok (location.child name)

/- Follow a row of names. -/
def follow
    (tree : FileTree) :
    Location → List String → Except FileError Location
  | location, [] => .ok location
  | location, name :: rest =>
      match tree.enter location name with
      | .error e => .error e
      | .ok next => follow tree next rest

/- The directory that a path starts from. -/
def origin
    (tree : FileTree)
    (path : String) : Location :=
  if Path.isAbsolute path then
    .root
  else
    tree.working

/-
  The location that a path leads to. Nothing has to be
  there, but its directory has to exist.
-/
def locate
    (tree : FileTree)
    (path : String) : Except FileError Location :=
  if path = "" then
    .error .notFound
  else if path.utf8ByteSize > pathLimit ||
      path.toList.contains '\x00' then
    .error .invalidName
  else
    tree.follow (tree.origin path) (Path.names path)

/- The entry that a path leads to. -/
def find
    (tree : FileTree)
    (path : String) : Except FileError Node :=
  match tree.locate path with
  | .error e => .error e
  | .ok location =>
      match tree.node? location with
      | none => .error .notFound
      | some .directory => .ok .directory
      | some (.file content readable) =>
          if Path.endsInDirectory path then
            .error .notDirectory
          else
            .ok (.file content readable)

------------------------------------------------------------
-- Reading
------------------------------------------------------------

def exists?
    (tree : FileTree)
    (path : String) : Bool :=
  match tree.find path with
  | .ok _ => true
  | .error _ => false

/- The bytes of a file. -/
def read
    (tree : FileTree)
    (path : String) : Except FileError ByteArray :=
  match tree.find path with
  | .error e => .error e
  | .ok .directory => .error .isDirectory
  | .ok (.file content readable) =>
      if readable then .ok content else .error .unreadable

/- The text whose UTF-8 bytes a file holds. -/
def readText
    (tree : FileTree)
    (path : String) : Except FileError String :=
  match tree.read path with
  | .error e => .error e
  | .ok content =>
      match String.fromUTF8? content with
      | none => .error .invalidText
      | some text => .ok text

/-
  An entry below a directory as a path that starts from
  there; directories end in a slash.
-/
def entryText
    (directory : Location)
    (entry : Location × Node) : String :=
  let path :=
    Text.ofParts '/'
      (entry.1.names.drop directory.names.length)
  match entry.2 with
  | .file _ _ => path
  | .directory => path ++ "/"

/-
  The paths of all entries below the working directory in
  ascending order.
-/
def listing
    (tree : FileTree) : List String :=
  let below :=
    tree.nodes.filter (fun entry =>
      tree.working.encloses entry.1)
  (below.map (entryText tree.working)).mergeSort
    (fun a b => decide (a ≤ b))

------------------------------------------------------------
-- Writing
------------------------------------------------------------

/- A changed tree, with an error or without. -/
abbrev Outcome :=
  FileTree × Option FileError

/-
  Whether a file may be read once it is written: one that is
  there stays as it is, a new one may.
-/
def readableAt
    (tree : FileTree)
    (location : Location) : Bool :=
  match tree.node? location with
  | some (.file _ readable) => readable
  | _ => true

/-
  Put content into a file, or as much of it as is written
  before the surroundings stop it.
-/
def fill
    (tree : FileTree)
    (path : String)
    (location : Location)
    (content : ByteArray) : Outcome :=
  let readable := tree.readableAt location
  match tree.surroundings.disruption? path with
  | none =>
      (tree.put location (.file content readable), none)
  | some .refused => (tree, some .disrupted)
  | some (.brokenOff written) =>
      let beginning := content.extract 0 written
      (tree.put location (.file beginning readable),
        some .disrupted)

/- Write a file, replacing what it held. -/
def write
    (tree : FileTree)
    (path : String)
    (content : ByteArray) : Outcome :=
  match tree.locate path with
  | .error e => (tree, some e)
  | .ok location =>
      if Path.endsInDirectory path then
        (tree, some .isDirectory)
      else
        match tree.node? location with
        | some .directory => (tree, some .isDirectory)
        | _ => tree.fill path location content

/- Create a directory unless there is one already. -/
def createDirectory
    (tree : FileTree)
    (path : String) : Outcome :=
  match tree.locate path with
  | .error e => (tree, some e)
  | .ok location =>
      match tree.node? location with
      | some .directory => (tree, none)
      | some (.file _ _) => (tree, some .alreadyExists)
      | none =>
          if tree.surroundings.refusesDirectory path then
            (tree, some .disrupted)
          else
            (tree.put location .directory, none)

/- Create directories in turn up to the first failure. -/
def createEach :
    FileTree → List String → Outcome
  | tree, [] => (tree, none)
  | tree, path :: rest =>
      match tree.createDirectory path with
      | (next, none) => createEach next rest
      | (next, some e) => (next, some e)

/- All paths on the way to a path, the shortest first. -/
def ancestry
    (path : String) : List String :=
  let pieces := Path.pieces path
  (List.range pieces.length).map (fun n =>
    Path.orRoot path
      (Text.ofParts '/' (pieces.take (n + 1))))

/- Create a directory and those it lies in. -/
def createDirectories
    (tree : FileTree)
    (path : String) : Outcome :=
  if path = "" then
    (tree, none)
  else
    tree.createEach (ancestry path)

/-
  Move a file to another path, replacing the file that is
  there. Directories are neither moved nor replaced.
-/
def rename
    (tree : FileTree)
    (source target : String) : Outcome :=
  match tree.locate source, tree.locate target with
  | .error e, _ => (tree, some e)
  | _, .error e => (tree, some e)
  | .ok origin, .ok place =>
      match tree.node? origin, tree.node? place with
      | none, _ => (tree, some .notFound)
      | some .directory, _ => (tree, some .refused)
      | _, some .directory => (tree, some .isDirectory)
      | some (.file content readable), _ =>
          if Path.endsInDirectory target then
            (tree, some .notDirectory)
          else if tree.surroundings.refusesMove source target
          then
            (tree, some .disrupted)
          else
            ((tree.erase origin).put place
                (.file content readable), none)

/- Delete a file. -/
def remove
    (tree : FileTree)
    (path : String) : Outcome :=
  match tree.locate path with
  | .error e => (tree, some e)
  | .ok location =>
      match tree.node? location with
      | none => (tree, some .notFound)
      | some .directory => (tree, some .isDirectory)
      | some (.file _ _) => (tree.erase location, none)

end FileTree

end NotebookGrading
