import NotebookGrading.Proofs.Storage.FileTrees

/-
  The files of a tree, apart from its directories.

  Creating directories adds no file and changes none, even
  if it fails halfway.

  Key definitions include:
    * `FileTree.content?`
    * `FileTree.SameFiles`

  Main statements:
    * `FileTree.content?_put_file`
    * `FileTree.content?_erase`
    * `FileTree.sameFiles_createDirectories`
    * `FileTree.remove_eq_ok`
-/

namespace NotebookGrading

namespace FileTree

------------------------------------------------------------
-- Contents
------------------------------------------------------------

/- The bytes of the file at a location. -/
def content?
    (tree : FileTree)
    (location : Location) : Option ByteArray :=
  match tree.node? location with
  | some (.file content _) => some content
  | _ => none

theorem content?_eq_some_iff
    {tree : FileTree}
    {location : Location}
    {content : ByteArray} :
    tree.content? location = some content ↔
      ∃ readable,
        tree.node? location =
          some (.file content readable) := by
  unfold content?
  cases tree.node? location with
  | none => simp
  | some node => cases node <;> simp

variable {tree next : FileTree}
variable {location : Location}
variable {content : ByteArray}

theorem node?_ne_directory_of_content?
    (h : tree.content? location = some content) :
    tree.node? location ≠ some .directory := by
  rcases content?_eq_some_iff.1 h with ⟨readable, hNode⟩
  simp [hNode]

/- A file is found where it was put. -/
theorem content?_put_file
    (h : tree.node? location ≠ some .directory)
    (content : ByteArray)
    (readable : Bool)
    (other : Location) :
    (tree.put location (.file content readable)).content?
        other =
      if location = other then
        some content
      else
        tree.content? other := by
  unfold content?
  rw [node?_put h]
  by_cases hEq : location = other
  · simp [hEq]
  · simp [hEq]

theorem content?_erase
    (h : tree.node? location ≠ some .directory)
    (other : Location) :
    (tree.erase location).content? other =
      if location = other then
        none
      else
        tree.content? other := by
  unfold content?
  rw [node?_erase h]
  by_cases hEq : location = other
  · simp [hEq]
  · simp [hEq]

/- A new directory is no file. -/
theorem content?_put_directory
    (h : tree.node? location = none)
    (other : Location) :
    (tree.put location .directory).content? other =
      tree.content? other := by
  unfold content?
  rw [node?_put (by simp [h])]
  by_cases hEq : location = other
  · subst hEq
    simp [h]
  · simp [hEq]

/- A file that is found at a path is read there. -/
theorem read_eq_ok
    {path : String}
    (hLocate : tree.locate path = .ok location)
    (hNode :
      tree.node? location = some (.file content true))
    (hEnds : Path.endsInDirectory path = false) :
    tree.read path = .ok content := by
  unfold read find
  simp [hLocate, hNode, hEnds]

/- What is read at a path is the content at its place. -/
theorem content?_of_read
    {path : String}
    (hRead : tree.read path = .ok content)
    (hLocate : tree.locate path = .ok location) :
    tree.content? location = some content := by
  rw [content?_eq_some_iff]
  unfold read find at hRead
  simp only [hLocate] at hRead
  cases hNode : tree.node? location with
  | none => simp [hNode] at hRead
  | some node =>
      cases node with
      | directory => simp [hNode] at hRead
      | file found readable =>
          refine ⟨readable, ?_⟩
          by_cases hEnds : Path.endsInDirectory path
          · simp [hNode, hEnds] at hRead
          · cases readable with
            | false => simp [hNode, hEnds] at hRead
            | true =>
                simp only [hNode, hEnds] at hRead
                rw [← Except.ok.inj hRead]

------------------------------------------------------------
-- Same Files
------------------------------------------------------------

/-
  The same files with the same contents, and at least the
  same directories.
-/
structure SameFiles
    (tree next : FileTree) : Prop where
  directories : KeepsDirectories tree next
  content?_eq :
    ∀ location,
      next.content? location = tree.content? location

theorem SameFiles.refl
    (tree : FileTree) :
    SameFiles tree tree :=
  ⟨KeepsDirectories.refl tree, fun _ => rfl⟩

theorem SameFiles.trans
    {first second third : FileTree}
    (hFirst : SameFiles first second)
    (hSecond : SameFiles second third) :
    SameFiles first third where
  directories := hFirst.directories.trans hSecond.directories
  content?_eq := by
    intro location
    rw [hSecond.content?_eq, hFirst.content?_eq]

------------------------------------------------------------
-- Creating Directories
------------------------------------------------------------

theorem sameFiles_createDirectory
    (tree : FileTree)
    (path : String) :
    SameFiles tree (tree.createDirectory path).1 := by
  unfold createDirectory
  split
  · exact SameFiles.refl tree
  · rename_i location hLocate
    split
    · exact SameFiles.refl tree
    · exact SameFiles.refl tree
    · rename_i hNode
      split
      · exact SameFiles.refl tree
      · have hFree :
            tree.node? location ≠ some .directory := by
          simp [hNode]
        exact
          ⟨keepsDirectories_put hFree .directory,
            content?_put_directory hNode⟩

theorem sameFiles_createEach
    (tree : FileTree)
    (paths : List String) :
    SameFiles tree (tree.createEach paths).1 := by
  induction paths generalizing tree with
  | nil => exact SameFiles.refl tree
  | cons path rest ih =>
      have hFirst := tree.sameFiles_createDirectory path
      unfold createEach
      split
      · rename_i created hCreated
        rw [hCreated] at hFirst
        exact hFirst.trans (ih created)
      · rename_i created e hCreated
        rw [hCreated] at hFirst
        exact hFirst

/- Creating directories leaves all files, even if it fails. -/
theorem sameFiles_createDirectories
    (tree : FileTree)
    (path : String) :
    SameFiles tree (tree.createDirectories path).1 := by
  unfold createDirectories
  split
  · exact SameFiles.refl tree
  · exact tree.sameFiles_createEach (ancestry path)

------------------------------------------------------------
-- Removing Files
------------------------------------------------------------

/- A file that a path leads to can be removed. -/
theorem remove_eq_ok
    {path : String}
    (hLocate : tree.locate path = .ok location)
    (hContent : tree.content? location = some content) :
    tree.remove path = (tree.erase location, none) := by
  rcases content?_eq_some_iff.1 hContent with
    ⟨readable, hNode⟩
  unfold remove
  simp only [hLocate, hNode]

end FileTree

end NotebookGrading
