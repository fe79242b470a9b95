import NotebookGrading.Proofs.Storage.Files

/-
  The shape of a file tree decides which operations fail.

  Files and directories at the same places make paths lead
  to the same places and operations fail alike, whatever the
  files hold. A file is written and moved where no directory
  is and the surroundings let it, and directories that are
  there stay as they are.

  Key definitions include:
    * `FileTree.SameShape`
    * `FileTree.HasDirectory`

  Main statements:
    * `FileTree.SameShape.locate`
    * `FileTree.SameShape.error_rename`
    * `FileTree.error_write`
    * `FileTree.rename_put_eq_ok`
    * `FileTree.createDirectories_again`
-/

namespace NotebookGrading

------------------------------------------------------------
-- Trees Of The Same Shape
------------------------------------------------------------

/- Nothing twice, two directories or two files. -/
inductive Node.SameKind :
    Option Node → Option Node → Prop
  | nothing : SameKind none none
  | directory :
      SameKind (some .directory) (some .directory)
  | file (first second : ByteArray) (readable : Bool) :
      SameKind (some (.file first readable))
        (some (.file second readable))

namespace FileTree

/-
  Files and directories at the same locations in the same
  surroundings.
-/
structure SameShape
    (tree other : FileTree) : Prop where
  surroundings : other.surroundings = tree.surroundings
  node? :
    ∀ location,
      Node.SameKind (tree.node? location)
        (other.node? location)

variable {tree other next : FileTree}
variable {location : Location}

/- The content of a file is no part of the shape. -/
theorem sameShape_put_file
    (h : tree.node? location ≠ some .directory)
    (first second : ByteArray)
    (readable : Bool) :
    SameShape (tree.put location (.file first readable))
      (tree.put location (.file second readable)) := by
  refine ⟨rfl, ?_⟩
  intro place
  rw [node?_put h, node?_put h]
  split
  · exact .file first second readable
  · rcases tree.node? place with - | - | -
    · exact .nothing
    · exact .file _ _ _
    · exact .directory

theorem SameShape.enter
    (h : SameShape tree other)
    (location : Location)
    (name : String) :
    tree.enter location name =
      other.enter location name := by
  have hNode := h.node? location
  unfold FileTree.enter
  generalize tree.node? location = first at hNode ⊢
  generalize other.node? location = second at hNode ⊢
  cases hNode with
  | nothing => rfl
  | directory => rfl
  | file => rfl

/- Paths lead to the same places. -/
theorem SameShape.locate
    (h : SameShape tree other)
    (path : String) :
    tree.locate path = other.locate path := by
  have hFollow :
      ∀ location names,
        tree.follow location names =
          other.follow location names := by
    intro location names
    induction names generalizing location with
    | nil => rfl
    | cons name rest ih =>
        unfold FileTree.follow
        rw [h.enter location name]
        cases other.enter location name with
        | error e => rfl
        | ok next => exact ih next
  have hOrigin : tree.origin path = other.origin path := by
    unfold FileTree.origin FileTree.working
    rw [h.surroundings]
  unfold FileTree.locate
  rw [hFollow, hOrigin]

/- Files are moved, or not, for the same reasons. -/
theorem SameShape.error_rename
    (h : SameShape tree other)
    (source target : String) :
    (tree.rename source target).2 =
      (other.rename source target).2 := by
  unfold FileTree.rename
  rw [h.locate source, h.locate target, h.surroundings]
  cases other.locate source with
  | error e => rfl
  | ok origin =>
      cases other.locate target with
      | error e => rfl
      | ok place =>
          have hOrigin := h.node? origin
          have hPlace := h.node? place
          simp only
          generalize tree.node? origin = first at hOrigin ⊢
          generalize other.node? origin = second
            at hOrigin ⊢
          generalize tree.node? place = third at hPlace ⊢
          generalize other.node? place = fourth
            at hPlace ⊢
          cases hOrigin with
          | nothing => rfl
          | directory => rfl
          | file =>
              cases hPlace with
              | directory => rfl
              | nothing => simp only [apply_ite Prod.snd]
              | file => simp only [apply_ite Prod.snd]

/- Whatever is to be written, a write fails or does not. -/
theorem error_write
    (tree : FileTree)
    (path : String)
    (first second : ByteArray) :
    (tree.write path first).2 =
      (tree.write path second).2 := by
  have hFill :
      ∀ location,
        (tree.fill path location first).2 =
          (tree.fill path location second).2 := by
    intro location
    unfold fill
    rcases tree.surroundings.disruption? path
      with - | - | -
    · rfl
    · rfl
    · rfl
  unfold write
  cases tree.locate path with
  | error e => rfl
  | ok location =>
      simp only
      split
      · rfl
      · rcases tree.node? location with - | - | -
        · exact hFill location
        · exact hFill location
        · rfl

------------------------------------------------------------
-- Operations That Nothing Hinders
------------------------------------------------------------

/- A file is written where no directory is. -/
theorem write_of_locate
    {path : String}
    (hLocate : tree.locate path = .ok location)
    (hEnds : Path.endsInDirectory path = false)
    (hNode : tree.node? location ≠ some .directory)
    (hUndisturbed :
      tree.surroundings.disruption? path = none)
    (content : ByteArray) :
    tree.write path content =
      (tree.put location
          (.file content (tree.readableAt location)),
        none) := by
  unfold write
  simp only [hLocate, hEnds]
  rcases hKind : tree.node? location with - | - | -
  · simp [fill, hUndisturbed]
  · simp [fill, hUndisturbed]
  · exact absurd hKind hNode

/- A file is moved to where no directory is. -/
theorem rename_of_locate
    {source target : String}
    {place : Location}
    {content : ByteArray}
    {readable : Bool}
    (hSource : tree.locate source = .ok location)
    (hTarget : tree.locate target = .ok place)
    (hFile :
      tree.node? location = some (.file content readable))
    (hNode : tree.node? place ≠ some .directory)
    (hEnds : Path.endsInDirectory target = false)
    (hAllowed :
      tree.surroundings.refusesMove source target =
        false) :
    tree.rename source target =
      ((tree.erase location).put place
          (.file content readable), none) := by
  unfold rename
  simp only [hSource, hTarget, hFile]
  rcases hKind : tree.node? place with - | - | -
  · simp [hEnds, hAllowed]
  · simp [hEnds, hAllowed]
  · exact absurd hKind hNode

/- No directory appears where a file is put. -/
theorem node?_put_file_ne
    {place : Location}
    (hFree : tree.node? location ≠ some .directory)
    (hNode : tree.node? place ≠ some .directory)
    (content : ByteArray)
    (readable : Bool) :
    (tree.put location (.file content readable)).node?
        place ≠ some .directory := by
  rw [node?_put hFree]
  split
  · simp
  · exact hNode

/- What moving a file that was just written leads to. -/
theorem rename_put_eq_ok
    {source target : String}
    {content : ByteArray}
    {readable : Bool}
    (hSource : tree.locate source = .ok location)
    (hFree : tree.node? location ≠ some .directory)
    (h :
      (tree.put location (.file content readable)).rename
          source target = (next, none)) :
    ∃ place,
      Path.endsInDirectory target = false ∧
      tree.surroundings.refusesMove source target = false ∧
      next.locate target = .ok place ∧
      next.node? place = some (.file content readable) ∧
      next.node? location ≠ some .directory ∧
      KeepsDirectories tree next ∧
      next =
        ((tree.put location (.file content readable)).erase
          location).put place (.file content readable) := by
  have hPut :=
    keepsDirectories_put hFree (.file content readable)
  have hFile :
      (tree.put location (.file content readable)).node?
        location = some (.file content readable) := by
    rw [node?_put hFree, if_pos rfl]
  rcases rename_eq_ok h with
    ⟨origin, place, found, flag, hOrigin, hPlace, hFound,
      hNode, hEnds, hAllowed, hTree⟩
  rw [hPut.locate hSource] at hOrigin
  cases hOrigin
  rw [hFile] at hFound
  cases hFound
  have hWritten :
      (tree.put location (.file content readable)).node?
        location ≠ some .directory := by
    simp [hFile]
  have hErased :
      ((tree.put location (.file content readable)).erase
        location).node? place ≠ some .directory := by
    rw [node?_erase hWritten]
    split
    · simp
    · exact hNode
  have hErase := keepsDirectories_erase hWritten
  have hLast :=
    keepsDirectories_put hErased (.file content readable)
  refine
    ⟨place, hEnds, hAllowed, ?_, ?_, ?_, ?_, hTree⟩
  · rw [hTree]
    exact hLast.locate (hErase.locate hPlace)
  · rw [hTree, node?_put hErased, if_pos rfl]
  · rw [hTree, node?_put hErased]
    split
    · simp
    · rw [node?_erase hWritten, if_pos rfl]
      simp
  · rw [hTree]
    exact (hPut.trans hErase).trans hLast

------------------------------------------------------------
-- Directories That Are There
------------------------------------------------------------

/- A path leads to a directory. -/
def HasDirectory
    (tree : FileTree)
    (path : String) : Prop :=
  ∃ location,
    tree.locate path = .ok location ∧
      tree.node? location = some .directory

theorem KeepsDirectories.hasDirectory
    (h : KeepsDirectories tree next)
    {path : String}
    (hPath : tree.HasDirectory path) :
    next.HasDirectory path := by
  rcases hPath with ⟨location, hLocate, hNode⟩
  exact
    ⟨location, h.locate hLocate,
      h.directory location hNode⟩

/- A directory that was created is there. -/
theorem hasDirectory_of_createDirectory
    {path : String}
    (h : tree.createDirectory path = (next, none)) :
    next.HasDirectory path := by
  have hKeeps := tree.sameFiles_createDirectory path
  rw [h] at hKeeps
  unfold createDirectory at h
  split at h
  · cases (Prod.mk.inj h).2
  · rename_i location hLocate
    refine
      ⟨location, hKeeps.directories.locate hLocate, ?_⟩
    split at h
    · rename_i hNode
      exact hKeeps.directories.directory location hNode
    · cases (Prod.mk.inj h).2
    · rename_i hNode
      split at h
      · cases (Prod.mk.inj h).2
      · rw [← (Prod.mk.inj h).1,
          node?_put (by simp [hNode]), if_pos rfl]

theorem hasDirectory_of_createEach
    {paths : List String}
    (h : tree.createEach paths = (next, none)) :
    ∀ path ∈ paths, next.HasDirectory path := by
  induction paths generalizing tree with
  | nil => exact fun path hMem => absurd hMem List.not_mem_nil
  | cons head rest ih =>
      unfold createEach at h
      split at h
      · rename_i created hCreated
        have hKeeps :=
          (created.sameFiles_createEach rest).directories
        rw [h] at hKeeps
        intro path hMem
        rcases List.mem_cons.1 hMem with rfl | hRest
        · exact
            hKeeps.hasDirectory
              (hasDirectory_of_createDirectory hCreated)
        · exact ih h path hRest
      · cases (Prod.mk.inj h).2

/- Nothing is created where all directories are there. -/
theorem createEach_of_hasDirectory
    {paths : List String}
    (h : ∀ path ∈ paths, tree.HasDirectory path) :
    tree.createEach paths = (tree, none) := by
  induction paths with
  | nil => rfl
  | cons head rest ih =>
      rcases h head List.mem_cons_self with
        ⟨location, hLocate, hNode⟩
      have hHead :
          tree.createDirectory head = (tree, none) := by
        simp [createDirectory, hLocate, hNode]
      rw [createEach, hHead]
      exact
        ih (fun path hMem =>
          h path (List.mem_cons_of_mem head hMem))

/- Directories that were created are not created again. -/
theorem createDirectories_again
    {prepared : FileTree}
    {path : String}
    (h : tree.createDirectories path = (prepared, none))
    (hKeeps : KeepsDirectories prepared next) :
    next.createDirectories path = (next, none) := by
  unfold createDirectories at h ⊢
  split at h
  · rename_i hEmpty
    rw [if_pos hEmpty]
  · rename_i hPath
    rw [if_neg hPath]
    apply createEach_of_hasDirectory
    intro ancestor hMem
    exact
      hKeeps.hasDirectory
        (hasDirectory_of_createEach h ancestor hMem)

end FileTree

end NotebookGrading
