import NotebookGrading.Proofs.Storage.Files
import NotebookGrading.Proofs.Storage.Replacement
import NotebookGrading.Proofs.Storage.TemporaryNames

/-
  The trees that a replacement passes through.

  Up to the temporary file there are the files from before.
  Then there is one more, apart from the target, which holds
  the new content or the beginning of it, until it is moved
  to the target or removed. So the target holds its old or
  its new content all the time, and all other files hold
  what they held before. A temporary file is only left when
  writing it has failed.

  Key definitions include:
    * `FileTree.AddsFile`
    * `FileTree.LeavesFiles`
    * `FileTree.Stores`
    * `FileTree.IsUnderway`
    * `Replacement.Phase`
    * `Replacement.WriteFails`

  Main statements:
    * `FileTree.addsFile_put`
    * `FileTree.stores_of_rename`
    * `FileTree.sameFiles_erase`
    * `Replacement.phase_of_mem_trees`
    * `Replacement.leavesFiles_run`
    * `Replacement.sameFiles_run`
    * `Replacement.stores_run`
-/

namespace NotebookGrading

------------------------------------------------------------
-- Trees Of A Replacement
------------------------------------------------------------

namespace FileTree

/-
  The files of a tree and a new one, which may be read, at a
  free location apart from a target.
-/
structure AddsFile
    (tree : FileTree)
    (target : String)
    (location : Location)
    (content : ByteArray)
    (next : FileTree) : Prop where
  directories : KeepsDirectories tree next
  free : tree.content? location = none
  node?_eq : next.node? location = some (.file content true)
  apart :
    ∀ place, next.locate target = .ok place →
      location ≠ place
  content?_eq :
    ∀ other,
      next.content? other =
        if location = other then
          some content
        else
          tree.content? other

/-
  The files of a tree, the target as it was, and at most one
  file that was not there before.
-/
structure LeavesFiles
    (tree : FileTree)
    (target : String)
    (next : FileTree) : Prop where
  directories : KeepsDirectories tree next
  kept :
    ∀ location old,
      tree.content? location = some old →
        next.content? location = some old
  atTarget :
    ∀ place, next.locate target = .ok place →
      next.content? place = tree.content? place
  atMostOne :
    ∃ location, ∀ other, location ≠ other →
      next.content? other = tree.content? other

/- The files of a tree but for the new one at a target. -/
structure Stores
    (tree : FileTree)
    (target : String)
    (content : ByteArray)
    (next : FileTree) : Prop where
  directories : KeepsDirectories tree next
  read_eq : next.read target = .ok content
  content?_eq :
    ∀ location, next.locate target ≠ .ok location →
      next.content? location = tree.content? location

/-
  A tree in which the target of a replacement holds its old
  or its new content as a whole, and in which no other file
  from before has changed.
-/
structure IsUnderway
    (tree : FileTree)
    (target : String)
    (content : ByteArray)
    (next : FileTree) : Prop where
  directories : KeepsDirectories tree next
  oldOrNew :
    ∀ place, next.locate target = .ok place →
      next.content? place = tree.content? place ∨
        next.content? place = some content
  others :
    ∀ location old,
      tree.content? location = some old →
        next.locate target ≠ .ok location →
          next.content? location = some old

variable {tree prepared written moved next : FileTree}
variable {location : Location}
variable {target temporary : String}
variable {content : ByteArray}

theorem SameFiles.leavesFiles
    (h : SameFiles tree next)
    (target : String) :
    LeavesFiles tree target next where
  directories := h.directories
  kept := by
    intro location old hOld
    rw [h.content?_eq]
    exact hOld
  atTarget := fun place _ => h.content?_eq place
  atMostOne := ⟨.root, fun other _ => h.content?_eq other⟩

/- A new file apart from the target leaves all files. -/
theorem AddsFile.leavesFiles
    (h : AddsFile tree target location content next) :
    LeavesFiles tree target next where
  directories := h.directories
  kept := by
    intro other old hOld
    have hNe : location ≠ other := by
      rintro rfl
      rw [h.free] at hOld
      cases hOld
    rw [h.content?_eq, if_neg hNe]
    exact hOld
  atTarget := by
    intro place hPlace
    rw [h.content?_eq, if_neg (h.apart place hPlace)]
  atMostOne := by
    refine ⟨location, fun other hNe => ?_⟩
    rw [h.content?_eq, if_neg hNe]

theorem LeavesFiles.isUnderway
    (h : LeavesFiles tree target next)
    (content : ByteArray) :
    IsUnderway tree target content next where
  directories := h.directories
  oldOrNew := fun place hPlace =>
    .inl (h.atTarget place hPlace)
  others := fun location old hOld _ =>
    h.kept location old hOld

theorem Stores.isUnderway
    (h : Stores tree target content next) :
    IsUnderway tree target content next where
  directories := h.directories
  oldOrNew := by
    intro place hPlace
    exact .inr (content?_of_read h.read_eq hPlace)
  others := by
    intro location old hOld hElsewhere
    rw [h.content?_eq location hElsewhere]
    exact hOld

/- A text that is stored is read back. -/
theorem Stores.readText
    {text : String}
    (h : Stores tree target text.toUTF8 next) :
    next.readText target = .ok text :=
  readText_of_read h.read_eq

------------------------------------------------------------
-- Steps Of A Replacement
------------------------------------------------------------

/- A free location has room for one more file. -/
theorem addsFile_put
    (hSame : SameFiles tree prepared)
    (hNode : prepared.node? location = none)
    (hApart :
      ∀ place,
        (prepared.put location (.file content true)).locate
            target = .ok place →
          location ≠ place) :
    AddsFile tree target location content
      (prepared.put location (.file content true)) := by
  have hFree : prepared.node? location ≠ some .directory := by
    simp [hNode]
  constructor
  · exact
      hSame.directories.trans
        (keepsDirectories_put hFree (.file content true))
  · rw [← hSame.content?_eq, content?, hNode]
  · rw [node?_put hFree, if_pos rfl]
  · exact hApart
  · intro other
    rw [content?_put_file hFree, hSame.content?_eq]

/- Without the new file the files are those from before. -/
theorem sameFiles_erase
    (h : AddsFile tree target location content written) :
    SameFiles tree (written.erase location) := by
  have hContent :
      written.content? location = some content := by
    rw [h.content?_eq, if_pos rfl]
  have hNode := node?_ne_directory_of_content? hContent
  refine
    ⟨h.directories.trans (keepsDirectories_erase hNode), ?_⟩
  intro other
  rw [content?_erase hNode, h.content?_eq]
  by_cases hOther : location = other
  · subst hOther
    rw [if_pos rfl, h.free]
  · rw [if_neg hOther, if_neg hOther]

/- The new file leaves its location for the target. -/
theorem stores_of_rename
    (h : AddsFile tree target location content written)
    (hLocate : written.locate temporary = .ok location)
    (hRename :
      written.rename temporary target = (moved, none)) :
    Stores tree target content moved := by
  rcases rename_eq_ok hRename with
    ⟨origin, place, found, readable, hOrigin, hPlace,
      hFound, hNode, hEnds, -, rfl⟩
  have hSame : origin = location := by
    rw [hOrigin] at hLocate
    exact Except.ok.inj hLocate
  subst hSame
  rw [h.node?_eq] at hFound
  cases hFound
  have hErased := sameFiles_erase h
  have hOriginFile :
      written.node? origin ≠ some .directory := by
    simp [h.node?_eq]
  have hFree :
      (written.erase origin).node? place ≠
        some .directory := by
    rw [node?_erase hOriginFile]
    split
    · simp
    · exact hNode
  have hPut := keepsDirectories_put hFree (.file content true)
  have hMoved :
      ((written.erase origin).put place
        (.file content true)).locate target = .ok place :=
    hPut.locate
      ((keepsDirectories_erase hOriginFile).locate hPlace)
  refine ⟨hErased.directories.trans hPut, ?_, ?_⟩
  · apply read_eq_ok hMoved _ hEnds
    rw [node?_put hFree, if_pos rfl]
  · intro other hOther
    have hNe : place ≠ other := by
      rintro rfl
      exact hOther hMoved
    rw [content?_put_file hFree, if_neg hNe,
      hErased.content?_eq]

end FileTree

------------------------------------------------------------
-- Phases Of A Replacement
------------------------------------------------------------

namespace Replacement

open FileTree
  (SameFiles AddsFile LeavesFiles Stores IsUnderway)

/- How far a replacement has come. -/
inductive Phase
    (tree : FileTree)
    (target : String)
    (content : ByteArray)
    (next : FileTree) : Prop
  | before (h : LeavesFiles tree target next)
  | after (h : Stores tree target content next)

variable {tree next : FileTree}
variable {target : String}
variable {content : ByteArray}

theorem Phase.isUnderway
    (h : Phase tree target content next) :
    IsUnderway tree target content next := by
  cases h with
  | before h => exact h.isUnderway content
  | after h => exact h.isUnderway

/- Only directories are created before the writing. -/
theorem sameFiles_of_mem_prepare
    (h : next ∈ (prepare tree target).trees) :
    SameFiles tree next := by
  have hStart :
      next ∈ (FileRun.start tree).trees →
        SameFiles tree next := by
    intro hMem
    rw [List.mem_singleton.1 hMem]
    exact SameFiles.refl tree
  unfold prepare at h
  split at h
  · exact hStart h
  · rename_i parent hParent
    split at h
    · exact hStart h
    · rcases FileRun.mem_trees_perform h with
        hMem | hCreated
      · exact hStart hMem
      · rw [hCreated]
        exact tree.sameFiles_createDirectories parent

theorem sameFiles_prepare
    (tree : FileTree)
    (target : String) :
    SameFiles tree (prepare tree target).tree :=
  sameFiles_of_mem_prepare (FileRun.tree_mem_trees _)

/- The temporary path leads to nothing from before. -/
theorem node?_temporaryFor
    {location : Location}
    (hLocate :
      (prepare tree target).tree.locate
          (temporaryFor tree target) =
        .ok location)
    (hNode :
      (prepare tree target).tree.node? location ≠
        some .directory) :
    (prepare tree target).tree.node? location = none := by
  rw [Option.eq_none_iff_forall_ne_some]
  intro node hFound
  rw [FileTree.node?, FileTree.encloses_eq_false hNode]
    at hFound
  exact
    ne_of_mem_nodes hLocate
      (FileTree.mem_of_findNode? hFound) rfl

/- What is written at the temporary path is one file more. -/
theorem addsFile_temporaryFor
    {location : Location}
    (hLocate :
      (prepare tree target).tree.locate
          (temporaryFor tree target) =
        .ok location)
    (hNode :
      (prepare tree target).tree.node? location ≠
        some .directory)
    (piece : ByteArray) :
    AddsFile tree target location piece
      ((prepare tree target).tree.put location
        (.file piece
          ((prepare tree target).tree.readableAt
            location))) := by
  have hNone := node?_temporaryFor hLocate hNode
  rw [FileTree.readableAt, hNone]
  apply
    FileTree.addsFile_put (sameFiles_prepare tree target)
      hNone
  intro place hPlace
  exact
    ne_of_locate_target hLocate
      (FileTree.surroundings_put _ _ _) hPlace

/- The temporary file is new and holds the content. -/
theorem addsFile_written
    (h : (written tree target content).failure = none) :
    ∃ location,
      (written tree target content).tree.locate
        (temporaryFor tree target) = .ok location ∧
      AddsFile tree target location content
        (written tree target content).tree := by
  rcases FileTree.write_eq_ok (written_eq_ok h).2 with
    ⟨location, hLocate, hNode, -, hTree⟩
  rw [hTree]
  exact
    ⟨location,
      (FileTree.keepsDirectories_put hNode _).locate hLocate,
      addsFile_temporaryFor hLocate hNode content⟩

/-
  The directory of the target is there, but the temporary
  file cannot be written as a whole.
-/
def WriteFails
    (tree : FileTree)
    (target : String)
    (content : ByteArray) : Prop :=
  (prepare tree target).failure = none ∧
    (written tree target content).failure ≠ none

/- Without a directory nothing has been written. -/
theorem sameFiles_written
    {failure : FileFailure}
    (h : (written tree target content).failure =
      some failure)
    (hWhole : ¬ WriteFails tree target content) :
    SameFiles tree (written tree target content).tree := by
  cases hPrepared : (prepare tree target).failure with
  | none => exact absurd ⟨hPrepared, by simp [h]⟩ hWhole
  | some earlier =>
      unfold written FileRun.perform
      simp only [hPrepared]
      exact sameFiles_prepare tree target

/- With or without a failure there is at most a new file. -/
theorem leavesFiles_written
    (tree : FileTree)
    (target : String)
    (content : ByteArray) :
    LeavesFiles tree target
      (written tree target content).tree := by
  cases hWritten :
      (written tree target content).failure with
  | none =>
      rcases addsFile_written hWritten with
        ⟨location, -, hAdds⟩
      exact hAdds.leavesFiles
  | some failure =>
      by_cases hFails : WriteFails tree target content
      · rcases written_eq_error hFails.1 hWritten with
          ⟨error, hError⟩
        rcases FileTree.write_eq_error hError with
          hTree | ⟨location, count, hLocate, hNode, hTree⟩
        · rw [hTree]
          exact
            (sameFiles_prepare tree target).leavesFiles
              target
        · rw [hTree]
          exact
            (addsFile_temporaryFor hLocate hNode
              (content.extract 0 count)).leavesFiles
      · exact
          (sameFiles_written hWritten hFails).leavesFiles
            target

theorem leavesFiles_of_mem_written
    (h : next ∈ (written tree target content).trees) :
    LeavesFiles tree target next := by
  rcases FileRun.mem_trees_perform h with hMem | hReached
  · exact (sameFiles_of_mem_prepare hMem).leavesFiles target
  · rw [hReached]
    exact leavesFiles_written tree target content

------------------------------------------------------------
-- Moving The Temporary File
------------------------------------------------------------

/- A file that was moved is stored at the target. -/
theorem stores_moved
    (h : (moved tree target content).failure = none) :
    Stores tree target content
      (moved tree target content).tree := by
  rcases moved_eq_ok h with ⟨hWritten, hRename⟩
  rcases addsFile_written hWritten with
    ⟨location, hLocate, hAdds⟩
  exact FileTree.stores_of_rename hAdds hLocate hRename

/- A file that could not be moved is still there. -/
theorem tree_moved_of_error
    {failure : FileFailure}
    (hWritten :
      (written tree target content).failure = none)
    (hMoved :
      (moved tree target content).failure = some failure) :
    (moved tree target content).tree =
      (written tree target content).tree := by
  rcases moved_eq_error hWritten hMoved with
    ⟨error, hError⟩
  exact FileTree.rename_eq_error hError

/- A file that could not be moved is removed. -/
theorem sameFiles_cleanUp
    {failure : FileFailure}
    (hWritten :
      (written tree target content).failure = none)
    (hMoved :
      (moved tree target content).failure = some failure) :
    SameFiles tree
      ((moved tree target content).cleanUp
        (.remove (temporaryFor tree target))).tree := by
  rcases addsFile_written hWritten with
    ⟨location, hLocate, hAdds⟩
  have hContent :
      (written tree target content).tree.content? location =
        some content := by
    rw [hAdds.content?_eq, if_pos rfl]
  have hRemove := FileTree.remove_eq_ok hLocate hContent
  unfold FileRun.cleanUp
  simp only [hMoved, FileOperation.apply,
    tree_moved_of_error hWritten hMoved, hRemove]
  exact FileTree.sameFiles_erase hAdds

theorem phase_of_mem_moved
    (hWritten :
      (written tree target content).failure = none)
    (h : next ∈ (moved tree target content).trees) :
    Phase tree target content next := by
  rcases FileRun.mem_trees_perform h with hMem | hReached
  · exact .before (leavesFiles_of_mem_written hMem)
  · rw [hReached]
    change Phase tree target content
      (moved tree target content).tree
    cases hMoved : (moved tree target content).failure with
    | none => exact .after (stores_moved hMoved)
    | some failure =>
        rw [tree_moved_of_error hWritten hMoved]
        exact
          .before (leavesFiles_written tree target content)

------------------------------------------------------------
-- Whole Replacements
------------------------------------------------------------

/- A replacement that succeeds stores the new content. -/
theorem stores_run
    (h : (run tree target content).failure = none) :
    Stores tree target content
      (run tree target content).tree := by
  cases hWritten : (written tree target content).failure with
  | some failure =>
      rw [run_of_written_failed hWritten, hWritten] at h
      cases h
  | none =>
      rw [run_of_moved hWritten] at h ⊢
      rcases FileRun.cleanUp_eq_self h with ⟨hMoved, hSame⟩
      rw [hSame]
      exact stores_moved hMoved

/-
  A replacement that fails leaves no file behind, unless it
  is the temporary file that could not be written.
-/
theorem sameFiles_run
    {failure : FileFailure}
    (h : (run tree target content).failure = some failure)
    (hWhole : ¬ WriteFails tree target content) :
    SameFiles tree (run tree target content).tree := by
  cases hWritten : (written tree target content).failure with
  | some earlier =>
      rw [run_of_written_failed hWritten]
      exact sameFiles_written hWritten hWhole
  | none =>
      rw [run_of_moved hWritten] at h ⊢
      rw [FileRun.failure_cleanUp] at h
      exact sameFiles_cleanUp hWritten h

/- A replacement that fails leaves the files from before. -/
theorem leavesFiles_run
    {failure : FileFailure}
    (h : (run tree target content).failure = some failure) :
    LeavesFiles tree target
      (run tree target content).tree := by
  by_cases hFails : WriteFails tree target content
  · rcases Option.ne_none_iff_exists'.1 hFails.2 with
      ⟨earlier, hWritten⟩
    rw [run_of_written_failed hWritten]
    exact leavesFiles_written tree target content
  · exact (sameFiles_run h hFails).leavesFiles target

/- Every tree of a replacement is in one of the phases. -/
theorem phase_of_mem_trees
    (h : next ∈ (run tree target content).trees) :
    Phase tree target content next := by
  cases hWritten : (written tree target content).failure with
  | some failure =>
      rw [run_of_written_failed hWritten] at h
      exact .before (leavesFiles_of_mem_written h)
  | none =>
      rw [run_of_moved hWritten] at h
      rcases FileRun.mem_trees_cleanUp h with hMem | hTree
      · exact phase_of_mem_moved hWritten hMem
      · rw [hTree, ← run_of_moved hWritten]
        cases hRun : (run tree target content).failure with
        | none => exact .after (stores_run hRun)
        | some failure => exact .before (leavesFiles_run hRun)

end Replacement

end NotebookGrading
