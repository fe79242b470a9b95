import Mathlib.Data.Nat.Find
import NotebookGrading.Proofs.Storage.Phases
import NotebookGrading.Proofs.Storage.Shapes

/-
  Replacing a file with other content, and once more.

  Whether a replacement fails is decided by where there are
  files and directories and by their surroundings, not by
  what the files hold. After one that succeeded everything
  is in place for the next: the directories are there, and
  the same temporary name is free again.

  Key definitions include:
    * `Replacement.IsReady`

  Main statements:
    * `Replacement.failure_run_eq`
    * `Replacement.temporaryPath_congr`
    * `Replacement.IsReady.failure_run`
    * `Replacement.isReady_run`
-/

namespace NotebookGrading

------------------------------------------------------------
-- Other Content
------------------------------------------------------------

namespace Replacement

open FileTree (SameShape KeepsDirectories)

variable {tree prepared next : FileTree}
variable {target : String}

/- Operations that fail alike make runs fail alike. -/
theorem failure_perform_congr
    {first second : FileRun}
    {blamed : String}
    {one other : FileOperation}
    (hFailure : first.failure = second.failure)
    (hError :
      first.failure = none →
        (one.apply first.tree).2 =
          (other.apply second.tree).2) :
    (first.perform blamed one).failure =
      (second.perform blamed other).failure := by
  unfold FileRun.perform
  cases hFirst : first.failure with
  | some failure =>
      rw [hFirst] at hFailure
      simp [hFirst, ← hFailure]
  | none =>
      rw [hFirst] at hFailure
      simp [← hFailure, hError hFirst]

theorem failure_written_eq
    (tree : FileTree)
    (target : String)
    (first second : ByteArray) :
    (written tree target first).failure =
      (written tree target second).failure := by
  apply failure_perform_congr rfl
  intro _
  simp only [FileOperation.apply]
  exact
    (prepare tree target).tree.error_write
      (temporaryFor tree target) first second

/- The trees with a temporary file differ in its content. -/
theorem sameShape_written
    (first second : ByteArray)
    (h : (written tree target first).failure = none) :
    SameShape (written tree target first).tree
      (written tree target second).tree := by
  have hSecond := h
  rw [failure_written_eq tree target first second]
    at hSecond
  rcases FileTree.write_eq_ok (written_eq_ok h).2 with
    ⟨location, hLocate, hNode, -, hFirstTree⟩
  rcases FileTree.write_eq_ok (written_eq_ok hSecond).2 with
    ⟨other, hOther, -, -, hSecondTree⟩
  have hSame : location = other := by
    rw [hLocate] at hOther
    exact Except.ok.inj hOther
  subst hSame
  rw [hFirstTree, hSecondTree]
  exact FileTree.sameShape_put_file hNode first second _

/-
  Whether a replacement fails, and how, does not depend on
  the content that is to be stored.
-/
theorem failure_run_eq
    (tree : FileTree)
    (target : String)
    (first second : ByteArray) :
    (run tree target first).failure =
      (run tree target second).failure := by
  have hWritten := failure_written_eq tree target first second
  cases hFirst : (written tree target first).failure with
  | some failure =>
      rw [hFirst] at hWritten
      rw [run_of_written_failed hFirst,
        run_of_written_failed hWritten.symm, hFirst, hWritten]
  | none =>
      have hSecond := hWritten
      rw [hFirst] at hSecond
      rw [run_of_moved hFirst, run_of_moved hSecond.symm,
        FileRun.failure_cleanUp, FileRun.failure_cleanUp]
      apply failure_perform_congr hWritten
      intro _
      exact
        (sameShape_written first second hFirst).error_rename
          (temporaryFor tree target) target

------------------------------------------------------------
-- The Same Temporary Name
------------------------------------------------------------

/- The temporary path is the first candidate to be free. -/
theorem temporaryPath_eq_of_first
    {n : Nat}
    (hUnused :
      isUnused tree target (candidate target n) = true)
    (hFirst :
      ∀ m < n,
        isUnused tree target (candidate target m) = false) :
    temporaryPath tree target = candidate target n := by
  rcases exists_isUnused tree target with
    ⟨other, hRange, hOther⟩
  have hBound : n < (takenNames tree target).length + 1 := by
    have hLe : n ≤ other := by
      by_contra hLess
      rw [hFirst other (by omega)] at hOther
      cases hOther
    have hOtherBound := List.mem_range.1 hRange
    omega
  have hFind :
      (List.range
        ((takenNames tree target).length + 1)).find?
          (isUnused tree target ∘ candidate target) =
        some n := by
    rw [List.find?_range_eq_some, Function.comp_apply]
    refine ⟨hUnused, List.mem_range.2 hBound, ?_⟩
    intro m hLess
    simp [hFirst m hLess]
  unfold temporaryPath
  simp only
  rw [List.find?_map, hFind]
  rfl

/- Trees with the same taken names choose the same. -/
theorem temporaryPath_congr
    (h :
      ∀ name,
        name ∈ takenNames next target ↔
          name ∈ takenNames prepared target) :
    temporaryPath next target =
      temporaryPath prepared target := by
  have hCandidates :
      ∀ n,
        isUnused next target (candidate target n) =
          isUnused prepared target
            (candidate target n) := by
    intro n
    rw [Bool.eq_iff_iff, isUnused_candidate_iff,
      isUnused_candidate_iff, h]
  have hExists :
      ∃ n,
        isUnused prepared target (candidate target n) =
          true := by
    rcases exists_isUnused prepared target with
      ⟨n, -, hUnused⟩
    exact ⟨n, hUnused⟩
  have hUnused := Nat.find_spec hExists
  have hFirst :
      ∀ m < Nat.find hExists,
        isUnused prepared target (candidate target m) =
          false := by
    intro m hLess
    exact
      Bool.eq_false_iff.2 (Nat.find_min hExists hLess)
  rw [temporaryPath_eq_of_first hUnused hFirst]
  apply temporaryPath_eq_of_first
  · rw [hCandidates]
    exact hUnused
  · intro m hLess
    rw [hCandidates]
    exact hFirst m hLess

------------------------------------------------------------
-- The Same File Again
------------------------------------------------------------

/- A tree in which nothing hinders replacing a file. -/
structure IsReady
    (tree : FileTree)
    (target : String) : Prop where
  prepared :
    (prepare tree target).failure = none ∧
      (prepare tree target).tree = tree
  temporary :
    ∃ location,
      tree.locate (temporaryPath tree target) =
        .ok location ∧
      tree.node? location ≠ some .directory
  reachable :
    ∃ place,
      tree.locate target = .ok place ∧
      tree.node? place ≠ some .directory
  namesFile : Path.endsInDirectory target = false
  undisturbed :
    tree.surroundings.disruption?
        (temporaryPath tree target) = none ∧
      tree.surroundings.refusesMove
          (temporaryPath tree target) target =
        false

/- An operation that succeeds does so in a run. -/
theorem perform_of_apply
    {run : FileRun}
    {operation : FileOperation}
    (hRun : run.failure = none)
    (hApply : operation.apply run.tree = (next, none))
    (blamed : String) :
    (run.perform blamed operation).failure = none ∧
      (run.perform blamed operation).tree = next := by
  unfold FileRun.perform
  simp [hRun, hApply]

/- Where nothing hinders it, a replacement succeeds. -/
theorem IsReady.failure_run
    (h : IsReady tree target)
    (content : ByteArray) :
    (run tree target content).failure = none := by
  rcases h.prepared with ⟨hPrepared, hTree⟩
  rcases h.temporary with ⟨location, hLocate, hFree⟩
  rcases h.reachable with ⟨place, hPlace, hNode⟩
  rcases h.undisturbed with ⟨hUndisturbed, hAllowed⟩
  have hTemporary :
      temporaryFor tree target =
        temporaryPath tree target := by
    rw [temporaryFor, hTree]
  have hWrite :
      (FileOperation.write (temporaryFor tree target)
          content).apply (prepare tree target).tree =
        (tree.put location
            (.file content (tree.readableAt location)),
          none) := by
    rw [hTemporary, hTree]
    exact
      FileTree.write_of_locate hLocate
        (endsInDirectory_temporaryPath tree target) hFree
        hUndisturbed content
  rcases
      perform_of_apply hPrepared hWrite
        (temporaryFor tree target)
    with ⟨hWritten, hWrittenTree⟩
  have hKeeps :=
    FileTree.keepsDirectories_put hFree
      (.file content (tree.readableAt location))
  have hFile :
      (tree.put location
        (.file content (tree.readableAt location))).node?
          location =
        some (.file content (tree.readableAt location)) := by
    rw [FileTree.node?_put hFree, if_pos rfl]
  have hRename :=
    FileTree.rename_of_locate
      (hKeeps.locate hLocate) (hKeeps.locate hPlace) hFile
      (FileTree.node?_put_file_ne hFree hNode content _)
      h.namesFile hAllowed
  rw [← hTemporary, ← hWrittenTree] at hRename
  have hMove :
      (FileOperation.rename (temporaryFor tree target)
          target).apply (written tree target content).tree =
        (_, none) :=
    hRename
  rw [run_of_moved hWritten, FileRun.failure_cleanUp]
  exact (perform_of_apply hWritten hMove target).1

/- A directory that was prepared needs no preparation. -/
theorem prepare_again
    (h : (prepare tree target).failure = none)
    (hKeeps :
      KeepsDirectories (prepare tree target).tree next) :
    (prepare next target).failure = none ∧
      (prepare next target).tree = next := by
  unfold prepare at h hKeeps ⊢
  cases hParent : Path.parent? target with
  | none => exact ⟨rfl, rfl⟩
  | some parent =>
      simp only [hParent] at h hKeeps ⊢
      by_cases hEmpty : parent = ""
      · rw [if_pos hEmpty]
        exact ⟨rfl, rfl⟩
      · rw [if_neg hEmpty] at h hKeeps ⊢
        have hCreated := (FileRun.perform_eq_ok h).2
        have hAgain :=
          FileTree.createDirectories_again hCreated hKeeps
        have hCreate :
            (FileOperation.createDirectories parent).apply
                (FileRun.start next).tree =
              (next, none) :=
          hAgain
        exact perform_of_apply rfl hCreate parent

/-
  The target and the temporary file that is gone leave the
  same names taken.
-/
theorem mem_takenNames_replaced
    {location place : Location}
    {content : ByteArray}
    {readable : Bool}
    (hNew :
      ∀ entry ∈ prepared.nodes, location ≠ entry.1)
    (hPlace :
      ∀ name ∈ place.names,
        name ∈ prepared.working.names ∨
          name ∈ Path.names target)
    (name : String) :
    name ∈ takenNames
        (((prepared.put location
          (.file content readable)).erase location).put
            place (.file content readable)) target ↔
      name ∈ takenNames prepared target := by
  rw [mem_takenNames_iff, mem_takenNames_iff]
  constructor
  · rintro (⟨entry, hEntry, hName⟩ | hOther)
    · have hCases :
          entry = (place, .file content readable) ∨
            entry ∈ prepared.nodes := by
        simp [FileTree.put, FileTree.erase] at hEntry
        grind
      rcases hCases with rfl | hOld
      · exact .inr (hPlace name hName)
      · exact .inl ⟨entry, hOld, hName⟩
    · exact .inr hOther
  · rintro (⟨entry, hEntry, hName⟩ | hOther)
    · by_cases hAtPlace : entry.1 = place
      · exact .inr (hPlace name (hAtPlace ▸ hName))
      · refine .inl ⟨entry, ?_, hName⟩
        simp [FileTree.put, FileTree.erase, hEntry,
          hAtPlace, (hNew entry hEntry).symm]
    · exact .inr hOther

theorem isReady_moved
    {content : ByteArray}
    (h : (moved tree target content).failure = none) :
    IsReady (moved tree target content).tree target := by
  rcases moved_eq_ok h with ⟨hWritten, hRename⟩
  rcases written_eq_ok hWritten with ⟨hPrepared, hWrite⟩
  rcases FileTree.write_eq_ok hWrite with
    ⟨location, hLocate, hFree, hUndisturbed, hWrittenTree⟩
  rw [hWrittenTree] at hRename
  rcases FileTree.rename_put_eq_ok hLocate hFree hRename
    with ⟨place, hEnds, hAllowed, hPlace, hFile, hLeft,
      hKeeps, hTree⟩
  have hNames :
      ∀ name ∈ place.names,
        name ∈ (prepare tree target).tree.working.names ∨
          name ∈ Path.names target := by
    intro name hName
    rw [FileTree.working, ← hKeeps.surroundings]
    exact FileTree.mem_names_of_locate hPlace hName
  have hSame :
      temporaryPath (moved tree target content).tree target =
        temporaryFor tree target := by
    apply temporaryPath_congr
    intro name
    rw [hTree]
    exact
      mem_takenNames_replaced
        (fun entry hEntry => ne_of_mem_nodes hLocate hEntry)
        hNames name
  constructor
  · exact prepare_again hPrepared hKeeps
  · rw [hSame]
    exact ⟨location, hKeeps.locate hLocate, hLeft⟩
  · exact ⟨place, hPlace, by simp [hFile]⟩
  · exact hEnds
  · rw [hSame, hKeeps.surroundings]
    exact ⟨hUndisturbed, hAllowed⟩

/-
  A replacement that has succeeded leaves nothing behind
  that would hinder the next.
-/
theorem isReady_run
    {content : ByteArray}
    (h : (run tree target content).failure = none) :
    IsReady (run tree target content).tree target := by
  have hWritten :
      (written tree target content).failure = none := by
    cases hFailure :
        (written tree target content).failure with
    | none => rfl
    | some failure =>
        rw [run_of_written_failed hFailure, hFailure] at h
        cases h
  rw [run_of_moved hWritten] at h ⊢
  rcases FileRun.cleanUp_eq_self h with ⟨hMoved, hSame⟩
  rw [hSame]
  exact isReady_moved hMoved

end Replacement

end NotebookGrading
