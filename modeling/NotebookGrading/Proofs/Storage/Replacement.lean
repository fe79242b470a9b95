import NotebookGrading.Storage.Replacement

/-
  Runs of file operations, and those of replacements.

  A run passes through one tree for each of its operations.
  A replacement prepares, writes and moves, in this order,
  and stops at the first of them that fails.

  Key definitions include:
    * `FileRun.trees`
    * `Replacement.temporaryFor`
    * `Replacement.written`
    * `Replacement.moved`

  Main statements:
    * `FileRun.perform_eq_ok`, `FileRun.perform_eq_error`
    * `FileRun.mem_trees_perform`
    * `Replacement.run_of_written_failed`
    * `Replacement.run_of_moved`
-/

namespace NotebookGrading

------------------------------------------------------------
-- Runs
------------------------------------------------------------

namespace FileRun

/- All trees of a run, the reached one last. -/
def trees
    (run : FileRun) : List FileTree :=
  run.passed ++ [run.tree]

variable {run : FileRun}
variable {blamed : String}
variable {operation : FileOperation}
variable {tree : FileTree}

theorem tree_mem_trees
    (run : FileRun) :
    run.tree ∈ run.trees :=
  List.mem_append_right run.passed List.mem_cons_self

/- An operation adds the tree that it leads to. -/
theorem mem_trees_perform
    (h : tree ∈ (run.perform blamed operation).trees) :
    tree ∈ run.trees ∨
      tree = (run.perform blamed operation).tree := by
  unfold perform at h ⊢
  cases hFailure : run.failure with
  | some failure =>
      simp only [hFailure] at h
      exact .inl h
  | none =>
      simp only [hFailure] at h
      rcases List.mem_append.1 h with hPassed | hReached
      · exact .inl hPassed
      · exact .inr (List.mem_singleton.1 hReached)

/- A run that an operation has failed went no further. -/
theorem perform_eq_error
    {failure : FileFailure}
    (hRun : run.failure = none)
    (h :
      (run.perform blamed operation).failure =
        some failure) :
    ∃ error,
      operation.apply run.tree =
        ((run.perform blamed operation).tree,
          some error) := by
  unfold perform at h ⊢
  simp only [hRun] at h ⊢
  rcases Option.map_eq_some_iff.1 h with ⟨error, hError, -⟩
  exact ⟨error, Prod.ext rfl hError⟩

theorem mem_trees_cleanUp
    (h : tree ∈ (run.cleanUp operation).trees) :
    tree ∈ run.trees ∨
      tree = (run.cleanUp operation).tree := by
  unfold cleanUp at h ⊢
  cases hFailure : run.failure with
  | none =>
      simp only [hFailure] at h
      exact .inl h
  | some failure =>
      simp only [hFailure] at h
      rcases List.mem_append.1 h with hPassed | hReached
      · exact .inl hPassed
      · exact .inr (List.mem_singleton.1 hReached)

@[simp]
theorem failure_cleanUp
    (run : FileRun)
    (operation : FileOperation) :
    (run.cleanUp operation).failure = run.failure := by
  unfold cleanUp
  cases hFailure : run.failure with
  | none => exact hFailure
  | some failure => rfl

/- An operation that did not fail was carried out. -/
theorem perform_eq_ok
    (h : (run.perform blamed operation).failure = none) :
    run.failure = none ∧
      operation.apply run.tree =
        ((run.perform blamed operation).tree, none) := by
  unfold perform at h ⊢
  cases hFailure : run.failure with
  | some failure => simp [hFailure] at h
  | none =>
      simp only [hFailure] at h ⊢
      refine ⟨trivial, ?_⟩
      have hNone : (operation.apply run.tree).2 = none := by
        simpa using h
      exact Prod.ext rfl hNone

/- Nothing is cleaned up after a run that did not fail. -/
theorem cleanUp_eq_self
    (h : (run.cleanUp operation).failure = none) :
    run.failure = none ∧ run.cleanUp operation = run := by
  unfold cleanUp at h ⊢
  cases hFailure : run.failure with
  | none => simp
  | some failure => simp [hFailure] at h

end FileRun

------------------------------------------------------------
-- Steps Of A Replacement
------------------------------------------------------------

namespace Replacement

variable {tree : FileTree}
variable {target : String}
variable {content : ByteArray}

/- The temporary path that a replacement of a file uses. -/
def temporaryFor
    (tree : FileTree)
    (target : String) : String :=
  temporaryPath (prepare tree target).tree target

/- The run up to the temporary file. -/
def written
    (tree : FileTree)
    (target : String)
    (content : ByteArray) : FileRun :=
  (prepare tree target).perform (temporaryFor tree target)
    (.write (temporaryFor tree target) content)

theorem run_of_written_failed
    {failure : FileFailure}
    (h : (written tree target content).failure =
      some failure) :
    run tree target content =
      written tree target content := by
  unfold written temporaryFor at h
  simp only [run, h]
  rfl

/- The run up to the moving, before anything is removed. -/
def moved
    (tree : FileTree)
    (target : String)
    (content : ByteArray) : FileRun :=
  (written tree target content).perform target
    (.rename (temporaryFor tree target) target)

/- A file that was written is moved, or else removed. -/
theorem run_of_moved
    (h : (written tree target content).failure = none) :
    run tree target content =
      (moved tree target content).cleanUp
        (.remove (temporaryFor tree target)) := by
  unfold written temporaryFor at h
  simp only [run, h]
  rfl

/- What a run up to the temporary file has done. -/
theorem written_eq_ok
    (h : (written tree target content).failure = none) :
    (prepare tree target).failure = none ∧
      (prepare tree target).tree.write
          (temporaryFor tree target) content =
        ((written tree target content).tree, none) :=
  (FileRun.perform_eq_ok h :)

/- What a run up to the moving has done. -/
theorem moved_eq_ok
    (h : (moved tree target content).failure = none) :
    (written tree target content).failure = none ∧
      (written tree target content).tree.rename
          (temporaryFor tree target) target =
        ((moved tree target content).tree, none) :=
  (FileRun.perform_eq_ok h :)

/- What has failed if there is no temporary file. -/
theorem written_eq_error
    {failure : FileFailure}
    (hPrepared : (prepare tree target).failure = none)
    (h : (written tree target content).failure =
      some failure) :
    ∃ error,
      (prepare tree target).tree.write
          (temporaryFor tree target) content =
        ((written tree target content).tree,
          some error) :=
  (FileRun.perform_eq_error hPrepared h :)

/- What has failed if the file has not been moved. -/
theorem moved_eq_error
    {failure : FileFailure}
    (hWritten :
      (written tree target content).failure = none)
    (h : (moved tree target content).failure =
      some failure) :
    ∃ error,
      (written tree target content).tree.rename
          (temporaryFor tree target) target =
        ((moved tree target content).tree, some error) :=
  (FileRun.perform_eq_error hWritten h :)

end Replacement

end NotebookGrading
