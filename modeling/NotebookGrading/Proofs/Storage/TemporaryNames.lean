import Mathlib.Data.List.Nodup
import Mathlib.Data.List.Perm.Subperm
import NotebookGrading.Proofs.Storage.Paths
import NotebookGrading.Storage.Replacement

/-
  The names of temporary files.

  Different numbers give different names beside one target.
  There are more of them than names that are taken, so the
  search for a name that nothing has always succeeds.

  Main statements:
    * `Replacement.temporaryName_injective`
    * `Replacement.getLast?_pieces_candidate`
    * `Replacement.isUnused_temporaryPath`
    * `Replacement.ne_of_mem_nodes`
    * `Replacement.ne_of_locate_target`
-/

namespace NotebookGrading

namespace Replacement

------------------------------------------------------------
-- Tokens
------------------------------------------------------------

/- A token spells its number. -/
theorem ofDigitChars_token
    (n : Nat) :
    Nat.ofDigitChars 10 (token n).toList 0 = n := by
  unfold token
  rw [String.toList_ofList, Nat.ofDigitChars_append,
    Nat.ofDigitChars_replicate_zero, Nat.mul_zero,
    Nat.ofDigitChars_ten_toDigits]

theorem token_injective :
    Function.Injective token := by
  intro m n hTokens
  rw [← ofDigitChars_token m, hTokens, ofDigitChars_token]

/- A token holds no slash. -/
theorem mark_not_mem_token
    (n : Nat) :
    '/' ∉ (token n).toList := by
  unfold token
  rw [String.toList_ofList, List.mem_append, not_or]
  constructor
  · intro hMem
    exact absurd (List.eq_of_mem_replicate hMem) (by decide)
  · intro hMem
    exact
      absurd
        (Nat.isDigit_of_mem_toDigits (by decide)
          (Nat.le_refl 10) hMem)
        (by decide)

------------------------------------------------------------
-- Names
------------------------------------------------------------

variable (name : String)

theorem temporaryName_injective :
    Function.Injective (temporaryName name) := by
  intro m n hNames
  apply token_injective
  have hLists :=
    congrArg String.toList hNames
  simp only [temporaryName, String.toList_append] at hLists
  exact
    String.toList_inj.1
      (List.append_cancel_left
        (List.append_cancel_right hLists))

variable {name}

theorem mark_not_mem_temporaryName
    (h : '/' ∉ name.toList)
    (n : Nat) :
    '/' ∉ (temporaryName name n).toList := by
  simp [temporaryName, h, mark_not_mem_token n]

/- A temporary name is longer than a row of dots. -/
theorem length_temporaryName
    (name : String)
    (n : Nat) :
    2 < (temporaryName name n).toList.length := by
  simp only [temporaryName, String.toList_append,
    List.length_append]
  have hDot : ".".toList.length = 1 := rfl
  have hEnd : ".tmp".toList.length = 4 := rfl
  omega

theorem isIdle_temporaryName
    (name : String)
    (n : Nat) :
    Path.isIdle (temporaryName name n) = false := by
  have hLength := length_temporaryName name n
  unfold Path.isIdle
  rw [Bool.or_eq_false_iff, decide_eq_false_iff_not,
    decide_eq_false_iff_not]
  constructor
  · intro hEmpty
    rw [hEmpty] at hLength
    exact absurd hLength (by decide)
  · intro hDot
    rw [hDot] at hLength
    exact absurd hLength (by decide)

theorem temporaryName_ne_up
    (name : String)
    (n : Nat) :
    temporaryName name n ≠ ".." := by
  intro hUp
  have hLength := length_temporaryName name n
  rw [hUp] at hLength
  exact absurd hLength (by decide)

------------------------------------------------------------
-- Candidates
------------------------------------------------------------

variable (tree : FileTree)
variable (target : String)

/- The name that the candidates of a target are made from. -/
def stem : String :=
  (Path.fileName? target).getD "gradebook.json"

theorem mark_not_mem_stem :
    '/' ∉ (stem target).toList := by
  unfold stem
  cases hName : Path.fileName? target with
  | none => decide
  | some name => exact Path.mark_not_mem_fileName? hName

/- The last piece of a candidate is its temporary name. -/
theorem getLast?_pieces_candidate
    (n : Nat) :
    (Path.pieces (candidate target n)).getLast? =
      some (temporaryName (stem target) n) := by
  have hMark :=
    mark_not_mem_temporaryName (mark_not_mem_stem target) n
  unfold candidate Path.withFileName
  split
  · exact Path.getLast?_pieces_join _ hMark
  · exact Path.getLast?_pieces_join _ hMark

theorem fileName?_candidate
    (n : Nat) :
    Path.fileName? (candidate target n) =
      some (temporaryName (stem target) n) :=
  Path.fileName?_of_getLast?
    (getLast?_pieces_candidate target n)
    (isIdle_temporaryName (stem target) n)
    (temporaryName_ne_up (stem target) n)

theorem endsInDirectory_candidate
    (n : Nat) :
    Path.endsInDirectory (candidate target n) = false := by
  unfold Path.endsInDirectory
  simp only [getLast?_pieces_candidate]
  simp [isIdle_temporaryName, temporaryName_ne_up]

/- A candidate is unused if its name is not taken. -/
theorem isUnused_candidate_iff
    (n : Nat) :
    isUnused tree target (candidate target n) = true ↔
      temporaryName (stem target) n ∉
        takenNames tree target := by
  simp [isUnused, fileName?_candidate]

/-
  One of the candidates is unused: their names differ, and
  there are more of them than taken names.
-/
theorem exists_isUnused :
    ∃ n ∈ List.range ((takenNames tree target).length + 1),
      isUnused tree target (candidate target n) = true := by
  let names :=
    (List.range ((takenNames tree target).length + 1)).map
      (temporaryName (stem target))
  have hNodup : names.Nodup :=
    List.Nodup.map (temporaryName_injective (stem target))
      List.nodup_range
  by_contra hUsed
  have hSubset : names ⊆ takenNames tree target := by
    intro name hName
    rcases List.mem_map.1 hName with ⟨n, hRange, rfl⟩
    by_contra hFree
    exact
      hUsed
        ⟨n, hRange,
          (isUnused_candidate_iff tree target n).2 hFree⟩
  have hLength :=
    (List.subperm_of_subset hNodup hSubset).length_le
  simp only [names, List.length_map, List.length_range]
    at hLength
  omega

/- The temporary path is a candidate that is unused. -/
theorem isUnused_temporaryPath :
    ∃ n,
      temporaryPath tree target = candidate target n ∧
      isUnused tree target (candidate target n) = true := by
  unfold temporaryPath
  simp only
  cases hFind :
      ((List.range
        ((takenNames tree target).length + 1)).map
          (candidate target)).find?
            (isUnused tree target) with
  | none =>
      rcases exists_isUnused tree target with
        ⟨n, hRange, hUnused⟩
      have hUsed :=
        List.find?_eq_none.1 hFind (candidate target n)
          (List.mem_map_of_mem hRange)
      exact absurd hUnused hUsed
  | some path =>
      rcases List.mem_map.1 (List.mem_of_find?_eq_some hFind)
        with ⟨n, -, rfl⟩
      exact ⟨n, rfl, List.find?_some hFind⟩

theorem endsInDirectory_temporaryPath :
    Path.endsInDirectory (temporaryPath tree target) =
      false := by
  rcases isUnused_temporaryPath tree target with
    ⟨n, hPath, -⟩
  rw [hPath]
  exact endsInDirectory_candidate target n

------------------------------------------------------------
-- Free Locations
------------------------------------------------------------

variable {tree : FileTree}
variable {target : String}
variable {location : Location}

theorem mem_takenNames_iff
    {name : String} :
    name ∈ takenNames tree target ↔
      (∃ entry ∈ tree.nodes, name ∈ entry.1.names) ∨
        name ∈ tree.working.names ∨
        name ∈ Path.names target := by
  simp [takenNames]

/- The place of a target is made of taken names. -/
theorem mem_takenNames_of_locate
    {next : FileTree}
    {place : Location}
    {name : String}
    (hSurroundings : next.surroundings = tree.surroundings)
    (hPlace : next.locate target = .ok place)
    (hName : name ∈ place.names) :
    name ∈ takenNames tree target := by
  have hNames := FileTree.mem_names_of_locate hPlace hName
  rw [FileTree.working, hSurroundings] at hNames
  exact mem_takenNames_iff.2 (.inr hNames)

/- The temporary path leads to a name that is not taken. -/
theorem exists_not_mem_takenNames
    (hLocate :
      tree.locate (temporaryPath tree target) =
        .ok location) :
    ∃ name ∈ location.names,
      name ∉ takenNames tree target := by
  have hLast :=
    FileTree.getLast?_of_locate hLocate
      (endsInDirectory_temporaryPath tree target)
  rcases isUnused_temporaryPath tree target with
    ⟨n, hPath, hUnused⟩
  rw [hPath, fileName?_candidate] at hLast
  exact
    ⟨_, List.mem_of_getLast? hLast,
      (isUnused_candidate_iff tree target n).1 hUnused⟩

/- No entry is where the temporary file goes. -/
theorem ne_of_mem_nodes
    (hLocate :
      tree.locate (temporaryPath tree target) =
        .ok location)
    {entry : Location × Node}
    (hEntry : entry ∈ tree.nodes) :
    location ≠ entry.1 := by
  rintro rfl
  rcases exists_not_mem_takenNames hLocate with
    ⟨name, hName, hFree⟩
  exact
    hFree (mem_takenNames_iff.2 (.inl ⟨_, hEntry, hName⟩))

/- The temporary file does not go where the target is. -/
theorem ne_of_locate_target
    (hLocate :
      tree.locate (temporaryPath tree target) =
        .ok location)
    {next : FileTree}
    {place : Location}
    (hSurroundings : next.surroundings = tree.surroundings)
    (hPlace : next.locate target = .ok place) :
    location ≠ place := by
  rintro rfl
  rcases exists_not_mem_takenNames hLocate with
    ⟨name, hName, hFree⟩
  exact
    hFree
      (mem_takenNames_of_locate hSurroundings hPlace hName)

end Replacement

end NotebookGrading
