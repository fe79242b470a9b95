import NotebookGrading.Proofs.Notebook.SettledCells

/-
  Which cells lose their grading metadata as duplicates.

  The ids that were seen are those of the graded units in
  front, so a cell is cleared just when it is a graded unit
  with the id of an earlier one. A cell that was cleared is
  no graded unit any more, but its id has been seen before,
  so nothing is lost by looking at the given cells alone.

  Key definitions include:
    * `Cell.IsUnitOf`
    * `Cell.Repeats`
    * `Cell.HaveShown`
    * `Cell.IsClearedBehind`

  Main statements:
    * `Cell.getElem?_clearRepeated`
    * `Notebook.getElem?_withoutDuplicates`
    * `Notebook.withoutDuplicates_exact`
-/

namespace NotebookGrading

namespace Cell

variable {cell kept : Cell}
variable {front rest : List Cell}
variable {seen : List String}
variable {id : String}

------------------------------------------------------------
-- Graded Units And Their Ids
------------------------------------------------------------

/- A graded unit with an id. -/
def IsUnitOf
    (cell : Cell)
    (id : String) : Prop :=
  cell.isGradedUnit = true ∧ cell.gradeId = some id

/- A graded unit with the id of one of the cells in front. -/
def Repeats
    (front : List Cell)
    (cell : Cell) : Prop :=
  ∃ id, cell.IsUnitOf id ∧
    ∃ earlier ∈ front, earlier.IsUnitOf id

theorem uniqueId?_eq_some_iff :
    cell.uniqueId? = some id ↔ cell.IsUnitOf id := by
  unfold uniqueId? IsUnitOf
  split
  · rename_i hUnit
    simp [hUnit]
  · rename_i hUnit
    simp [hUnit]

theorem IsUnitOf.unique
    {other : String}
    (h : cell.IsUnitOf id)
    (hOther : cell.IsUnitOf other) :
    id = other :=
  Option.some.inj (h.2.symm.trans hOther.2)

theorem not_isUnitOf_withoutGrading :
    ¬ cell.withoutGrading.IsUnitOf id := by
  rw [← uniqueId?_eq_some_iff, uniqueId?_withoutGrading]
  simp

/- A graded unit has grading metadata to lose. -/
theorem IsUnitOf.withoutGrading_ne
    (h : cell.IsUnitOf id) :
    cell.withoutGrading ≠ cell := by
  intro hEq
  have hNoUnit : ¬ cell.withoutGrading.IsUnitOf id :=
    not_isUnitOf_withoutGrading
  rw [hEq] at hNoUnit
  exact hNoUnit h

------------------------------------------------------------
-- Ids That Were Seen
------------------------------------------------------------

/- The ids seen are those of the graded units in front. -/
def HaveShown
    (front : List Cell)
    (seen : List String) : Prop :=
  ∀ id, id ∈ seen ↔ ∃ earlier ∈ front, earlier.IsUnitOf id

theorem haveShown_nil :
    HaveShown [] [] := by
  simp [HaveShown]

/- A cell without an id of its own shows nothing. -/
theorem HaveShown.concat_of_eq_none
    (h : HaveShown front seen)
    (hId : cell.uniqueId? = none) :
    HaveShown (front ++ [cell]) seen := by
  have hNoUnit (id : String) : ¬ cell.IsUnitOf id := by
    simp [← uniqueId?_eq_some_iff, hId]
  intro id
  simp [h id, hNoUnit id, or_and_right, exists_or]

/- A graded unit shows its id, new or not. -/
theorem HaveShown.concat
    {shown : List String}
    (h : HaveShown front seen)
    (hUnit : cell.IsUnitOf id)
    (hShown :
      ∀ other, other ∈ shown ↔ other = id ∨ other ∈ seen) :
    HaveShown (front ++ [cell]) shown := by
  intro other
  have hOwn : cell.IsUnitOf other ↔ other = id := by
    constructor
    · exact fun hOther => hOther.unique hUnit
    · rintro rfl
      exact hUnit
  simp [hShown, h other, hOwn, or_and_right, exists_or,
    or_comm]

/- A graded unit repeats an id that was seen. -/
theorem HaveShown.repeats_iff
    (h : HaveShown front seen)
    (hUnit : cell.IsUnitOf id) :
    cell.Repeats front ↔ id ∈ seen := by
  rw [h id]
  constructor
  · rintro ⟨other, hOther, hEarlier⟩
    rw [hUnit.unique hOther]
    exact hEarlier
  · exact fun hEarlier => ⟨id, hUnit, hEarlier⟩

------------------------------------------------------------
-- Cleared Cells
------------------------------------------------------------

/-
  What becomes of a cell behind others: it loses its grading
  metadata if it repeats an id, and else stays as it is.
-/
structure IsClearedBehind
    (front : List Cell)
    (cell kept : Cell) : Prop where
  cleared : cell.Repeats front → kept = cell.withoutGrading
  same : ¬ cell.Repeats front → kept = cell

theorem IsClearedBehind.ne_iff
    (h : IsClearedBehind front cell kept) :
    kept ≠ cell ↔ cell.Repeats front := by
  constructor
  · intro hNe
    by_contra hNew
    exact hNe (h.same hNew)
  · intro hRepeats
    rcases hRepeats with ⟨id, hUnit, hEarlier⟩
    rw [h.cleared ⟨id, hUnit, hEarlier⟩]
    exact hUnit.withoutGrading_ne

/- What still has an id stayed as it was. -/
theorem IsClearedBehind.eq_of_isUnitOf
    (h : IsClearedBehind front cell kept)
    (hUnit : kept.IsUnitOf id) :
    kept = cell := by
  apply h.same
  intro hRepeats
  rw [h.cleared hRepeats] at hUnit
  exact not_isUnitOf_withoutGrading hUnit

/- One cell is cleared, and what it shows is seen. -/
theorem clearRepeated_cons
    (h : HaveShown front seen)
    (cell : Cell)
    (rest : List Cell) :
    ∃ kept shown,
      clearRepeated seen (cell :: rest) =
        kept :: clearRepeated shown rest ∧
      IsClearedBehind front cell kept ∧
      HaveShown (front ++ [cell]) shown := by
  cases hId : cell.uniqueId? with
  | none =>
      refine ⟨cell, seen, ?_, ?_, h.concat_of_eq_none hId⟩
      · simp only [clearRepeated, hId]
      · constructor
        · rintro ⟨id, hUnit, -⟩
          rw [← uniqueId?_eq_some_iff, hId] at hUnit
          cases hUnit
        · exact fun _ => rfl
  | some id =>
      have hUnit : cell.IsUnitOf id :=
        uniqueId?_eq_some_iff.1 hId
      have hRepeats := h.repeats_iff hUnit
      by_cases hSeen : id ∈ seen
      · refine ⟨cell.withoutGrading, seen, ?_, ?_, ?_⟩
        · simp only [clearRepeated, hId, if_pos hSeen]
        · exact
            ⟨fun _ => rfl,
              fun hNew => absurd (hRepeats.2 hSeen) hNew⟩
        · apply h.concat hUnit
          grind
      · refine ⟨cell, id :: seen, ?_, ?_, ?_⟩
        · simp only [clearRepeated, hId, if_neg hSeen]
        · exact
            ⟨fun hOld => absurd (hRepeats.1 hOld) hSeen,
              fun _ => rfl⟩
        · apply h.concat hUnit
          simp

theorem length_clearRepeated
    (seen : List String)
    (cells : List Cell) :
    (clearRepeated seen cells).length = cells.length := by
  induction cells generalizing seen with
  | nil => rfl
  | cons cell rest ih =>
      unfold clearRepeated
      split
      · simp [ih]
      · split
        · simp [ih]
        · simp [ih]

/-
  Each cell is cleared by what stands in front of it. The
  induction is over the cells that are left, for any cells
  in front whose ids have been seen.
-/
theorem getElem?_clearRepeated
    (hShown : HaveShown front seen)
    {i : Nat}
    (hCell : rest[i]? = some cell) :
    ∃ kept,
      (clearRepeated seen rest)[i]? = some kept ∧
      IsClearedBehind (front ++ rest.take i) cell kept := by
  induction rest generalizing front seen i with
  | nil => simp at hCell
  | cons first others ih =>
      rcases clearRepeated_cons hShown first others with
        ⟨kept, shown, hEq, hKept, hNext⟩
      rw [hEq]
      cases i with
      | zero =>
          rw [List.getElem?_cons_zero] at hCell
          rw [← Option.some.inj hCell]
          exact ⟨kept, rfl, by simpa using hKept⟩
      | succ i =>
          rw [List.getElem?_cons_succ] at hCell
          simpa using ih hNext hCell

end Cell

------------------------------------------------------------
-- Notebooks
------------------------------------------------------------

namespace Notebook

variable (notebook : Notebook)

theorem getElem?_withoutDuplicates
    {i : Nat}
    {cell : Cell}
    (hCell : notebook.cells[i]? = some cell) :
    ∃ kept,
      notebook.withoutDuplicates.cells[i]? = some kept ∧
      Cell.IsClearedBehind (notebook.cells.take i) cell
        kept := by
  exact Cell.getElem?_clearRepeated Cell.haveShown_nil hCell

/- The given cell at the place of a returned one. -/
theorem exists_of_getElem?_withoutDuplicates
    {i : Nat}
    {kept : Cell}
    (hKept :
      notebook.withoutDuplicates.cells[i]? = some kept) :
    ∃ cell,
      notebook.cells[i]? = some cell ∧
      Cell.IsClearedBehind (notebook.cells.take i) cell
        kept := by
  rcases List.getElem?_eq_some_iff.1 hKept with ⟨hLt, -⟩
  have hLength : i < notebook.cells.length := by
    rw [← Cell.length_clearRepeated []]
    exact hLt
  have hCell := List.getElem?_eq_getElem hLength
  rcases notebook.getElem?_withoutDuplicates hCell with
    ⟨other, hOther, hCleared⟩
  rw [hOther] at hKept
  rw [← Option.some.inj hKept]
  exact ⟨_, hCell, hCleared⟩

/- A graded unit of the result has an id that is new. -/
theorem not_isUnitOf_of_lt
    {i j : Nat}
    {first second : Cell}
    {id : String}
    (hLt : i < j)
    (hFirst :
      notebook.withoutDuplicates.cells[i]? = some first)
    (hSecond :
      notebook.withoutDuplicates.cells[j]? = some second)
    (hUnit : first.IsUnitOf id) :
    ¬ second.IsUnitOf id := by
  intro hOther
  rcases notebook.exists_of_getElem?_withoutDuplicates
    hFirst with ⟨cell, hCell, hKept⟩
  rcases notebook.exists_of_getElem?_withoutDuplicates
    hSecond with ⟨later, -, hCleared⟩
  have hEarlier : cell ∈ notebook.cells.take j := by
    apply List.mem_of_getElem? (i := i)
    rw [List.getElem?_take_of_lt hLt]
    exact hCell
  have hSame := hKept.eq_of_isUnitOf hUnit
  have hLater := hCleared.eq_of_isUnitOf hOther
  refine hCleared.ne_iff.2 ⟨id, ?_, cell, hEarlier, ?_⟩ hLater
  · rw [← hLater]
    exact hOther
  · rw [← hSame]
    exact hUnit

/- Without duplicates there is nothing to clear. -/
theorem withoutDuplicates_withoutDuplicates :
    notebook.withoutDuplicates.withoutDuplicates =
      notebook.withoutDuplicates := by
  have hUnique :=
    Cell.nodup_unitIds_clearRepeated [] notebook.cells
  have hCells :
      Cell.clearRepeated []
          (Cell.clearRepeated [] notebook.cells) =
        Cell.clearRepeated [] notebook.cells :=
    Cell.clearRepeated_of_nodup hUnique (by simp)
  simp only [withoutDuplicates, hCells]

/-
  Clearing duplicates returns a notebook with the same cells
  in the same order. A cell differs just when it is a graded
  unit with the id of an earlier graded unit, and then only
  in having no grading metadata. So the first unit of an id
  and the cells that are no units or have no id stay as they
  are, no two units of the result have one id, and clearing
  them again changes nothing.
-/
theorem withoutDuplicates_exact
    (notebook : Notebook) :
    let cleared := notebook.withoutDuplicates
    cleared = { notebook with cells := cleared.cells } ∧
      cleared.cells.length = notebook.cells.length ∧
      (∀ (i : Nat) (cell : Cell),
        notebook.cells[i]? = some cell →
          ∃ kept,
            cleared.cells[i]? = some kept ∧
            (kept ≠ cell ↔
              cell.Repeats (notebook.cells.take i)) ∧
            (kept ≠ cell → kept = cell.withoutGrading) ∧
            (∀ id,
              (∀ earlier ∈ notebook.cells.take i,
                ¬ earlier.IsUnitOf id) →
              cell.IsUnitOf id → kept = cell) ∧
            (cell.isGradedUnit = false ∨
                cell.gradeId = none →
              kept = cell)) ∧
      (∀ (i j : Nat) (first second : Cell) (id : String),
        cleared.cells[i]? = some first →
          cleared.cells[j]? = some second →
            first.IsUnitOf id →
              second.IsUnitOf id → i = j) ∧
      cleared.withoutDuplicates = cleared := by
  intro cleared
  refine
    ⟨rfl, Cell.length_clearRepeated [] notebook.cells, ?_, ?_,
      notebook.withoutDuplicates_withoutDuplicates⟩
  · intro i cell hCell
    rcases notebook.getElem?_withoutDuplicates hCell with
      ⟨kept, hKept, hCleared⟩
    refine ⟨kept, hKept, hCleared.ne_iff, ?_, ?_, ?_⟩
    · exact fun hNe => hCleared.cleared (hCleared.ne_iff.1 hNe)
    · intro id hFirst hUnit
      apply hCleared.same
      rintro ⟨other, hOther, earlier, hMem, hEarlier⟩
      rw [hOther.unique hUnit] at hEarlier
      exact hFirst earlier hMem hEarlier
    · intro hPlain
      apply hCleared.same
      rintro ⟨id, ⟨hUnit, hId⟩, -⟩
      rcases hPlain with hNoUnit | hNoId
      · simp [hNoUnit] at hUnit
      · simp [hNoId] at hId
  · intro i j first second id hFirst hSecond hUnit hOther
    rcases Nat.lt_trichotomy i j with hLt | hEq | hGt
    · exact
        absurd hOther
          (notebook.not_isUnitOf_of_lt hLt hFirst hSecond
            hUnit)
    · exact hEq
    · exact
        absurd hUnit
          (notebook.not_isUnitOf_of_lt hGt hSecond hFirst
            hOther)

end Notebook

end NotebookGrading
