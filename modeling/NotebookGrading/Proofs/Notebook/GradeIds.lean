import Mathlib.Data.List.Nodup
import NotebookGrading.Notebook.Duplicates
import NotebookGrading.Notebook.Locking
import NotebookGrading.Notebook.OutputLimit

/-
  The grade ids of cells.

  Clearing repeated ids keeps every id, once. Locks and
  limits on outputs leave the grading metadata alone, and
  with it the ids.

  Key definitions include:
    * `Cell.unitIds`
    * `Cell.scoredId?`

  Main statements:
    * `Cell.nodup_unitIds_clearRepeated`
    * `Cell.mem_unitIds_clearRepeated`
    * `Cell.length_filter_scoredId?`
-/

namespace NotebookGrading

namespace Cell

------------------------------------------------------------
-- Ids
------------------------------------------------------------

/- The ids of the graded units among cells, in order. -/
def unitIds
    (cells : List Cell) : List String :=
  cells.filterMap uniqueId?

/- The id under which the outputs of a cell are scored. -/
def scoredId?
    (cell : Cell) : Option String :=
  if cell.isGrade then cell.gradeId else none

@[simp] theorem unitIds_nil :
    unitIds [] = [] := by
  rfl

@[simp] theorem unitIds_append
    (front back : List Cell) :
    unitIds (front ++ back) =
      unitIds front ++ unitIds back := by
  simp [unitIds]

theorem mem_unitIds_cons
    {cell : Cell}
    {rest : List Cell}
    {id : String} :
    id ∈ unitIds (cell :: rest) ↔
      cell.uniqueId? = some id ∨ id ∈ unitIds rest := by
  simp [unitIds]

theorem nodup_unitIds_cons
    {cell : Cell}
    {rest : List Cell} :
    (unitIds (cell :: rest)).Nodup ↔
      (∀ id, cell.uniqueId? = some id →
        id ∉ unitIds rest) ∧
      (unitIds rest).Nodup := by
  cases hId : cell.uniqueId? <;> simp [unitIds, hId]

/- Cells that are scored are graded units. -/
theorem uniqueId?_of_scoredId?
    {cell : Cell}
    {id : String}
    (h : cell.scoredId? = some id) :
    cell.uniqueId? = some id := by
  unfold scoredId? at h
  split at h
  · rename_i hGrade
    simp [uniqueId?, isGradedUnit, hGrade, h]
  · cases h

/- Where ids are unique, none is scored twice. -/
theorem length_filter_scoredId?
    {cells : List Cell}
    (hUnique : (unitIds cells).Nodup)
    (id : String) :
    (cells.filter
      (fun cell => cell.scoredId? = some id)).length ≤ 1 := by
  induction cells with
  | nil => simp
  | cons cell rest ih =>
      rcases nodup_unitIds_cons.1 hUnique with ⟨hNew, hRest⟩
      by_cases hId : cell.scoredId? = some id
      · have hNone :
            ∀ other ∈ rest, other.scoredId? ≠ some id := by
          intro other hMem hOther
          apply hNew id (uniqueId?_of_scoredId? hId)
          exact
            List.mem_filterMap.2
              ⟨other, hMem, uniqueId?_of_scoredId? hOther⟩
        have hEmpty :
            rest.filter
                (fun cell => cell.scoredId? = some id) =
              [] := by
          simpa [List.filter_eq_nil_iff] using hNone
        simp [hId, hEmpty]
      · simpa [hId] using ih hRest

------------------------------------------------------------
-- Repeated Ids
------------------------------------------------------------

@[simp] theorem uniqueId?_withoutGrading
    (cell : Cell) :
    cell.withoutGrading.uniqueId? = none := by
  have hId : cell.withoutGrading.gradeId = none := by rfl
  simp [uniqueId?, hId]

/-
  The ids that stay are those that were not seen before.
  What is seen grows along the cells, so the statement is
  about any ids that were seen.
-/
theorem mem_unitIds_clearRepeated
    {seen : List String}
    {cells : List Cell}
    {id : String} :
    id ∈ unitIds (clearRepeated seen cells) ↔
      id ∈ unitIds cells ∧ id ∉ seen := by
  induction cells generalizing seen with
  | nil => simp [clearRepeated]
  | cons cell rest ih =>
      unfold clearRepeated
      split
      · rename_i hId
        simp [mem_unitIds_cons, hId, ih]
      · rename_i own hId
        split
        · rename_i hSeen
          rw [mem_unitIds_cons, mem_unitIds_cons, ih]
          simp only [uniqueId?_withoutGrading, hId]
          grind
        · rename_i hNew
          rw [mem_unitIds_cons, mem_unitIds_cons, ih, hId]
          grind

/- No id stays on two cells. -/
theorem nodup_unitIds_clearRepeated
    (seen : List String)
    (cells : List Cell) :
    (unitIds (clearRepeated seen cells)).Nodup := by
  induction cells generalizing seen with
  | nil => simp [clearRepeated]
  | cons cell rest ih =>
      unfold clearRepeated
      split
      · rename_i hId
        exact
          nodup_unitIds_cons.2 ⟨by simp [hId], ih seen⟩
      · rename_i own hId
        split
        · exact nodup_unitIds_cons.2 ⟨by simp, ih seen⟩
        · refine nodup_unitIds_cons.2 ⟨?_, ih _⟩
          intro id hOwn hMem
          have hEq : own = id :=
            Option.some.inj (hId.symm.trans hOwn)
          have hNotSeen :=
            (mem_unitIds_clearRepeated.1 hMem).2
          exact hNotSeen (by simp [hEq])

------------------------------------------------------------
-- Cells That Keep Their Grading Metadata
------------------------------------------------------------

theorem uniqueId?_eq_of_grading
    {cell other : Cell}
    (h : cell.grading = other.grading) :
    cell.uniqueId? = other.uniqueId? := by
  simp [uniqueId?, isGradedUnit, isGrade, isSolution,
    isLocked, flag, gradeId, h]

/- Changes that keep the grading metadata keep all ids. -/
theorem unitIds_map
    {change : Cell → Cell}
    (h : ∀ cell, (change cell).grading = cell.grading)
    (cells : List Cell) :
    unitIds (cells.map change) = unitIds cells := by
  unfold unitIds
  rw [List.filterMap_map]
  congr 1
  funext cell
  exact uniqueId?_eq_of_grading (h cell)

@[simp] theorem grading_lock
    (switches : LockSwitches)
    (cell : Cell) :
    (cell.lock switches).grading = cell.grading := by
  unfold lock grading
  cases switches.rule cell.isSolution cell.isGrade
    cell.isLocked <;> rfl

@[simp] theorem grading_limitOutput
    (limits : OutputLimits)
    (cell : Cell) :
    (cell.limitOutput limits).grading = cell.grading := by
  unfold limitOutput
  split <;> rfl

end Cell

end NotebookGrading
