import NotebookGrading.Pipeline.Stage
import NotebookGrading.Proofs.Notebook.MarkSchemeRegions

/-
  Mark schemes that are refused outside of task cells.

  Only a begin line makes a region, so only begin lines are
  refused. A cell that is no task gets through just without
  them, and then all that can be taken from its text are end
  lines that end nothing. These go without being reported:
  where there are some, the text changes.

  Main statements:
    * `MarkScheme.scan_of_forall_not_begins`
    * `MarkScheme.remainingText_of_forall_not_begins`
    * `MarkScheme.remainingText_eq_self_iff`
    * `MarkScheme.clear_enforced_eq_ok_iff`
    * `MarkScheme.source_clear_enforced_iff`
-/

namespace NotebookGrading

namespace MarkScheme

variable {scheme : MarkScheme}
variable {lines : List String}
variable {source : String}

------------------------------------------------------------
-- Texts Without Begin Lines
------------------------------------------------------------

/- Where no region begins, end lines are all that goes. -/
theorem scan_of_forall_not_begins
    (h : ∀ line ∈ lines, ¬ scheme.Begins line) :
    scheme.scan false lines =
      .ok (lines.filter (fun line => ¬ scheme.Ends line)) := by
  induction lines with
  | nil => rfl
  | cons line rest ih =>
      have hRest :=
        ih (fun other hMem =>
          h other (List.mem_cons_of_mem line hMem))
      by_cases hEnds : scheme.Ends line
      · rw [scan_cons_of_ends false hEnds, hRest]
        simp [hEnds]
      · rw [scan_cons_of_plain (h line List.mem_cons_self)
          hEnds]
        exact ⟨_, hRest, by simp [hEnds]⟩

theorem remainingText_of_forall_not_begins
    (h :
      ∀ line ∈ Text.lines source, ¬ scheme.Begins line) :
    scheme.remainingText source =
      Text.ofLines
        ((Text.lines source).filter
          (fun line => ¬ scheme.Ends line)) := by
  have hScan := scan_of_forall_not_begins h
  rw [remainingText, ← (scan_eq_ok_iff.1 hScan).2]

/-
  Without regions a text stays as it is just if it has no
  end line. The empty text stays in any case: its only line
  may end a region, but it is all the same when it goes.
-/
theorem remainingText_eq_self_iff
    (h :
      ∀ line ∈ Text.lines source, ¬ scheme.Begins line) :
    scheme.remainingText source = source ↔
      source = "" ∨
        ∀ line ∈ Text.lines source, ¬ scheme.Ends line := by
  have hLines := scheme.lines_remainingText source
  constructor
  · intro hSame
    rw [hSame] at hLines
    split at hLines
    · left
      rw [← Text.ofLines_lines source, hLines]
      rfl
    · right
      intro line hMem
      rw [hLines] at hMem
      exact (not_begins_of_mem_remaining hMem).2
  · rintro (rfl | hNone)
    · rw [remainingText_of_forall_not_begins h]
      rcases List.sublist_singleton.1
        (List.filter_sublist
          (p := fun line => decide (¬ scheme.Ends line))
          (l := Text.lines "")) with hNil | hOne
      · rw [hNil]
        rfl
      · rw [hOne]
        rfl
    · rw [remainingText,
        remaining_of_plain
          (fun line hMem => ⟨h line hMem, hNone line hMem⟩),
        Text.ofLines_lines]

theorem hasRegion_eq_false_iff :
    scheme.hasRegion lines = false ↔
      ∀ line ∈ lines, ¬ scheme.Begins line := by
  simp [hasRegion, List.any_eq_false, isBegin_iff]

------------------------------------------------------------
-- Cells
------------------------------------------------------------

/-
  A cell that can be cleared where regions are refused: its
  regions are closed, and it has none unless it is a task.
-/
structure IsClearable
    (scheme : MarkScheme)
    (cell : Cell) : Prop where
  isPaired : scheme.IsPaired (Text.lines cell.source)
  notBegins :
    cell.isTask = false →
      ∀ line ∈ Text.lines cell.source, ¬ scheme.Begins line

/- The cell with the text that remains of its own. -/
def withoutRegions
    (scheme : MarkScheme)
    (cell : Cell) : Cell :=
  { cell with source := scheme.remainingText cell.source }

theorem clearCell_enforced_eq_ok_iff
    (hEnforced : scheme.enforced = true)
    {cell kept : Cell} :
    scheme.clearCell cell = .ok kept ↔
      scheme.IsClearable cell ∧
        scheme.withoutRegions cell = kept := by
  simp only [clearCell_eq_ok_iff, hEnforced, forall_const,
    hasRegion_eq_false_iff]
  constructor
  · rintro ⟨hPaired, hNone, rfl⟩
    exact ⟨⟨hPaired, hNone⟩, rfl⟩
  · rintro ⟨⟨hPaired, hNone⟩, rfl⟩
    exact ⟨hPaired, hNone, rfl⟩

/- What becomes of the text of a cell that is no task. -/
theorem source_withoutRegions
    {cell : Cell}
    (hClearable : scheme.IsClearable cell)
    (hNoTask : cell.isTask = false) :
    (scheme.withoutRegions cell).source =
        Text.ofLines
          ((Text.lines cell.source).filter
            (fun line => ¬ scheme.Ends line)) ∧
      ((scheme.withoutRegions cell).source = cell.source ↔
        cell.source = "" ∨
          ∀ line ∈ Text.lines cell.source,
            ¬ scheme.Ends line) :=
  ⟨remainingText_of_forall_not_begins
      (hClearable.notBegins hNoTask),
    remainingText_eq_self_iff
      (hClearable.notBegins hNoTask)⟩

------------------------------------------------------------
-- Notebooks
------------------------------------------------------------

/- A notebook is cleared if each of its cells can be. -/
theorem clear_enforced_eq_ok_iff
    (hEnforced : scheme.enforced = true)
    {notebook cleared : Notebook} :
    scheme.clear notebook = .ok cleared ↔
      (∀ cell ∈ notebook.cells, scheme.IsClearable cell) ∧
        cleared =
          { notebook with
            cells :=
              notebook.cells.map scheme.withoutRegions
            metadata :=
              notebook.metadata.erase toolbarKey } := by
  simp only [clear_eq_ok_iff,
    clearCell_enforced_eq_ok_iff hEnforced,
    List.forall₂_and_left]
  rw [← List.forall₂_map_left_iff, List.forall₂_eq_eq_eq,
    and_assoc]
  constructor
  · rintro ⟨hAll, hCells, hEq⟩
    exact ⟨hAll, hCells ▸ hEq⟩
  · rintro ⟨hAll, rfl⟩
    exact ⟨hAll, rfl, rfl⟩

/- A region outside of a task is reported by the stage. -/
theorem run_clearMarkScheme_of_begins
    (hEnforced : scheme.enforced = true)
    {notebook : Notebook}
    {cell : Cell}
    {line : String}
    (hCell : cell ∈ notebook.cells)
    (hNoTask : cell.isTask = false)
    (hLine : line ∈ Text.lines cell.source)
    (hBegins : scheme.Begins line)
    (tree : FileTree)
    (resources : Resources) :
    ∃ position fault,
      (Stage.clearMarkScheme scheme).run tree notebook
          resources =
        (tree, .error (.markScheme position fault)) := by
  cases hClear : scheme.clear notebook with
  | ok cleared =>
      rcases (clear_enforced_eq_ok_iff hEnforced).1 hClear
        with ⟨hAll, -⟩
      exact
        absurd hBegins
          ((hAll cell hCell).notBegins hNoTask line hLine)
  | error e =>
      rcases e with ⟨position, fault⟩
      exact ⟨position, fault, by simp [Stage.run, hClear]⟩

/-
  Clearing a notebook while regions are refused outside of
  tasks. Only the texts of cells change. A cell that is no
  task had no begin line and lost its end lines, so it has
  the text it had just if there was none of them, or no text
  at all. A region in such a cell is reported instead.
-/
theorem source_clear_enforced_iff
    (hEnforced : scheme.enforced = true) :
    (∀ notebook cleared,
      scheme.clear notebook = .ok cleared →
        cleared.cells.length = notebook.cells.length ∧
        ∀ (i : Nat) (cell kept : Cell),
          notebook.cells[i]? = some cell →
          cleared.cells[i]? = some kept →
            kept = { cell with source := kept.source } ∧
            (cell.isTask = false →
              (∀ line ∈ Text.lines cell.source,
                ¬ scheme.Begins line) ∧
              kept.source =
                Text.ofLines
                  ((Text.lines cell.source).filter
                    (fun line => ¬ scheme.Ends line)) ∧
              (kept.source = cell.source ↔
                cell.source = "" ∨
                  ∀ line ∈ Text.lines cell.source,
                    ¬ scheme.Ends line))) ∧
      ∀ (notebook : Notebook) (cell : Cell),
        cell ∈ notebook.cells →
        cell.isTask = false →
        (∃ line ∈ Text.lines cell.source,
          scheme.Begins line) →
        ∀ tree resources,
          ∃ position fault,
            (Stage.clearMarkScheme scheme).run tree notebook
                resources =
              (tree,
                .error (.markScheme position fault)) := by
  constructor
  · intro notebook cleared hClear
    rcases (clear_enforced_eq_ok_iff hEnforced).1 hClear with
      ⟨hAll, rfl⟩
    refine ⟨List.length_map _, ?_⟩
    intro i cell kept hCell hKept
    simp only [List.getElem?_map, hCell, Option.map_some]
      at hKept
    cases hKept
    have hClearable := hAll cell (List.mem_of_getElem? hCell)
    refine ⟨rfl, fun hNoTask => ?_⟩
    exact
      ⟨hClearable.notBegins hNoTask,
        source_withoutRegions hClearable hNoTask⟩
  · rintro notebook cell hCell hNoTask
      ⟨line, hLine, hBegins⟩ tree resources
    exact
      run_clearMarkScheme_of_begins hEnforced hCell hNoTask
        hLine hBegins tree resources

/- A task with a region, in front of a text without one. -/
def essay : Notebook :=
  .ofCells
    [(Cell.markdown
        "Why?\nBEGIN MARK SCHEME\nx\nEND MARK SCHEME").withGrading
        { gradeId := some "essay", task := some true },
      Cell.markdown "Good\nluck"]

/- A text without delimiters stays beside such a task. -/
theorem source_clear_enforced_essay :
    ({} : MarkScheme).enforced = true ∧
      ∃ cleared cell kept,
        ({} : MarkScheme).clear essay = .ok cleared ∧
        cleared.cells.map Cell.source ≠
          essay.cells.map Cell.source ∧
        essay.cells[1]? = some cell ∧
        cleared.cells[1]? = some kept ∧
        cell.isTask = false ∧
        kept.source = cell.source := by
  refine ⟨rfl, ?_⟩
  have hCleared :
      ∃ cleared kept,
        ({} : MarkScheme).clear essay = .ok cleared ∧
        cleared.cells[1]? = some kept ∧
        cleared.cells.map Cell.source =
          ["Why?", "Good\nluck"] :=
    ⟨_, _, rfl, rfl, rfl⟩
  rcases hCleared with ⟨cleared, kept, hClear, hKept, hTexts⟩
  have hCells :=
    ((source_clear_enforced_iff rfl).1 essay cleared
      hClear).2
  rcases (hCells 1 _ kept rfl hKept).2 rfl with
    ⟨-, -, hStays⟩
  refine
    ⟨cleared, _, kept, hClear, ?_, rfl, hKept, rfl,
      hStays.2 (.inr (by decide))⟩
  rw [hTexts]
  decide

/- An end line that ends nothing goes without a fault. -/
theorem source_clear_enforced_stray :
    let cell := Cell.markdown "a\nEND MARK SCHEME\nb"
    ∃ cleared,
      ({} : MarkScheme).enforced = true ∧
      ({} : MarkScheme).clear (.ofCells [cell]) =
        .ok cleared ∧
      cell.isTask = false ∧
      cleared.cells.map Cell.source = ["a\nb"] ∧
      cell.source ≠ "a\nb" :=
  ⟨_, rfl, rfl, rfl, rfl, by decide⟩

end MarkScheme

end NotebookGrading
