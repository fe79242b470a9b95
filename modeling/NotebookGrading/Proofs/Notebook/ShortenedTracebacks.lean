import NotebookGrading.Proofs.Notebook.LimitedStreams

/-
  What a limit leaves of the tracebacks of errors.

  A traceback that is too long is a head, a middle and a
  tail that follow one another. The marker takes the place
  of the middle, which always has a line, so nothing becomes
  longer and what was shortened is not shortened again. Both
  parts that stay are cut out within the traceback.

  Key definitions include:
    * `Output.IsShortened`
    * `Output.HasShortened`
    * `Output.slice?`
    * `Output.shortened?`

  Main statements:
    * `Output.isShortened_shortened`
    * `Output.hasShortened_shortenTraceback`
    * `Output.shortened?_eq_some`
    * `Notebook.limitOutput_tracebacks`
-/

namespace NotebookGrading

namespace Output

variable {maxTraceback : Nat}
variable {traceback : List String}

------------------------------------------------------------
-- Shortened Tracebacks
------------------------------------------------------------

/-
  What a limit makes of a traceback. If there are too many
  lines, half of those that are allowed stay at the head and
  the rest of them, but for the marker, at the tail.
-/
structure IsShortened
    (maxTraceback : Nat)
    (before after : List String) : Prop where
  unchanged :
    before.length ≤ maxTraceback → after = before
  cut :
    maxTraceback < before.length →
      ∃ head middle tail,
        before = head ++ middle ++ tail ∧
          head.length = maxTraceback / 2 ∧
          tail.length =
            maxTraceback - maxTraceback / 2 - 1 ∧
          middle ≠ [] ∧
          after = head ++ tracebackTruncated :: tail
  length :
    maxTraceback < before.length →
      after.length = max 1 maxTraceback
  notLonger : after.length ≤ before.length

/- A list is a head, a middle and a tail of given lengths. -/
theorem exists_middle
    {α : Type}
    {items : List α}
    {front back : Nat}
    (h : front + back < items.length) :
    ∃ middle,
      items =
          items.take front ++ middle ++
            items.drop (items.length - back) ∧
        middle ≠ [] := by
  refine
    ⟨(items.drop front).take (items.length - back - front),
      ?_, ?_⟩
  · have hBack :
        items.drop (items.length - back) =
          (items.drop front).drop
            (items.length - back - front) := by
      rw [List.drop_drop]
      congr 1
      omega
    rw [hBack, List.append_assoc, List.take_append_drop,
      List.take_append_drop]
  · rw [← List.length_pos_iff, List.length_take,
      List.length_drop]
    omega

theorem isShortened_shortened
    (maxTraceback : Nat)
    (traceback : List String) :
    IsShortened maxTraceback traceback
      (shortened maxTraceback traceback) := by
  by_cases hShort : traceback.length ≤ maxTraceback
  · have hSame :
        shortened maxTraceback traceback = traceback := by
      rw [shortened, if_pos hShort]
    have hNot : ¬ maxTraceback < traceback.length := by
      omega
    exact
      { unchanged := fun _ => hSame
        cut := fun hLong => absurd hLong hNot
        length := fun hLong => absurd hLong hNot
        notLonger := by rw [hSame] }
  · have hLong : maxTraceback < traceback.length := by
      omega
    have hLength := length_shortened hLong
    have hRoom :
        maxTraceback / 2 +
            (maxTraceback - (maxTraceback / 2 + 1)) <
          traceback.length := by
      omega
    rcases exists_middle hRoom with ⟨middle, hEq, hMiddle⟩
    refine
      { unchanged := fun h => absurd h hShort
        cut := fun _ =>
          ⟨_, middle, _, hEq, ?_, ?_, hMiddle,
            by rw [shortened, if_neg hShort]⟩
        length := fun _ => by rw [hLength, max_comm]
        notLonger := by omega }
    · rw [List.length_take]
      omega
    · rw [List.length_drop]
      omega

------------------------------------------------------------
-- Outputs
------------------------------------------------------------

/-
  What a limit on tracebacks makes of an output: only the
  traceback of an error changes, and it is shortened.
-/
structure HasShortened
    (maxTraceback : Nat)
    (before after : Output) : Prop where
  others :
    after = { before with traceback := after.traceback }
  notError : before.outputType ≠ .error → after = before
  absent : before.traceback = none → after = before
  shortened :
    before.outputType = .error →
      ∀ traceback ∈ before.traceback,
        ∃ kept,
          after.traceback = some kept ∧
            IsShortened maxTraceback traceback kept

theorem hasShortened_shortenTraceback
    (maxTraceback : Nat)
    (output : Output) :
    HasShortened maxTraceback output
      (output.shortenTraceback maxTraceback) := by
  by_cases hError : output.outputType = .error
  · rw [shortenTraceback, if_pos hError]
    refine ⟨rfl, fun hNot => absurd hError hNot, ?_, ?_⟩
    · intro hNone
      simp only [hNone, Option.map_none]
      rw [← hNone]
    · intro _ traceback hMem
      refine ⟨_, ?_, isShortened_shortened _ traceback⟩
      simp only [Option.mem_def] at hMem
      simp only [hMem, Option.map_some]
  · rw [shortenTraceback, if_neg hError]
    exact
      ⟨rfl, fun _ => rfl, fun _ => rfl,
        fun h => absurd h hError⟩

------------------------------------------------------------
-- Slices
------------------------------------------------------------

/- The items between two positions that have to be there. -/
def slice?
    {α : Type}
    (items : List α)
    (start stop : Nat) : Option (List α) :=
  if start ≤ stop ∧ stop ≤ items.length then
    some ((items.drop start).take (stop - start))
  else
    none

/- A shortened traceback, if no position is outside of it. -/
def shortened?
    (maxTraceback : Nat)
    (traceback : List String) : Option (List String) :=
  if traceback.length ≤ maxTraceback then
    some traceback
  else do
    let head := maxTraceback / 2
    let tail := maxTraceback - (head + 1)
    let front ← slice? traceback 0 head
    let start ← difference? traceback.length tail
    let back ← slice? traceback start traceback.length
    some (front ++ tracebackTruncated :: back)

/- No position is outside, since less than all lines stay. -/
theorem shortened?_eq_some
    (maxTraceback : Nat)
    (traceback : List String) :
    shortened? maxTraceback traceback =
      some (shortened maxTraceback traceback) := by
  unfold shortened? shortened
  by_cases hShort : traceback.length ≤ maxTraceback
  · rw [if_pos hShort, if_pos hShort]
  · have hFront :
        slice? traceback 0 (maxTraceback / 2) =
          some (traceback.take (maxTraceback / 2)) := by
      rw [slice?, if_pos (by omega)]
      rfl
    have hStart :
        difference? traceback.length
            (maxTraceback - (maxTraceback / 2 + 1)) =
          some
            (traceback.length -
              (maxTraceback - (maxTraceback / 2 + 1))) :=
      if_pos (by omega)
    have hBack (start : Nat) (h : start ≤ traceback.length) :
        slice? traceback start traceback.length =
          some (traceback.drop start) := by
      rw [slice?, if_pos ⟨h, Nat.le_refl _⟩,
        List.take_of_length_le (by simp)]
    rw [if_neg hShort, if_neg hShort]
    simp only [hFront, hStart, Option.bind_eq_bind,
      Option.bind_some]
    rw [hBack _ (Nat.sub_le _ _), Option.bind_some]

end Output

------------------------------------------------------------
-- Cells And Notebooks
------------------------------------------------------------

/- The limit on lines leaves all but the streams. -/
theorem OutputLimits.filter_limitLines
    (limits : OutputLimits)
    (outputs : List Output) :
    (limits.limitLines outputs).filter
        (fun output => !output.isStream) =
      outputs.filter (fun output => !output.isStream) := by
  unfold limitLines
  cases limits.maxLines with
  | none => rfl
  | some maxLines =>
      exact
        (Output.reducesStreams_limitStreams maxLines 0
          outputs).filter_eq

theorem OutputLimits.forall₂_hasShortened
    (maxTraceback : Nat)
    (outputs : List Output) :
    List.Forall₂ (Output.HasShortened maxTraceback) outputs
      (outputs.map (Output.shortenTraceback maxTraceback)) :=
  List.forall₂_map_right_iff.2
    (List.forall₂_same.2
      (fun output _ =>
        Output.hasShortened_shortenTraceback maxTraceback
          output))

/- Only the outputs of code cells are limited. -/
theorem Cell.limitOutput_outputs
    (limits : OutputLimits)
    (cell : Cell) :
    let kept := cell.limitOutput limits
    kept = { cell with outputs := kept.outputs } ∧
      (cell.cellType ≠ .code → kept = cell) ∧
      (cell.outputs = none → kept = cell) ∧
      (cell.cellType = .code →
        ∀ before,
          cell.outputs = some before →
            kept.outputs = some (limits.apply before)) := by
  intro kept
  by_cases hCode : cell.cellType = .code
  · have hKept :
        kept =
          { cell with
            outputs := cell.outputs.map limits.apply } :=
      if_pos hCode
    rw [hKept]
    refine ⟨rfl, fun hNot => absurd hCode hNot, ?_, ?_⟩
    · intro hNone
      rw [hNone, Option.map_none, ← hNone]
    · intro _ before hBefore
      rw [hBefore]
      rfl
  · have hKept : kept = cell :=
      if_neg hCode
    rw [hKept]
    exact
      ⟨rfl, fun _ => rfl, fun _ => rfl,
        fun h => absurd h hCode⟩

/- Tracebacks within a limit stay as they are. -/
theorem Cell.limitOutput_tracebacks_again
    (maxLines : Option Nat)
    (maxTraceback : Nat)
    (cell : Cell) :
    (cell.limitOutput ⟨maxLines, some maxTraceback⟩).limitOutput
        ⟨none, some maxTraceback⟩ =
      cell.limitOutput ⟨maxLines, some maxTraceback⟩ := by
  by_cases hCode : cell.cellType = .code
  · rw [limitOutput, limitOutput, if_pos hCode, if_pos hCode]
    simp only [Option.map_map]
    congr 2
    funext outputs
    exact
      OutputLimits.limitTracebacks_limitTracebacks
        ⟨maxLines, some maxTraceback⟩ _
  · simp [limitOutput, hCode]

/-
  A notebook whose tracebacks are limited, with or without a
  limit on lines. Cells that are no code cells stay as they
  are. In a code cell the outputs that the limit on lines
  leaves, among them all errors, stay one by one, and only
  the tracebacks of errors change. No position on the way is
  outside of a traceback, and doing it again changes
  nothing.
-/
theorem Notebook.limitOutput_tracebacks
    (notebook : Notebook)
    (maxLines : Option Nat)
    (maxTraceback : Nat) :
    let limits : OutputLimits :=
      { maxLines := maxLines
        maxTraceback := some maxTraceback }
    let limited := notebook.limitOutput limits
    limited = { notebook with cells := limited.cells } ∧
      limited.cells.length = notebook.cells.length ∧
      (∀ (i : Nat) (cell : Cell),
        notebook.cells[i]? = some cell →
          ∃ kept,
            limited.cells[i]? = some kept ∧
            kept = { cell with outputs := kept.outputs } ∧
            (cell.cellType ≠ .code → kept = cell) ∧
            (cell.outputs = none → kept = cell) ∧
            (cell.cellType = .code →
              ∀ before,
                cell.outputs = some before →
                  ∃ after,
                    kept.outputs = some after ∧
                    List.Forall₂
                      (Output.HasShortened maxTraceback)
                      (limits.limitLines before) after)) ∧
      (∀ outputs,
        (limits.limitLines outputs).filter
            (fun output => !output.isStream) =
          outputs.filter (fun output => !output.isStream)) ∧
      (maxLines = none →
        ∀ outputs, limits.limitLines outputs = outputs) ∧
      (∀ traceback,
        Output.shortened? maxTraceback traceback =
          some (Output.shortened maxTraceback traceback)) ∧
      limited.limitOutput
          { maxLines := none
            maxTraceback := some maxTraceback } =
        limited := by
  intro limits limited
  refine
    ⟨rfl, List.length_map _, ?_, limits.filter_limitLines,
      ?_, Output.shortened?_eq_some maxTraceback, ?_⟩
  · intro i cell hCell
    rcases cell.limitOutput_outputs limits with
      ⟨hOthers, hNoCode, hNone, hOutputs⟩
    refine
      ⟨_,
        by rw [getElem?_limitOutput, hCell, Option.map_some],
        hOthers, hNoCode, hNone, ?_⟩
    intro hCode before hBefore
    exact
      ⟨_, hOutputs hCode before hBefore,
        OutputLimits.forall₂_hasShortened maxTraceback
          (limits.limitLines before)⟩
  · rintro rfl outputs
    rfl
  · have hAgain (cell : Cell) :=
      cell.limitOutput_tracebacks_again maxLines maxTraceback
    simp only [limited, limits, limitOutput, List.map_map,
      Function.comp_def, hAgain]

/- Of ten lines four stay around the marker. -/
example :
    Output.shortened 5
        ["0", "1", "2", "3", "4", "5", "6", "7", "8", "9"] =
      ["0", "1", tracebackTruncated, "8", "9"] := by
  rfl

end NotebookGrading
